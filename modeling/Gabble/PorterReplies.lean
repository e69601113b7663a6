/-
# Who may answer an IQ

The callback of `wocky_c2s_porter_send_iq_async` is given a stanza only when that is the answer to
the IQ of the call: a result or an error with the id of the IQ, from a sender that may answer it.
`MayAnswer` says which senders these are; `check_spoofing` lets exactly these through.
-/
import Gabble.AddressingUriRoundTrip
import Gabble.PorterCalm

namespace Porter

open UriEscape (Bytes)
open Wocky

variable (g : Addressing.GLib) (j : Jids)

/-! ## The senders -/

/-- The JIDs of the user's own account and of the server. -/
def Jids.Own (j : Jids) (jid : Bytes) : Prop := jid = j.full ∨ jid = j.bare ∨ jid = j.domain

/-- Who may answer an IQ, by the sender that the reply names, if it names one.  An IQ without a
recipient goes to the server, which may leave its name out or use one of the account's; a name that
is no JID does not come from a server either way. -/
def MayAnswer (recipient sender : Option Bytes) : Prop :=
  match recipient, sender with
  | none, none => True
  | none, some sender => ∀ jid, normaliseJid g (some sender) = some jid → j.Own jid
  | some recipient, none => j.Own recipient
  | some recipient, some sender =>
    sender = recipient ∨ normaliseJid g (some sender) = some recipient ∨
      normaliseJid g (some sender) = some j.full ∧ (recipient = j.full ∨ recipient = j.bare)

/-- `check_spoofing` lets exactly those senders through. -/
theorem checkSpoofing_iff (reply : Stanza) (recipient : Option Bytes) :
    checkSpoofing g j reply recipient = true ↔ MayAnswer g j recipient (getFrom reply) := by
  unfold checkSpoofing MayAnswer
  cases recipient with
  | none =>
    cases hfrom : getFrom reply with
    | none => simp
    | some sender =>
      cases hjid : normaliseJid g (some sender) with
      | none => simp [hjid]
      | some jid => simp [hjid, Jids.isFromServer, Jids.Own, or_assoc]
  | some recipient =>
    cases hfrom : getFrom reply with
    | none =>
      simp only [normaliseJid, Jids.Own, Option.bind_none, reduceCtorEq, if_false, decide_true,
        decide_false, Bool.false_and, Bool.true_and, Bool.true_or, Bool.or_eq_true,
        decide_eq_true_eq, Option.some.injEq, Bool.if_true_left, Bool.if_false_right, Bool.and_true]
      tauto
    | some sender =>
      by_cases hsame : sender = recipient
      · simp [hsame]
      · by_cases hnormal : normaliseJid g (some sender) = some recipient
        · simp [hnormal]
        · simp [hsame, hnormal]

/-! ## What the functions of the code do -/

/-- History that tells of no reply. -/
def Action.silent : Action → Bool
  | called _ (.reply _) => false
  | _ => true

/-- The handlers of IQs that `wocky_c2s_porter_constructed` registers take results and errors. -/
def StanzaHandler.ForReplies (h : StanzaHandler) : Prop :=
  h.callback = .handleIqReply → h.type = .iq ∧ (h.subType = .result ∨ h.subType = .error)

/-- A function that asks nothing and tells of no reply. -/
structure Silent (s s' : State) : Prop where
  log : ∃ as, s'.log = s.log ++ as ∧ ∀ a ∈ as, a.silent = true
  iqReplyHandlers : FewerHandlers s.iqReplyHandlers s'.iqReplyHandlers
  handlers : ∀ h ∈ s'.handlers, h ∈ s.handlers ∨ h.ForReplies

variable {g j} {s s' s'' : State}

theorem Silent.trans (h : Silent s s') (h' : Silent s' s'') : Silent s s'' := by
  obtain ⟨as, hlog, has⟩ := h.log
  obtain ⟨as', hlog', has'⟩ := h'.log
  refine ⟨⟨as ++ as', by rw [hlog', hlog, List.append_assoc], ?_⟩,
    h.iqReplyHandlers.trans h'.iqReplyHandlers, fun x hx => ?_⟩
  · exact List.forall_mem_append.mpr ⟨has, has'⟩
  · exact (h'.handlers x hx).elim (h.handlers x) .inr

theorem Silent.of_calm (h : Calm s s') : Silent s s' := by
  obtain ⟨as, hlog, has⟩ := h.log
  refine ⟨⟨as, hlog, fun a ha => ?_⟩, h.iqReplyHandlers, fun x hx => .inl (h.handlers ▸ hx)⟩
  have hcalm := has a ha
  cases a with
  | called c outcome => cases outcome <;> first | rfl | cases hcalm
  | _ => rfl

theorem Silent.of_eq (hlog : s'.log = s.log) (hiq : s'.iqReplyHandlers = s.iqReplyHandlers)
    (hhandlers : s'.handlers = s.handlers) : Silent s s' :=
  ⟨⟨[], by rw [hlog, List.append_nil], List.forall_mem_nil _⟩, hiq ▸ .refl _,
    fun _ hx => .inl (hhandlers ▸ hx)⟩

namespace State

theorem silent_push (f : Frame) : Silent s (s.push f) := .of_eq rfl rfl rfl

theorem silent_note {a : Action} (ha : a.silent = true) : Silent s (s.note a) :=
  ⟨⟨[a], rfl, fun _ h => List.mem_singleton.mp h ▸ ha⟩, .refl _, fun _ => .inl⟩

theorem silent_handleStanza (stanza : Stanza) : Silent s (s.handleStanza g j stanza) :=
  ⟨⟨[_], rfl, fun _ h => List.mem_singleton.mp h ▸ rfl⟩, .refl _, fun _ => .inl⟩

theorem silent_refuse (d : Dispatch) : Silent s (s.refuse d) := by
  unfold refuse
  split
  · split
    · exact silent_note rfl
    · exact (silent_note rfl).trans (.of_calm (calm_sendAsync _ _ _))
  · exact silent_note rfl

theorem silent_dispatchedRest (d : Dispatch) (id : HandlerId) : Silent s (s.dispatchedRest d id) := by
  unfold dispatchedRest
  split
  · exact silent_note rfl
  · split
    · exact silent_push _
    · exact .of_eq rfl rfl rfl

theorem silent_flushUnimportantQueue (after : AfterFlush) :
    Silent s (s.flushUnimportantQueue g j after) := by
  unfold flushUnimportantQueue
  split
  · next stanza rest _ =>
    have h : Silent s { s with unimportantQueue := rest } := .of_eq rfl rfl rfl
    exact (h.trans (silent_push _)).trans (silent_handleStanza stanza)
  · split
    · exact silent_handleStanza _
    · exact .of_eq rfl rfl rfl

theorem silent_queueOrHandleStanza (stanza : Stanza) :
    Silent s (s.queueOrHandleStanza g j stanza) := by
  unfold queueOrHandleStanza
  split
  · split
    · exact silent_push _
    · exact .of_eq rfl rfl rfl
  · exact silent_handleStanza stanza

theorem silent_stanzaReceivedCb (r : Except Error Stanza) : Silent s (s.stanzaReceivedCb g j r) := by
  unfold stanzaReceivedCb
  split
  · split
    · split
      · exact .of_eq rfl rfl rfl
      · exact .of_eq rfl rfl rfl
    · exact .of_calm (calm_remoteConnectionClosed _)
  · exact ((silent_note rfl).trans (silent_push _)).trans (silent_queueOrHandleStanza _)

theorem silent_receivedRest : Silent s s.receivedRest := by
  unfold receivedRest
  split
  · exact .of_eq rfl rfl rfl
  split
  · exact .of_eq rfl rfl rfl
  split
  · exact .of_eq rfl rfl rfl
  · exact .of_eq rfl rfl rfl

/-! ## The replies of a run -/

/-- The reply is the answer to an IQ that was sent for the call. -/
def Answers (g : Addressing.GLib) (j : Jids) (log : List Action) (c : Call) (reply : Stanza) :
    Prop :=
  ∃ id recipient, Action.asked c id recipient ∈ log ∧ getId reply = some id ∧
    MayAnswer g j recipient (getFrom reply) ∧ typeOf reply = .iq ∧
    (subTypeOf reply = .result ∨ subTypeOf reply = .error)

theorem Answers.mono {log log' : List Action} {c : Call} {reply : Stanza}
    (h : Answers g j log c reply) (hlog : ∀ a ∈ log, a ∈ log') : Answers g j log' c reply := by
  obtain ⟨id, recipient, hasked, hrest⟩ := h
  exact ⟨id, recipient, hlog _ hasked, hrest⟩

/-- Every handler in the table is for an IQ that was sent, and every reply is an answer. -/
structure Answering (g : Addressing.GLib) (j : Jids) (s : State) : Prop where
  asked : ∀ h ∈ s.iqReplyHandlers, Action.asked h.call h.id h.recipient ∈ s.log
  answers : ∀ c reply, Action.called c (.reply reply) ∈ s.log → Answers g j s.log c reply
  handlers : ∀ h ∈ s.handlers, h.ForReplies

theorem Answering.silent (h : Answering g j s) (hs : Silent s s') : Answering g j s' := by
  obtain ⟨as, hlog, has⟩ := hs.log
  have hold : ∀ a ∈ s.log, a ∈ s'.log := fun a ha => hlog ▸ List.mem_append_left as ha
  refine ⟨fun h' hmem' => ?_, fun c reply hcalled => ?_, fun x hx => ?_⟩
  · obtain ⟨h₀, hmem₀, hcall, hid, hrecipient, -⟩ := hs.iqReplyHandlers h' hmem'
    rw [hcall, hid, hrecipient]
    exact hold _ (h.asked h₀ hmem₀)
  · rw [hlog] at hcalled
    rcases List.mem_append.mp hcalled with hcalled | hnew
    · exact (h.answers c reply hcalled).mono hold
    · cases has _ hnew
  · exact (hs.handlers x hx).elim (h.handlers x) id

/-- `handle_iq_reply` is called for results and errors of IQs only. -/
theorem Answering.handleIqReply (h : Answering g j s) {reply : Stanza} (htype : typeOf reply = .iq)
    (hsub : subTypeOf reply = .result ∨ subTypeOf reply = .error) :
    Answering g j (s.handleIqReply g j reply) := by
  have hsame : ∀ taken, Silent s (s.returning taken) := fun _ => .of_eq rfl rfl rfl
  unfold State.handleIqReply
  split
  · exact h.silent (hsame false)
  · next id hid =>
    split
    · exact h.silent (hsame false)
    · next hd hfind =>
      have hmem : hd ∈ s.iqReplyHandlers := List.mem_of_find?_eq_some hfind
      have hasked := h.asked hd hmem
      obtain rfl : hd.id = id := by simpa using List.find?_some hfind
      split
      · exact h.silent (hsame false)
      · next hspoof =>
        split
        · have hset : Silent s (s.setHandler { hd with pending := false, connected := false }) :=
            .of_calm (calm_setHandler { hd with pending := false, connected := false } hmem rfl
              (by rintro ⟨⟩))
          have hkept := (h.silent hset).silent (silent_push (.handleIqReply hd.call))
          have hmay : MayAnswer g j hd.recipient (getFrom reply) := by
            rw [← checkSpoofing_iff]
            simpa using hspoof
          have hgrow : ∀ a ∈ s.log, a ∈ s.log ++ [Action.called hd.call (.reply reply)] :=
            fun a ha => List.mem_append_left _ ha
          refine ⟨fun h' hmem' => hgrow _ (hkept.asked h' hmem'), fun c reply' hcalled => ?_,
            h.handlers⟩
          rcases List.mem_append.mp hcalled with hcalled | hnew
          · exact (h.answers c reply' hcalled).mono hgrow
          · cases List.mem_singleton.mp hnew
            exact ⟨hd.id, hd.recipient, hgrow _ hasked, hid, hmay, htype, hsub⟩
        · exact (h.silent (.of_calm (calm_maybeRemove hd.call))).silent (.of_eq rfl rfl rfl)

theorem type_of_accepts {h : StanzaHandler} {d : Dispatch} (haccepts : h.accepts d = true) :
    (h.type = .none ∨ typeOf d.stanza = h.type) ∧
      (h.subType = .none ∨ subTypeOf d.stanza = h.subType) := by
  simp only [StanzaHandler.accepts, Bool.and_eq_true, Bool.or_eq_true, decide_eq_true_eq] at haccepts
  exact haccepts.1.1

theorem Answering.callHandler (h : Answering g j s) {d : Dispatch} {hd : StanzaHandler}
    (hmem : hd ∈ s.handlers) (haccepts : hd.accepts d = true) :
    Answering g j (s.callHandler g j d hd) := by
  have hoffer : Answering g j ((s.note (.offered d hd)).push (.dispatched d hd.id)) :=
    h.silent ((silent_note rfl).trans (silent_push _))
  unfold State.callHandler
  split
  · next hcallback =>
    obtain ⟨htype, hsub⟩ := type_of_accepts haccepts
    obtain ⟨hiq, hkind⟩ := h.handlers hd hmem hcallback
    refine hoffer.handleIqReply ?_ ?_
    · rw [hiq] at htype
      exact htype.resolve_left (by rintro ⟨⟩)
    · rcases hkind with hkind | hkind
      · rw [hkind] at hsub
        exact .inl (hsub.resolve_left (by rintro ⟨⟩))
      · rw [hkind] at hsub
        exact .inr (hsub.resolve_left (by rintro ⟨⟩))
  · exact (hoffer.silent (silent_push _)).silent (.of_calm (calm_remoteConnectionClosed _))
  · exact hoffer.silent (silent_push _)

theorem Answering.dispatchRound (h : Answering g j s) (d : Dispatch) (link : Option HandlerId) :
    Answering g j (s.dispatchRound g j d link) := by
  unfold State.dispatchRound
  split
  · exact h.silent (silent_refuse d)
  · split
    · exact h.silent (.of_eq rfl rfl rfl)
    · next hd hfind =>
      split
      · next haccepts => exact h.callHandler (List.mem_of_find?_eq_some hfind) haccepts
      · exact h.silent (silent_push _)

theorem silent_forceClosingRest (c : Call) (cancellable : Bool) :
    Silent s (s.forceClosingRest c cancellable) := by
  unfold forceClosingRest
  split
  · exact .of_eq rfl rfl rfl
  · exact .of_eq rfl rfl rfl

theorem silent_forceTerminatedRest (c : Call) : Silent s (s.forceTerminatedRest c) := by
  have habort : Silent s (s.abortPendingIqs .forciblyClosed) := .of_calm (calm_abortPendingIqs _)
  unfold forceTerminatedRest
  split
  · split
    · exact habort.trans (.of_eq rfl rfl rfl)
    · exact habort.trans (.of_eq rfl rfl rfl)
  · exact habort

theorem Answering.resume (h : Answering g j s) (f : Frame) : Answering g j (s.resume g j f) := by
  cases f with
  | user code => exact h
  | sendNext => exact h.silent (.of_calm calm_sendNext)
  | closeIfWaiting => exact h.silent (.of_calm calm_closeIfWaiting)
  | terminate e => exact h.silent (.of_calm (calm_terminateSendingOperations e))
  | iqSentCb c => exact h.silent (.of_calm (calm_maybeRemove c))
  | handleIqReply c =>
    exact (h.silent (.of_calm (calm_maybeRemove c))).silent (.of_eq rfl rfl rfl)
  | handleStreamError => exact h.silent (.of_eq rfl rfl rfl)
  | dispatch d link => exact h.dispatchRound d link
  | dispatched d id => exact h.silent (silent_dispatchedRest d id)
  | flush after => exact h.silent (silent_flushUnimportantQueue after)
  | received => exact h.silent silent_receivedRest
  | remoteClosed e => exact h.silent (.of_calm (calm_remoteClosedRest e))
  | stopReceiving => exact h.silent (.of_eq rfl rfl rfl)
  | closing => exact h.silent (.of_calm calm_closeAsyncRest)
  | forceClosing c cancellable => exact h.silent (silent_forceClosingRest c cancellable)
  | forceTerminated c => exact h.silent (silent_forceTerminatedRest c)

theorem Answering.goOn (h : Answering g j s) (hstep : s.goOn g j = some s') : Answering g j s' := by
  unfold State.goOn at hstep
  split at hstep
  · cases hstep
  · cases hstep
  · next f rest _ _ =>
    cases hstep
    have hpop : Silent s { s with stack := rest } := .of_eq rfl rfl rfl
    exact (h.silent hpop).resume f

theorem silent_returnFrom {taken : Bool} (hstep : s.returnFrom taken = some s') : Silent s s' := by
  unfold returnFrom at hstep
  split at hstep
  · cases hstep
    exact .of_eq rfl rfl rfl
  · cases hstep
    exact .of_eq rfl rfl rfl
  · cases hstep

/-- A handler that a user registers is none for replies. -/
theorem silent_registerHandler (type : StanzaType) (subType : SubType) (sender : Sender)
    (priority : ℕ) (pattern : Option Node) :
    Silent s (s.registerHandler g type subType sender priority pattern) := by
  have hadd : ∀ senderMatch, Silent s
      (s.registerHandlerInternal type subType senderMatch priority pattern .user) := by
    intro senderMatch
    refine ⟨⟨[], (List.append_nil _).symm, List.forall_mem_nil _⟩, .refl _, fun x hx => ?_⟩
    rcases (List.mem_orderedInsert _).mp hx with rfl | hx
    · exact .inr fun hcallback => by cases hcallback
    · exact .inl hx
  unfold registerHandler
  split
  · exact hadd _
  · exact hadd _
  · split
    · exact .of_eq rfl rfl rfl
    · exact hadd _

theorem Answering.sendIqAsync (h : Answering g j s) (c : Call) (stanza : Stanza) (id : Bytes)
    (cancellable : Bool) : Answering g j (s.sendIqAsync g c stanza id cancellable) := by
  unfold State.sendIqAsync
  split
  · exact h.silent (.of_calm (calm_completeInIdle _ _))
  split
  · exact h.silent (.of_calm (calm_completeInIdle _ _))
  · have hnoted : Answering g j (s.note (.asked c id (recipientOf g stanza))) :=
      h.silent (silent_note rfl)
    have hadded : Answering g j ((s.note (.asked c id (recipientOf g stanza))).addHandler
        ⟨c, id, recipientOf g stanza, true, cancellable, false⟩) := by
      refine ⟨fun h' hmem' => ?_, hnoted.answers, hnoted.handlers⟩
      rcases List.mem_append.mp hmem' with hmem' | hnew
      · exact hnoted.asked h' hmem'
      · rw [List.mem_singleton.mp hnew]
        exact List.mem_append_right _ (List.mem_singleton_self _)
    exact hadded.silent (.of_calm (calm_sendAsync _ _ _))

theorem silent_forceCloseAsync (c : Call) (cancellable : Bool) :
    Silent s (s.forceCloseAsync c cancellable) := by
  rcases calm_forceCloseAsync c cancellable with hcalm | ⟨s₁, hbefore, hafter⟩
  · exact .of_calm hcalm
  · have hpush : Silent s₁ (s₁.push (.forceClosing c cancellable)) := .of_eq rfl rfl rfl
    exact (Silent.of_calm hbefore).trans (hpush.trans (.of_calm hafter))

theorem Answering.api (h : Answering g j s) {e : Event} (hstep : s.api g e = some s') :
    Answering g j s' := by
  have hnext : Answering g j s.nextCall := h.silent (.of_eq rfl rfl rfl)
  unfold State.api at hstep
  split at hstep
  · cases hstep
    unfold start
    split
    · exact h
    · exact h.silent (.of_eq rfl rfl rfl)
  · cases hstep
    exact hnext.silent (.of_calm (calm_sendAsync _ _ _))
  · split at hstep <;> cases hstep
    exact hnext.sendIqAsync _ _ _ _
  · cases hstep
    exact hnext.silent (.of_calm (calm_sendWhitespacePingAsync _))
  · cases hstep
    exact hnext.silent (.of_calm (calm_closeAsync _ _))
  · cases hstep
    exact hnext.silent (silent_forceCloseAsync _ _)
  · cases hstep
    exact h.silent (silent_registerHandler _ _ _ _ _)
  · cases hstep
    exact ⟨h.asked, h.answers, fun x hx => h.handlers x (List.mem_of_mem_eraseP hx)⟩
  · cases hstep
    unfold enablePowerSavingMode
    split
    · exact h.silent (silent_push _)
    · exact h.silent (.of_eq rfl rfl rfl)
  · exact h.silent (.of_calm (calm_sendCancelledCb hstep))
  · exact h.silent (.of_calm (calm_sendIqCancelledCb hstep))
  · split at hstep <;> cases hstep
    exact h.silent (.of_eq rfl rfl rfl)
  · cases hstep

theorem Answering.mainLoop (h : Answering g j s) {e : Event}
    (hstep : s.mainLoop g j e = some s') : Answering g j s' := by
  unfold State.mainLoop at hstep
  split at hstep
  · obtain ⟨op, -, rfl⟩ := Option.map_eq_some_iff.mp hstep
    have htaken : Silent s { s with output := none } := .of_eq rfl rfl rfl
    exact (h.silent htaken).silent (.of_calm (calm_written op _))
  · next k =>
    obtain ⟨op, -, rfl⟩ := Option.map_eq_some_iff.mp hstep
    have htaken : Silent s { s with refused := s.refused.eraseIdx k } := .of_eq rfl rfl rfl
    exact (h.silent htaken).silent (.of_calm (calm_written op _))
  · split at hstep
    · cases hstep
    · cases hstep
      have htaken : Silent s { s with receives := s.receives - 1 } := .of_eq rfl rfl rfl
      exact (h.silent htaken).silent (silent_stanzaReceivedCb _)
  · split at hstep
    · cases hstep
    · cases hstep
      unfold connectionForceCloseCb
      split
      · exact h.silent (.of_eq rfl rfl rfl)
      · next r _ _ c _ =>
        have htaken : Silent s (((State.setForceCloseResult
          { s with forceCloses := s.forceCloses - 1 } none).setLocalClosed).setStarted false) :=
          .of_eq rfl rfl rfl
        refine (h.silent htaken).silent (.of_calm (calm_call c ?_))
        cases r <;> rfl
  · next k =>
    obtain ⟨entry, -, rfl⟩ := Option.map_eq_some_iff.mp hstep
    have htaken : Silent s { s with idle := s.idle.eraseIdx k } := .of_eq rfl rfl rfl
    refine (h.silent htaken).silent (.of_calm (calm_complete entry.1 fun c => ?_))
    cases entry.2 <;> rfl
  · cases hstep

theorem Answering.step (h : Answering g j s) {e : Event} (hstep : State.step g j s e = some s') :
    Answering g j s' := by
  unfold State.step at hstep
  split at hstep
  · cases hstep
  split at hstep
  · exact h.goOn hstep
  · exact h.silent (silent_returnFrom hstep)
  · split at hstep
    · next hapi =>
      split at hapi
      · cases hstep
        exact h.api hapi
      · cases hapi
    · split at hstep
      · exact h.mainLoop hstep
      · cases hstep

theorem answering_new : Answering g j State.new where
  asked := List.forall_mem_nil _
  answers _ _ hcalled := by cases hcalled
  handlers h hmem := by
    have hall : ∀ h ∈ State.new.handlers, h.ForReplies := by
      simp only [State.new, registerHandlerInternal, List.orderedInsert_nil,
        List.orderedInsert_cons, le_refl, if_true, List.forall_mem_cons, StanzaHandler.ForReplies]
      simp
    exact hall h hmem

/-- **No spoofed replies.**  Over every run, a stanza that the callback of a `send_iq_async` call is
given is a result or an error of an IQ with the id that the IQ of this call was sent with, from a
sender that may answer for the recipient that IQ was sent to. -/
theorem reply_answers (es : List Event) {c : Call} {reply : Stanza}
    (hrun : Transition.run (State.step g j) State.new es = some s)
    (hcalled : Action.called c (.reply reply) ∈ s.log) :
    ∃ id recipient, Action.asked c id recipient ∈ s.log ∧ getId reply = some id ∧
      MayAnswer g j recipient (getFrom reply) ∧ typeOf reply = .iq ∧
      (subTypeOf reply = .result ∨ subTypeOf reply = .error) :=
  ((Transition.reachable_of_run es (Transition.admits_anyEvent es) hrun).invariant answering_new
    fun _ _ _ h _ hstep => h.step hstep).answers c reply hcalled

/-- An IQ stanza of a type, with an id, a sender and a recipient. -/
def iq (type : String) (id sender recipient : Option Bytes) : Stanza :=
  .mk (CText.ascii "iq") (some nsJabberClient) none none
    (attributeIfAny (CText.ascii "type") (some (CText.ascii type)) ++
      attributeIfAny (CText.ascii "id") id ++ attributeIfAny (CText.ascii "from") sender ++
      attributeIfAny (CText.ascii "to") recipient) []

/-- A result with the id 1 from the domain "b". -/
def result : Stanza := iq "result" (some [49]) (some [98]) none

/-- An IQ is sent to the domain "b", and the result comes in. -/
def askedRun : List Event :=
  [.start, .sendIqAsync (iq "get" none none (some [98])) [49] false, .ret false, .written none,
    .tau, .tau, .received (.ok result), .tau, .tau, .tau]

/-- The state that this comes to. -/
def asked : State :=
  (Transition.run (State.step Addressing.asciiGLib ⟨[97], [97], [97]⟩) State.new askedRun).getD
    State.new

theorem reply_answers_result :
    ∃ id recipient, Action.asked 0 id recipient ∈ asked.log ∧ getId result = some id ∧
      MayAnswer Addressing.asciiGLib ⟨[97], [97], [97]⟩ recipient (getFrom result) ∧
      typeOf result = .iq ∧ (subTypeOf result = .result ∨ subTypeOf result = .error) :=
  reply_answers (s := asked) askedRun rfl (List.mem_of_getElem? (i := 7) rfl)

end State

end Porter
