/-
# The life of a Jingle session

Whatever the application does in the signal handlers, whatever the peer sends and in whatever
order: the states of a session only go up, its end is announced once, and every stanza is
answered once.
-/
import Gabble.JingleStanzas

namespace Jingle

/-! ## The account of a session -/

/-- The state after a side's message for the other: the initiator's or the responder's. -/
def offeredState (initiator : Bool) : SessionState :=
  if initiator then .pendingInitiateSent else .pendingAcceptSent

/-- That message: the initiator offers, the responder accepts. -/
def offerAction (initiator : Bool) : Action :=
  if initiator then .sessionInitiate else .sessionAccept

/-- The number of a set that comes in. -/
def Entry.incoming : Entry → Option ℕ
  | received _ iq _ | refused iq _ => some iq
  | _ => none

/-- The number of the set that is answered. -/
def Entry.answer : Entry → Option ℕ
  | acknowledged iq | refusedWith iq _ => some iq
  | _ => none

/-- The state that is entered. -/
def Entry.state : Entry → Option SessionState
  | entered state => some state
  | _ => none

/-- The end is announced. -/
def Entry.isEnd : Entry → Bool
  | terminated _ _ _ => true
  | _ => false

/-- The number of the set that an interrupted call will answer. -/
def Frame.pending : Frame → Option ℕ
  | parsed _ iq | acknowledge iq => some iq
  | _ => none

/-- An interrupted call will announce the end. -/
def Frame.isEnd : Frame → Bool
  | enteredState .ended _ _ => true
  | _ => false

/-- A message that is being written is the one of its side, which has accepted. -/
def Frame.Drafts (initiator accepted : Bool) : Frame → Prop
  | composing action => action = offerAction initiator ∧ accepted = true
  | filling draft _ => draft.action = offerAction initiator ∧ accepted = true
  | _ => True

namespace State

/-- The states a session has entered. -/
def entered (s : State) : List SessionState := s.log.filterMap Entry.state

/-- The sets that have come in. -/
def heard (s : State) : List ℕ := s.log.filterMap Entry.incoming

/-- The sets that have been answered. -/
def answers (s : State) : List ℕ := s.log.filterMap Entry.answer

/-- The sets that are being answered. -/
def pending (s : State) : List ℕ := s.stack.filterMap Frame.pending

/-- The ends that have been announced, and those that will be. -/
def ends (s : State) : ℕ := s.log.countP Entry.isEnd + s.stack.countP Frame.isEnd

/-- The states of the session are in order. -/
structure Orderly (s : State) : Prop where
  sorted : (SessionState.pendingCreated :: s.entered).Pairwise (·.rank < ·.rank)
  last : (SessionState.pendingCreated :: s.entered).getLast? = some s.state
  others : offeredState (!s.localInitiator) ∉ s.entered
  accepted : offeredState s.localInitiator ∈ s.entered → s.locallyAccepted = true
  drafts : ∀ f ∈ s.stack, f.Drafts s.localInitiator s.locallyAccepted
  ends : s.ends = if s.state = .ended then 1 else 0

/-- The states are in order, and nothing is heard or answered. -/
structure Kept (s s' : State) : Prop where
  heard : s'.heard = s.heard
  answers : s'.answers = s.answers
  pending : s'.pending = s.pending
  orderly : s'.Orderly
  side : s'.localInitiator = s.localInitiator

/-- What all but three functions do. -/
def Keeps (s s' : State) : Prop := s.Orderly → Kept s s'

/-- Nothing of the account changes. -/
structure Same (s s' : State) : Prop where
  log : s'.log = s.log
  stack : s'.stack = s.stack
  state : s'.state = s.state
  accepted : s'.locallyAccepted = s.locallyAccepted
  side : s'.localInitiator = s.localInitiator

variable {s s' s'' : State}

/-! ## What an entry and a frame add -/

section Adds

variable (e : Entry) (f : Frame)

@[simp] theorem entered_push : (s.push f).entered = s.entered := rfl

@[simp] theorem heard_push : (s.push f).heard = s.heard := rfl

@[simp] theorem answers_push : (s.push f).answers = s.answers := rfl

@[simp] theorem pending_note : (s.note e).pending = s.pending := rfl

@[simp] theorem entered_note : (s.note e).entered = s.entered ++ e.state.toList := by
  unfold entered note
  rw [List.filterMap_append]
  cases he : e.state <;> simp [he]

@[simp] theorem heard_note : (s.note e).heard = s.heard ++ e.incoming.toList := by
  unfold heard note
  rw [List.filterMap_append]
  cases he : e.incoming <;> simp [he]

@[simp] theorem answers_note : (s.note e).answers = s.answers ++ e.answer.toList := by
  unfold answers note
  rw [List.filterMap_append]
  cases he : e.answer <;> simp [he]

@[simp] theorem pending_push : (s.push f).pending = f.pending.toList ++ s.pending := by
  unfold pending push
  rw [List.filterMap_cons]
  cases f.pending <;> rfl

theorem ends_note : (s.note e).ends = s.ends + if e.isEnd then 1 else 0 := by
  unfold ends note
  rw [List.countP_append, List.countP_singleton]
  exact Nat.add_right_comm _ _ _

theorem ends_push : (s.push f).ends = s.ends + if f.isEnd then 1 else 0 := by
  unfold ends push
  rw [List.countP_cons]
  exact (Nat.add_assoc _ _ _).symm

end Adds

/-! ## Small steps -/

/-- The states stay in order where none is entered and as many ends are announced. -/
theorem Orderly.of_entered (ho : s.Orderly) (hentered : s'.entered = s.entered)
    (hstate : s'.state = s.state) (haccepted : s'.locallyAccepted = s.locallyAccepted)
    (hside : s'.localInitiator = s.localInitiator)
    (hdrafts : ∀ f ∈ s'.stack, f.Drafts s.localInitiator s.locallyAccepted)
    (hends : s'.ends = s.ends) : s'.Orderly := by
  constructor
  · rw [hentered]
    exact ho.sorted
  · rw [hentered, hstate]
    exact ho.last
  · rw [hentered, hside]
    exact ho.others
  · rw [hentered, hside, haccepted]
    exact ho.accepted
  · rw [hside, haccepted]
    exact hdrafts
  · rw [hends, hstate]
    exact ho.ends

/-- A frame on the stack, of the session's own message if it is one. -/
theorem Orderly.drafts_push {f : Frame} (ho : s.Orderly)
    (hdraft : f.Drafts s.localInitiator s.locallyAccepted) :
    ∀ f' ∈ f :: s.stack, f'.Drafts s.localInitiator s.locallyAccepted := by
  intro f' hf'
  rcases List.mem_cons.mp hf' with rfl | hf'
  · exact hdraft
  · exact ho.drafts f' hf'

theorem Keeps.refl (s : State) : Keeps s s := fun ho => ⟨rfl, rfl, rfl, ho, rfl⟩

theorem Keeps.trans (h : Keeps s s') (h' : Keeps s' s'') : Keeps s s'' := by
  intro ho
  have hk := h ho
  have hk' := h' hk.orderly
  exact ⟨hk'.heard.trans hk.heard, hk'.answers.trans hk.answers, hk'.pending.trans hk.pending,
    hk'.orderly, hk'.side.trans hk.side⟩

theorem Same.keeps (h : Same s s') : Keeps s s' := by
  intro ho
  refine ⟨congrArg (List.filterMap _) h.log, congrArg (List.filterMap _) h.log,
    congrArg (List.filterMap _) h.stack, ?_, h.side⟩
  refine ho.of_entered (congrArg (List.filterMap _) h.log) h.state h.accepted h.side ?_ ?_
  · rw [h.stack]
    exact ho.drafts
  · unfold ends
    rw [h.log, h.stack]

theorem keeps_modify (c : ContentId) (f : Content → Content) : Keeps s (s.modify c f) :=
  Same.keeps ⟨rfl, rfl, rfl, rfl, rfl⟩

theorem keeps_abort (f : Fault) : Keeps s (s.abort f) := Same.keeps ⟨rfl, rfl, rfl, rfl, rfl⟩

theorem keeps_fail (e : StanzaError) : Keeps s (s.fail e) := Same.keeps ⟨rfl, rfl, rfl, rfl, rfl⟩

theorem keeps_dropVerdict : Keeps s s.dropVerdict := Same.keeps ⟨rfl, rfl, rfl, rfl, rfl⟩

theorem keeps_setDialect (d : Dialect) : Keeps s (s.setDialect d) :=
  Same.keeps ⟨rfl, rfl, rfl, rfl, rfl⟩

theorem keeps_setRinging (ringing : Bool) : Keeps s (s.setRinging ringing) :=
  Same.keeps ⟨rfl, rfl, rfl, rfl, rfl⟩

theorem keeps_setHold (hold : Bool) : Keeps s (s.setHold hold) :=
  Same.keeps ⟨rfl, rfl, rfl, rfl, rfl⟩

/-- A frame that answers nothing and announces nothing. -/
theorem keeps_push {f : Frame} (hpending : f.pending = none) (hend : f.isEnd = false)
    (hdraft : f.Drafts s.localInitiator s.locallyAccepted) : Keeps s (s.push f) := by
  intro ho
  refine ⟨rfl, rfl, ?_, ho.of_entered rfl rfl rfl rfl (ho.drafts_push hdraft) ?_, rfl⟩
  · simp [hpending]
  · simp [ends_push, hend]

theorem keeps_emit (signal : Signal) : Keeps s (s.emit signal) :=
  keeps_push rfl rfl trivial

/-- An entry that says nothing about states and answers. -/
theorem keeps_note {e : Entry} (hincoming : e.incoming = none) (hanswer : e.answer = none)
    (hstate : e.state = none) (hend : e.isEnd = false) : Keeps s (s.note e) := by
  intro ho
  refine ⟨?_, ?_, rfl, ho.of_entered ?_ rfl rfl rfl ho.drafts ?_, rfl⟩
  · simp [hincoming]
  · simp [hanswer]
  · simp [hstate]
  · simp [ends_note, hend]

theorem keeps_sendIq (stanza : Stanza) (handler : Option ReplyHandler) :
    Keeps s (s.sendIq stanza handler) := by
  unfold sendIq
  refine Keeps.trans ?_ (keeps_note rfl rfl rfl rfl)
  exact Same.keeps ⟨rfl, rfl, rfl, rfl, rfl⟩

theorem keeps_message (action : Action) (fill : SessionNode → SessionNode)
    (handler : Option ReplyHandler) : Keeps s (s.message action fill handler) := by
  unfold message
  split
  · exact keeps_sendIq _ _
  · exact keeps_abort _

theorem keeps_contentMessage (action : Action) (c : ContentId) (description : Bool)
    (candidates : Option ℕ) (reason : Option ReasonNode) (handler : Option ReplyHandler) :
    Keeps s (s.contentMessage action c description candidates reason handler) := by
  unfold contentMessage
  split
  · exact keeps_message _ _ _
  · exact keeps_abort _

theorem keeps_foldl {α : Type} {f : State → α → State} (hf : ∀ s a, Keeps s (f s a))
    (as : List α) : ∀ s, Keeps s (as.foldl f s) := by
  induction as with
  | nil => exact Keeps.refl
  | cons a as ih => exact fun s => (hf s a).trans (ih _)

/-! ## States -/

theorem le_of_getLast? {states : List SessionState} {state : SessionState}
    (hsorted : states.Pairwise (·.rank < ·.rank)) (hlast : states.getLast? = some state) :
    ∀ s ∈ states, s.rank ≤ state.rank := by
  obtain ⟨before, rfl⟩ := List.getLast?_eq_some_iff.mp hlast
  intro s hs
  rcases List.mem_append.mp hs with hs | hs
  · exact Nat.le_of_lt ((List.pairwise_append.mp hsorted).2.2 s hs state List.mem_cons_self)
  · obtain rfl := List.mem_singleton.mp hs
    exact Nat.le_refl _

/-- A state that a session may enter: a common one, or the one after its side's message. -/
def MayEnter (s : State) (state : SessionState) : Prop :=
  state ∈ [.pendingInitiated, .active, .ended] ∨
    state = offeredState s.localInitiator ∧ s.locallyAccepted = true

/-- **A state is entered** only if it is beyond the present one. -/
theorem keeps_setState {state : SessionState} (reason : Reason) (text : Option String)
    (hmay : s.MayEnter state) : Keeps s (s.setState state reason text) := by
  unfold setState
  split
  · exact Keeps.refl s
  next hlt =>
  split
  · exact keeps_abort _
  rw [Nat.not_le] at hlt
  refine Keeps.trans ?_ (keeps_emit _)
  intro ho
  refine ⟨?_, ?_, rfl, ?_, rfl⟩
  · simp [heard, push, note, Entry.incoming]
  · simp [answers, push, note, Entry.answer]
  have hentered : (State.push (State.note { s with state := state } (.entered state))
      (.enteredState state reason text)).entered = s.entered ++ [state] := by
    simp [entered, push, note, Entry.state]
  have hle := le_of_getLast? ho.sorted ho.last
  have hown : ∀ {b : Bool}, state = offeredState b →
      b = s.localInitiator ∧ s.locallyAccepted = true := by
    rintro b rfl
    rcases hmay with hmem | ⟨heq, haccepted⟩
    · cases b <;> simp [offeredState] at hmem
    · refine ⟨?_, haccepted⟩
      cases b <;> cases hi : s.localInitiator <;> rw [hi] at heq <;> first | rfl | cases heq
  constructor
  · rw [hentered, ← List.cons_append]
    refine List.pairwise_append.mpr ⟨ho.sorted, List.pairwise_singleton _ _, ?_⟩
    intro a ha b hb
    rw [List.mem_singleton.mp hb]
    exact Nat.lt_of_le_of_lt (hle a ha) hlt
  · rw [hentered, ← List.cons_append]
    exact List.getLast?_concat
  · rw [hentered]
    intro hmem
    rcases List.mem_append.mp hmem with hmem | hmem
    · exact ho.others hmem
    · have hside : (!s.localInitiator) = s.localInitiator :=
        (hown (List.mem_singleton.mp hmem).symm).1
      cases hi : s.localInitiator <;> rw [hi] at hside <;> cases hside
  · rw [hentered]
    intro hmem
    rcases List.mem_append.mp hmem with hmem | hmem
    · exact ho.accepted hmem
    · exact (hown (List.mem_singleton.mp hmem).symm).2
  · exact ho.drafts_push trivial
  · have hends := ho.ends
    have hne : s.state ≠ .ended := by
      rintro heq
      rw [heq] at hlt
      cases state <;> simp [SessionState.rank] at hlt
    rw [if_neg hne] at hends
    obtain ⟨hlog, hstack⟩ := Nat.add_eq_zero_iff.mp hends
    simp only [ends, push, note, List.countP_append, List.countP_cons, List.countP_nil, hlog,
      hstack]
    cases state <;> rfl

theorem keeps_ended (reason : Reason) (text : Option String) :
    Keeps s (s.setState .ended reason text) := keeps_setState reason text (.inl (by decide))

/-! ## Sending -/

theorem keeps_sendRtpInfo (name : String) : Keeps s (s.sendRtpInfo name) := by
  unfold sendRtpInfo
  split
  · exact keeps_message _ _ _
  · exact Keeps.refl s

theorem keeps_transmit (c : ContentId) (n : ℕ) : ∀ s, Keeps s (transmit c n s) := by
  induction n with
  | zero => exact Keeps.refl
  | succ n ih => exact fun s => (keeps_contentMessage _ _ _ _ _ _).trans (ih _)

theorem keeps_sendCandidates (c : ContentId) (all : Bool) : Keeps s (s.sendCandidates c all) := by
  unfold sendCandidates
  split
  · exact Keeps.refl s
  · exact (keeps_transmit c _ s).trans (keeps_modify c _)

theorem keeps_terminate (reason : Reason) (text : Option String) :
    Keeps s (s.terminate reason text) := by
  unfold terminate
  split
  · exact Keeps.refl s
  · have hown : ∀ s : State, Keeps s s.ownTermination :=
      fun s => Same.keeps ⟨rfl, rfl, rfl, rfl, rfl⟩
    simp only
    split
    · exact (hown s).trans (keeps_ended _ _)
    · exact ((keeps_message _ _ _).trans (hown _)).trans (keeps_ended _ _)

theorem stateAfter_offerAction (b : Bool) : stateAfter (offerAction b) = offeredState b := by
  cases b <;> rfl

/-- The message of a side may go out once the side has accepted. -/
theorem keeps_offer {draft : Draft} (haction : draft.action = offerAction s.localInitiator)
    (haccepted : s.locallyAccepted = true) : Keeps s (s.offer draft) := by
  unfold offer
  refine ((keeps_sendIq _ _).trans (keeps_push rfl rfl (by trivial))).trans
    (keeps_setState _ _ (.inr ⟨?_, haccepted⟩))
  rw [haction, stateAfter_offerAction]
  rfl

theorem fillContent_action {c : ContentId} {draft draft' : Draft} {content : Content}
    (h : s.fillContent c draft = some (draft', content)) : draft'.action = draft.action := by
  unfold fillContent at h
  cases hc : s.content? c with
  | none => simp [hc] at h
  | some content' =>
    have hnode : ∃ node, draft' = draft.filled node := by
      cases hstate : content'.state <;> cases ht : content'.transport <;>
        simp [hc, ht, hstate, Option.bind_eq_some_iff] at h <;> grind
    obtain ⟨node, rfl⟩ := hnode
    rfl

theorem keeps_fillContents (haccepted : s.locallyAccepted = true) (todo : List ContentId) :
    ∀ draft : Draft, draft.action = offerAction s.localInitiator →
      Keeps s (s.fillContents draft todo) := by
  induction todo with
  | nil => exact fun draft haction => keeps_offer haction haccepted
  | cons c cs ih =>
    intro draft haction
    unfold fillContents
    split
    · split
      · next draft' content hfill =>
          have hdraft := (fillContent_action hfill).trans haction
          refine ((keeps_modify c _).trans (keeps_push rfl rfl ?_)).trans (keeps_emit _)
          exact ⟨hdraft, haccepted⟩
      · exact keeps_abort _
    · exact ih draft haction

theorem keeps_compose {action : Action} (haction : action = offerAction s.localInitiator)
    (haccepted : s.locallyAccepted = true) : Keeps s (s.compose action) := by
  unfold compose
  split
  · exact keeps_abort _
  · split
    · exact keeps_fillContents haccepted _ _ haction
    · exact keeps_abort _

/-- Only a session whose side has accepted writes its message. -/
theorem keeps_tryInitiateOrAccept : Keeps s s.tryInitiateOrAccept := by
  unfold tryInitiateOrAccept
  by_cases hcontents : s.getContents = []
  · rw [if_pos hcontents]
    exact keeps_abort _
  rw [if_neg hcontents]
  split_ifs with hside hstate haccepted hready hstate haccepted hready
  all_goals first
    | exact Keeps.refl s
    | skip
  · have hdraft :
        (Frame.composing .sessionInitiate).Drafts s.localInitiator s.locallyAccepted := by
      refine ⟨?_, by simpa using haccepted⟩
      rw [hside]
      rfl
    exact (keeps_push rfl rfl hdraft).trans (keeps_emit _)
  · refine keeps_compose ?_ (by simpa using haccepted)
    rw [Bool.not_eq_true] at hside
    rw [hside]
    rfl

theorem keeps_accept : Keeps s s.accept := by
  have haccept : Keeps s s.accepted := by
    intro ho
    refine ⟨rfl, rfl, rfl, ⟨ho.sorted, ho.last, ho.others, fun _ => rfl, ?_, ho.ends⟩, rfl⟩
    intro f hf
    have hdraft := ho.drafts f hf
    cases f with
    | composing action => exact ⟨hdraft.1, rfl⟩
    | filling draft todo => exact ⟨hdraft.1, rfl⟩
    | _ => trivial
  exact haccept.trans keeps_tryInitiateOrAccept

/-! ## Contents -/

section

variable (c : ContentId)

theorem keeps_dropContent : Keeps s (s.dropContent c) := by
  unfold dropContent
  split
  · exact Keeps.refl s
  · split <;> exact Same.keeps ⟨rfl, rfl, rfl, rfl, rfl⟩

theorem keeps_contentRemovedCb : Keeps s (s.contentRemovedCb c) := by
  unfold contentRemovedCb
  simp only
  split
  · exact keeps_dropContent c
  · split
    · exact (keeps_dropContent c).trans (keeps_terminate _ _)
    · exact (keeps_dropContent c).trans keeps_tryInitiateOrAccept

theorem keeps_emitRemoved : Keeps s (s.emitRemoved c) :=
  (keeps_emit _).trans (keeps_contentRemovedCb c)

theorem keeps_contentRemove (signalPeer : Bool) (reason : Reason) :
    Keeps s (s.contentRemove c signalPeer reason) := by
  unfold contentRemove
  split
  · exact Keeps.refl s
  · split
    · split
      · exact Keeps.refl s
      · exact ((keeps_modify c _).trans (keeps_push rfl rfl (by trivial))).trans (keeps_emit _)
    · exact keeps_emitRemoved c

theorem keeps_sendContentAddOrAccept (content : Content) :
    Keeps s (s.sendContentAddOrAccept c content) := by
  unfold sendContentAddOrAccept
  split
  · exact keeps_abort _
  · exact ((keeps_contentMessage _ _ _ _ _ _).trans (keeps_modify c _)).trans (keeps_emit _)

theorem keeps_maybeReady : Keeps s (s.maybeReady c) := by
  unfold maybeReady
  split
  · exact Keeps.refl s
  · split
    · exact Keeps.refl s
    · split
      · exact keeps_tryInitiateOrAccept
      · split
        · exact (keeps_push rfl rfl (by trivial)).trans (keeps_sendContentAddOrAccept c _)
        · exact Keeps.refl s

theorem keeps_addCandidates (cs : List Candidate) :
    Keeps s (s.addCandidates c cs) := by
  unfold addCandidates
  split
  · exact Keeps.refl s
  · split
    · exact Keeps.refl s
    · have hadded : ∀ f, Keeps s (State.push (s.modify c f) (.addedCandidates c)) :=
        fun f => (keeps_modify c f).trans (keeps_push rfl rfl (by trivial))
      simp only
      split
      · exact hadded _
      · exact (hadded _).trans (keeps_maybeReady c)

theorem keeps_changeDirection (senders : Senders) :
    Keeps s (s.changeDirection c senders) := by
  unfold changeDirection
  split
  · exact Keeps.refl s
  · split
    · exact Keeps.refl s
    · exact ((keeps_modify c _).trans (keeps_push rfl rfl (by trivial))).trans (keeps_emit _)

theorem keeps_requestDirection (side other : Senders) (wanted : Bool) :
    Keeps s (s.requestDirection c side other wanted) := by
  unfold requestDirection
  split
  · exact Keeps.refl s
  · split
    · exact Keeps.refl s
    · split
      · exact keeps_changeDirection c _
      · split
        · exact keeps_changeDirection c _
        · exact keeps_contentRemove c _ _

theorem keeps_maybeSendDescription : Keeps s (s.maybeSendDescription c) := by
  unfold maybeSendDescription
  split
  · exact Keeps.refl s
  · split
    · exact Keeps.refl s
    · split
      · exact keeps_contentMessage _ _ _ _ _ _
      · exact Keeps.refl s

end

theorem keeps_insertContent (content : Content) (name : String) :
    Keeps s (s.insertContent content name) := by
  have hmade : ∀ cs initiator responder,
      Keeps s (State.setTables (s.setContents cs) initiator responder) :=
    fun _ _ _ => Same.keeps ⟨rfl, rfl, rfl, rfl, rfl⟩
  unfold insertContent
  simp only
  split
  · split
    · exact keeps_abort _
    · exact (hmade _ _ _).trans (keeps_emit _)
  · split
    · exact keeps_abort _
    · exact (hmade _ _ _).trans (keeps_emit _)

theorem keeps_addContent (mediaType : MediaType) (senders : Senders)
    (name contentNs transportNs : String) :
    Keeps s (s.addContent mediaType senders name contentNs transportNs) := by
  unfold addContent
  simp only
  split
  · exact keeps_abort _
  · exact (keeps_push rfl rfl (by trivial)).trans (keeps_insertContent _ _)

theorem keeps_setLocalHold (hold : Bool) : Keeps s (s.setLocalHold hold) := by
  have hhold : Keeps s { s with localHold := hold } := Same.keeps ⟨rfl, rfl, rfl, rfl, rfl⟩
  unfold setLocalHold
  split
  · exact Keeps.refl s
  · split
    · exact hhold.trans (keeps_sendRtpInfo _)
    · exact hhold

/-- Every call of the application. -/
theorem keeps_call (c : Call) : Keeps s (s.call c) := by
  cases c with
  | accept => exact keeps_accept
  | terminate reason text => exact keeps_terminate reason text
  | setLocalHold hold => exact keeps_setLocalHold hold
  | addContent mediaType senders name contentNs transportNs => exact keeps_addContent _ _ _ _ _
  | removeContent c => exact keeps_contentRemove c _ _
  | rejectContent c reason => exact keeps_contentRemove c _ _
  | addCandidates c cs => exact keeps_addCandidates c cs
  | setMediaReady c => exact (keeps_modify c _).trans (keeps_maybeReady c)
  | setTransportState c connected => exact (keeps_modify c _).trans (keeps_maybeReady c)
  | changeDirection c senders => exact keeps_changeDirection c senders
  | setSending c send => exact keeps_requestDirection c _ _ _
  | requestReceiving c receive => exact keeps_requestDirection c _ _ _
  | maybeSendDescription c => exact keeps_maybeSendDescription c
  | sendInfo => exact keeps_message _ _ _

end State

end Jingle
