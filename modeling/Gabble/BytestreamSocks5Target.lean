/-
# The target of a SOCKS5 bytestream

A query has streamhosts.  The target tries them one after the other, in the order in
which they are offered, and answers the query once: with the streamhost that it tried
last, or with an error when all of them have failed.  `Answers` says how far it is, and
after the answer nothing more is shown.
-/
import Gabble.BytestreamSocks5Asserts

namespace Socks5

open Base64 Transition
open CText (ascii)

/-! ## What is offered -/

/-- The streamhost of a node, if the target can try it. -/
def usable (peerJid : Bytes) (mucContact : Bool) (node : StreamhostNode) : Option Streamhost :=
  match node.zeroconf, node.jid, node.host, node.port with
  | false, some jid, some host, some port =>
    if port ≤ 0 || port > 65535 then none
    else if jid ≠ peerJid && mucContact then none
    else some ⟨jid, host, port.toNat⟩
  | _, _, _, _ => none

/-- The streamhosts of a query that can be tried, in the order of the query. -/
def offered (peerJid : Bytes) (mucContact : Bool) (nodes : List StreamhostNode) :
    List Streamhost :=
  nodes.filterMap (usable peerJid mucContact)

theorem addStreamhost_eq (s : State) (node : StreamhostNode) :
    addStreamhost s node =
      { s with streamhosts := s.streamhosts ++ (usable s.peerJid s.mucContact node).toList } := by
  have hkept : s = { s with streamhosts := s.streamhosts ++ (none : Option Streamhost).toList } := by
    rw [Option.toList_none, List.append_nil]
  rcases node with ⟨_ | _, _ | jid, _ | host, _ | port⟩
  case false.some.some.some =>
    rw [addStreamhost, usable]
    dsimp only
    split
    · exact hkept
    split
    · exact hkept
    · rfl
  all_goals exact hkept

theorem addStreamhosts_eq (nodes : List StreamhostNode) (s : State) :
    nodes.foldl addStreamhost s =
      { s with streamhosts := s.streamhosts ++ offered s.peerJid s.mucContact nodes } := by
  induction nodes generalizing s with
  | nil => simp [offered]
  | cons node nodes ih =>
    rw [List.foldl_cons, ih, addStreamhost_eq]
    dsimp only
    rw [List.append_assoc, offered, offered, List.filterMap_cons]
    cases usable s.peerJid s.mucContact node <;> rfl

/-! ## What the target shows -/

/-- What the peer and the streamhosts see of a negotiation: a streamhost is tried, or
the query is answered. -/
inductive Mark : Type where
  | tried (host : Bytes) (port : ℕ) : Mark
  | used (iq : Option ℕ) (jid : Bytes) : Mark
  | failed (iq : ℕ) : Mark
deriving DecidableEq

def Effect.mark : Effect → Option Mark
  | .transportConnect host port => some (.tried host port)
  | .streamhostUsed iq jid => some (.used iq jid)
  | .iqError iq _ => some (.failed iq)
  | _ => none

def marks (s : State) : List Mark := s.out.filterMap Effect.mark

/-- An attempt to connect to a streamhost. -/
def Streamhost.mark (h : Streamhost) : Mark := .tried h.host h.port

def Mark.isTried : Mark → Bool
  | .tried _ _ => true
  | _ => false

/-- A write, or the attempt to connect. -/
def Effect.exchange : Effect → Option Bool
  | .transportConnect _ _ => some false
  | .transportSend _ => some true
  | _ => none

/-- Something was written since the last attempt to connect. -/
def asked (s : State) : Bool := (s.out.filterMap Effect.exchange).getLast? = some true

/-- What is shown of the negotiation about a query, and the state it is in: the
streamhosts are tried in their order until one is used or none is left. -/
inductive Told (iq : ℕ) (hosts : List Streamhost) (state : Socks5State) : List Mark → Prop
  | trying {done : List Streamhost} {h : Streamhost} {rest : List Streamhost} :
      hosts = done ++ h :: rest → state.isTarget = true →
        Told iq hosts state ((done ++ [h]).map Streamhost.mark)
  | used {done : List Streamhost} {h : Streamhost} {rest : List Streamhost} :
      hosts = done ++ h :: rest → state = .connected ∨ state = .error →
        Told iq hosts state ((done ++ [h]).map Streamhost.mark ++ [.used (some iq) h.jid])
  | failed :
      state.isTarget = false → state ≠ .connected →
        Told iq hosts state (hosts.map Streamhost.mark ++ [.failed iq])

/-- The negotiation goes on: the stream is not closed, and the timer or the streamhost
will make the target go on. -/
structure Underway (s : State) : Prop where
  running : s.aborted = false
  alive : s.disposeHasRun = false
  notClosed : s.bytestreamState ≠ .closing ∧ s.bytestreamState ≠ .closed
  transport : ∃ t, s.transport = some t ∧ t.phase ≠ .disconnected
  awaits : s.timer = true ∨ asked s = true

/-- The query is answered once, with the streamhost that was tried last or with an
error when all were tried; or it is not answered yet, and the negotiation goes on. -/
def Answers (iq : ℕ) (hosts : List Streamhost) (s : State) : Prop :=
  Told iq hosts s.socks5State (marks s) ∧ (s.socks5State.isTarget = true → Underway s)

/-! ## Events that are not part of a negotiation -/

/-- We have offered nothing to the peer. -/
structure Passive (s : State) : Prop where
  listening : s.listening = false
  inits : s.initsPending = 0
  activations : s.activationsPending = 0
  state : s.bytestreamState ≠ .initiating

/-- The events that only an initiator awaits. -/
def Event.isInitiator : Event → Bool
  | .initReply _ _ | .activationReply _ | .newConnection => true
  | _ => false

theorem Passive.not_initiator {s : State} {e : Event} (hs : Passive s)
    (henabled : enabled s e = true) : e.isInitiator = false := by
  cases e with
  | initReply | activationReply | newConnection =>
    simp [enabled, hs.inits, hs.activations, hs.listening] at henabled
  | _ => rfl

/-- Nothing is shown, and the negotiation is over if it was. -/
structure Silent (s s' : State) : Prop where
  marks : marks s' = marks s
  passive : Passive s → Passive s'
  gone : s.transport = none ∧ s.readBuffer = none → s'.transport = none ∧ s'.readBuffer = none
  socks5State : s'.socks5State = s.socks5State ∨ s'.socks5State = .error

theorem Passive.congr {s s' : State} (h : Passive s) (hlistening : s'.listening = s.listening)
    (hinits : s'.initsPending = s.initsPending)
    (hactivations : s'.activationsPending = s.activationsPending)
    (hstate : s'.bytestreamState = s.bytestreamState) : Passive s' :=
  ⟨hlistening.trans h.listening, hinits.trans h.inits, hactivations.trans h.activations,
    hstate ▸ h.state⟩

/-- Changes of what a silent stream does not depend on. -/
theorem silent_of_eq {s s' : State} (hmarks : marks s' = marks s)
    (hlistening : s'.listening = s.listening) (hinits : s'.initsPending = s.initsPending)
    (hactivations : s'.activationsPending = s.activationsPending)
    (hstate : s'.bytestreamState = s.bytestreamState) (htransport : s'.transport = s.transport)
    (hbuffer : s'.readBuffer = s.readBuffer) (hsocks5 : s'.socks5State = s.socks5State) :
    Silent s s' :=
  ⟨hmarks, fun h => h.congr hlistening hinits hactivations hstate,
    fun h => ⟨htransport.trans h.1, hbuffer.trans h.2⟩, .inl hsocks5⟩

theorem Silent.refl (s : State) : Silent s s := ⟨rfl, id, id, .inl rfl⟩

theorem Silent.trans {s s' s'' : State} (h : Silent s s') (h' : Silent s' s'') : Silent s s'' where
  marks := h'.marks.trans h.marks
  passive := fun hs => h'.passive (h.passive hs)
  gone := fun hs => h'.gone (h.gone hs)
  socks5State := by
    rcases h'.socks5State with hsame | herror
    · rw [hsame]
      exact h.socks5State
    · exact .inr herror

theorem marks_append {s s' : State} {effects : List Effect} (h : s'.out = s.out ++ effects) :
    marks s' = marks s ++ effects.filterMap Effect.mark := by
  rw [marks, h, List.filterMap_append]
  rfl

/-- An effect that shows nothing. -/
theorem silent_emit {effect : Effect} (h : effect.mark = none) (s : State) :
    Silent s (emit effect s) := by
  refine silent_of_eq ?_ rfl rfl rfl rfl rfl rfl rfl
  rw [marks_append rfl, List.filterMap_cons, h]
  exact List.append_nil _

/-- What has been read and not used yet, while something has. -/
theorem silent_readBuffer {s : State} (hbuffer : s.readBuffer ≠ none) (buffer : Bytes) :
    Silent s { s with readBuffer := some buffer } :=
  ⟨rfl, fun h => h.congr rfl rfl rfl rfl, fun h => absurd h.2 hbuffer, .inl rfl⟩

theorem Silent.isTarget {s s' : State} (h : Silent s s') (hs : s.socks5State.isTarget = false) :
    s'.socks5State.isTarget = false := by
  rcases h.socks5State with hsame | herror
  · rw [hsame]
    exact hs
  · rw [herror]
    rfl

theorem silent_setState {state : Ibb.BytestreamState} (hstate : state ≠ .initiating) (s : State) :
    Silent s (setState state s) := by
  rw [setState_eq]
  refine ⟨?_, fun h => ⟨h.listening, h.inits, h.activations, hstate⟩, id, .inl rfl⟩
  rw [marks_append rfl]
  split <;> exact List.append_nil _

theorem silent_blockReceiving (block : Bool) (s : State) : Silent s (blockReceiving block s) := by
  rw [blockReceiving]
  split
  · exact silent_of_eq rfl rfl rfl rfl rfl rfl rfl rfl
  case h_2 t ht =>
    refine ⟨?_, fun h => h.congr rfl rfl rfl rfl, fun h => ?_, .inl rfl⟩
    · rw [marks_append rfl]
      exact List.append_nil _
    · rw [ht] at h
      cases h.1

theorem silent_bytestreamClosed (s : State) : Silent s (bytestreamClosed s) := by
  have hclose : Silent s (closeTransport s) :=
    ⟨rfl, fun h => h.congr rfl rfl rfl rfl, fun _ => ⟨rfl, rfl⟩, .inl rfl⟩
  exact hclose.trans (silent_setState (by decide) _)

theorem silent_changeWriteBlockedState (blocked : Bool) (s : State) :
    Silent s (changeWriteBlockedState blocked s) := by
  rw [changeWriteBlockedState]
  split
  · exact Silent.refl s
  · refine ⟨?_, fun h => h.congr rfl rfl rfl rfl, id, .inl rfl⟩
    rw [marks_append rfl]
    exact List.append_nil _

theorem silent_transportBufferEmptyCb (s : State) : Silent s (transportBufferEmptyCb s) := by
  rw [transportBufferEmptyCb]
  split
  · exact silent_bytestreamClosed s
  · split
    · exact silent_changeWriteBlockedState false s
    · exact Silent.refl s

theorem silent_decline (error : Option Ibb.GError) (s : State) : Silent s (decline error s) := by
  have hdeclined : ∀ e : Ibb.GError, Silent s (emit (.siDecline e) s) := fun e =>
    silent_emit rfl s
  exact (hdeclined _).trans (silent_setState (by decide) _)

theorem silent_close (error : Option Ibb.GError) (s : State) : Silent s (close error s) := by
  rw [close]
  split
  · exact Silent.refl s
  split
  · exact silent_decline error s
  · have hclosing : Silent s (setState .closing s) := silent_setState (by decide) s
    dsimp only
    split
    · exact hclosing
    · exact hclosing.trans (silent_bytestreamClosed _)

/-- An error that is not the target's. -/
theorem silent_socks5Error {s : State} (hs : s.socks5State.isTarget = false) :
    Silent s (socks5Error s) := by
  have herror : Silent s { stopTimer s with socks5State := .error } :=
    ⟨rfl, fun h => h.congr rfl rfl rfl rfl, id, .inr rfl⟩
  rw [socks5Error]
  cases hstate : s.socks5State with
  | targetTryingConnect | targetAuthRequestSent | targetConnectRequested =>
    rw [hstate] at hs
    cases hs
  | initiatorAwaitingAuthRequest | initiatorAwaitingCommand => exact herror
  | invalid | connected | initiatorOfferSent | initiatorTryingConnect | initiatorAuthRequestSent
  | initiatorConnectRequested | initiatorActivationSent | error =>
    exact herror.trans (silent_close none _)

theorem silent_transportDisconnectedCb {s : State} (hs : s.socks5State.isTarget = false) :
    Silent s (transportDisconnectedCb s) := by
  have hstopped : Silent s (stopTimer s) :=
    silent_of_eq rfl rfl rfl rfl rfl rfl rfl rfl
  exact hstopped.trans (silent_socks5Error hs)

theorem silent_writeToTransport {s : State} (hs : s.socks5State.isTarget = false) (data : Bytes) :
    Silent s (writeToTransport data s).1 := by
  have hsent : ∀ transport writes, s.transport ≠ none → Silent s
      { emit (.transportSend data) s with transport := transport, writes := writes } :=
    fun transport writes hne => ⟨(marks_append rfl).trans (List.append_nil _),
      fun h => h.congr rfl rfl rfl rfl, fun h => absurd h.1 hne, .inl rfl⟩
  rw [writeToTransport]
  split
  · exact silent_of_eq rfl rfl rfl rfl rfl rfl rfl rfl
  case h_2 t ht =>
    have hne : s.transport ≠ none := by simp [ht]
    split
    · exact silent_of_eq rfl rfl rfl rfl rfl rfl rfl rfl
    dsimp only
    split
    · split
      · exact (hsent (some { t with phase := .disconnected }) s.writes.tail hne).trans
          (silent_transportDisconnectedCb hs)
      · exact (hsent s.transport s.writes.tail hne).trans (silent_transportBufferEmptyCb _)
      · split
        · exact (hsent s.transport s.writes.tail hne).trans (silent_transportBufferEmptyCb _)
        · exact hsent (some { t with bufferEmpty := false }) s.writes.tail hne
    · split
      · exact (hsent s.transport s.writes hne).trans (silent_transportBufferEmptyCb _)
      · exact hsent s.transport s.writes hne

/-! ## After the negotiation -/

/-- The query is answered, and no streamhost is tried any more. -/
structure Over (iq : ℕ) (hosts : List Streamhost) (s : State) : Prop where
  told : Told iq hosts s.socks5State (marks s)
  target : s.socks5State.isTarget = false
  ended : s.socks5State = .connected ∨ s.socks5State = .error ∨
    s.transport = none ∧ s.readBuffer = none
  passive : Passive s

section

variable {sha1Hex : Bytes → Bytes} {iq : ℕ} {hosts : List Streamhost} {s s' : State} {e : Event}

theorem Over.answers (hs : Over iq hosts s) : Answers iq hosts s :=
  ⟨hs.told, fun htarget => by rw [hs.target] at htarget; cases htarget⟩

theorem Told.error {state : Socks5State} {shown : List Mark} (h : Told iq hosts state shown)
    (hstate : state.isTarget = false) : Told iq hosts .error shown := by
  cases h with
  | trying _ htarget =>
    rw [hstate] at htarget
    cases htarget
  | used hsplit _ => exact .used hsplit (.inr rfl)
  | failed _ _ => exact .failed rfl (by decide)

theorem Over.silent (hs : Over iq hosts s) (h : Silent s s') : Over iq hosts s' := by
  refine ⟨?_, h.isTarget hs.target, ?_, h.passive hs.passive⟩
  · rw [h.marks]
    rcases h.socks5State with hsame | herror
    · rw [hsame]
      exact hs.told
    · rw [herror]
      exact hs.told.error hs.target
  · rcases h.socks5State with hsame | herror
    · rw [hsame]
      exact hs.ended.imp_right fun hended => hended.imp_right h.gone
    · exact .inr (.inl herror)

/-- What is read after the negotiation is handed to the user or thrown away. -/
theorem silent_readLoop (fuel : ℕ) (hs : s.socks5State = .connected ∨ s.socks5State = .error) :
    Silent s (readLoop sha1Hex fuel s) := by
  induction fuel generalizing s with
  | zero => exact Silent.refl s
  | succ fuel ih =>
    rw [readLoop]
    split
    · exact Silent.refl s
    case h_2 buffer hbuffer =>
      have hround : Silent s (handleReceivedData sha1Hex s buffer).1 ∧
          (handleReceivedData sha1Hex s buffer).1.socks5State = s.socks5State := by
        rw [handleReceivedData]
        rcases hs with hconnected | herror
        · rw [hconnected]
          refine ⟨⟨?_, fun h => h.congr rfl rfl rfl rfl, id, .inl rfl⟩,
            hconnected⟩
          rw [marks_append rfl, List.filterMap_map]
          exact (congrArg _ (List.filterMap_eq_nil_iff.mpr fun _ _ => rfl)).trans
            (List.append_nil _)
        · rw [herror]
          exact ⟨Silent.refl s, herror⟩
      obtain ⟨hsilent, hstate⟩ := hround
      have hkept : ∀ rest, Silent s
          { (handleReceivedData sha1Hex s buffer).1 with readBuffer := some rest } := fun rest =>
        ⟨hsilent.marks, fun h => (hsilent.passive h).congr rfl rfl rfl rfl,
          fun h => absurd h.2 (by simp [hbuffer]), hsilent.socks5State⟩
      dsimp only
      split
      · exact hsilent
      split
      · exact hsilent
      generalize (if (handleReceivedData sha1Hex s buffer).2 < 0 then [] else _) = rest
      split
      · exact (hkept rest).trans (ih (by rw [← hstate] at hs; exact hs))
      · exact hkept rest

/-- After the negotiation nothing is shown any more. -/
theorem Over.silent_step (hs : Over iq hosts s) (hstep : step sha1Hex s e = some s')
    (hquery : ∀ iq nodes, e ≠ .query iq nodes) : Silent s s' := by
  obtain ⟨-, -, henabled, rfl⟩ := step_live hstep
  have hmap : ∀ f : Transport → Transport, Silent s { s with transport := s.transport.map f } :=
    fun f => ⟨rfl, fun h => h.congr rfl rfl rfl rfl,
      fun h => ⟨by simp [h.1], h.2⟩, .inl rfl⟩
  have hended : ∀ t, s.transport = some t → s.socks5State = .connected ∨ s.socks5State = .error :=
    fun t ht => hs.ended.imp_right fun h => h.resolve_right fun hgone => by
      rw [ht] at hgone
      cases hgone.1
  cases e with
  | initiate ips port proxies =>
    dsimp only [handle, initiate]
    rw [if_pos hs.passive.state]
    exact Silent.refl s
  | accept sent =>
    dsimp only [handle, accept]
    split
    · exact Silent.refl s
    split
    · exact (silent_emit rfl s).trans (silent_setState (by decide) _)
    · exact Silent.refl s
  | send str =>
    dsimp only [handle, send]
    split
    · exact Silent.refl s
    have hwritten := silent_writeToTransport hs.target str
    split
    · exact hwritten.trans (silent_close none _)
    split
    · exact hwritten
    split
    · exact hwritten
    · exact hwritten.trans (silent_changeWriteBlockedState true _)
  | close error => exact silent_close error s
  | blockReading block =>
    have hflag : Silent s { s with readBlocked := block } :=
      silent_of_eq rfl rfl rfl rfl rfl rfl rfl rfl
    dsimp only [handle, blockReading]
    split
    · exact Silent.refl s
    split
    · exact hflag.trans (silent_blockReceiving block _)
    · exact hflag
  | query iq nodes => exact absurd rfl (hquery iq nodes)
  | initReply | activationReply | newConnection => cases hs.passive.not_initiator henabled
  | transportConnected =>
    obtain ⟨t, ht, -⟩ := (Option.any_eq_true _ _).mp henabled
    have hstate := hended t ht
    dsimp only [handle, transportConnectedCb]
    rw [if_neg]
    · exact (hmap _).trans ⟨rfl, fun h => h.congr rfl rfl rfl rfl, id, .inl rfl⟩
    · change ¬ (decide (s.socks5State = _) || decide (s.socks5State = _)) = true
      rcases hstate with hstate | hstate <;> rw [hstate] <;> decide
  | transportDisconnected =>
    exact (hmap _).trans (silent_transportDisconnectedCb hs.target)
  | transportBufferEmpty => exact (hmap _).trans (silent_transportBufferEmptyCb _)
  | received data =>
    rw [enabled, Bool.and_eq_true] at henabled
    obtain ⟨t, ht, -⟩ := receives_iff.mp henabled.1
    dsimp only [handle, transportHandler]
    split
    · exact silent_of_eq rfl rfl rfl rfl rfl rfl rfl rfl
    case h_2 buffer hbuffer =>
      have hne : s.readBuffer ≠ none := by simp [hbuffer]
      have hread := silent_readBuffer hne (buffer ++ data)
      exact hread.trans (silent_readLoop _ (hended t ht))
  | timeout => exact silent_socks5Error hs.target
  | dispose =>
    have hstopped : Silent s (stopTimer { s with disposeHasRun := true }) :=
      silent_of_eq rfl rfl rfl rfl rfl rfl rfl rfl
    have hclosed : Silent s (if s.bytestreamState ≠ .closed then
        close none (stopTimer { s with disposeHasRun := true }) else
        stopTimer { s with disposeHasRun := true }) := by
      split
      · exact hstopped.trans (silent_close none _)
      · exact hstopped
    exact hclosed.trans ⟨rfl, fun h => ⟨rfl, h.inits, h.activations, h.state⟩,
      fun h => ⟨rfl, h.2⟩, .inl rfl⟩

theorem Over.step (hs : Over iq hosts s) (hstep : Socks5.step sha1Hex s e = some s')
    (hquery : ∀ iq nodes, e ≠ .query iq nodes) : Over iq hosts s' :=
  hs.silent (hs.silent_step hstep hquery)

end

end Socks5
