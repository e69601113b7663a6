/-
# Bytestreams that nobody has accepted

A peer that asks for a bytestream may go on before the user has accepted it.  The handler
for IBB `open` looks at the state of the stream, and refuses unless it was accepted; so an
in-band stream never opens before.  The handler for SOCKS5 queries does not look, and
neither does the end of the negotiation: the stream opens before it was accepted exactly
when a streamhost completes the negotiation before.
-/
import Gabble.BytestreamSocks5Answers

open Transition

/-! ## In-band bytestreams -/

namespace Ibb

/-- `handle_ibb_open_iq`, for an IQ that names the stream. -/
def handleIbbOpenIq (s : State) (blockSize : Option ℕ) : Except XmppError State :=
  if s.state ≠ .accepted then .error .badRequest else .ok (openReceived s blockSize)

/-- One event, where the peer may send an `open` at any time. -/
def openStep (s : State) : Event → Option State
  | .openReceived blockSize =>
    if s.disposeHasRun then none else some ((handleIbbOpenIq s blockSize).toOption.getD s)
  | e => step s e

/-- An `open` is handled whatever the state is; the rest is as before. -/
theorem openStep_does {s s' : State} {e : Event} (hstep : openStep s e = some s') :
    (∃ blockSize, e = .openReceived blockSize ∧
        s' = (handleIbbOpenIq s blockSize).toOption.getD s) ∨
      (∀ blockSize, e ≠ .openReceived blockSize) ∧ Does s e s' := by
  by_cases hopen : ∃ blockSize, e = .openReceived blockSize
  · obtain ⟨blockSize, rfl⟩ := hopen
    obtain ⟨-, hstep⟩ := Option.ite_none_left_eq_some.mp hstep
    exact .inl ⟨blockSize, rfl, (Option.some.inj hstep).symm⟩
  · have hother : ∀ blockSize, e ≠ .openReceived blockSize := fun b he => hopen ⟨b, he⟩
    rw [openStep.eq_2 s e hother] at hstep
    exact .inr ⟨hother, (step_does hstep).2⟩

/-- The stream becomes open, or data is handed to the user. -/
def Effect.isUse : Effect → Bool
  | .stateChanged .opened | .dataReceived _ => true
  | _ => false

/-- All along the events, the stream is not used before it was accepted. -/
def AcceptedFirst (s₀ : State) (es : List Event) : Prop :=
  ∀ es₁ es₂ s, es = es₁ ++ es₂ → run openStep s₀ es₁ = some s → (∃ e ∈ s.out, e.isUse = true) →
    ∃ t ∈ trace openStep s₀ es₁, t.state = .accepted

/-- The stream was not accepted yet, and may have been declined. -/
structure Unaccepted (s : State) : Prop where
  state : s.state = .localPending ∨ s.state = .closed
  readBuffer : s.readBuffer = none
  sent : s.sentStanzasNotAcked = []
  inits : s.initsPending = 0
  out : ∀ e ∈ s.out, e.isUse = false

theorem unaccepted_new (blockSize : ℕ+) : Unaccepted (State.new blockSize .localPending) :=
  ⟨.inl rfl, rfl, rfl, rfl, nofun⟩

section

variable {s s' : State} {e : Event}

section

variable (hs : Unaccepted s)

include hs

theorem Unaccepted.not_opened : s.state ≠ .opened := by
  rcases hs.state with h | h <;> simp [h]

theorem Unaccepted.emit {effects : List Effect}
    (heffects : ∀ e ∈ effects, e.isUse = false) : Unaccepted (emit s effects) where
  state := hs.state
  readBuffer := hs.readBuffer
  sent := hs.sent
  inits := hs.inits
  out := List.forall_mem_append.mpr ⟨hs.out, heffects⟩

theorem Unaccepted.closed : Unaccepted (setState s .closed) := by
  rw [setState]
  split
  · exact hs
  · exact Unaccepted.emit (s := { s with state := .closed })
      ⟨.inr rfl, hs.readBuffer, hs.sent, hs.inits, hs.out⟩ (by simp [Effect.isUse])

theorem Unaccepted.answerAll {answer : ℕ → Effect}
    (hanswer : ∀ id, (answer id).isUse = false) : Unaccepted (answerAll s answer) := by
  refine Unaccepted.emit (s := { s with receivedStanzasNotAcked := [] })
    ⟨hs.state, hs.readBuffer, hs.sent, hs.inits, hs.out⟩ ?_
  intro e he
  obtain ⟨id, -, rfl⟩ := List.mem_map.mp he
  exact hanswer id

theorem Unaccepted.close (error : Option GError) :
    Unaccepted (close s error) := by
  rw [Ibb.close]
  split
  · exact hs
  case isFalse hopen =>
    have hpending : s.state = .localPending := hs.state.resolve_right hopen
    have hanswered : Unaccepted
        (Ibb.answerAll s fun id => .iqError (.data id) ⟨.itemNotFound, none⟩) :=
      hs.answerAll fun _ => rfl
    dsimp only
    rw [if_pos (show (Ibb.answerAll s _).state = .localPending from hpending), decline]
    exact (hanswered.emit (by simp [Effect.isUse])).closed

theorem Unaccepted.answer (isIq : Bool) {effect : Effect}
    (heffect : effect.isUse = false) : Unaccepted (answer s isIq effect) := by
  rw [Ibb.answer]
  split
  · exact hs.emit (by simpa using heffect)
  · exact hs

theorem Unaccepted.blockReading (block : Bool) :
    Unaccepted (blockReading s block) := by
  rw [Ibb.blockReading]
  split
  · exact hs
  dsimp only
  rw [hs.readBuffer]
  exact ⟨hs.state, rfl, hs.sent, hs.inits, hs.out⟩

theorem Unaccepted.dispose : Unaccepted (dispose s) := by
  have hgone : Unaccepted { s with disposeHasRun := true } :=
    ⟨hs.state, hs.readBuffer, hs.sent, hs.inits, hs.out⟩
  have hclosed : Unaccepted (if ({ s with disposeHasRun := true } : State).state ≠ .closed then
      Ibb.close { s with disposeHasRun := true } none else { s with disposeHasRun := true }) := by
    split
    · exact hgone.close none
    · exact hgone
  rw [Ibb.dispose]
  split
  · exact hs
  dsimp only
  generalize (if s.state ≠ .closed then _ else _) = s₁ at hclosed ⊢
  split
  · exact Unaccepted.emit (s := { s₁ with closeIqToAck := none })
      ⟨hclosed.state, hclosed.readBuffer, hclosed.sent, hclosed.inits, hclosed.out⟩
      (by simp [Effect.isUse])
  · exact hclosed

/-- Until it is accepted the stream is not used, whatever the peer sends. -/
theorem Unaccepted.openStep (hstep : openStep s e = some s') :
    s'.state = .accepted ∨ Unaccepted s' := by
  have hnot := hs.not_opened
  have hrefused : s.state ≠ .accepted := by rcases hs.state with h | h <;> simp [h]
  rcases openStep_does hstep with ⟨blockSize, rfl, rfl⟩ | ⟨hother, hdoes⟩
  · rw [handleIbbOpenIq, if_pos hrefused]
    exact .inr hs
  cases hdoes with
  | openReceived blockSize => exact absurd rfl (hother blockSize)
  | accept sent =>
    rw [accept]
    split
    · exact .inr hs
    split
    · left
      rw [setState]
      split
      · assumption
      · rfl
    · exact .inr hs
  | traffic h =>
    cases h with
    | send str =>
      rw [send, if_pos hnot]
      exact .inr hs
    | acked stanza hmem | refused stanza hmem =>
      rw [hs.sent] at hmem
      cases hmem
    | close error => exact .inr (hs.close error)
    | closeReceived iq =>
      exact .inr (Unaccepted.close (s := { s with closeIqToAck := some iq })
        ⟨hs.state, hs.readBuffer, hs.sent, hs.inits, hs.out⟩ none)
    | receive id content isIq =>
      rw [receive, if_pos hnot]
      exact .inr (hs.answer isIq rfl)
    | blockReading block => exact .inr (hs.blockReading block)
  | initiate sent =>
    rw [initiate, if_pos (by rcases hs.state with h | h <;> simp [h])]
    exact .inr hs
  | initReply success hpending =>
    rw [hs.inits] at hpending
    cases hpending
  | dispose => exact .inr hs.dispose

end

/-- **An in-band stream is not used before it was accepted.** -/
theorem acceptedFirst (blockSize : ℕ+) {es : List Event}
    (hrun : run openStep (State.new blockSize .localPending) es = some s) :
    AcceptedFirst (State.new blockSize .localPending) es := by
  have hI : ∀ s : State, Unaccepted s →
      ¬ (∃ e ∈ s.out, e.isUse = true) ∧ ¬ s.state = .accepted := by
    refine fun s hs => ⟨?_, ?_⟩
    · rintro ⟨e, he, huse⟩
      rw [hs.out e he] at huse
      cases huse
    · rcases hs.state with h | h <;> simp [h]
  have hstep : ∀ (s : State) (e : Event) (s' : State), Unaccepted s → Ibb.openStep s e = some s' →
      (s'.state = .accepted ∧ ¬ False) ∨ (Unaccepted s' ∧ ¬ False) ∨
        ((∃ e ∈ s'.out, e.isUse = true) ∧ ¬ s'.state = .accepted ∧ False) := by
    intro s e s' hs hstep
    rcases hs.openStep hstep with haccepted | hs'
    · exact .inl ⟨haccepted, id⟩
    · exact .inr (.inl ⟨hs', id⟩)
  exact (@forall_visited_iff _ _ openStep _ s Unaccepted (fun s => ∃ e ∈ s.out, e.isUse = true)
    (fun s => s.state = .accepted) (fun _ _ => False) hI hstep es (unaccepted_new blockSize)
    hrun).mpr fun _ _ _ _ _ _ hbad => hbad.elim

end

end Ibb

/-! ## SOCKS5 bytestreams -/

namespace Socks5

open Base64
open CText (ascii)

/-- The stream becomes open, or data is handed to the user. -/
def Effect.isUse : Effect → Bool
  | .stateChanged .opened | .dataReceived _ => true
  | _ => false

/-- The verdict on a message is that it is complete and right. -/
def Verdict.isAccepted : Verdict → Bool
  | .accepted _ => true
  | _ => false

/-- With these bytes the streamhost completes the negotiation of the target.  It may send
both its replies at once; then the command between them must have been written. -/
def negotiated (s : State) (buffer : Bytes) : Bool :=
  match s.socks5State with
  | .targetConnectRequested => (connectReply buffer).isAccepted
  | .targetAuthRequestSent =>
    authReply buffer = .accepted 2 && fate s ≠ .broken &&
      (connectReply (buffer.drop 2)).isAccepted
  | _ => false

/-- A read completes the negotiation of the target. -/
def completes (s : State) : Event → Bool
  | .received data => s.readBuffer.any fun buffer => negotiated s (buffer ++ data)
  | _ => false

section

variable (sha1Hex : Bytes → Bytes)

/-- All along the events, the stream is not used before it was accepted. -/
def AcceptedFirst (s₀ : State) (es : List Event) : Prop :=
  ∀ es₁ es₂ s, es = es₁ ++ es₂ → run (step sha1Hex) s₀ es₁ = some s →
    (∃ e ∈ s.out, e.isUse = true) →
      ∃ t ∈ trace (step sha1Hex) s₀ es₁, t.bytestreamState = .accepted

/-- No streamhost completes the negotiation before the stream was accepted. -/
def CompletesAfter (s₀ : State) (es : List Event) : Prop :=
  ∀ es₁ e es₂ s, es = es₁ ++ e :: es₂ → run (step sha1Hex) s₀ es₁ = some s →
    completes s e = true → ∃ t ∈ trace (step sha1Hex) s₀ es₁, t.bytestreamState = .accepted

end

/-- The stream was not accepted yet, and may have been declined. -/
structure Unaccepted (s : State) : Prop where
  passive : Passive s
  state : s.bytestreamState = .localPending ∨ s.bytestreamState = .closed
  out : ∀ e ∈ s.out, e.isUse = false

/-- The stream negotiates as a target or not at all, or has no transport. -/
def Harmless (s : State) : Prop :=
  s.socks5State.isTarget = true ∨ s.socks5State = .invalid ∨ s.socks5State = .error ∨
    s.transport = none ∧ s.readBuffer = none

theorem unaccepted_new {streamId peerJid selfFullJid : Bytes} {mucContact : Bool}
    {writes : List Written} :
    Unaccepted (State.new streamId peerJid selfFullJid mucContact .localPending writes) :=
  ⟨⟨rfl, rfl, rfl, nofun⟩, .inl rfl, nofun⟩

section

variable {sha1Hex : Bytes → Bytes} {s s' : State} {e : Event}

/-- What `Unaccepted` speaks of. -/
def core (s : State) : Bool × ℕ × ℕ × Ibb.BytestreamState × List Effect :=
  (s.listening, s.initsPending, s.activationsPending, s.bytestreamState, s.out)

section

variable (hs : Unaccepted s)

include hs

theorem Unaccepted.same (h : core s' = core s) : Unaccepted s' := by
  simp only [core, Prod.mk.injEq] at h
  obtain ⟨hl, hi, ha, hb, ho⟩ := h
  refine ⟨⟨hl.trans hs.passive.listening, hi.trans hs.passive.inits,
    ha.trans hs.passive.activations, hb ▸ hs.passive.state⟩, hb ▸ hs.state, ?_⟩
  rw [ho]
  exact hs.out

theorem Unaccepted.emit {effect : Effect} (heffect : effect.isUse = false) :
    Unaccepted (emit effect s) :=
  ⟨⟨hs.passive.listening, hs.passive.inits, hs.passive.activations, hs.passive.state⟩, hs.state,
    List.forall_mem_append.mpr ⟨hs.out, by simpa using heffect⟩⟩

theorem Unaccepted.closed : Unaccepted (setState .closed s) := by
  rw [setState]
  split
  · exact hs
  · exact Unaccepted.emit (s := { s with
      bytestreamState := .closed
      registered := s.registered && Ibb.BytestreamState.closed ≠ .closed })
      ⟨⟨hs.passive.listening, hs.passive.inits, hs.passive.activations, by rintro ⟨⟩⟩, .inr rfl,
        hs.out⟩
      rfl

theorem Unaccepted.blockReceiving (block : Bool) :
    Unaccepted (blockReceiving block s) := by
  rw [Socks5.blockReceiving]
  split
  · exact hs.same rfl
  case h_2 t _ =>
    exact Unaccepted.emit (s := { s with transport := some { t with receivingBlocked := block } })
      (hs.same rfl) rfl

theorem Unaccepted.bytestreamClosed : Unaccepted (bytestreamClosed s) :=
  Unaccepted.closed (s := closeTransport s) (hs.same rfl)

theorem Unaccepted.transportBufferEmptyCb :
    Unaccepted (transportBufferEmptyCb s) := by
  rw [Socks5.transportBufferEmptyCb]
  split
  · exact hs.bytestreamClosed
  split
  · rw [changeWriteBlockedState]
    split
    · exact hs
    · exact Unaccepted.emit (s := { s with writeBlocked := false }) (hs.same rfl) rfl
  · exact hs

theorem Unaccepted.close (error : Option Ibb.GError) :
    Unaccepted (close error s) := by
  rw [Socks5.close]
  split
  · exact hs
  case isFalse hopen =>
    rw [if_pos (hs.state.resolve_right hopen), decline]
    exact Unaccepted.closed (hs.emit rfl)

theorem Unaccepted.startTimer : Unaccepted (startTimer s) := by
  rw [Socks5.startTimer]
  split
  · exact hs.same rfl
  · exact hs.same rfl

theorem Unaccepted.tryStreamhost (h : Streamhost) :
    Unaccepted (tryStreamhost h s) := by
  have hset : Unaccepted (setTransport ⟨.connecting, false, true⟩
      { s with socks5State := .targetTryingConnect }) := by
    rw [setTransport]
    split
    · exact hs.same rfl
    · exact hs.same rfl
  exact hset.startTimer.emit rfl

theorem Unaccepted.streamhostFailed : Unaccepted (streamhostFailed s) := by
  have hleft : Unaccepted { closeTransport s with streamhosts := s.streamhosts.tail } := hs.same rfl
  rw [Socks5.streamhostFailed]
  dsimp only
  split
  · exact hleft.tryStreamhost _
  · rw [noMoreStreamhosts]
    have htold := hleft.emit (show Effect.connectionError.isUse = false from rfl)
    split
    · exact htold.same rfl
    case h_2 iq _ =>
      exact Unaccepted.emit (s := { Socks5.emit .connectionError { closeTransport s with
        streamhosts := s.streamhosts.tail } with msgForAcknowledgeConnection := none })
        (htold.same rfl) rfl

theorem Unaccepted.socks5Error : Unaccepted (socks5Error s) := by
  have herror : Unaccepted { stopTimer s with socks5State := .error } :=
    hs.same rfl
  rw [Socks5.socks5Error]
  dsimp only
  split
  · exact herror.streamhostFailed
  · exact herror.streamhostFailed
  · exact herror.streamhostFailed
  · exact herror
  · exact herror
  · exact herror.close none

theorem Unaccepted.transportDisconnectedCb :
    Unaccepted (transportDisconnectedCb s) :=
  Unaccepted.socks5Error (s := stopTimer s) (hs.same rfl)

theorem Unaccepted.writeToTransport (data : Bytes) :
    Unaccepted (writeToTransport data s).1 := by
  have hsent : ∀ transport writes, Unaccepted { Socks5.emit (.transportSend data) s with
      transport := transport, writes := writes } := fun _ _ =>
    Unaccepted.same (s := Socks5.emit (.transportSend data) s) (hs.emit rfl) rfl
  rw [Socks5.writeToTransport]
  split
  · exact hs.same rfl
  case h_2 t ht =>
    split
    · exact hs.same rfl
    dsimp only
    split
    · split
      · exact (hsent (some { t with phase := .disconnected }) s.writes.tail).transportDisconnectedCb
      · exact (hsent s.transport s.writes.tail).transportBufferEmptyCb
      · split
        · exact (hsent s.transport s.writes.tail).transportBufferEmptyCb
        · exact hsent _ _
    · split
      · exact (hsent s.transport s.writes).transportBufferEmptyCb
      · exact hsent s.transport s.writes

theorem Unaccepted.socks5Connect : Unaccepted (socks5Connect s) := by
  rw [Socks5.socks5Connect]
  split
  · exact hs.tryStreamhost _
  · exact Unaccepted.socks5Error (s := { s with socks5State := .targetTryingConnect })
      (hs.same rfl)

theorem Unaccepted.queryReceived (iq : ℕ) (nodes : List StreamhostNode) :
    Unaccepted (queryReceived iq nodes s) := by
  rw [Socks5.queryReceived, addStreamhosts_eq]
  exact Unaccepted.socks5Connect (hs.same rfl)

theorem Unaccepted.transportConnectedCb :
    Unaccepted (transportConnectedCb s) := by
  have hstopped : Unaccepted (stopTimer s) := hs.same rfl
  rw [Socks5.transportConnectedCb]
  dsimp only
  split
  · exact (hstopped.writeToTransport [5, 1, 0]).same rfl
  · exact hstopped

theorem Unaccepted.sendConnectCommand :
    Unaccepted (sendConnectCommand sha1Hex s) :=
  Unaccepted.startTimer (Unaccepted.same (hs.writeToTransport _) rfl)

theorem Unaccepted.blockReading (block : Bool) :
    Unaccepted (blockReading block s) := by
  have hflag : Unaccepted { s with readBlocked := block } := hs.same rfl
  rw [Socks5.blockReading]
  split
  · exact hs
  dsimp only
  split
  · exact hflag.blockReceiving block
  · exact hflag

theorem Unaccepted.dispose : Unaccepted (dispose s) := by
  have hstopped : Unaccepted (stopTimer { s with disposeHasRun := true }) := hs.same rfl
  have hclosed : Unaccepted (if s.bytestreamState ≠ .closed then
      Socks5.close none (stopTimer { s with disposeHasRun := true }) else
      stopTimer { s with disposeHasRun := true }) := by
    split
    · exact hstopped.close none
    · exact hstopped
  exact ⟨⟨rfl, hclosed.passive.inits, hclosed.passive.activations, hclosed.passive.state⟩,
    hclosed.state, hclosed.out⟩

end

/-! ### Reading -/

/-- After an error nothing is negotiated, or the next streamhost is tried. -/
theorem harmless_socks5Error (s : State) : Harmless (socks5Error s) := by
  rcases (failed_socks5Error s).state with herror | ⟨htrying, -⟩
  · exact .inr (.inr (.inl herror))
  · left
    rw [htrying]
    rfl

theorem Harmless.silent (hs : Harmless s) (h : Silent s s') : Harmless s' := by
  rcases h.socks5State with hsame | herror
  · rw [Harmless, hsame]
    exact hs.imp_right fun hs => hs.imp_right fun hs => hs.imp_right h.gone
  · exact .inr (.inr (.inl herror))

/-- When a write of a target breaks the connection, the next streamhost is tried or the
transport is gone. -/
theorem write_broken_target (htarget : s.socks5State.isTarget = true) {t : Transport}
    (ht : s.transport = some t) (hphase : t.phase = .connected) (hfate : fate s = .broken)
    (data : Bytes) :
    ((writeToTransport data s).1.socks5State = .targetTryingConnect ∧
        (writeToTransport data s).1.timer = true) ∨
      (writeToTransport data s).1.transport = none ∧
        (writeToTransport data s).1.readBuffer = none := by
  rw [write_broken ht hphase hfate, transportDisconnectedCb, socks5Error]
  have hstate : (stopTimer (broke data t s)).socks5State = s.socks5State := rfl
  dsimp only
  rw [hstate]
  have hfailed : (streamhostFailed { stopTimer (stopTimer (broke data t s)) with
        socks5State := .error }).socks5State = .targetTryingConnect ∧
      (streamhostFailed { stopTimer (stopTimer (broke data t s)) with
        socks5State := .error }).timer = true ∨
      (streamhostFailed { stopTimer (stopTimer (broke data t s)) with
        socks5State := .error }).transport = none ∧
      (streamhostFailed { stopTimer (stopTimer (broke data t s)) with
        socks5State := .error }).readBuffer = none := by
    dsimp only [streamhostFailed, closeTransport, stopTimer, broke]
    cases s.streamhosts.tail with
    | nil =>
      right
      dsimp only [noMoreStreamhosts, emit]
      cases s.msgForAcknowledgeConnection with
      | none => exact ⟨rfl, rfl⟩
      | some iq => exact ⟨rfl, rfl⟩
    | cons h rest => exact .inl ⟨rfl, rfl⟩
  cases hs : s.socks5State with
  | targetTryingConnect | targetAuthRequestSent | targetConnectRequested => exact hfailed
  | _ =>
    rw [hs] at htarget
    cases htarget

theorem Unaccepted.fate_ne_closed (hs : Unaccepted s) : fate s ≠ .closed := by
  have hopen : s.bytestreamState ≠ .closing := by rcases hs.state with h | h <;> simp [h]
  rw [fate]
  split
  · exact Fate.noConfusion
  split
  · split
    · exact Fate.noConfusion
    · exact Fate.noConfusion
    · exact Fate.noConfusion
  · exact Fate.noConfusion

/-- The end of a round in which nothing was used of the buffer. -/
theorem next_unused (fuel : ℕ) {r : State × ℤ} (hr : r.2 ≤ 0) :
    next sha1Hex fuel r = r.1 ∨
      ∃ buffer rest, r.1.readBuffer = some buffer ∧ next sha1Hex fuel r = holding rest r.1 := by
  rw [next]
  split
  · exact .inl rfl
  split
  · exact .inl rfl
  case h_2 buffer hbuffer =>
    right
    refine ⟨buffer, if r.2 < 0 then [] else buffer.drop r.2.toNat, hbuffer, ?_⟩
    rw [decide_eq_false (by omega : ¬ 0 < r.2)]
    rfl

/-- Nothing has come of a read. -/
def Uneventful (s : State) : Prop := Unaccepted s ∧ (s.aborted = true ∨ Harmless s)

theorem Uneventful.holding (hs : Uneventful s) {buffer : Bytes}
    (hbuffer : s.readBuffer = some buffer) (rest : Bytes) : Uneventful (holding rest s) := by
  refine ⟨hs.1.same rfl, hs.2.imp_right fun h => ?_⟩
  refine h.imp_right fun h => h.imp_right fun h => h.imp_right fun hgone => ?_
  rw [hbuffer] at hgone
  cases hgone.2

theorem Uneventful.next (fuel : ℕ) {r : State × ℤ} (hs : Uneventful r.1) (hr : r.2 ≤ 0) :
    Uneventful (next sha1Hex fuel r) := by
  rcases next_unused fuel hr with h | ⟨buffer, rest, hbuffer, h⟩
  · rw [h]
    exact hs
  · rw [h]
    exact hs.holding hbuffer rest

theorem Unaccepted.uneventful_error (hs : Unaccepted s) : Uneventful (Socks5.socks5Error s) :=
  ⟨hs.socks5Error, .inr (harmless_socks5Error s)⟩

/-- What the loop does with the reply to the CONNECT command, when it is not complete or
refused. -/
theorem Unaccepted.uneventful_settled (hs : Unaccepted s) (hawaits : Awaits .target s)
    {buffer : Bytes} (hno : (connectReply buffer).isAccepted = false) :
    Uneventful (settled sha1Hex message .target s buffer) := by
  have htarget : Harmless s := by
    left
    rw [hawaits.state]
    rfl
  have hquiet : ∀ rest, Uneventful (Socks5.holding rest s) := fun rest => by
    refine ⟨hs.same rfl, .inr ?_⟩
    left
    rw [show (Socks5.holding rest s).socks5State = s.socks5State from rfl, hawaits.state]
    rfl
  have hreply : message Role.target.header buffer = connectReply buffer :=
    (connectReply_eq buffer).symm
  rw [settled, hreply]
  cases hverdict : connectReply buffer with
  | wait => exact hquiet buffer
  | refused =>
    have hstate : (Socks5.holding [] s).socks5State = Role.target.awaiting := hawaits.state
    change Uneventful (fails .target (Socks5.holding [] s))
    rw [← socks5Error_eq (.inr hstate)]
    exact (hquiet []).1.uneventful_error
  | accepted used =>
    rw [hverdict] at hno
    cases hno

/-- The stream is opened, and what follows is handed to the user. -/
theorem Unaccepted.opens_settled (hs : Unaccepted s) (hawaits : Awaits .target s) {buffer : Bytes}
    (hyes : (connectReply buffer).isAccepted = true) :
    (∃ e ∈ (settled sha1Hex message .target s buffer).out, e.isUse = true) ∧
      (settled sha1Hex message .target s buffer).bytestreamState = .opened := by
  have hopened : s.bytestreamState ≠ .opened := by rcases hs.state with h | h <;> simp [h]
  obtain ⟨h, rest, hstreamhosts⟩ := List.exists_cons_of_ne_nil (hawaits.streamhosts rfl)
  have hreply : message Role.target.header buffer = connectReply buffer :=
    (connectReply_eq buffer).symm
  have hgot : Effect.stateChanged .opened ∈ (targetGotConnectReply (stopTimer s)).out ∧
      (targetGotConnectReply (stopTimer s)).bytestreamState = .opened := by
    obtain ⟨t, ht⟩ := Option.ne_none_iff_exists'.mp hawaits.transport
    cases hblocked : s.readBlocked with
    | false =>
      simp [targetGotConnectReply, stopTimer, setState_eq, hstreamhosts, Socks5.emit, hblocked,
        hopened]
    | true =>
      simp [targetGotConnectReply, stopTimer, setState_eq, hstreamhosts, Socks5.emit, hblocked,
        Socks5.blockReceiving, ht, hopened]
  rw [settled, hreply]
  cases hverdict : connectReply buffer with
  | accepted used => exact ⟨⟨_, List.mem_append_left _ hgot.1, rfl⟩, hgot.2⟩
  | _ =>
    rw [hverdict] at hyes
    cases hyes

/-- Nothing may be received before the transport of a target is connected. -/
theorem readLoop_idle (fuel : ℕ)
    (hstate : s.socks5State = .targetTryingConnect ∨ s.socks5State = .invalid) (buffer : Bytes) :
    readLoop sha1Hex (fuel + 1) (holding buffer s) = abort (holding buffer s) := by
  have hhandle : handleReceivedData sha1Hex (holding buffer s) buffer =
      (abort (holding buffer s), ((buffer.length : ℕ) : ℤ)) := by
    rw [handleReceivedData, show (holding buffer s).socks5State = s.socks5State from rfl]
    rcases hstate with hstate | hstate <;> rw [hstate]
  rw [readLoop_succ, hhandle, next_aborted sha1Hex fuel rfl]

theorem startTimer_transport (s : State) :
    (startTimer s).transport = s.transport ∧ (startTimer s).readBuffer = s.readBuffer := by
  rw [startTimer]
  split
  · exact ⟨rfl, rfl⟩
  · exact ⟨rfl, rfl⟩

/-- When the CONNECT command cannot be written, the start of the timer is one too many or
the transport is gone. -/
theorem sendConnectCommand_lost (hstate : s.socks5State = .targetAuthRequestSent) {t : Transport}
    (ht : s.transport = some t) (hphase : t.phase = .connected) (hfate : fate s = .broken) :
    (sendConnectCommand sha1Hex s).aborted = true ∨
      (sendConnectCommand sha1Hex s).transport = none ∧
        (sendConnectCommand sha1Hex s).readBuffer = none := by
  have htarget : s.socks5State.isTarget = true := by
    rw [hstate]
    rfl
  rw [sendConnectCommand]
  rcases write_broken_target htarget ht hphase hfate
    (connectMessage 1 (domain sha1Hex (s.socks5State = .targetAuthRequestSent) s)) with
    ⟨-, htimer⟩ | ⟨htransport, hbuffer⟩
  · exact .inl (startTimer_aborted htimer)
  · right
    exact ⟨(startTimer_transport _).1.trans htransport, (startTimer_transport _).2.trans hbuffer⟩

/-- The reply to the authorization request, and what comes behind it. -/
theorem Unaccepted.readLoop_auth (hs : Unaccepted s) (hfacts : Facts s)
    (hrunning : s.aborted = false) (hstate : s.socks5State = .targetAuthRequestSent)
    {t : Transport} (ht : s.transport = some t) (hphase : t.phase = .connected)
    {buffer : Bytes} (hne : buffer ≠ []) :
    (Uneventful (readLoop sha1Hex buffer.length (holding buffer s)) ∧
        (authReply buffer = .accepted 2 && fate s ≠ .broken &&
          (connectReply (buffer.drop 2)).isAccepted) = false) ∨
      ∃ s₁ rest, Unaccepted s₁ ∧ Awaits .target s₁ ∧
        readLoop sha1Hex buffer.length (holding buffer s) =
          settled sha1Hex message .target s₁ rest ∧
        (authReply buffer = .accepted 2 && fate s ≠ .broken &&
          (connectReply (buffer.drop 2)).isAccepted) = (connectReply rest).isAccepted := by
  have hheld : Unaccepted (holding buffer s) := hs.same rfl
  have hstart : (holding buffer s).socks5State = Role.target.start := hstate
  have htimer : s.timer = false := by
    refine hfacts.timely (by rw [hstate]; rfl) ?_
    rw [ht, Option.any_some, hphase]
    rfl
  obtain ⟨hstreamhosts, hack⟩ := hfacts.target (by rw [hstate]; rfl)
  obtain ⟨n, hn⟩ := Nat.exists_eq_succ_of_ne_zero (List.length_pos_iff.mpr hne).ne'
  rw [hn, Nat.succ_eq_add_one, readLoop_succ, handleReceivedData_start sha1Hex hstart]
  have hfront : Role.target.front buffer = authReply buffer := rfl
  rw [hfront]
  cases hverdict : authReply buffer with
  | wait =>
    have htarget : Harmless (holding buffer s) := by
      left
      rw [hstart]
      rfl
    exact .inl ⟨Uneventful.next (r := (holding buffer s, 0)) n ⟨hheld, .inr htarget⟩ le_rfl, rfl⟩
  | refused =>
    have herror : Uneventful (Socks5.socks5Error (holding buffer s), (-1 : ℤ)).1 :=
      hheld.uneventful_error
    exact .inl ⟨herror.next n (show (-1 : ℤ) ≤ 0 by decide), rfl⟩
  | accepted used =>
    obtain rfl : used = 2 := authReply_accepted hverdict
    dsimp only [Socks5.follow]
    rw [decide_eq_true rfl, Bool.true_and]
    cases hfate : fate s with
    | closed => exact absurd hfate hs.fate_ne_closed
    | broken =>
      -- the command is lost, and with it the streamhost that accepted
      left
      refine ⟨?_, rfl⟩
      have hsent : Unaccepted (second sha1Hex .target (holding buffer s)) :=
        hheld.sendConnectCommand
      rcases @sendConnectCommand_lost sha1Hex (holding buffer s) hstate t ht hphase hfate with
        haborted | hgone
      · rw [next_aborted sha1Hex n haborted]
        exact ⟨hsent, .inl haborted⟩
      · rw [next_gone sha1Hex n hgone.2]
        exact ⟨hsent, .inr (.inr (.inr (.inr hgone)))⟩
    | kept =>
      have hsecond := @second_kept s t .target sha1Hex hstate ht hphase (fun _ => htimer) hfate
      have hsame : second sha1Hex .target (holding buffer s) =
          holding buffer (second sha1Hex .target s) := by
        rw [second_kept sha1Hex hstart ht hphase (fun _ => htimer) hfate, hsecond]
        rfl
      have hawaits : Awaits .target (second sha1Hex .target s) := by
        rw [hsecond]
        exact ⟨rfl, Option.some_ne_none _, hrunning, fun _ => hstreamhosts, fun _ => hack,
          nofun, nofun⟩
      have hsent : Unaccepted (second sha1Hex .target s) := hs.sendConnectCommand
      rw [hsame, next_used sha1Hex n hawaits.running (by decide)]
      split
      case isTrue hrest =>
        rw [hrest]
        refine .inl ⟨⟨hsent.same rfl, .inr (.inl ?_)⟩, rfl⟩
        rw [show (holding [] (second sha1Hex .target s)).socks5State = _ from hawaits.state]
        rfl
      case isFalse hrest =>
        right
        have hlength : 2 < buffer.length := by
          rw [List.drop_eq_nil_iff] at hrest
          omega
        obtain ⟨fuel, rfl⟩ : ∃ fuel, n = fuel + 2 := ⟨n - 2, by omega⟩
        exact ⟨second sha1Hex .target s, buffer.drop 2, hsent, hawaits,
          readLoop_awaiting sha1Hex hawaits fuel (buffer.drop 2), rfl⟩

/-- The loop, on a buffer that is not empty. -/
theorem Unaccepted.readLoop (hs : Unaccepted s) (hharmless : Harmless s) (hfacts : Facts s)
    (hrunning : s.aborted = false) {t : Transport} (ht : s.transport = some t)
    (hphase : t.phase = .connected) {buffer : Bytes} (hne : buffer ≠ []) :
    (Uneventful (readLoop sha1Hex buffer.length (holding buffer s)) ∧ negotiated s buffer = false) ∨
      ∃ s₁ rest, Unaccepted s₁ ∧ Awaits .target s₁ ∧
        readLoop sha1Hex buffer.length (holding buffer s) =
          settled sha1Hex message .target s₁ rest ∧
        negotiated s buffer = (connectReply rest).isAccepted := by
  have hheld : Unaccepted (holding buffer s) := hs.same rfl
  obtain ⟨n, hn⟩ := Nat.exists_eq_succ_of_ne_zero (List.length_pos_iff.mpr hne).ne'
  rw [negotiated]
  -- only the states of a target use what they read
  rcases hharmless with htarget | hinvalid | herror | hgone
  · obtain ⟨hstreamhosts, hack⟩ := hfacts.target htarget
    cases hstate : s.socks5State with
    | targetTryingConnect =>
      left
      rw [hn, readLoop_idle n (.inl hstate)]
      exact ⟨⟨hheld.same rfl, .inl rfl⟩, rfl⟩
    | targetConnectRequested =>
      right
      have hawaits : Awaits .target s :=
        ⟨hstate, by simp [ht], hrunning, fun _ => hstreamhosts, fun _ => hack, nofun, nofun⟩
      exact ⟨s, buffer, hs, hawaits, readLoop_length sha1Hex hawaits hne, rfl⟩
    | targetAuthRequestSent => exact hs.readLoop_auth hfacts hrunning hstate ht hphase hne
    | _ =>
      rw [hstate] at htarget
      cases htarget
  · left
    rw [hn, readLoop_idle n (.inr hinvalid), hinvalid]
    exact ⟨⟨hheld.same rfl, .inl rfl⟩, rfl⟩
  · left
    rw [hn, readLoop_error sha1Hex n herror hrunning hne, herror]
    exact ⟨⟨hs.same rfl, .inr (.inr (.inr (.inl herror)))⟩, rfl⟩
  · rw [hgone.1] at ht
    cases ht

/-- **What a read does to an unaccepted stream.**  Nothing comes of it, or it is the reply
to the CONNECT command, perhaps behind the reply to the authorization request. -/
theorem Unaccepted.received (hs : Unaccepted s) (hharmless : Harmless s) (hfacts : Facts s)
    (hrunning : s.aborted = false) (hreceives : receives s = true) {data : Bytes}
    (hdata : data ≠ []) :
    (Uneventful (transportHandler sha1Hex data s) ∧ completes s (.received data) = false) ∨
      ∃ s₁ rest, Unaccepted s₁ ∧ Awaits .target s₁ ∧
        transportHandler sha1Hex data s = settled sha1Hex message .target s₁ rest ∧
        completes s (.received data) = (connectReply rest).isAccepted := by
  obtain ⟨t, ht, hphase, -⟩ := receives_iff.mp hreceives
  rw [transportHandler, completes]
  cases hbuffer : s.readBuffer with
  | none => exact .inl ⟨⟨hs.same rfl, .inl rfl⟩, rfl⟩
  | some buffer =>
    rw [Option.any_some]
    exact hs.readLoop hharmless hfacts hrunning ht hphase
      (fun h => hdata (List.append_eq_nil_iff.mp h).2)

/-! ### Every event -/

/-- Until the stream is accepted: it is not used, and goes on harmlessly if at all. -/
structure Before (s : State) : Prop where
  unaccepted : Unaccepted s
  sound : Sound s
  harmless : s.disposeHasRun = true ∨ s.aborted = true ∨ Harmless s

theorem harmless_tryStreamhost (h : Streamhost) (s : State) : Harmless (tryStreamhost h s) := by
  left
  rw [(tryStreamhost_shows h s).1]
  rfl

theorem harmless_queryReceived (iq : ℕ) (nodes : List StreamhostNode) (s : State) :
    Harmless (queryReceived iq nodes s) := by
  rw [queryReceived, socks5Connect]
  split
  · exact harmless_tryStreamhost _ _
  · exact harmless_socks5Error _

/-- A connection that is made at last. -/
theorem Unaccepted.harmless_connected (hs : Unaccepted s) (hharmless : Harmless s)
    {t : Transport} (ht : s.transport = some t) (hphase : t.phase = .connected) :
    Harmless (Socks5.transportConnectedCb s) := by
  have hstopped : Harmless (stopTimer s) := hharmless
  rw [Socks5.transportConnectedCb]
  dsimp only
  split
  case isFalse => exact hstopped
  case isTrue htrying =>
    have htarget : (stopTimer s).socks5State = .targetTryingConnect := by
      rcases hharmless with h | h | h | h
      · cases hstate : s.socks5State with
        | targetTryingConnect => exact hstate
        | _ => simp_all [stopTimer, Socks5State.isTarget]
      · simp [stopTimer, h] at htrying
      · simp [stopTimer, h] at htrying
      · rw [h.1] at ht
        cases ht
    cases hfate : fate (stopTimer s) with
    | closed => exact absurd hfate (Unaccepted.fate_ne_closed (s := stopTimer s) (hs.same rfl))
    | kept =>
      left
      rw [write_kept (s := stopTimer s) ht hphase hfate (List.cons_ne_nil _ _)]
      have hstate : (wrote [5, 1, 0] t (stopTimer s)).socks5State = .targetTryingConnect :=
        htarget
      dsimp only
      rw [if_pos hstate]
      rfl
    | broken =>
      rcases write_broken_target (s := stopTimer s) (by rw [htarget]; rfl) ht hphase hfate
        [5, 1, 0] with ⟨hstate, -⟩ | hgone
      · left
        dsimp only
        rw [if_pos hstate]
        rfl
      · exact .inr (.inr (.inr hgone))

theorem Before.harmless_of_live (hs : Before s) (halive : s.disposeHasRun = false)
    (hrunning : s.aborted = false) : Harmless s := by
  rcases hs.harmless with h | h | h
  · rw [halive] at h
    cases h
  · rw [hrunning] at h
    cases h
  · exact h

/-- An event that is not a read: the user accepts the stream, or it goes on as before. -/
theorem Before.other (hs : Before s) (hstep : Socks5.step sha1Hex s e = some s')
    (hother : ∀ data, e ≠ .received data) : s'.bytestreamState = .accepted ∨ Before s' := by
  have hsound := sound_step hs.sound hstep
  obtain ⟨halive, hrunning, henabled, rfl⟩ := step_live hstep
  have hun := hs.unaccepted
  have hharmless := hs.harmless_of_live halive hrunning
  have hnot : s.bytestreamState ≠ .opened := by rcases hun.state with h | h <;> simp [h]
  have hkeep : Unaccepted (handle sha1Hex s e) → Harmless (handle sha1Hex s e) →
      Before (handle sha1Hex s e) := fun hu hh => ⟨hu, hsound, .inr (.inr hh)⟩
  have hmap : ∀ f : Transport → Transport, Unaccepted { s with transport := s.transport.map f } ∧
      Harmless { s with transport := s.transport.map f } := by
    refine fun f => ⟨hun.same rfl, hharmless.imp_right fun h => h.imp_right fun h => ?_⟩
    exact h.imp_right fun hgone => ⟨by simp [hgone.1], hgone.2⟩
  cases e with
  | initiate ips port proxies =>
    right
    have hsame : handle sha1Hex s (.initiate ips port proxies) = s := by
      dsimp only [handle, initiate]
      rw [if_pos hun.passive.state]
    rw [hsame]
    exact hs
  | accept sent =>
    dsimp only [handle, accept] at hkeep ⊢
    split
    · exact .inr hs
    split
    · left
      rw [setState_eq]
    · exact .inr hs
  | send str =>
    right
    have hsame : handle sha1Hex s (.send str) = s := by
      dsimp only [handle, send]
      rw [if_pos hnot]
    rw [hsame]
    exact hs
  | close error =>
    exact .inr (hkeep (hun.close error) (hharmless.silent (silent_close error s)))
  | blockReading block =>
    right
    refine hkeep (hun.blockReading block) ?_
    have hflag : Harmless { s with readBlocked := block } := hharmless
    change Harmless (blockReading block s)
    rw [blockReading]
    split
    · exact hharmless
    dsimp only
    split
    · exact hflag.silent (silent_blockReceiving block _)
    · exact hflag
  | query iq nodes =>
    exact .inr (hkeep (hun.queryReceived iq nodes) (harmless_queryReceived iq nodes s))
  | initReply | activationReply | newConnection => cases hun.passive.not_initiator henabled
  | transportConnected =>
    obtain ⟨t, ht, -⟩ := (Option.any_eq_true _ _).mp henabled
    have hmade := hmap fun t => { t with phase := .connected }
    have ht' : (s.transport.map fun t => { t with phase := .connected }) =
        some { t with phase := .connected } := by
      rw [ht, Option.map_some]
    exact .inr (hkeep hmade.1.transportConnectedCb (hmade.1.harmless_connected hmade.2 ht' rfl))
  | transportDisconnected =>
    have hlost := hmap fun t => { t with phase := .disconnected, bufferEmpty := true }
    exact .inr (hkeep hlost.1.transportDisconnectedCb (harmless_socks5Error _))
  | transportBufferEmpty =>
    have hempty := hmap fun t => { t with bufferEmpty := true }
    exact .inr (hkeep hempty.1.transportBufferEmptyCb
      (hempty.2.silent (silent_transportBufferEmptyCb _)))
  | received data => exact absurd rfl (hother data)
  | timeout => exact .inr (hkeep hun.socks5Error (harmless_socks5Error s))
  | dispose => exact .inr ⟨hun.dispose, hsound, .inl (dispose_disposeHasRun s)⟩

/-- An event before the stream is accepted. -/
theorem Before.step (hs : Before s) (hstep : Socks5.step sha1Hex s e = some s') :
    (s'.bytestreamState = .accepted ∧ ¬ completes s e = true) ∨
      (Before s' ∧ ¬ completes s e = true) ∨
      ((∃ e ∈ s'.out, e.isUse = true) ∧ ¬ s'.bytestreamState = .accepted ∧
        completes s e = true) := by
  have hgoes : completes s e = false → s'.bytestreamState = .accepted ∨ Before s' →
      (s'.bytestreamState = .accepted ∧ ¬ completes s e = true) ∨
        (Before s' ∧ ¬ completes s e = true) ∨
        ((∃ e ∈ s'.out, e.isUse = true) ∧ ¬ s'.bytestreamState = .accepted ∧
          completes s e = true) := by
    intro hno h
    have hno' : ¬ completes s e = true := by
      rw [hno]
      exact Bool.false_ne_true
    rcases h with h | h
    · exact .inl ⟨h, hno'⟩
    · exact .inr (.inl ⟨h, hno'⟩)
  cases e with
  | received data =>
    have hsound := sound_step hs.sound hstep
    obtain ⟨halive, hrunning, henabled, rfl⟩ := step_live hstep
    have hharmless := hs.harmless_of_live halive hrunning
    rw [enabled, Bool.and_eq_true] at henabled
    obtain ⟨hreceives, hread⟩ := henabled
    have hfacts : Facts s := hs.sound.resolve_left (by rw [halive]; exact Bool.false_ne_true)
    have hdata : data ≠ [] := by
      rintro rfl
      cases hread
    rcases @Unaccepted.received sha1Hex s hs.unaccepted hharmless hfacts hrunning hreceives data
      hdata with ⟨hquiet, hno⟩ | ⟨s₁, rest, hs₁, hawaits, hsettled, hiff⟩
    · exact hgoes hno (.inr ⟨hquiet.1, hsound, .inr hquiet.2⟩)
    · cases hyes : (connectReply rest).isAccepted with
      | false =>
        have hquiet := @Unaccepted.uneventful_settled sha1Hex s₁ hs₁ hawaits rest hyes
        rw [← hsettled] at hquiet
        exact hgoes (hiff.trans hyes) (.inr ⟨hquiet.1, hsound, .inr hquiet.2⟩)
      | true =>
        obtain ⟨huse, hopened⟩ := @Unaccepted.opens_settled sha1Hex s₁ hs₁ hawaits rest hyes
        rw [← hsettled] at huse hopened
        refine .inr (.inr ⟨huse, ?_, hiff.trans hyes⟩)
        change ¬ (transportHandler sha1Hex data s).bytestreamState = .accepted
        rw [hopened]
        decide
  | _ => exact hgoes rfl (hs.other hstep (by rintro _ ⟨⟩))

end

/-! ## Both kinds of bytestreams -/

section

variable {sha1Hex : Bytes → Bytes} {streamId peerJid selfFullJid : Bytes} {mucContact : Bool}
  {writes : List Written}

theorem before_new :
    Before (State.new streamId peerJid selfFullJid mucContact .localPending writes) :=
  ⟨unaccepted_new, .inr (facts_of_idle rfl rfl rfl nofun), .inr (.inr (.inr (.inl rfl)))⟩

theorem Before.not_used {s : State} (hs : Before s) :
    ¬ (∃ e ∈ s.out, e.isUse = true) ∧ ¬ s.bytestreamState = .accepted := by
  constructor
  · rintro ⟨e, he, huse⟩
    rw [hs.unaccepted.out e he] at huse
    cases huse
  · rcases hs.unaccepted.state with h | h <;> simp [h]

/-- **Streams that a peer has asked for.**  An in-band stream is never used before it was
accepted.  A SOCKS5 stream is not exactly if no streamhost completes the negotiation
before. -/
theorem acceptedFirst_iff (blockSize : ℕ+) {ibbEvents : List Ibb.Event} {ibb : Ibb.State}
    (hibb : run Ibb.openStep (Ibb.State.new blockSize .localPending) ibbEvents = some ibb)
    {es : List Event} {s : State}
    (hrun : run (step sha1Hex)
      (State.new streamId peerJid selfFullJid mucContact .localPending writes) es = some s) :
    Ibb.AcceptedFirst (Ibb.State.new blockSize .localPending) ibbEvents ∧
      (AcceptedFirst sha1Hex
          (State.new streamId peerJid selfFullJid mucContact .localPending writes) es ↔
        CompletesAfter sha1Hex
          (State.new streamId peerJid selfFullJid mucContact .localPending writes) es) :=
  ⟨Ibb.acceptedFirst blockSize hibb,
    @forall_visited_iff _ _ (step sha1Hex) _ s Before (fun s => ∃ e ∈ s.out, e.isUse = true)
      (fun s => s.bytestreamState = .accepted) (fun s e => completes s e = true)
      (fun _ hs => hs.not_used) (fun _ _ _ hs hstep => hs.step hstep) es before_new hrun⟩

/-- A stream that is accepted first is. -/
theorem completesAfter_accept (es : List Event) :
    CompletesAfter sha1Hex
      (State.new streamId peerJid selfFullJid mucContact .localPending writes)
      (.accept true :: es) := by
  rintro (_ | ⟨e₁, es₁⟩) e es₂ s hsplit hrun hcompletes
  · rw [List.nil_append, List.cons.injEq] at hsplit
    rw [← hsplit.1] at hcompletes
    cases hcompletes
  · rw [List.cons_append, List.cons.injEq] at hsplit
    obtain ⟨rfl, -⟩ := hsplit
    obtain ⟨s₁, hs₁, -⟩ := Option.bind_eq_some_iff.mp hrun
    refine ⟨s₁, ?_, ?_⟩
    · rw [trace, hs₁]
      exact List.mem_cons_of_mem _ (mem_trace_self es₁)
    · cases hs₁
      rfl

end

/-- The streamhost completes the negotiation. -/
def opening : List Event := [.received [5, 0], .received streamhostReply]

theorem acceptedFirst_iff_toStreamhost :
    ∃ s, run (step sampleSha1Hex) sampleTarget (toStreamhost ++ opening) = some s ∧
      s.bytestreamState = .opened ∧
        Ibb.AcceptedFirst (Ibb.State.new 4096 .localPending) [.openReceived none, .accept true] ∧
          AcceptedFirst sampleSha1Hex sampleTarget (toStreamhost ++ opening) := by
  have hrun : (run (step sampleSha1Hex) sampleTarget (toStreamhost ++ opening)).any
      (fun s => s.bytestreamState = .opened) = true := by decide +kernel
  obtain ⟨s, hs, hopened⟩ := (Option.any_eq_true _ _).mp hrun
  have hfirst := @acceptedFirst_iff sampleSha1Hex (ascii "s5") (ascii "d@e/f") (ascii "a@b/c") false
    [] 4096 [.openReceived none, .accept true] _ rfl (toStreamhost ++ opening) s hs
  exact ⟨s, hs, of_decide_eq_true hopened, hfirst.1, hfirst.2.mpr (completesAfter_accept _)⟩

/-- The peer sends its query when the user has not accepted the stream yet, and its
streamhost completes the negotiation. -/
theorem opened_unaccepted :
    ∃ s, run (step sampleSha1Hex) sampleTarget (toStreamhost.tail ++ opening) = some s ∧
      ¬ AcceptedFirst sampleSha1Hex sampleTarget (toStreamhost.tail ++ opening) := by
  have hrun : (run (step sampleSha1Hex) sampleTarget (toStreamhost.tail ++ opening)).any
      (fun s => Effect.stateChanged .opened ∈ s.out) = true := by decide +kernel
  obtain ⟨s, hs, hopened⟩ := (Option.any_eq_true _ _).mp hrun
  refine ⟨s, hs, fun hfirst => ?_⟩
  have hnever : ¬ ∃ t ∈ trace (step sampleSha1Hex) sampleTarget (toStreamhost.tail ++ opening),
      t.bytestreamState = .accepted := by decide +kernel
  exact hnever (hfirst _ [] s (List.append_nil _).symm hs ⟨_, of_decide_eq_true hopened, rfl⟩)

end Socks5
