/-
# In-band bytestreams: closing

A stream that is closed while data waits in the write buffer stays in the state
`closing` until the acknowledgements have flushed the buffer.  The module says
what the calls that can close a stream leave of the sending side, and that a
closing stream always waits for an answer and is closed after as many of them as
it has bytes to send.  All of it rests on a condition: no data stanza is refused
while the write buffer holds data.
-/
import Gabble.BytestreamIbbSend

namespace Ibb

open Base64 Transition
open CInt (guintSize)

variable {s s' : State}

/-! ## The sending side -/

/-- Two states with the same sending side. -/
structure SameWire (s s' : State) : Prop where
  writeBuffer : s'.writeBuffer = s.writeBuffer
  sent : s'.sentStanzasNotAcked = s.sentStanzasNotAcked
  data : dataStanzas s'.out = dataStanzas s.out

theorem SameWire.refl (s : State) : SameWire s s := ⟨rfl, rfl, rfl⟩

theorem SameWire.trans {s s' s'' : State} (h : SameWire s s') (h' : SameWire s' s'') :
    SameWire s s'' :=
  ⟨h'.writeBuffer.trans h.writeBuffer, h'.sent.trans h.sent, h'.data.trans h.data⟩

section

variable (s)

theorem emit_wire {effects : List Effect} (h : dataStanzas effects = []) :
    SameWire s (emit s effects) := by
  refine ⟨rfl, rfl, ?_⟩
  show dataStanzas (s.out ++ effects) = _
  rw [dataStanzas_append, h, List.append_nil]

theorem setState_wire (state : BytestreamState) : SameWire s (setState s state) :=
  ⟨(setState_writeBuffer s state).1, (setState_writeBuffer s state).2,
    dataStanzas_setState s state⟩

theorem setState_state (state : BytestreamState) :
    (setState s state).state = state := by
  unfold setState
  split
  · next h => exact h
  · rfl

theorem sendCloseStanza_wire : SameWire s (sendCloseStanza s) := by
  unfold sendCloseStanza
  split
  · exact (⟨rfl, rfl, rfl⟩ : SameWire s { s with closeIqToAck := none }).trans (emit_wire _ rfl)
  · exact emit_wire s rfl

/-- The answers to the received stanzas are no data stanzas. -/
theorem answerAll_wire {answer : ℕ → Effect}
    (h : ∀ ids : List ℕ, dataStanzas (ids.map answer) = []) : SameWire s (answerAll s answer) :=
  (⟨rfl, rfl, rfl⟩ : SameWire s { s with receivedStanzasNotAcked := [] }).trans
    (emit_wire _ (h _))

end

theorem dataStanzas_iqErrors (error : GError) (ids : List ℕ) :
    dataStanzas (ids.map fun id => .iqError (.data id) error) = [] := by
  induction ids with
  | nil => rfl
  | cons id ids ih => exact ih

theorem dataStanzas_acknowledges (ids : List ℕ) :
    dataStanzas (ids.map fun id => .acknowledge (.data id)) = [] := by
  induction ids with
  | nil => rfl
  | cons id ids ih => exact ih

/-- The state `gabble_bytestream_ibb_close` leads to. -/
def closeState (s : State) : BytestreamState :=
  if s.state = .closed ∨ s.state = .localPending ∨ s.writeBuffer = none then .closed
  else .closing

section

variable (s)

theorem close_wire (error : Option GError) : SameWire s (close s error) := by
  have hanswer : SameWire s (answerAll s fun id => .iqError (.data id) ⟨.itemNotFound, none⟩) :=
    answerAll_wire s (dataStanzas_iqErrors _)
  unfold close
  split
  · exact .refl s
  · refine hanswer.trans ?_
    dsimp only
    split
    · exact (emit_wire _ rfl).trans (setState_wire _ _)
    · split
      · exact setState_wire _ _
      · exact (sendCloseStanza_wire _).trans (setState_wire _ _)

theorem close_state (error : Option GError) :
    (close s error).state = closeState s := by
  unfold close closeState
  split
  · next h => rw [if_pos (.inl h), h]
  · next h =>
    dsimp only
    split
    · next hpending => rw [decline, setState_state, if_pos (.inr (.inl hpending))]
    · next hpending =>
      split
      · next buffer hbuffer =>
        rw [setState_state, if_neg]
        rintro (hc | hp | hn)
        · exact h hc
        · exact hpending hp
        · cases hbuffer.symm.trans hn
      · next hnone => rw [setState_state, if_pos (.inr (.inr hnone))]

theorem answer_wire (isIq : Bool) {effect : Effect}
    (h : dataStanzas [effect] = []) : SameWire s (answer s isIq effect) := by
  unfold answer
  split
  · exact emit_wire s h
  · exact .refl s

theorem answer_state (isIq : Bool) (effect : Effect) :
    (answer s isIq effect).state = s.state := by
  unfold answer
  split <;> rfl

theorem receive_wire (id : ℕ) (content : Text) (isIq : Bool) :
    SameWire s (receive s id content isIq) := by
  unfold receive
  split
  · exact answer_wire s isIq rfl
  · dsimp only
    split
    · split
      · exact (answer_wire s isIq rfl).trans (close_wire _ _)
      · exact ⟨rfl, rfl, rfl⟩
    · exact (emit_wire s rfl).trans (answer_wire _ isIq rfl)

/-- Only a full read buffer changes the state: the stream is closed. -/
theorem receive_state (id : ℕ) (content : Text) (isIq : Bool) :
    (receive s id content isIq).state = s.state ∨
      (receive s id content isIq).state = closeState s := by
  unfold receive
  split
  · exact .inl (answer_state s isIq _)
  · dsimp only
    split
    · split
      · right
        rw [close_state, closeState, closeState, answer_state, (answer_wire s isIq rfl).writeBuffer]
      · exact .inl rfl
    · exact .inl (answer_state _ isIq _)

theorem blockReading_wire (block : Bool) :
    SameWire s (blockReading s block) ∧ (blockReading s block).state = s.state := by
  unfold blockReading
  split
  · exact ⟨.refl s, rfl⟩
  · dsimp only
    split
    · refine ⟨?_, rfl⟩
      exact (⟨rfl, rfl, rfl⟩ : SameWire s
        { s with readBlocked := false, readBuffer := none }).trans
        ((emit_wire _ rfl).trans (answerAll_wire _ dataStanzas_acknowledges))
    · exact ⟨⟨rfl, rfl, rfl⟩, rfl⟩

end

/-! ## The invariant -/

/-- Data waits only in an open or a closing stream, and a closing stream has
data that waits. -/
structure Closes (s : State) : Prop where
  windowed : Windowed s
  buffering : s.writeBuffer ≠ none → s.state = .opened ∨ s.state = .closing
  waiting : s.state = .closing → s.writeBuffer ≠ none

theorem Closes.new (b : ℕ+) {state : BytestreamState} (hstate : state ≠ .closing) :
    Closes (State.new b state) where
  windowed := .of_none (Nat.zero_le _) rfl
  buffering := fun h => absurd rfl h
  waiting := fun h => absurd h hstate

theorem Windowed.of_wire (h : Windowed s) (hwire : SameWire s s') :
    Windowed s' where
  window := hwire.sent ▸ h.window
  full := by
    rw [hwire.writeBuffer, hwire.sent]
    exact h.full

theorem Closes.of_same (h : Closes s) (hwire : SameWire s s')
    (hstate : s'.state = s.state) : Closes s' where
  windowed := h.windowed.of_wire hwire
  buffering := by
    rw [hwire.writeBuffer, hstate]
    exact h.buffering
  waiting := by
    rw [hwire.writeBuffer, hstate]
    exact h.waiting

theorem Closes.of_close (h : Closes s) (hwire : SameWire s s')
    (hstate : s'.state = closeState s) : Closes s' where
  windowed := h.windowed.of_wire hwire
  buffering := by
    rw [hwire.writeBuffer, hstate, closeState]
    intro hbuffer
    rw [if_neg]
    · exact .inr rfl
    · rcases h.buffering hbuffer with hopen | hclosing
      · simp [hopen, hbuffer]
      · simp [hclosing, hbuffer]
  waiting := by
    rw [hwire.writeBuffer, hstate, closeState]
    split
    · intro hclosing
      cases hclosing
    · next hnone => exact fun _ hn => hnone (.inr (.inr hn))

theorem Closes.of_none {s : State} (hwin : s.sentStanzasNotAcked.length ≤ windowSize)
    (hnone : s.writeBuffer = none) (hstate : s.state ≠ .closing) : Closes s where
  windowed := .of_none hwin hnone
  buffering := fun h => absurd hnone h
  waiting := fun h => absurd h hstate

theorem Closes.none_of_closed {s : State} (h : Closes s) (hclosed : s.state = .closed) :
    s.writeBuffer = none := by
  by_contra hne
  rcases h.buffering hne with hopen | hclosing
  · cases hclosed.symm.trans hopen
  · cases hclosed.symm.trans hclosing

theorem Closes.unsent_ne_nil {s : State} (h : Closes s) (hclosing : s.state = .closing) :
    s.unsent ≠ [] ∧ s.sentStanzasNotAcked ≠ [] := by
  rcases hbuffer : s.writeBuffer with - | buffer
  · exact absurd hbuffer (h.waiting hclosing)
  · obtain ⟨hne, hfull⟩ := h.windowed.full buffer hbuffer
    refine ⟨by rwa [unsent_of_some hbuffer], fun hnil => ?_⟩
    rw [hnil] at hfull
    exact absurd hfull (by decide)

theorem Closes.send {s : State} (h : Closes s) (str : Bytes) : Closes (send s str).1 := by
  have hwin := h.windowed.send str
  have hsame := sendData_same s str str.length
  rcases send_cases s str with ⟨-, heq⟩ | ⟨hopen, buffer, -, heq⟩ | ⟨hopen, -, -, -, heq⟩ |
    ⟨hopen, hnone, -, heq⟩
  · rw [heq]
    exact h
  · rw [heq] at hwin ⊢
    exact ⟨hwin, fun _ => .inl hopen, fun hc => by cases hopen.symm.trans hc⟩
  · obtain ⟨-, -, hstate, -, -⟩ := changeWriteBlockedState_window
      { (sendData s str str.length).1 with
        writeBuffer := some (str.drop (sendData s str str.length).2) } true
    have hopen' := hstate.trans (hsame.state.trans hopen)
    rw [heq] at hwin ⊢
    exact ⟨hwin, fun _ => .inl hopen', fun hc => by cases hopen'.symm.trans hc⟩
  · rw [heq] at hwin ⊢
    have hopen' := hsame.state.trans hopen
    exact ⟨hwin, fun _ => .inl hopen', fun hc => by cases hopen'.symm.trans hc⟩

/-- An acknowledgement: without a write buffer nothing happens to the state, a
flushed buffer closes a closing stream, and otherwise the buffer gets shorter. -/
theorem acked_cases {s : State} {stanza : ℕ} (h : Closes s)
    (hmem : stanza ∈ s.sentStanzasNotAcked) (hcut : ¬ s.FlushCut) :
    (s.writeBuffer = none ∧ iqReplyCb s stanza true = removeSent s stanza) ∨
    (s.writeBuffer ≠ none ∧ (iqReplyCb s stanza true).writeBuffer = none ∧
      (iqReplyCb s stanza true).state = if s.state = .closing then .closed else s.state) ∨
    (s.writeBuffer ≠ none ∧ (iqReplyCb s stanza true).writeBuffer ≠ none ∧
      (iqReplyCb s stanza true).state = s.state ∧
      (iqReplyCb s stanza true).unsent.length < s.unsent.length) := by
  rcases iqReplyCb_acked s stanza with hleft | ⟨buffer, hbuffer, heq⟩
  · exact .inl hleft
  · right
    have hne : s.writeBuffer ≠ none := fun hn => by cases hbuffer.symm.trans hn
    have hsame := sendData_same (removeSent s stanza) buffer (buffer.length % guintSize)
    rw [heq]
    rcases flushWriteBuffer_cases (removeSent s stanza) buffer with
      ⟨-, hopen, hflush⟩ | ⟨-, hclosing, hflush⟩ | ⟨hlt, hflush⟩
    · obtain ⟨-, hwb, hstate, -, -⟩ := changeWriteBlockedState_window
        { (sendData (removeSent s stanza) buffer (buffer.length % guintSize)).1 with
          writeBuffer := none } false
      refine .inl ⟨hne, ?_, ?_⟩
      · rw [hflush]
        exact hwb
      · rw [hflush, if_neg (show ¬ s.state = .closing from hopen)]
        exact hstate.trans hsame.state
    · refine .inl ⟨hne, ?_, ?_⟩
      · rw [hflush, (setState_wire _ _).writeBuffer, (sendCloseStanza_wire _).writeBuffer]
        exact (changeWriteBlockedState_window _ _).2.1
      · rw [hflush, setState_state, if_pos (show s.state = .closing from hclosing)]
    · right
      -- with room for a stanza and a length that is not cut, some data goes out
      have hpos : 0 < (sendData (removeSent s stanza) buffer (buffer.length % guintSize)).2 := by
        refine (sendData_progress buffer (Nat.pos_of_ne_zero fun hmod =>
          hcut ⟨buffer, hbuffer, hmod⟩) ?_).2
        show (s.sentStanzasNotAcked.erase stanza).length < windowSize
        rw [List.length_erase_of_mem hmem]
        have := List.length_pos_of_mem hmem
        have := h.windowed.window
        omega
      rw [hflush, unsent_of_some hbuffer, unsent_of_some rfl, List.length_drop]
      exact ⟨hne, by simp, hsame.state, by omega⟩

theorem Closes.acked {s : State} {stanza : ℕ} (h : Closes s)
    (hmem : stanza ∈ s.sentStanzasNotAcked) (hcut : ¬ s.FlushCut) :
    Closes (iqReplyCb s stanza true) := by
  have hwin := h.windowed.acked hmem hcut
  rcases acked_cases h hmem hcut with ⟨hnone, heq⟩ | ⟨-, hnone', hstate⟩ | ⟨hne, hne', hstate, -⟩
  · rw [heq] at hwin ⊢
    exact .of_none hwin.window hnone fun hc => h.waiting hc hnone
  · refine .of_none hwin.window hnone' ?_
    rw [hstate]
    split
    · intro hc
      cases hc
    · next hc => exact hc
  · exact ⟨hwin, fun _ => hstate ▸ h.buffering hne, fun _ => hne'⟩

/-- A refused stanza closes a stream without a write buffer. -/
theorem refused_of_none {s : State} (stanza : ℕ) (hnone : s.writeBuffer = none) :
    (iqReplyCb s stanza false).state = .closed ∧
      (iqReplyCb s stanza false).writeBuffer = none ∧
      dataStanzas (iqReplyCb s stanza false).out = dataStanzas s.out := by
  have hwire := close_wire (removeSent s stanza) none
  refine ⟨?_, hwire.writeBuffer.trans hnone, hwire.data⟩
  exact (close_state _ none).trans (if_pos (.inr (.inr hnone)))

/-- Traffic in which no acknowledgement finds the length of the write buffer cut
to zero and no stanza is refused while data waits. -/
def Undisturbed (s : State) (e : Event) : Prop :=
  e.isTraffic = true ∧ ¬ (e.isAck = true ∧ s.FlushCut) ∧
    (e.isError = true → s.writeBuffer = none)

instance (s : State) (e : Event) : Decidable (Undisturbed s e) :=
  inferInstanceAs (Decidable (_ ∧ _ ∧ (_ → _)))

/-- What a step of the traffic does to the sending side. -/
theorem traffic_cases {e : Event} (hok : Undisturbed s e) (hs : step s e = some s') :
    (∃ str, e = .send str ∧ s' = (send s str).1) ∨
    (∃ stanza, stanza ∈ s.sentStanzasNotAcked ∧ ¬ s.FlushCut ∧ e = .ack stanza ∧
      s' = iqReplyCb s stanza true) ∨
    (∃ stanza, s.writeBuffer = none ∧ s' = iqReplyCb s stanza false) ∨
    (e.isAck = false ∧ SameWire s s' ∧ (s'.state = s.state ∨ s'.state = closeState s)) := by
  obtain ⟨hkind, hcut, hnone⟩ := hok
  cases step_traffic hkind hs with
  | send str => exact .inl ⟨str, rfl, rfl⟩
  | acked stanza hmem => exact .inr (.inl ⟨stanza, hmem, fun hc => hcut ⟨rfl, hc⟩, rfl, rfl⟩)
  | refused stanza => exact .inr (.inr (.inl ⟨stanza, hnone rfl, rfl⟩))
  | close error =>
    exact .inr (.inr (.inr ⟨rfl, close_wire s error, .inr (close_state s error)⟩))
  | closeReceived iq =>
    refine .inr (.inr (.inr ⟨rfl, ?_, .inr (close_state _ none)⟩))
    exact (⟨rfl, rfl, rfl⟩ : SameWire s { s with closeIqToAck := some iq }).trans
      (close_wire _ none)
  | receive id content isIq =>
    exact .inr (.inr (.inr ⟨rfl, receive_wire s id content isIq,
      receive_state s id content isIq⟩))
  | blockReading block =>
    obtain ⟨hwire, hstate⟩ := blockReading_wire s block
    exact .inr (.inr (.inr ⟨rfl, hwire, .inl hstate⟩))

theorem step_error {stanza : ℕ} (hs : step s (.error stanza) = some s') :
    s' = iqReplyCb s stanza false := by
  cases step_traffic rfl hs
  rfl

theorem Closes.step {e : Event} (h : Closes s) (hok : Undisturbed s e)
    (hs : step s e = some s') : Closes s' := by
  rcases traffic_cases hok hs with ⟨str, -, rfl⟩ | ⟨stanza, hmem, hcut, -, rfl⟩ |
    ⟨stanza, hnone, rfl⟩ | ⟨-, hwire, hstate | hstate⟩
  · exact h.send str
  · exact h.acked hmem hcut
  · obtain ⟨hclosed, hnone', -⟩ := refused_of_none stanza hnone
    refine .of_none ?_ hnone' (by rw [hclosed]; decide)
    have hsent := (close_wire (removeSent s stanza) none).sent
    show (close (removeSent s stanza) none).sentStanzasNotAcked.length ≤ windowSize
    rw [hsent]
    exact List.length_erase_le.trans h.windowed.window
  · exact h.of_same hwire hstate
  · exact h.of_close hwire hstate

/-! ## No data after a refusal -/

/-- A closed stream without a write buffer: it stays so and sends nothing. -/
theorem closed_step {e : Event} (hclosed : s.state = .closed)
    (hnone : s.writeBuffer = none) (hok : Undisturbed s e) (hs : step s e = some s') :
    s'.state = .closed ∧ s'.writeBuffer = none ∧ dataStanzas s'.out = dataStanzas s.out := by
  rcases traffic_cases hok hs with ⟨str, -, rfl⟩ | ⟨stanza, -, -, -, rfl⟩ | ⟨stanza, -, rfl⟩ |
    ⟨-, hwire, hstate⟩
  · have heq : send s str = (s, false) := if_pos (by rw [hclosed]; decide)
    rw [heq]
    exact ⟨hclosed, hnone, rfl⟩
  · rcases iqReplyCb_acked s stanza with ⟨-, heq⟩ | ⟨buffer, hbuffer, -⟩
    · rw [heq]
      exact ⟨hclosed, hnone, rfl⟩
    · cases hnone.symm.trans hbuffer
  · exact refused_of_none stanza hnone
  · refine ⟨?_, hwire.writeBuffer.trans hnone, hwire.data⟩
    rcases hstate with hstate | hstate
    · rw [hstate, hclosed]
    · rw [hstate, closeState, if_pos (.inl hclosed)]

theorem closed_run (es : List Event) (hclosed : s.state = .closed)
    (hnone : s.writeBuffer = none) (hadm : Admits Undisturbed step s es)
    (hrun : run step s es = some s') :
    s'.state = .closed ∧ dataStanzas s'.out = dataStanzas s.out := by
  have hreach := reachable_of_run es hadm hrun
  have hinv := hreach.invariant (I := fun t => t.state = .closed ∧ t.writeBuffer = none ∧
    dataStanzas t.out = dataStanzas s.out) ⟨hclosed, hnone, rfl⟩ (by
      rintro t e t' ⟨ht, hn, hd⟩ hok hs
      obtain ⟨ht', hn', hd'⟩ := closed_step ht hn hok hs
      exact ⟨ht', hn', hd'.trans hd⟩)
  exact ⟨hinv.1, hinv.2.2⟩

/-! ## A closing stream gets closed -/

/-- How many acknowledgements a run has. -/
def acks (es : List Event) : ℕ := es.countP Event.isAck

/-- A step of a closing stream: it is closed, or the step was an
acknowledgement and made the write buffer shorter, or left it alone. -/
theorem closing_step {e : Event} (h : Closes s) (hclosing : s.state = .closing)
    (hok : Undisturbed s e) (hs : step s e = some s') :
    s'.state = .closed ∨
      (s'.state = .closing ∧ s'.unsent.length + acks [e] ≤ s.unsent.length) := by
  have hsome := h.waiting hclosing
  rcases traffic_cases hok hs with ⟨str, rfl, rfl⟩ | ⟨stanza, hmem, hcut, rfl, rfl⟩ |
    ⟨stanza, hnone, rfl⟩ | ⟨hack, hwire, hstate⟩
  · have heq : send s str = (s, false) := if_pos (by rw [hclosing]; decide)
    rw [heq]
    exact .inr ⟨hclosing, le_rfl⟩
  · rcases acked_cases h hmem hcut with ⟨hnone, -⟩ | ⟨-, -, hstate⟩ | ⟨-, -, hstate, hlt⟩
    · exact absurd hnone hsome
    · rw [if_pos hclosing] at hstate
      exact .inl hstate
    · exact .inr ⟨hstate.trans hclosing, hlt⟩
  · exact absurd hnone hsome
  · have hclosing' : s'.state = .closing := by
      rcases hstate with hstate | hstate
      · rw [hstate, hclosing]
      · rw [hstate, closeState, if_neg (by simp [hclosing, hsome])]
    refine .inr ⟨hclosing', ?_⟩
    rw [State.unsent, State.unsent, hwire.writeBuffer, acks, List.countP_singleton, hack]
    exact le_rfl

/-- While it is not closed, a closing stream has as many bytes less to send as
acknowledgements have come. -/
theorem closing_run (es : List Event) (h : Closes s)
    (hclosing : s.state = .closing) (hadm : Admits Undisturbed step s es)
    (hrun : run step s es = some s') :
    s'.state = .closed ∨ (Closes s' ∧ s'.state = .closing ∧
      s'.unsent.length + acks es ≤ s.unsent.length) := by
  induction es generalizing s with
  | nil =>
    cases hrun
    exact .inr ⟨h, hclosing, le_rfl⟩
  | cons e es ih =>
    obtain ⟨hok, hrest⟩ := hadm
    obtain ⟨s₁, hs₁, hrun'⟩ := Option.bind_eq_some_iff.mp hrun
    have h₁ := h.step hok hs₁
    have hacks : acks (e :: es) = acks [e] + acks es := by
      rw [acks, ← List.singleton_append, List.countP_append]
      rfl
    rcases closing_step h hclosing hok hs₁ with hclosed | ⟨hclosing₁, hle⟩
    · exact .inl (closed_run es hclosed (h₁.none_of_closed hclosed) (hrest s₁ hs₁) hrun').1
    · rcases ih h₁ hclosing₁ (hrest s₁ hs₁) hrun' with hclosed | ⟨h', hclosing', hle'⟩
      · exact .inl hclosed
      · exact .inr ⟨h', hclosing', by omega⟩

/-- What a stream promises of refused stanzas and of closing: nothing is sent
after a refusal, and while it is closing some stanza waits for its answer and as
many acknowledgements as there are bytes left close it. -/
structure ClosesCleanly (ok : State → Event → Prop) (s₀ : State) : Prop where
  no_data_after_refusal : ∀ es₁ stanza es₂ s₁ s₂,
    Admits ok step s₀ (es₁ ++ .error stanza :: es₂) → run step s₀ es₁ = some s₁ →
    run step s₁ (.error stanza :: es₂) = some s₂ → dataStanzas s₂.out = dataStanzas s₁.out
  closing_ends : ∀ s, Reachable step ok s₀ s → s.state = .closing →
    s.sentStanzasNotAcked ≠ [] ∧ ∀ es s', Admits ok step s es → run step s es = some s' →
      s.unsent.length ≤ acks es → s'.state = .closed

/-- **A refused stream ends, and a closing one gets closed**, when no data
stanza is refused while data waits in the write buffer and no acknowledgement
finds the length of that buffer cut to zero. -/
theorem closes_cleanly (b : ℕ+) (state : BytestreamState) (hstate : state ≠ .closing) :
    ClosesCleanly Undisturbed (State.new b state) where
  no_data_after_refusal := by
    intro es₁ stanza es₂ s₁ s₂ hadm hrun₁ hrun₂
    obtain ⟨-, hok, hrest⟩ := admits_append hadm hrun₁
    obtain ⟨s', hs', hrun'⟩ := Option.bind_eq_some_iff.mp hrun₂
    obtain ⟨hclosed, hnone, hdata⟩ := refused_of_none stanza (hok.2.2 rfl)
    rw [← step_error hs'] at hclosed hnone hdata
    exact (closed_run es₂ hclosed hnone (hrest s' hs') hrun').2.trans hdata
  closing_ends := by
    intro s hreach hclosing
    have h : Closes s := hreach.invariant (Closes.new b hstate) fun _ _ _ h hok hs => h.step hok hs
    refine ⟨(h.unsent_ne_nil hclosing).2, ?_⟩
    intro es s' hadm hrun hacks
    rcases closing_run es h hclosing hadm hrun with hclosed | ⟨h', hclosing', hle⟩
    · exact hclosed
    · have hnil : s'.unsent = [] := List.length_eq_zero_iff.mp (by omega)
      exact absurd hnil (h'.unsent_ne_nil hclosing').1

/-- A stream that is closed while one byte waits. -/
def closeRun : List Event := [.send (List.replicate 11 7), .close none]

theorem closes_cleanly_closeRun :
    ∃ s s', run step (State.new 1 .opened) closeRun = some s ∧ s.state = .closing ∧
      run step s [.ack 4] = some s' ∧ s'.state = .closed :=
  ⟨_, _, rfl, rfl, rfl,
    ((closes_cleanly 1 .opened (by decide)).closing_ends _
      (reachable_of_run closeRun (by decide) rfl) rfl).2 [.ack 4] _ (by decide) rfl (by decide)⟩

/-- The events of a run with refusals. -/
def Event.isSending : Event → Bool
  | .send _ => true
  | .ack _ => true
  | .error _ => true
  | .close _ => true
  | _ => false

/-- Eleven blocks, of which the last one waits in the write buffer.  After the
refusal of stanza 0 the acknowledgement of stanza 1 sends the eleventh block;
and when all ten stanzas are refused, the stream stays closing with nothing
left to be answered. -/
theorem refused_stream_goes_on :
    (∃ s₁ s₂, run step (State.new 1 .opened) [.send (List.replicate 11 7)] = some s₁ ∧
      run step s₁ [.error 0, .ack 1] = some s₂ ∧
      dataStanzas s₂.out ≠ dataStanzas s₁.out) ∧
    (∃ s, run step (State.new 1 .opened)
        (.send (List.replicate 11 7) :: (List.range 10).map Event.error) = some s ∧
      s.state = .closing ∧ s.sentStanzasNotAcked = []) ∧
    ¬ ClosesCleanly (fun _ e => e.isSending = true) (State.new 1 .opened) := by
  refine ⟨⟨_, _, rfl, rfl, by decide⟩, ⟨_, rfl, rfl, rfl⟩, fun h => ?_⟩
  have hreach : Reachable step (fun _ e => e.isSending = true) (State.new 1 .opened) _ :=
    reachable_of_run (.send (List.replicate 11 7) :: (List.range 10).map Event.error)
      (by decide) rfl
  exact absurd rfl (h.closing_ends _ hreach rfl).1

end Ibb
