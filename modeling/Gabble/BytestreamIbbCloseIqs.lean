/-
# The close IQs of an in-band bytestream

A close IQ of the peer is answered when the stream is closed, which may have to wait for the
write buffer.  Until then it is kept in `close_iq_to_ack`, and there is room for one IQ.
This module follows the close IQs through every run: they are answered in the order in which
they come, unless one takes the place of another.
-/
import Gabble.BytestreamIbbClose

namespace Ibb

open Base64 Transition
open CInt (guintSize)

/-! ## Received and answered -/

/-- The close IQ that is acknowledged. -/
def Effect.closeAck : Effect → Option ℕ
  | .acknowledge (.close iq) => some iq
  | _ => none

/-- The close IQ that is received. -/
def Event.closeIq : Event → Option ℕ
  | .closeReceived iq => some iq
  | _ => none

/-- The close IQs that have been acknowledged. -/
def closesAcked (s : State) : List ℕ := s.out.filterMap Effect.closeAck

/-- They, and behind them the one that waits. -/
def closesTaken (s : State) : List ℕ := closesAcked s ++ s.closeIqToAck.toList

/-- Every close IQ of the events has been acknowledged once or still waits, and none waits any more
when the stream has been disposed of. -/
def ClosesAnswered (es : List Event) (s : State) : Prop :=
  closesTaken s = es.filterMap Event.closeIq ∧
    (es.getLast? = some .dispose → s.closeIqToAck = none)

/-- No close IQ comes while another one waits. -/
def OneAtATime (s : State) : Event → Prop
  | .closeReceived _ => s.closeIqToAck = none
  | _ => True

instance : ∀ s e, Decidable (OneAtATime s e)
  | s, .closeReceived _ => inferInstanceAs (Decidable (s.closeIqToAck = none))
  | _, .send _ | _, .ack _ | _, .error _ | _, .close _ | _, .receive _ _ _ | _, .blockReading _
  | _, .accept _ | _, .openReceived _ | _, .initiate _ | _, .initReply _ | _, .dispose =>
    .isTrue trivial

section

variable {s s' : State} {e : Event}

/-! ## What does not concern the close IQs -/

theorem taken_of_out {effects : List Effect} (hslot : s'.closeIqToAck = s.closeIqToAck)
    (hout : s'.out = s.out ++ effects) (hnone : effects.filterMap Effect.closeAck = []) :
    closesTaken s' = closesTaken s := by
  rw [closesTaken, closesTaken, closesAcked, closesAcked, hslot, hout, List.filterMap_append, hnone,
    List.append_nil]

theorem taken_of_eq (hslot : s'.closeIqToAck = s.closeIqToAck) (hout : s'.out = s.out) :
    closesTaken s' = closesTaken s := by
  rw [closesTaken, closesTaken, closesAcked, closesAcked, hslot, hout]

section

variable (s)

theorem taken_emit {effects : List Effect} (hnone : effects.filterMap Effect.closeAck = []) :
    closesTaken (emit s effects) = closesTaken s :=
  taken_of_out rfl rfl hnone

theorem taken_setState (state : BytestreamState) :
    closesTaken (setState s state) = closesTaken s := by
  rw [setState]
  split
  · rfl
  · exact @taken_of_out s _ [.stateChanged state] rfl rfl rfl

theorem taken_changeWriteBlockedState (blocked : Bool) :
    closesTaken (changeWriteBlockedState s blocked) = closesTaken s := by
  rw [changeWriteBlockedState]
  split
  · rfl
  · exact @taken_of_out s _ [.writeBlocked blocked] rfl rfl rfl

theorem taken_sendData (str : Bytes) (len : ℕ) :
    closesTaken (sendData s str len).1 = closesTaken s := by
  refine sendDataLoop_inv (I := fun s' _ => closesTaken s' = closesTaken s) ?_ windowSize rfl
  intro s' sent h _ _
  rw [← h]
  exact @taken_of_out s' _ [.data s'.nextStanza s'.seq (encode _)] rfl rfl rfl

theorem taken_send (str : Bytes) : closesTaken (send s str).1 = closesTaken s := by
  rcases send_cases s str with ⟨-, h⟩ | ⟨-, buffer, -, h⟩ | ⟨-, -, -, -, h⟩ | ⟨-, -, -, h⟩
  · rw [h]
  · rw [h]
    exact taken_of_eq rfl rfl
  · rw [h]
    exact ((taken_changeWriteBlockedState _ true).trans (taken_of_eq rfl rfl)).trans
      (taken_sendData s str str.length)
  · rw [h]
    exact taken_sendData s str str.length

theorem taken_answer (isIq : Bool) {effect : Effect} (hnone : effect.closeAck = none) :
    closesTaken (answer s isIq effect) = closesTaken s := by
  rw [answer]
  split
  · refine taken_emit s ?_
    rw [List.filterMap_cons, hnone]
    rfl
  · rfl

theorem taken_answerAll {answer : ℕ → Effect} (hnone : ∀ id, (answer id).closeAck = none) :
    closesTaken (answerAll s answer) = closesTaken s := by
  refine @taken_of_out s _ (s.receivedStanzasNotAcked.reverse.map answer) rfl rfl ?_
  refine List.filterMap_eq_nil_iff.mpr fun effect heffect => ?_
  obtain ⟨id, -, rfl⟩ := List.mem_map.mp heffect
  exact hnone id

end

/-! ## Answering -/

/-- **The answer** to the IQ that waits. -/
theorem taken_acknowledge {iq : ℕ} {rest : List Effect} (hwaits : s.closeIqToAck = some iq)
    (hslot : s'.closeIqToAck = none)
    (hout : s'.out = s.out ++ Effect.acknowledge (.close iq) :: rest)
    (hrest : rest.filterMap Effect.closeAck = []) : closesTaken s' = closesTaken s := by
  rw [closesTaken, closesTaken, closesAcked, closesAcked, hwaits, hslot, hout,
    List.filterMap_append, List.filterMap_cons, hrest]
  exact List.append_nil _

section

variable (s)

theorem taken_sendCloseStanza : closesTaken (sendCloseStanza s) = closesTaken s := by
  rw [sendCloseStanza]
  split
  case h_1 iq hwaits => exact @taken_acknowledge s _ iq [.close] hwaits rfl rfl rfl
  case h_2 => exact taken_emit s rfl

theorem taken_decline (error : Option GError) :
    closesTaken (decline s error) = closesTaken s :=
  (taken_setState _ _).trans (taken_emit s rfl)

theorem taken_close (error : Option GError) :
    closesTaken (close s error) = closesTaken s := by
  rw [close]
  split
  · rfl
  have hanswered := @taken_answerAll s (fun id => .iqError (.data id) ⟨.itemNotFound, none⟩)
    fun _ => rfl
  dsimp only
  generalize answerAll s _ = s₁ at hanswered
  rw [← hanswered]
  split
  · exact taken_decline s₁ error
  · split
    · exact taken_setState s₁ .closing
    · exact (taken_setState _ _).trans (taken_sendCloseStanza s₁)

theorem taken_flushWriteBuffer (buffer : Bytes) :
    closesTaken (flushWriteBuffer s buffer) = closesTaken s := by
  have hsent := taken_sendData s buffer (buffer.length % guintSize)
  rcases flushWriteBuffer_cases s buffer with ⟨-, -, h⟩ | ⟨-, -, h⟩ | ⟨-, h⟩
  · rw [h, taken_changeWriteBlockedState]
    exact (taken_of_eq rfl rfl).trans hsent
  · rw [h, taken_setState, taken_sendCloseStanza, taken_changeWriteBlockedState]
    exact (taken_of_eq rfl rfl).trans hsent
  · rw [h]
    exact (taken_of_eq rfl rfl).trans hsent

theorem taken_iqReplyCb (stanza : ℕ) (acked : Bool) :
    closesTaken (iqReplyCb s stanza acked) = closesTaken s := by
  have hremoved : closesTaken (removeSent s stanza) = closesTaken s := taken_of_eq rfl rfl
  cases acked with
  | true =>
    rcases iqReplyCb_acked s stanza with ⟨-, h⟩ | ⟨buffer, -, h⟩
    · rw [h]
      exact hremoved
    · rw [h]
      exact (taken_flushWriteBuffer _ buffer).trans hremoved
  | false => exact (taken_close _ none).trans hremoved

/-- What waits when the stream is disposed of is answered. -/
theorem taken_dispose (halive : s.disposeHasRun = false) :
    closesTaken (dispose s) = closesTaken s ∧ (dispose s).closeIqToAck = none := by
  rw [dispose, if_neg (by rw [halive]; exact Bool.false_ne_true)]
  have hclosed : closesTaken (if s.state ≠ .closed then close { s with disposeHasRun := true } none
      else { s with disposeHasRun := true }) = closesTaken s := by
    split
    · exact (taken_close _ none).trans (taken_of_eq rfl rfl)
    · exact taken_of_eq rfl rfl
  dsimp only
  generalize (if s.state ≠ .closed then _ else _) = s₁ at hclosed ⊢
  rw [← hclosed]
  split
  case h_1 iq hwaits => exact ⟨@taken_acknowledge s₁ _ iq [] hwaits rfl rfl rfl, rfl⟩
  case h_2 hnone => exact ⟨rfl, hnone⟩

end

/-! ## Every event -/

section

variable (s)

theorem taken_receive (id : ℕ) (content : Text) (isIq : Bool) :
    closesTaken (receive s id content isIq) = closesTaken s := by
  rw [receive]
  split
  · exact taken_answer s isIq rfl
  dsimp only
  split
  · split
    · exact (taken_close _ none).trans (taken_answer s isIq rfl)
    · exact taken_of_eq rfl rfl
  · exact (taken_answer _ isIq rfl).trans (taken_emit s rfl)

theorem taken_blockReading (block : Bool) :
    closesTaken (blockReading s block) = closesTaken s := by
  rw [blockReading]
  split
  · rfl
  dsimp only
  split
  case h_1 buffer _ _ =>
    rw [taken_answerAll _ fun _ => rfl, taken_emit _ rfl]
    exact taken_of_eq rfl rfl
  case h_2 => exact taken_of_eq rfl rfl

theorem taken_accept (sent : Bool) : closesTaken (accept s sent) = closesTaken s := by
  rw [accept]
  split
  · rfl
  split
  · exact (taken_setState _ _).trans (taken_emit s rfl)
  · rfl

theorem taken_openReceived (blockSize : Option ℕ) :
    closesTaken (openReceived s blockSize) = closesTaken s := by
  dsimp only [openReceived]
  rw [taken_setState]
  split
  · split
    · exact taken_of_eq rfl rfl
    · rfl
  · rfl

theorem taken_initiate (sent : Bool) :
    closesTaken (initiate s sent) = closesTaken s := by
  rw [initiate]
  split
  · rfl
  split
  · exact @taken_of_out s _ [.open_ s.blockSize] rfl rfl rfl
  · rfl

/-- A close IQ takes the place of one that waits. -/
theorem taken_closeReceived (iq : ℕ) :
    closesTaken (closeReceived s iq) = closesAcked s ++ [iq] :=
  taken_close _ none

end

/-- **The step lemma.**  Only a close IQ that is received is new. -/
theorem taken_step (hstep : step s e = some s') :
    closesTaken s' =
      if e.closeIq = none then closesTaken s else closesAcked s ++ e.closeIq.toList := by
  obtain ⟨halive, hdoes⟩ := step_does hstep
  cases hdoes with
  | traffic h =>
    cases h with
    | send str => exact taken_send s str
    | acked stanza => exact taken_iqReplyCb s stanza true
    | refused stanza => exact taken_iqReplyCb s stanza false
    | close error => exact taken_close s error
    | closeReceived iq => exact taken_closeReceived s iq
    | receive id content isIq => exact taken_receive s id content isIq
    | blockReading block => exact taken_blockReading s block
  | accept sent => exact taken_accept s sent
  | openReceived blockSize => exact taken_openReceived s blockSize
  | initiate sent => exact taken_initiate s sent
  | initReply success => exact (taken_setState _ _).trans (taken_of_eq rfl rfl)
  | dispose => exact (taken_dispose s halive).1

/-! ## Runs -/

/-- No run takes more close IQs than come. -/
theorem length_taken_run (es : List Event) (hrun : run step s es = some s') :
    (closesTaken s').length ≤ (closesTaken s).length + (es.filterMap Event.closeIq).length := by
  induction es generalizing s with
  | nil =>
    cases hrun
    exact le_rfl
  | cons e es ih =>
    obtain ⟨s₁, hstep, hrest⟩ := Option.bind_eq_some_iff.mp hrun
    have htaken := taken_step hstep
    have hle := ih hrest
    rw [htaken] at hle
    cases hiq : e.closeIq with
    | none =>
      rw [if_pos hiq] at hle
      rwa [List.filterMap_cons, hiq]
    | some iq =>
      have hacked : (closesAcked s).length ≤ (closesTaken s).length := by
        rw [closesTaken, List.length_append]
        omega
      rw [if_neg (by rw [hiq]; exact Option.some_ne_none iq), hiq, List.length_append] at hle
      rw [List.filterMap_cons, hiq]
      simp only [Option.toList_some, List.length_cons, List.length_nil] at hle ⊢
      omega

/-- **The run lemma.** -/
theorem taken_run_iff (es : List Event) (hrun : run step s es = some s') :
    closesTaken s' = closesTaken s ++ es.filterMap Event.closeIq ↔
      Admits OneAtATime step s es := by
  induction es generalizing s with
  | nil =>
    cases hrun
    exact iff_of_true (List.append_nil _).symm trivial
  | cons e es ih =>
    obtain ⟨s₁, hstep, hrest⟩ := Option.bind_eq_some_iff.mp hrun
    have htaken := taken_step hstep
    rw [admits_cons_iff hstep, ← ih hrest, htaken, List.filterMap_cons]
    cases hiq : e.closeIq with
    | none =>
      have hok : OneAtATime s e := by
        cases e with
        | closeReceived iq => cases hiq
        | _ => trivial
      rw [if_pos rfl]
      exact (and_iff_right hok).symm
    | some iq =>
      obtain rfl : e = .closeReceived iq := by
        cases e with
        | closeReceived iq' => rw [Option.some.inj hiq]
        | _ => cases hiq
      rw [if_neg (Option.some_ne_none iq)]
      constructor
      · -- an IQ that is lost is missing in the end
        intro h
        have hle := length_taken_run es hrest
        have hlength := congrArg List.length h
        rw [htaken, hiq, if_neg (Option.some_ne_none iq)] at hle
        simp only [closesTaken, List.length_append, Option.toList_some, List.length_cons,
          List.length_nil] at hle hlength
        have hfree : s.closeIqToAck = none := by
          cases hslot : s.closeIqToAck with
          | none => rfl
          | some old =>
            rw [hslot, Option.toList_some, List.length_cons] at hlength
            omega
        refine ⟨hfree, ?_⟩
        rw [h, closesTaken, hfree, Option.toList_none, List.append_nil, List.append_assoc]
        rfl
      · rintro ⟨hfree, h⟩
        have hfree : s.closeIqToAck = none := hfree
        rw [h, closesTaken, hfree, Option.toList_none, List.append_nil, List.append_assoc]
        rfl

end

/-- Both sides close the stream while one byte waits. -/
def closedByBoth : List Event :=
  [.send (List.replicate 11 7), .close none, .closeReceived 1, .ack 0, .dispose]

end Ibb
