/-
# In-band bytestreams: sending

Direct sends, the partial send that fills the window, the spill into the write
buffer and the flush from the acknowledgements each cut the data at other
points.  The module has the rule for the loop of `send_data`, what one call of
it does, and from these that the peer gets the accepted bytes in order, in
numbered blocks, as long as no acknowledgement meets a write buffer whose
length the `guint` parameter of `send_data` cuts to zero.
-/
import Gabble.BytestreamIbb

namespace Ibb

open Base64 Transition
open CInt (guintSize)

variable {s : State} {b : ℕ+} {buffer : Bytes}

/-! ## What was sent -/

/-- Sequence number and content of the data stanzas, in the order they were
sent. -/
def dataStanzas (out : List Effect) : List (UInt16 × Text) :=
  out.filterMap fun
    | .data _ seq content => some (seq, content)
    | _ => none

/-- The payloads of the data stanzas as the peer decodes them. -/
def payloads (out : List Effect) : List Bytes := (dataStanzas out).map fun d => decode d.2

def bytesSent (out : List Effect) : Bytes := (payloads out).flatten

theorem dataStanzas_append (out out' : List Effect) :
    dataStanzas (out ++ out') = dataStanzas out ++ dataStanzas out' :=
  List.filterMap_append

section

variable (s)

theorem dataStanzas_sendStanza (payload : Bytes) :
    dataStanzas (sendStanza s payload).out =
      dataStanzas s.out ++ [(s.seq, encode payload)] := by
  show dataStanzas (s.out ++ [Effect.data s.nextStanza s.seq (encode payload)]) = _
  rw [dataStanzas_append]
  rfl

theorem payloads_sendStanza (payload : Bytes) :
    payloads (sendStanza s payload).out = payloads s.out ++ [payload] := by
  rw [payloads, dataStanzas_sendStanza, List.map_append, List.map_singleton, decode_encode]
  rfl

theorem bytesSent_sendStanza (payload : Bytes) :
    bytesSent (sendStanza s payload).out = bytesSent s.out ++ payload := by
  rw [bytesSent, payloads_sendStanza, List.flatten_append, List.flatten_singleton]
  rfl

theorem dataStanzas_setState (state : BytestreamState) :
    dataStanzas (setState s state).out = dataStanzas s.out := by
  unfold setState
  split
  · rfl
  · show dataStanzas (s.out ++ [Effect.stateChanged state]) = _
    rw [dataStanzas_append]
    exact List.append_nil _

theorem dataStanzas_changeWriteBlockedState (blocked : Bool) :
    dataStanzas (changeWriteBlockedState s blocked).out = dataStanzas s.out := by
  unfold changeWriteBlockedState
  split
  · rfl
  · show dataStanzas (s.out ++ [Effect.writeBlocked blocked]) = _
    rw [dataStanzas_append]
    exact List.append_nil _

end

/-! ## The loop of `send_data` -/

/-- The rule for the loop: what one guarded round keeps, the loop keeps. -/
theorem sendDataLoop_inv {str : Bytes} {len : ℕ} {I : State → ℕ → Prop}
    (hround : ∀ s sent, I s sent → sent < len → s.sentStanzasNotAcked.length < windowSize →
      I (sendStanza s ((str.drop sent).take (sendNow s len sent))) (sent + sendNow s len sent))
    (fuel : ℕ) {sent : ℕ} (h : I s sent) :
    I (sendDataLoop str len fuel s sent).1 (sendDataLoop str len fuel s sent).2 := by
  induction fuel generalizing s sent with
  | zero => exact h
  | succ fuel ih =>
    rw [sendDataLoop]
    split
    · next hlt =>
      split
      · exact h
      · next hroom => exact ih (hround s sent h hlt (by omega))
    · exact h

/-- The loop ends because everything is sent or because the window is full. -/
theorem sendDataLoop_exit (str : Bytes) (len fuel : ℕ) (s : State) (sent : ℕ)
    (hfuel : windowSize ≤ s.sentStanzasNotAcked.length + fuel) :
    len ≤ (sendDataLoop str len fuel s sent).2 ∨
      windowSize ≤ (sendDataLoop str len fuel s sent).1.sentStanzasNotAcked.length := by
  induction fuel generalizing s sent with
  | zero => exact .inr hfuel
  | succ fuel ih =>
    rw [sendDataLoop]
    split
    · split
      · next hfull => exact .inr hfull
      · apply ih
        rw [show (sendStanza s _).sentStanzasNotAcked
          = s.sentStanzasNotAcked ++ [s.nextStanza] from rfl, List.length_append]
        simp only [List.length_cons, List.length_nil]
        omega
    · next hall => exact .inl (by omega)

theorem sendNow_pos (s : State) {len sent : ℕ} (h : sent < len) : 0 < sendNow s len sent := by
  unfold sendNow
  split
  · exact s.blockSize.pos
  · omega

theorem sendNow_le (s : State) (len sent : ℕ) : sendNow s len sent ≤ len - sent := by
  unfold sendNow
  split <;> omega

theorem sendNow_le_blockSize (s : State) (len sent : ℕ) :
    sendNow s len sent ≤ s.blockSize := by
  unfold sendNow
  split <;> omega

/-- What `send_data` leaves alone. -/
structure SameButSent (s s' : State) : Prop where
  state : s'.state = s.state
  blockSize : s'.blockSize = s.blockSize
  closeIqToAck : s'.closeIqToAck = s.closeIqToAck
  readBlocked : s'.readBlocked = s.readBlocked
  readBuffer : s'.readBuffer = s.readBuffer
  received : s'.receivedStanzasNotAcked = s.receivedStanzasNotAcked
  writeBuffer : s'.writeBuffer = s.writeBuffer
  writeBlocked : s'.writeBlocked = s.writeBlocked
  disposeHasRun : s'.disposeHasRun = s.disposeHasRun

theorem sendData_same (s : State) (str : Bytes) (len : ℕ) :
    SameButSent s (sendData s str len).1 := by
  refine sendDataLoop_inv (I := fun s' _ => SameButSent s s') ?_ windowSize ?_
  · intro s' sent h _ _
    exact ⟨h.state, h.blockSize, h.closeIqToAck, h.readBlocked, h.readBuffer, h.received,
      h.writeBuffer, h.writeBlocked, h.disposeHasRun⟩
  · exact ⟨rfl, rfl, rfl, rfl, rfl, rfl, rfl, rfl, rfl⟩

theorem sendData_le (s : State) (str : Bytes) (len : ℕ) : (sendData s str len).2 ≤ len := by
  refine sendDataLoop_inv (I := fun _ sent => sent ≤ len) ?_ windowSize (Nat.zero_le len)
  intro s' sent _ hlt _
  have := sendNow_le s' len sent
  omega

theorem sendData_exit (s : State) (str : Bytes) (len : ℕ) :
    (sendData s str len).2 = len ∨
      windowSize ≤ (sendData s str len).1.sentStanzasNotAcked.length := by
  have hle := sendData_le s str len
  rcases sendDataLoop_exit str len windowSize s 0
    (Nat.le_add_left _ s.sentStanzasNotAcked.length) with hall | hfull
  · exact .inl (Nat.le_antisymm hle hall)
  · exact .inr hfull

/-- With room in the window and something to send, at least one stanza goes
out, and it is not empty. -/
theorem sendData_progress {len : ℕ} (str : Bytes) (hlen : 0 < len)
    (hroom : s.sentStanzasNotAcked.length < windowSize) :
    s.sentStanzasNotAcked.length < (sendData s str len).1.sentStanzasNotAcked.length ∧
      0 < (sendData s str len).2 := by
  have hfirst : sendData s str len = sendDataLoop str len 9
      (sendStanza s ((str.drop 0).take (sendNow s len 0))) (0 + sendNow s len 0) := by
    show sendDataLoop str len (9 + 1) s 0 = _
    rw [sendDataLoop, if_pos hlen, if_neg (by omega)]
  rw [hfirst]
  refine sendDataLoop_inv (I := fun s' sent =>
    s.sentStanzasNotAcked.length < s'.sentStanzasNotAcked.length ∧ 0 < sent) ?_ 9 ?_
  · rintro s' sent ⟨hlt, hpos⟩ _ _
    refine ⟨?_, by omega⟩
    show _ < (s'.sentStanzasNotAcked ++ [s'.nextStanza]).length
    rw [List.length_append]
    omega
  · refine ⟨?_, by have := sendNow_pos s hlen; omega⟩
    show _ < (s.sentStanzasNotAcked ++ [s.nextStanza]).length
    rw [List.length_append]
    exact Nat.lt_succ_self _

/-- Nothing to send. -/
theorem sendData_zero (s : State) (str : Bytes) : sendData s str 0 = (s, 0) := by
  show sendDataLoop str 0 (9 + 1) s 0 = _
  rw [sendDataLoop, if_neg (Nat.lt_irrefl 0)]

/-! ## The stream of stanzas -/

/-- What holds of the stanzas sent so far: they carry the bytes `sent`, they
are numbered from 0 on, none is larger than a block, and the window is kept. -/
structure Stream (b : ℕ+) (sent : Bytes) (s : State) : Prop where
  blockSize : s.blockSize = b
  bytes : bytesSent s.out = sent
  next : s.seq = UInt16.ofNat (dataStanzas s.out).length
  numbered : ∀ k d, (dataStanzas s.out)[k]? = some d → d.1 = UInt16.ofNat k
  blocks : ∀ p ∈ payloads s.out, p.length ≤ b
  window : s.sentStanzasNotAcked.length ≤ windowSize

theorem Stream.sendStanza {sent payload : Bytes} (h : Stream b sent s)
    (hlen : payload.length ≤ b) (hroom : s.sentStanzasNotAcked.length < windowSize) :
    Stream b (sent ++ payload) (sendStanza s payload) where
  blockSize := h.blockSize
  bytes := by rw [bytesSent_sendStanza, h.bytes]
  next := by
    rw [dataStanzas_sendStanza, List.length_append, List.length_singleton, UInt16.ofNat_add,
      ← h.next]
    rfl
  numbered := by
    intro k d hd
    rw [dataStanzas_sendStanza] at hd
    rcases Nat.lt_trichotomy k (dataStanzas s.out).length with hlt | rfl | hgt
    · rw [List.getElem?_append_left hlt] at hd
      exact h.numbered k d hd
    · rw [List.getElem?_concat_length] at hd
      cases hd
      exact h.next
    · rw [List.getElem?_eq_none (by rw [List.length_append, List.length_singleton]; omega)] at hd
      cases hd
  blocks := by
    intro p hp
    rw [payloads_sendStanza, List.mem_append, List.mem_singleton] at hp
    rcases hp with hp | rfl
    · exact h.blocks p hp
    · exact hlen
  window := by
    show (s.sentStanzasNotAcked ++ [s.nextStanza]).length ≤ windowSize
    rw [List.length_append]
    exact hroom

/-- `send_data` extends the stream by the bytes it reports as sent. -/
theorem Stream.sendData {sent : Bytes} (h : Stream b sent s) (str : Bytes) (len : ℕ) :
    Stream b (sent ++ str.take (sendData s str len).2) (sendData s str len).1 := by
  refine (sendDataLoop_inv (I := fun s' n => n ≤ len ∧ Stream b (sent ++ str.take n) s')
    ?_ windowSize ⟨Nat.zero_le len, ?_⟩).2
  · rintro s' n ⟨hn, hs'⟩ hlt hroom
    have hle := sendNow_le s' len n
    refine ⟨by omega, ?_⟩
    rw [List.take_add, ← List.append_assoc]
    apply hs'.sendStanza _ hroom
    rw [← hs'.blockSize]
    exact (List.length_take_le _ _).trans (sendNow_le_blockSize s' len n)
  · rwa [List.take_zero, List.append_nil]

/-- A stream only looks at the stanzas, the block size and the window. -/
theorem Stream.congr {sent : Bytes} {s s' : State} (h : Stream b sent s)
    (hblock : s'.blockSize = s.blockSize) (hseq : s'.seq = s.seq)
    (hout : dataStanzas s'.out = dataStanzas s.out)
    (hwin : s'.sentStanzasNotAcked.length ≤ s.sentStanzasNotAcked.length) :
    Stream b sent s' where
  blockSize := hblock.trans h.blockSize
  bytes := by rw [bytesSent, payloads, hout]; exact h.bytes
  next := by rw [hseq, hout]; exact h.next
  numbered := by rw [hout]; exact h.numbered
  blocks := by rw [payloads, hout]; exact h.blocks
  window := hwin.trans h.window

/-! ## The window and the write buffer -/

/-- Data waits in the write buffer only while the window is full. -/
structure Windowed (s : State) : Prop where
  window : s.sentStanzasNotAcked.length ≤ windowSize
  full : ∀ buffer ∈ s.writeBuffer, buffer ≠ [] ∧ s.sentStanzasNotAcked.length = windowSize

/-- The `guint` parameter of `send_data` cuts the length of the write buffer to
zero. -/
def State.FlushCut (s : State) : Prop :=
  ∃ buffer ∈ s.writeBuffer, buffer.length % guintSize = 0

instance (s : State) : Decidable s.FlushCut :=
  decidable_of_iff (s.writeBuffer.any fun buffer => decide (buffer.length % guintSize = 0)) (by
    simp only [State.FlushCut, Option.any_eq_true, decide_eq_true_eq, Option.mem_def])

theorem length_sendData_le (str : Bytes) (len : ℕ) (h : s.sentStanzasNotAcked.length ≤ windowSize) :
    (sendData s str len).1.sentStanzasNotAcked.length ≤ windowSize := by
  refine sendDataLoop_inv (I := fun s' _ => s'.sentStanzasNotAcked.length ≤ windowSize)
    ?_ windowSize h
  intro s' sent _ _ hroom
  show (s'.sentStanzasNotAcked ++ [s'.nextStanza]).length ≤ windowSize
  rw [List.length_append]
  exact hroom

section

variable (s)

theorem changeWriteBlockedState_window (blocked : Bool) :
    (changeWriteBlockedState s blocked).sentStanzasNotAcked = s.sentStanzasNotAcked ∧
      (changeWriteBlockedState s blocked).writeBuffer = s.writeBuffer ∧
      (changeWriteBlockedState s blocked).state = s.state ∧
      (changeWriteBlockedState s blocked).blockSize = s.blockSize ∧
      (changeWriteBlockedState s blocked).seq = s.seq := by
  unfold changeWriteBlockedState
  split <;> exact ⟨rfl, rfl, rfl, rfl, rfl⟩

/-- What `gabble_bytestream_ibb_send` can do. -/
theorem send_cases (str : Bytes) :
    (s.state ≠ .opened ∧ send s str = (s, false)) ∨
    (s.state = .opened ∧ ∃ buffer, s.writeBuffer = some buffer ∧
      send s str = ({ s with writeBuffer := some (buffer ++ str) }, true)) ∨
    (s.state = .opened ∧ s.writeBuffer = none ∧
      (sendData s str str.length).2 < str.length ∧
      windowSize ≤ (sendData s str str.length).1.sentStanzasNotAcked.length ∧
      send s str = (changeWriteBlockedState { (sendData s str str.length).1 with
        writeBuffer := some (str.drop (sendData s str str.length).2) } true, true)) ∨
    (s.state = .opened ∧ s.writeBuffer = none ∧
      (sendData s str str.length).2 = str.length ∧
      send s str = ((sendData s str str.length).1, true)) := by
  unfold send
  split
  · next h => exact .inl ⟨h, rfl⟩
  · next h =>
    have hopen : s.state = .opened := not_not.mp h
    right
    split
    · next buffer hbuffer => exact .inl ⟨hopen, buffer, hbuffer, rfl⟩
    · next hnone =>
      right
      by_cases hlt : (sendData s str str.length).2 < str.length
      · refine .inl ⟨hopen, hnone, hlt, ?_, if_pos hlt⟩
        exact (sendData_exit s str str.length).resolve_left (Nat.ne_of_lt hlt)
      · refine .inr ⟨hopen, hnone, ?_, if_neg hlt⟩
        exact Nat.le_antisymm (sendData_le s str str.length) (Nat.not_lt.mp hlt)

/-- What the flush of the write buffer can do: the buffer gets empty, and a
closing stream is closed, or some of it is left. -/
theorem flushWriteBuffer_cases (buffer : Bytes) :
    ((sendData s buffer (buffer.length % guintSize)).2 = buffer.length ∧ s.state ≠ .closing ∧
      flushWriteBuffer s buffer = changeWriteBlockedState
        { (sendData s buffer (buffer.length % guintSize)).1 with writeBuffer := none } false) ∨
    ((sendData s buffer (buffer.length % guintSize)).2 = buffer.length ∧ s.state = .closing ∧
      flushWriteBuffer s buffer = setState (sendCloseStanza (changeWriteBlockedState
        { (sendData s buffer (buffer.length % guintSize)).1 with writeBuffer := none } false))
        .closed) ∨
    ((sendData s buffer (buffer.length % guintSize)).2 < buffer.length ∧
      flushWriteBuffer s buffer = { (sendData s buffer (buffer.length % guintSize)).1 with
        writeBuffer := some (buffer.drop (sendData s buffer (buffer.length % guintSize)).2) }) := by
  have hle := sendData_le s buffer (buffer.length % guintSize)
  have hmod := Nat.mod_le buffer.length guintSize
  have hstate : (changeWriteBlockedState { (sendData s buffer (buffer.length % guintSize)).1 with
      writeBuffer := none } false).state = s.state :=
    (changeWriteBlockedState_window _ _).2.2.1.trans (sendData_same s buffer _).state
  unfold flushWriteBuffer
  by_cases hall : (sendData s buffer (buffer.length % guintSize)).2 = buffer.length
  · by_cases hclosing : s.state = .closing
    · exact .inr (.inl ⟨hall, hclosing, (if_pos hall).trans (if_pos (hstate.trans hclosing))⟩)
    · exact .inl ⟨hall, hclosing, (if_pos hall).trans (if_neg (hstate ▸ hclosing))⟩
  · exact .inr (.inr ⟨by omega, if_neg hall⟩)

theorem setState_writeBuffer (state : BytestreamState) :
    (setState s state).writeBuffer = s.writeBuffer ∧
      (setState s state).sentStanzasNotAcked = s.sentStanzasNotAcked := by
  unfold setState
  split <;> exact ⟨rfl, rfl⟩

theorem sendCloseStanza_writeBuffer :
    (sendCloseStanza s).writeBuffer = s.writeBuffer ∧
      (sendCloseStanza s).sentStanzasNotAcked = s.sentStanzasNotAcked := by
  unfold sendCloseStanza
  split <;> exact ⟨rfl, rfl⟩

end

/-- Without a write buffer only the bound on the window is left. -/
theorem Windowed.of_none (hwin : s.sentStanzasNotAcked.length ≤ windowSize)
    (hnone : s.writeBuffer = none) : Windowed s := by
  refine ⟨hwin, fun buffer hbuffer => ?_⟩
  rw [hnone] at hbuffer
  cases hbuffer

theorem Windowed.send (h : Windowed s) (str : Bytes) : Windowed (send s str).1 := by
  have hwin := length_sendData_le str str.length h.window
  rcases send_cases s str with ⟨-, heq⟩ | ⟨-, buffer, hbuffer, heq⟩ | ⟨-, -, hlt, hfull, heq⟩ |
    ⟨-, hnone, -, heq⟩
  · rw [heq]
    exact h
  · rw [heq]
    obtain ⟨hne, hlen⟩ := h.full buffer hbuffer
    refine ⟨h.window, fun buffer' hbuffer' => ?_⟩
    cases hbuffer'
    exact ⟨fun hnil => hne (List.append_eq_nil_iff.mp hnil).1, hlen⟩
  · rw [heq]
    obtain ⟨hsent, hwb, -, -, -⟩ := changeWriteBlockedState_window
      { (sendData s str str.length).1 with
        writeBuffer := some (str.drop (sendData s str str.length).2) } true
    refine ⟨hsent ▸ hwin, fun buffer' hbuffer' => ?_⟩
    rw [hwb] at hbuffer'
    cases hbuffer'
    refine ⟨?_, hsent ▸ Nat.le_antisymm hwin hfull⟩
    rw [Ne, List.drop_eq_nil_iff]
    omega
  · rw [heq]
    exact .of_none hwin ((sendData_same s str _).writeBuffer.trans hnone)

/-- The flush from an acknowledgement of a full window refills it. -/
theorem Windowed.flushWriteBuffer (hlast : s.sentStanzasNotAcked.length + 1 = windowSize)
    (hcut : buffer.length % guintSize ≠ 0) : Windowed (flushWriteBuffer s buffer) := by
  have hwin := length_sendData_le (s := s) buffer (buffer.length % guintSize) (by omega)
  obtain ⟨hmore, -⟩ := sendData_progress (s := s) buffer (Nat.pos_of_ne_zero hcut) (by omega)
  rcases flushWriteBuffer_cases s buffer with ⟨-, -, heq⟩ | ⟨-, -, heq⟩ | ⟨hlt, heq⟩
  · rw [heq]
    obtain ⟨hsent, hwb, -, -, -⟩ := changeWriteBlockedState_window
      { (sendData s buffer (buffer.length % guintSize)).1 with writeBuffer := none } false
    exact .of_none (hsent ▸ hwin) hwb
  · rw [heq]
    obtain ⟨hsent, hwb, -, -, -⟩ := changeWriteBlockedState_window
      { (sendData s buffer (buffer.length % guintSize)).1 with writeBuffer := none } false
    refine .of_none ?_ ?_
    · rw [(setState_writeBuffer _ _).2, (sendCloseStanza_writeBuffer _).2, hsent]
      exact hwin
    · rw [(setState_writeBuffer _ _).1, (sendCloseStanza_writeBuffer _).1, hwb]
  · rw [heq]
    refine ⟨hwin, fun buffer' hbuffer' => ?_⟩
    cases hbuffer'
    refine ⟨?_, ?_⟩
    · rw [Ne, List.drop_eq_nil_iff]
      omega
    · show (sendData s buffer (buffer.length % guintSize)).1.sentStanzasNotAcked.length = _
      omega

/-- What an acknowledgement does: the stanza leaves the window and the write
buffer, if there is one, is flushed. -/
theorem iqReplyCb_acked (s : State) (stanza : ℕ) :
    (s.writeBuffer = none ∧ iqReplyCb s stanza true = removeSent s stanza) ∨
    (∃ buffer, s.writeBuffer = some buffer ∧
      iqReplyCb s stanza true = flushWriteBuffer (removeSent s stanza) buffer) := by
  have hsame : (removeSent s stanza).writeBuffer = s.writeBuffer := rfl
  rw [iqReplyCb, if_pos rfl, hsame]
  rcases hbuffer : s.writeBuffer with - | buffer
  · exact .inl ⟨rfl, rfl⟩
  · exact .inr ⟨buffer, rfl, rfl⟩

theorem Windowed.acked {stanza : ℕ} (h : Windowed s)
    (hmem : stanza ∈ s.sentStanzasNotAcked) (hcut : ¬ s.FlushCut) :
    Windowed (iqReplyCb s stanza true) := by
  have hlen : (s.sentStanzasNotAcked.erase stanza).length = s.sentStanzasNotAcked.length - 1 :=
    List.length_erase_of_mem hmem
  have hpos : 0 < s.sentStanzasNotAcked.length := List.length_pos_of_mem hmem
  have hwin := h.window
  rcases iqReplyCb_acked s stanza with ⟨hnone, heq⟩ | ⟨buffer, hbuffer, heq⟩
  · rw [heq]
    exact .of_none (show (s.sentStanzasNotAcked.erase stanza).length ≤ windowSize by omega) hnone
  · rw [heq]
    obtain ⟨-, hfull⟩ := h.full buffer hbuffer
    refine .flushWriteBuffer ?_ fun hmod => hcut ⟨buffer, hbuffer, hmod⟩
    show (s.sentStanzasNotAcked.erase stanza).length + 1 = windowSize
    omega

/-! ## Runs of an open stream -/

/-- The bytes a `send` call accepts: it returns `TRUE`. -/
def accepted (s : State) : Event → Bytes
  | .send str => if (send s str).2 then str else []
  | _ => []

/-- The invariant of an open stream that has accepted `accepted`. -/
structure Sends (b : ℕ+) (accepted : Bytes) (s : State) : Prop where
  opened : s.state = .opened
  windowed : Windowed s
  stream : Stream b (bytesSent s.out) s
  content : bytesSent s.out ++ s.unsent = accepted

theorem Sends.new (b : ℕ+) : Sends b [] (State.new b .opened) where
  opened := rfl
  windowed := .of_none (Nat.zero_le _) rfl
  stream :=
    { blockSize := rfl
      bytes := rfl
      next := rfl
      numbered := fun k d h => by simp [State.new, dataStanzas] at h
      blocks := fun p hp => by simp [State.new, payloads, dataStanzas] at hp
      window := Nat.zero_le _ }
  content := rfl

theorem unsent_of_none (h : s.writeBuffer = none) : s.unsent = [] := by
  rw [State.unsent, h, Option.getD_none]

theorem unsent_of_some (h : s.writeBuffer = some buffer) :
    s.unsent = buffer := by
  rw [State.unsent, h, Option.getD_some]

theorem Stream.withWriteBuffer {sent : Bytes} (h : Stream b sent s)
    (writeBuffer : Option Bytes) : Stream b sent { s with writeBuffer := writeBuffer } :=
  h.congr rfl rfl rfl le_rfl

theorem Stream.changeWriteBlockedState {sent : Bytes} (h : Stream b sent s) (blocked : Bool) :
    Stream b sent (changeWriteBlockedState s blocked) := by
  obtain ⟨hsent, -, -, hblock, hseq⟩ := changeWriteBlockedState_window s blocked
  refine h.congr hblock hseq (dataStanzas_changeWriteBlockedState s blocked) ?_
  rw [hsent]

/-- A state whose stream carries the bytes before the rest of the accepted data. -/
theorem Sends.of_stream {acc sent : Bytes} (hopen : s.state = .opened)
    (hwin : Windowed s) (hstream : Stream b sent s) (hcontent : sent ++ s.unsent = acc) :
    Sends b acc s where
  opened := hopen
  windowed := hwin
  stream := by rw [hstream.bytes]; exact hstream
  content := by rw [hstream.bytes]; exact hcontent

theorem Sends.send {acc : Bytes} (h : Sends b acc s) (str : Bytes) :
    Sends b (acc ++ accepted s (.send str)) (send s str).1 := by
  have hsame := sendData_same s str str.length
  have hstream := h.stream.sendData str str.length
  have hwin := h.windowed.send str
  have hcontent := h.content
  have hacc : accepted s (.send str) = if (Ibb.send s str).2 then str else [] := rfl
  rw [hacc]
  rcases send_cases s str with ⟨hne, -⟩ | ⟨-, buffer, hbuffer, heq⟩ | ⟨-, hnone, hlt, -, heq⟩ |
    ⟨-, hnone, hall, heq⟩
  · exact absurd h.opened hne
  · rw [unsent_of_some hbuffer] at hcontent
    rw [heq, if_pos rfl]
    rw [heq] at hwin
    refine .of_stream h.opened hwin (h.stream.withWriteBuffer _) ?_
    rw [unsent_of_some rfl, ← List.append_assoc, hcontent]
  · rw [unsent_of_none hnone, List.append_nil] at hcontent
    rw [heq, if_pos rfl]
    rw [heq] at hwin
    obtain ⟨-, hwb, hstate, -, -⟩ := changeWriteBlockedState_window
      { (sendData s str str.length).1 with
        writeBuffer := some (str.drop (sendData s str str.length).2) } true
    refine .of_stream (hstate.trans (hsame.state.trans h.opened)) hwin
      ((hstream.withWriteBuffer _).changeWriteBlockedState true) ?_
    rw [unsent_of_some hwb, List.append_assoc, List.take_append_drop, hcontent]
  · rw [unsent_of_none hnone, List.append_nil] at hcontent
    rw [heq, if_pos rfl]
    rw [heq] at hwin
    refine .of_stream (hsame.state.trans h.opened) hwin hstream ?_
    rw [unsent_of_none (hsame.writeBuffer.trans hnone), hall, List.take_length,
      List.append_nil, hcontent]

theorem Sends.acked {acc : Bytes} {stanza : ℕ} (h : Sends b acc s)
    (hmem : stanza ∈ s.sentStanzasNotAcked) (hcut : ¬ s.FlushCut) :
    Sends b acc (iqReplyCb s stanza true) := by
  have hwin := h.windowed.acked hmem hcut
  have hcontent := h.content
  -- the stanza leaves the window, nothing else of the stream changes
  have herase : Stream b (bytesSent s.out) (removeSent s stanza) :=
    h.stream.congr rfl rfl rfl List.length_erase_le
  rcases iqReplyCb_acked s stanza with ⟨hnone, heq⟩ | ⟨buffer, hbuffer, heq⟩
  · rw [heq] at hwin ⊢
    exact .of_stream h.opened hwin herase hcontent
  · rw [unsent_of_some hbuffer] at hcontent
    rw [heq] at hwin ⊢
    have hsame := sendData_same (removeSent s stanza) buffer (buffer.length % guintSize)
    have hstream := herase.sendData buffer (buffer.length % guintSize)
    rcases flushWriteBuffer_cases (removeSent s stanza) buffer with
      ⟨hall, -, hflush⟩ | ⟨-, hclosing, -⟩ | ⟨hlt, hflush⟩
    · rw [hflush] at hwin ⊢
      obtain ⟨-, hwb, hstate, -, -⟩ := changeWriteBlockedState_window
        { (sendData (removeSent s stanza) buffer (buffer.length % guintSize)).1 with
          writeBuffer := none } false
      refine .of_stream (hstate.trans (hsame.state.trans h.opened)) hwin
        ((hstream.withWriteBuffer _).changeWriteBlockedState false) ?_
      rw [unsent_of_none hwb, hall, List.take_length, List.append_nil, hcontent]
    · cases h.opened.symm.trans hclosing
    · rw [hflush] at hwin ⊢
      refine .of_stream (hsame.state.trans h.opened) hwin (hstream.withWriteBuffer _) ?_
      rw [unsent_of_some rfl, List.append_assoc, List.take_append_drop, hcontent]

/-- What a sending stream promises of the bytes it has accepted. -/
structure SendWindow (b : ℕ+) (accepted : Bytes) (s : State) : Prop where
  content : bytesSent s.out ++ s.unsent = accepted
  numbered : ∀ k d, (dataStanzas s.out)[k]? = some d → d.1.toNat = k % 65536
  blocks : ∀ p ∈ payloads s.out, p.length ≤ b
  window : s.sentStanzasNotAcked.length ≤ windowSize
  full : s.unsent ≠ [] → s.sentStanzasNotAcked.length = windowSize

theorem Sends.sendWindow {acc : Bytes} (h : Sends b acc s) :
    SendWindow b acc s where
  content := h.content
  numbered := by
    intro k d hd
    rw [h.stream.numbered k d hd, UInt16.toNat_ofNat']
  blocks := h.stream.blocks
  window := h.windowed.window
  full := by
    intro hne
    rcases hbuffer : s.writeBuffer with - | buffer
    · exact absurd (unsent_of_none hbuffer) hne
    · exact (h.windowed.full buffer hbuffer).2

/-- Only sends and acknowledgements, and no acknowledgement comes while the
length of the write buffer is a multiple of `guintSize`. -/
def Flushes (s : State) (e : Event) : Prop :=
  e.isTransfer = true ∧ ¬ (e.isAck = true ∧ s.FlushCut)

instance (s : State) (e : Event) : Decidable (Flushes s e) :=
  inferInstanceAs (Decidable (_ ∧ _))

theorem Sends.step {acc : Bytes} {s s' : State} {e : Event} (h : Sends b acc s)
    (hok : Flushes s e) (hs : step s e = some s') : Sends b (acc ++ accepted s e) s' := by
  obtain ⟨hkind, hcut⟩ := hok
  have htraffic : e.isTraffic = true := by
    cases e with
    | send | ack => rfl
    | _ => cases hkind
  cases step_traffic htraffic hs with
  | send str => exact h.send str
  | acked stanza hmem =>
    show Sends b (acc ++ []) _
    rw [List.append_nil]
    exact h.acked hmem fun hc => hcut ⟨rfl, hc⟩
  | _ => cases hkind

/-- **The peer gets the accepted bytes in order.**  After any run of sends and
acknowledgements, none of them while the write buffer is a multiple of `2^32`
bytes long, the stanzas carry what was accepted up to the write buffer, in
numbered blocks within the window, and data waits only behind a full window. -/
theorem accepted_bytes_sent (b : ℕ+) (es : List Event) (s : State)
    (hadm : Admits Flushes step (State.new b .opened) es)
    (hrun : run step (State.new b .opened) es = some s) :
    SendWindow b (collect step accepted (State.new b .opened) es) s := by
  have hinv := run_collect_invariant (f := accepted) (I := Sends b)
    (fun _ _ _ _ h hok hs => h.step hok hs) es (Sends.new b) hadm hrun
  rw [List.nil_append] at hinv
  exact hinv.sendWindow

/-- Twelve bytes in blocks of one: two of them wait until stanza 3 is
acknowledged. -/
def transferRun : List Event := [.send (List.replicate 11 7), .send [8], .ack 3]

theorem accepted_bytes_sent_transferRun :
    ∃ s, run step (State.new 1 .opened) transferRun = some s ∧ s.unsent = [8] ∧
      SendWindow 1 (collect step accepted (State.new 1 .opened) transferRun) s :=
  ⟨_, rfl, by decide, accepted_bytes_sent 1 transferRun _ (by decide) rfl⟩

/-! ## A write buffer of four gigabytes -/

theorem send_of_buffer (str : Bytes) (hopen : s.state = .opened)
    (hbuffer : s.writeBuffer = some buffer) :
    send s str = ({ s with writeBuffer := some (buffer ++ str) }, true) := by
  unfold send
  rw [if_neg (not_not.mpr hopen), hbuffer]

/-- An acknowledgement that finds the length cut to zero sends nothing. -/
theorem iqReplyCb_of_flushCut (stanza : ℕ) (hne : buffer ≠ [])
    (hbuffer : s.writeBuffer = some buffer) (hmod : buffer.length % guintSize = 0) :
    iqReplyCb s stanza true = removeSent s stanza := by
  rcases iqReplyCb_acked s stanza with ⟨hnone, -⟩ | ⟨buffer', hbuffer', heq⟩
  · rw [hbuffer] at hnone
    cases hnone
  · cases hbuffer.symm.trans hbuffer'
    have hpos : 0 ≠ buffer.length := (List.length_pos_iff.mpr hne).ne
    rw [heq, flushWriteBuffer, hmod, sendData_zero]
    show (if 0 = buffer.length then _ else _) = _
    rw [if_neg hpos, List.drop_zero, ← hbuffer]
    rfl

/-- Eleven bytes in blocks of one fill the window and leave one byte over; the
next send brings the write buffer to `2^32` bytes, and then stanza 0 is
acknowledged. -/
def longRun : List Event :=
  [.send (List.replicate 11 0), .send (List.replicate (guintSize - 1) 0), .ack 0]

/-- The acknowledgement sends nothing although the window has room. -/
theorem write_buffer_not_flushed :
    ¬ ∀ (b : ℕ+) (es : List Event) (s : State), (∀ e ∈ es, e.isTransfer = true) →
      run step (State.new b .opened) es = some s →
      SendWindow b (collect step accepted (State.new b .opened) es) s := by
  intro hall
  -- the first send fills the window
  obtain ⟨s₁, hs₁, hopen, hbuffer, hsent, halive⟩ : ∃ s₁,
      step (State.new 1 .opened) (.send (List.replicate 11 0)) = some s₁ ∧
      s₁.state = .opened ∧ s₁.writeBuffer = some [0] ∧
      s₁.sentStanzasNotAcked = List.range 10 ∧ s₁.disposeHasRun = false :=
    ⟨_, rfl, rfl, rfl, rfl, rfl⟩
  -- the second one is only buffered
  obtain ⟨buffer, hlen⟩ : ∃ buffer : Bytes, buffer.length = guintSize - 1 ∧
      buffer = List.replicate (guintSize - 1) 0 := ⟨_, List.length_replicate, rfl⟩
  obtain ⟨s₂, hs₂, hbuffer₂, hsent₂, halive₂⟩ : ∃ s₂, step s₁ (.send buffer) = some s₂ ∧
      s₂.writeBuffer = some (0 :: buffer) ∧ s₂.sentStanzasNotAcked = List.range 10 ∧
      s₂.disposeHasRun = false := by
    refine ⟨{ s₁ with writeBuffer := some (0 :: buffer) }, ?_, rfl, hsent, halive⟩
    rw [step, if_neg (by rw [halive]; decide), send_of_buffer _ hopen hbuffer]
    exact if_pos (by rw [hlen.1]; decide)
  have hmod : (0 :: buffer).length % guintSize = 0 := by
    rw [List.length_cons, hlen.1]
    decide
  have hs₃ : step s₂ (.ack 0) = some (removeSent s₂ 0) := by
    rw [step, if_neg (by rw [halive₂]; decide),
      ← iqReplyCb_of_flushCut 0 (List.cons_ne_nil 0 buffer) hbuffer₂ hmod]
    exact if_pos (hsent₂ ▸ by decide)
  have hrun : run step (State.new 1 .opened) longRun = some (removeSent s₂ 0) := by
    rw [longRun, ← hlen.2, run, hs₁, Option.bind_some, run, hs₂, Option.bind_some, run, hs₃]
    rfl
  have hunsent : (removeSent s₂ 0).unsent ≠ [] := by
    show s₂.unsent ≠ []
    rw [unsent_of_some hbuffer₂]
    exact List.cons_ne_nil 0 buffer
  have hfull := (hall 1 longRun _ (by simp [longRun, Event.isTransfer]) hrun).full hunsent
  have hnine : (s₂.sentStanzasNotAcked.erase 0).length = windowSize := hfull
  rw [hsent₂] at hnine
  exact absurd hnine (by decide)

end Ibb
