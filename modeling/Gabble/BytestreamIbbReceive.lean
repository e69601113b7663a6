/-
# In-band bytestreams: receiving

While the user blocks reading, the life of an incoming stanza is split: its
payload waits in the read buffer and its IQ in the list of the stanzas not
answered.  Both are drained when reading is unblocked or the stream is closed.
The module follows the two halves through every call and shows that each data
IQ gets one answer and that the payloads reach the user in order; reading
unblocked after the close is the one call that breaks the promises.
-/
import Gabble.BytestreamIbbClose

namespace Ibb

open Base64 Transition
open CInt (guintSize)

variable {s : State}

/-! ## What was handed over and what was answered -/

/-- The bytes given to the user with "data-received". -/
def emitted (out : List Effect) : Bytes :=
  (out.filterMap fun
    | .dataReceived str => some str
    | _ => none).flatten

/-- The data IQs that were acknowledged or refused. -/
def answers (out : List Effect) : List ℕ :=
  out.filterMap fun
    | .acknowledge (.data id) => some id
    | .iqError (.data id) _ => some id
    | _ => none

theorem emitted_append (out out' : List Effect) :
    emitted (out ++ out') = emitted out ++ emitted out' := by
  rw [emitted, List.filterMap_append, List.flatten_append]
  rfl

theorem answers_append (out out' : List Effect) :
    answers (out ++ out') = answers out ++ answers out' :=
  List.filterMap_append

theorem emitted_iqErrors (error : GError) (ids : List ℕ) :
    emitted (ids.map fun id => .iqError (.data id) error) = [] := by
  induction ids with
  | nil => rfl
  | cons id ids ih => exact ih

theorem answers_iqErrors (error : GError) (ids : List ℕ) :
    answers (ids.map fun id => .iqError (.data id) error) = ids := by
  induction ids with
  | nil => rfl
  | cons id ids ih => exact congrArg (id :: ·) ih

theorem emitted_acknowledges (ids : List ℕ) :
    emitted (ids.map fun id => .acknowledge (.data id)) = [] := by
  induction ids with
  | nil => rfl
  | cons id ids ih => exact ih

theorem answers_acknowledges (ids : List ℕ) :
    answers (ids.map fun id => .acknowledge (.data id)) = ids := by
  induction ids with
  | nil => rfl
  | cons id ids ih => exact congrArg (id :: ·) ih

/-- A data stanza that came in: its IQ, its payload, and whether the payload was
taken. -/
structure Arrival where
  id : ℕ
  isIq : Bool
  payload : Bytes
  accepted : Bool

/-- The stream is open, and the payload fits into the read buffer if it has to
go there. -/
def accepts (s : State) (str : Bytes) : Bool :=
  decide (s.state = .opened) &&
    (!s.readBlocked || decide (s.buffered.length + str.length ≤ readBufferMaxSize))

def arrival (s : State) : Event → List Arrival
  | .receive id content isIq => [⟨id, isIq, decode content, accepts s (decode content)⟩]
  | _ => []

/-- The payloads that were taken, in the order they came in. -/
def acceptedData (arrivals : List Arrival) : Bytes :=
  arrivals.flatMap fun a => if a.accepted then a.payload else []

/-- The data IQs that came in. -/
def receivedIqs (arrivals : List Arrival) : List ℕ :=
  arrivals.filterMap fun a => if a.isIq then some a.id else none

theorem acceptedData_append (l l' : List Arrival) :
    acceptedData (l ++ l') = acceptedData l ++ acceptedData l' :=
  List.flatMap_append

theorem receivedIqs_append (l l' : List Arrival) :
    receivedIqs (l ++ l') = receivedIqs l ++ receivedIqs l' :=
  List.filterMap_append

/-! ## The receiving side -/

/-- Two states with the same receiving side. -/
structure SameRead (s s' : State) : Prop where
  readBlocked : s'.readBlocked = s.readBlocked
  readBuffer : s'.readBuffer = s.readBuffer
  received : s'.receivedStanzasNotAcked = s.receivedStanzasNotAcked
  emitted : emitted s'.out = emitted s.out
  answers : answers s'.out = answers s.out

theorem SameRead.refl (s : State) : SameRead s s := ⟨rfl, rfl, rfl, rfl, rfl⟩

theorem SameRead.trans {s s' s'' : State} (h : SameRead s s') (h' : SameRead s' s'') :
    SameRead s s'' :=
  ⟨h'.readBlocked.trans h.readBlocked, h'.readBuffer.trans h.readBuffer,
    h'.received.trans h.received, h'.emitted.trans h.emitted, h'.answers.trans h.answers⟩

section

variable (s)

theorem emit_read {effects : List Effect} (he : Ibb.emitted effects = [])
    (ha : Ibb.answers effects = []) : SameRead s (emit s effects) where
  readBlocked := rfl
  readBuffer := rfl
  received := rfl
  emitted := by
    show Ibb.emitted (s.out ++ effects) = _
    rw [emitted_append, he, List.append_nil]
  answers := by
    show Ibb.answers (s.out ++ effects) = _
    rw [answers_append, ha, List.append_nil]

theorem setState_read (state : BytestreamState) : SameRead s (setState s state) := by
  unfold setState
  split
  · exact .refl s
  · exact (⟨rfl, rfl, rfl, rfl, rfl⟩ : SameRead s { s with state := state }).trans
      (emit_read _ rfl rfl)

theorem changeWriteBlockedState_read (blocked : Bool) :
    SameRead s (changeWriteBlockedState s blocked) := by
  unfold changeWriteBlockedState
  split
  · exact .refl s
  · exact (⟨rfl, rfl, rfl, rfl, rfl⟩ : SameRead s { s with writeBlocked := blocked }).trans
      (emit_read _ rfl rfl)

theorem sendCloseStanza_read : SameRead s (sendCloseStanza s) := by
  unfold sendCloseStanza
  split
  · exact (⟨rfl, rfl, rfl, rfl, rfl⟩ : SameRead s { s with closeIqToAck := none }).trans
      (emit_read _ rfl rfl)
  · exact emit_read s rfl rfl

theorem sendData_read (str : Bytes) (len : ℕ) :
    SameRead s (sendData s str len).1 := by
  refine sendDataLoop_inv (I := fun s' _ => SameRead s s') ?_ windowSize (.refl s)
  intro s' sent h _ _
  refine h.trans ⟨rfl, rfl, rfl, ?_, ?_⟩
  · show Ibb.emitted (s'.out ++ [_]) = _
    rw [emitted_append]
    exact List.append_nil _
  · show Ibb.answers (s'.out ++ [_]) = _
    rw [answers_append]
    exact List.append_nil _

theorem withWriteBuffer_read (writeBuffer : Option Bytes) :
    SameRead s { s with writeBuffer := writeBuffer } :=
  ⟨rfl, rfl, rfl, rfl, rfl⟩

theorem send_read (str : Bytes) : SameRead s (send s str).1 := by
  have hread := sendData_read s str str.length
  rcases send_cases s str with ⟨-, heq⟩ | ⟨-, buffer, -, heq⟩ | ⟨-, -, -, -, heq⟩ |
    ⟨-, -, -, heq⟩
  · rw [heq]
    exact .refl s
  · rw [heq]
    exact ⟨rfl, rfl, rfl, rfl, rfl⟩
  · rw [heq]
    exact hread.trans ((withWriteBuffer_read _ _).trans (changeWriteBlockedState_read _ true))
  · rw [heq]
    exact hread

theorem send_state (str : Bytes) : (send s str).1.state = s.state := by
  have hsame := sendData_same s str str.length
  rcases send_cases s str with ⟨-, heq⟩ | ⟨-, buffer, -, heq⟩ | ⟨-, -, -, -, heq⟩ |
    ⟨-, -, -, heq⟩
  · rw [heq]
  · rw [heq]
  · rw [heq]
    exact (changeWriteBlockedState_window _ _).2.2.1.trans hsame.state
  · rw [heq]
    exact hsame.state

theorem acked_read (stanza : ℕ) : SameRead s (iqReplyCb s stanza true) := by
  have hremove : SameRead s (removeSent s stanza) := ⟨rfl, rfl, rfl, rfl, rfl⟩
  rcases iqReplyCb_acked s stanza with ⟨-, heq⟩ | ⟨buffer, -, heq⟩
  · rw [heq]
    exact hremove
  · rw [heq]
    have hread := hremove.trans
      (sendData_read (removeSent s stanza) buffer (buffer.length % guintSize))
    rcases flushWriteBuffer_cases (removeSent s stanza) buffer with
      ⟨-, -, hflush⟩ | ⟨-, -, hflush⟩ | ⟨-, hflush⟩
    · rw [hflush]
      exact hread.trans ((withWriteBuffer_read _ _).trans (changeWriteBlockedState_read _ false))
    · rw [hflush]
      exact hread.trans ((withWriteBuffer_read _ _).trans
        ((changeWriteBlockedState_read _ false).trans
          ((sendCloseStanza_read _).trans (setState_read _ _))))
    · rw [hflush]
      exact hread.trans (withWriteBuffer_read _ _)

/-- An acknowledgement changes the state of a closing stream only. -/
theorem acked_state (stanza : ℕ) :
    (iqReplyCb s stanza true).state = s.state ∨
      (s.state = .closing ∧ (iqReplyCb s stanza true).state = .closed) := by
  rcases iqReplyCb_acked s stanza with ⟨-, heq⟩ | ⟨buffer, -, heq⟩
  · rw [heq]
    exact .inl rfl
  · rw [heq]
    have hsame := sendData_same (removeSent s stanza) buffer (buffer.length % guintSize)
    rcases flushWriteBuffer_cases (removeSent s stanza) buffer with
      ⟨-, -, hflush⟩ | ⟨-, hclosing, hflush⟩ | ⟨-, hflush⟩
    · rw [hflush]
      exact .inl ((changeWriteBlockedState_window _ _).2.2.1.trans hsame.state)
    · rw [hflush]
      exact .inr ⟨hclosing, setState_state _ _⟩
    · rw [hflush]
      exact .inl hsame.state

end

/-- What closing does to the receiving side: the waiting IQs are refused, the
read buffer stays. -/
structure Refuses (s s' : State) : Prop where
  readBlocked : s'.readBlocked = s.readBlocked
  readBuffer : s'.readBuffer = s.readBuffer
  received : s'.receivedStanzasNotAcked = []
  emitted : emitted s'.out = emitted s.out
  answers : answers s'.out = answers s.out ++ s.receivedStanzasNotAcked.reverse
  state : s'.state ≠ .opened

theorem closeState_ne_opened (s : State) : closeState s ≠ .opened := by
  unfold closeState
  split <;> decide

theorem close_read (error : Option GError)
    (h : s.state = .closed → s.receivedStanzasNotAcked = []) : Refuses s (close s error) := by
  have hstate : (close s error).state ≠ .opened := by
    rw [close_state]
    exact closeState_ne_opened s
  -- what comes after the refusals leaves the receiving side alone
  have hrest : ∀ s', SameRead (answerAll s fun id =>
      .iqError (.data id) ⟨.itemNotFound, none⟩) s' → s'.state ≠ .opened → Refuses s s' := by
    intro s' hs' hst
    refine ⟨hs'.readBlocked, hs'.readBuffer, hs'.received, hs'.emitted.trans ?_,
      hs'.answers.trans ?_, hst⟩
    · show Ibb.emitted (s.out ++ List.map _ _) = _
      rw [emitted_append, emitted_iqErrors, List.append_nil]
    · show Ibb.answers (s.out ++ List.map _ _) = _
      rw [answers_append, answers_iqErrors]
  unfold close at hstate ⊢
  split
  · next hclosed =>
    rw [if_pos hclosed] at hstate
    exact ⟨rfl, rfl, h hclosed, rfl, by rw [h hclosed]; exact (List.append_nil _).symm, hstate⟩
  · next hopen =>
    rw [if_neg hopen] at hstate
    refine hrest _ ?_ hstate
    dsimp only
    split
    · exact (emit_read _ rfl rfl).trans (setState_read _ _)
    · split
      · exact setState_read _ _
      · exact (sendCloseStanza_read _).trans (setState_read _ _)

/-! ## The invariant -/

/-- Payloads and IQs after the stanzas `arrivals` have come in. -/
structure Reads (arrivals : List Arrival) (s : State) : Prop where
  content : emitted s.out ++ s.buffered = acceptedData arrivals
  answered : ∀ id, (answers s.out).count id + s.receivedStanzasNotAcked.count id =
    (receivedIqs arrivals).count id
  limit : s.buffered.length ≤ readBufferMaxSize
  -- an IQ waits only with its payload, in an open stream whose reading is blocked
  unblocked : s.readBlocked = false → s.readBuffer = none
  unbuffered : s.readBuffer = none → s.receivedStanzasNotAcked = []
  not_open : s.state ≠ .opened → s.receivedStanzasNotAcked = []

theorem Reads.new (b : ℕ+) (state : BytestreamState) : Reads [] (State.new b state) :=
  ⟨rfl, fun _ => rfl, Nat.zero_le _, fun _ => rfl, fun _ => rfl, fun _ => rfl⟩

variable {arrivals : List Arrival}

theorem Reads.of_read {s s' : State} (h : Reads arrivals s)
    (hread : SameRead s s') (hstate : s'.state ≠ .opened → s.state ≠ .opened) :
    Reads arrivals s' where
  content := by
    rw [hread.emitted, State.buffered, hread.readBuffer]
    exact h.content
  answered := by
    rw [hread.answers, hread.received]
    exact h.answered
  limit := by
    rw [State.buffered, hread.readBuffer]
    exact h.limit
  unblocked := by
    rw [hread.readBlocked, hread.readBuffer]
    exact h.unblocked
  unbuffered := by
    rw [hread.readBuffer, hread.received]
    exact h.unbuffered
  not_open := by
    rw [hread.received]
    exact fun hne => h.not_open (hstate hne)

theorem Reads.of_refuses {s s' : State} (h : Reads arrivals s)
    (hclose : Refuses s s') : Reads arrivals s' where
  content := by
    rw [hclose.emitted, State.buffered, hclose.readBuffer]
    exact h.content
  answered := by
    intro id
    rw [hclose.answers, hclose.received, List.count_append, List.count_reverse, List.count_nil,
      Nat.add_zero]
    exact h.answered id
  limit := by
    rw [State.buffered, hclose.readBuffer]
    exact h.limit
  unblocked := by
    rw [hclose.readBlocked, hclose.readBuffer]
    exact h.unblocked
  unbuffered := fun _ => hclose.received
  not_open := fun _ => hclose.received

theorem Reads.close (h : Reads arrivals s)
    (error : Option GError) : Reads arrivals (close s error) :=
  h.of_refuses (close_read error fun hc => h.not_open (by rw [hc]; decide))

theorem answer_emitted (s : State) (isIq : Bool) {effect : Effect}
    (he : emitted [effect] = []) : emitted (answer s isIq effect).out = emitted s.out := by
  unfold answer
  split
  · show emitted (s.out ++ [effect]) = _
    rw [emitted_append, he, List.append_nil]
  · rfl

theorem answer_answers (s : State) (isIq : Bool) {effect : Effect} {id : ℕ}
    (ha : answers [effect] = [id]) :
    answers (answer s isIq effect).out = answers s.out ++ if isIq then [id] else [] := by
  unfold answer
  split
  · show answers (s.out ++ [effect]) = _
    rw [answers_append, ha]
  · exact (List.append_nil _).symm

theorem answer_rest (s : State) (isIq : Bool) (effect : Effect) :
    (answer s isIq effect).readBuffer = s.readBuffer ∧
      (answer s isIq effect).readBlocked = s.readBlocked ∧
      (answer s isIq effect).receivedStanzasNotAcked = s.receivedStanzasNotAcked := by
  unfold answer
  split <;> exact ⟨rfl, rfl, rfl⟩

theorem receivedIqs_concat (arrivals : List Arrival) (a : Arrival) :
    receivedIqs (arrivals ++ [a]) = receivedIqs arrivals ++ if a.isIq then [a.id] else [] := by
  rw [receivedIqs_append]
  unfold receivedIqs
  cases hiq : a.isIq <;> simp [hiq]

theorem acceptedData_concat (arrivals : List Arrival) (a : Arrival) :
    acceptedData (arrivals ++ [a]) =
      acceptedData arrivals ++ if a.accepted then a.payload else [] := by
  rw [acceptedData_append]
  congr 1
  exact List.flatMap_singleton _ a

section

variable (h : Reads arrivals s)

include h

/-- A stanza that is refused as it comes in. -/
theorem Reads.refused (a : Arrival)
    {effect : Effect} (hrefused : a.accepted = false) (he : emitted [effect] = [])
    (ha : answers [effect] = [a.id]) : Reads (arrivals ++ [a]) (answer s a.isIq effect) := by
  obtain ⟨hbuffer, hblocked, hreceived⟩ := answer_rest s a.isIq effect
  constructor
  case content =>
    rw [answer_emitted s a.isIq he, State.buffered, hbuffer, acceptedData_concat, hrefused]
    exact h.content.trans (List.append_nil _).symm
  case answered =>
    intro id
    rw [answer_answers s a.isIq ha, hreceived, receivedIqs_concat, List.count_append,
      List.count_append, ← h.answered id]
    omega
  case limit =>
    rw [State.buffered, hbuffer]
    exact h.limit
  case unblocked =>
    rw [hblocked, hbuffer]
    exact h.unblocked
  case unbuffered =>
    rw [hbuffer, hreceived]
    exact h.unbuffered
  case not_open =>
    rw [answer_state, hreceived]
    exact h.not_open

/-- A stanza whose payload goes into the read buffer. -/
theorem Reads.buffers (a : Arrival) (hopen : s.state = .opened) (hblocked : s.readBlocked = true)
    (hlimit : s.buffered.length + a.payload.length ≤ readBufferMaxSize)
    (haccepted : a.accepted = true) :
    Reads (arrivals ++ [a]) { s with
      readBuffer := some (s.buffered ++ a.payload)
      receivedStanzasNotAcked :=
        if a.isIq then a.id :: s.receivedStanzasNotAcked else s.receivedStanzasNotAcked } where
  content := by
    rw [acceptedData_concat, haccepted, if_pos rfl, ← h.content, List.append_assoc]
    rfl
  answered := by
    intro id
    have hid := h.answered id
    rw [receivedIqs_concat, List.count_append, ← hid]
    dsimp only
    cases a.isIq with
    | false => rfl
    | true =>
      rw [if_pos rfl, if_pos rfl, List.count_cons, List.count_singleton]
      omega
  limit := by
    show (s.buffered ++ a.payload).length ≤ readBufferMaxSize
    rw [List.length_append]
    exact hlimit
  unblocked := fun hu => by cases hblocked.symm.trans hu
  unbuffered := fun hn => by cases hn
  not_open := fun hne => absurd hopen hne

/-- A stanza whose payload goes to the user at once. -/
theorem Reads.emits (a : Arrival)
    (hblocked : s.readBlocked = false) (haccepted : a.accepted = true) :
    Reads (arrivals ++ [a])
      (answer (emit s [.dataReceived a.payload]) a.isIq (.acknowledge (.data a.id))) := by
  obtain ⟨hbuffer, hblocked', hreceived⟩ :=
    answer_rest (emit s [.dataReceived a.payload]) a.isIq (.acknowledge (.data a.id))
  have hnone := h.unblocked hblocked
  have hempty : s.buffered = [] := by rw [State.buffered, hnone, Option.getD_none]
  have hcontent := h.content
  rw [hempty, List.append_nil] at hcontent
  constructor
  case content =>
    rw [answer_emitted _ a.isIq rfl, State.buffered, hbuffer, acceptedData_concat, haccepted,
      if_pos rfl, ← hcontent]
    show emitted (s.out ++ [_]) ++ s.buffered = _
    rw [hempty, List.append_nil, emitted_append]
    congr 1
    exact List.append_nil _
  case answered =>
    intro id
    rw [answer_answers _ a.isIq rfl, hreceived, receivedIqs_concat, List.count_append,
      List.count_append, ← h.answered id]
    show (answers (s.out ++ [_])).count id + _ + s.receivedStanzasNotAcked.count id = _
    rw [answers_append, show answers [Effect.dataReceived a.payload] = [] from rfl,
      List.append_nil]
    omega
  case limit =>
    rw [State.buffered, hbuffer]
    exact h.limit
  case unblocked =>
    rw [hblocked', hbuffer]
    exact h.unblocked
  case unbuffered =>
    rw [hbuffer, hreceived]
    exact h.unbuffered
  case not_open =>
    rw [answer_state, hreceived]
    exact h.not_open

theorem Reads.receive (id : ℕ) (content : Text) (isIq : Bool) :
    Reads (arrivals ++ arrival s (.receive id content isIq)) (receive s id content isIq) := by
  show Reads (arrivals ++ [⟨id, isIq, decode content, accepts s (decode content)⟩]) _
  unfold Ibb.receive accepts
  split
  · next hstate =>
    exact h.refused ⟨id, isIq, decode content, _⟩ (by simp [hstate]) rfl rfl
  · next hstate =>
    have hopen : s.state = .opened := not_not.mp hstate
    dsimp only
    split
    · next hblocked =>
      split
      · next hfull =>
        refine Reads.close ?_ none
        exact h.refused ⟨id, isIq, decode content, _⟩ (by simp [hblocked, hfull]) rfl rfl
      · next hfits =>
        exact h.buffers ⟨id, isIq, decode content, _⟩ hopen hblocked (Nat.not_lt.mp hfits)
          (by simp [hopen, Nat.not_lt.mp hfits])
    · next hblocked =>
      exact h.emits ⟨id, isIq, decode content, _⟩ (by simpa using hblocked)
        (by simp [hopen, hblocked])

theorem Reads.blockReading (block : Bool) : Reads arrivals (blockReading s block) := by
  unfold Ibb.blockReading
  split
  · exact h
  · next hchange =>
    dsimp only
    split
    · next buffer hbuffer =>
      have hbuffered : s.buffered = buffer := by
        rw [State.buffered, show s.readBuffer = some buffer from hbuffer, Option.getD_some]
      refine ⟨?_, ?_, Nat.zero_le _, fun _ => rfl, fun _ => rfl, fun _ => rfl⟩
      · show emitted (s.out ++ [_] ++ List.map _ _) ++ [] = _
        rw [emitted_append, emitted_append, emitted_acknowledges, List.append_nil,
          List.append_nil, ← h.content, hbuffered]
        congr 1
        exact List.append_nil _
      · intro id
        show (answers (s.out ++ [_] ++ List.map _ _)).count id + _ = _
        rw [answers_append, answers_append, answers_acknowledges,
          show answers [Effect.dataReceived buffer] = [] from rfl, List.append_nil,
          List.count_append, List.count_reverse]
        exact h.answered id
    · next hnot =>
      refine ⟨h.content, h.answered, h.limit, ?_, h.unbuffered, h.not_open⟩
      intro hunblocked
      -- without a buffer there is nothing to flush
      rcases hbuffer : s.readBuffer with - | buffer
      · rfl
      · exact absurd hunblocked (hnot buffer hbuffer)

end

/-- Traffic in which reading is not unblocked after the close while data waits
in the read buffer. -/
def NoLateRead (s : State) (e : Event) : Prop :=
  e.isTraffic = true ∧
    ¬ (e = .blockReading false ∧ s.state = .closed ∧ s.readBuffer.isSome = true)

instance (s : State) (e : Event) : Decidable (NoLateRead s e) :=
  inferInstanceAs (Decidable (_ ∧ ¬ (_ ∧ _ ∧ _)))

theorem Reads.step {s s' : State} {e : Event}
    (h : Reads arrivals s) (hkind : e.isTraffic = true) (hs : step s e = some s') :
    Reads (arrivals ++ arrival s e) s' := by
  have hother : Reads arrivals s' → Reads (arrivals ++ []) s' := by
    rw [List.append_nil]
    exact id
  cases step_traffic hkind hs with
  | send str => exact hother (h.of_read (send_read s str) (by rw [send_state]; exact id))
  | acked stanza =>
    refine hother (h.of_read (acked_read s stanza) ?_)
    rcases acked_state s stanza with hstate | ⟨hclosing, -⟩
    · rw [hstate]
      exact id
    · rw [hclosing]
      exact fun _ => by decide
  | refused stanza =>
    -- the stanza is forgotten, then the stream is closed
    refine hother (Reads.close (s := removeSent s stanza) ?_ none)
    exact ⟨h.content, h.answered, h.limit, h.unblocked, h.unbuffered, h.not_open⟩
  | close error => exact hother (h.close error)
  | closeReceived iq =>
    refine hother (Reads.close (s := { s with closeIqToAck := some iq }) ?_ none)
    exact ⟨h.content, h.answered, h.limit, h.unblocked, h.unbuffered, h.not_open⟩
  | receive id content isIq => exact h.receive id content isIq
  | blockReading block => exact hother (h.blockReading block)

/-! ## No data after the close -/

/-- A closed stream hands nothing over and stays closed. -/
theorem closed_emits_nothing {s s' : State} {e : Event} (hclosed : s.state = .closed)
    (hok : NoLateRead s e) (hs : step s e = some s') :
    s'.state = .closed ∧ emitted s'.out = emitted s.out := by
  obtain ⟨hkind, hlate⟩ := hok
  have hclose : ∀ t : State, t.state = .closed → ∀ error, close t error = t :=
    fun t ht error => if_pos ht
  cases step_traffic hkind hs with
  | send str => exact ⟨(send_state s str).trans hclosed, (send_read s str).emitted⟩
  | acked stanza =>
    refine ⟨?_, (acked_read s stanza).emitted⟩
    rcases acked_state s stanza with hstate | ⟨hclosing, -⟩
    · exact hstate.trans hclosed
    · cases hclosed.symm.trans hclosing
  | refused stanza =>
    have heq : iqReplyCb s stanza false = removeSent s stanza :=
      hclose (removeSent s stanza) hclosed none
    rw [heq]
    exact ⟨hclosed, rfl⟩
  | close error =>
    rw [hclose s hclosed]
    exact ⟨hclosed, rfl⟩
  | closeReceived iq =>
    rw [closeReceived, hclose { s with closeIqToAck := some iq } hclosed]
    exact ⟨hclosed, rfl⟩
  | receive id content isIq =>
    have hne : s.state ≠ .opened := by rw [hclosed]; decide
    rw [receive, if_pos hne]
    exact ⟨(answer_state s isIq _).trans hclosed, answer_emitted s isIq rfl⟩
  | blockReading block =>
    refine ⟨(blockReading_wire s block).2.trans hclosed, ?_⟩
    unfold blockReading
    split
    · rfl
    · next hchange =>
      dsimp only
      split
      · next buffer hbuffer =>
        refine absurd ⟨rfl, hclosed, ?_⟩ hlate
        rw [show s.readBuffer = some buffer from hbuffer]
        rfl
      · rfl

/-- What a receiving stream promises of the stanzas that came in. -/
structure Receives (arrivals : List Arrival) (s : State) : Prop where
  content : emitted s.out ++ s.buffered = acceptedData arrivals
  at_most_once : ∀ id, (answers s.out).count id ≤ (receivedIqs arrivals).count id
  answered : s.readBlocked = false ∨ s.state ≠ .opened →
    ∀ id, (answers s.out).count id = (receivedIqs arrivals).count id
  limit : s.buffered.length ≤ readBufferMaxSize

theorem Reads.receives (h : Reads arrivals s) :
    Receives arrivals s where
  content := h.content
  at_most_once := by
    intro id
    have := h.answered id
    omega
  answered := by
    intro hor id
    have hnil : s.receivedStanzasNotAcked = [] := by
      rcases hor with hunblocked | hne
      · exact h.unbuffered (h.unblocked hunblocked)
      · exact h.not_open hne
    rw [← h.answered id, hnil, List.count_nil, Nat.add_zero]
  limit := h.limit

/-- **Every data IQ is answered once and every payload is handed over once, in
order**; and, as long as reading is not unblocked after the close while data is
buffered, nothing is handed over after the close.  An IQ carries an id, without which it
cannot be answered. -/
theorem received_data_answered (b : ℕ+) (state : BytestreamState) (es : List Event) (s : State)
    (hadm : Admits NoLateRead step (State.new b state) es)
    (hrun : run step (State.new b state) es = some s) :
    Receives (collect step arrival (State.new b state) es) s ∧
      (s.state = .closed → ∀ es' s', Admits NoLateRead step s es' →
        run step s es' = some s' → s'.state = .closed ∧ emitted s'.out = emitted s.out) := by
  refine ⟨?_, ?_⟩
  · have hinv := run_collect_invariant (f := arrival) (I := Reads)
      (fun _ _ _ _ h hok hs => h.step hok.1 hs) es (Reads.new b state) hadm hrun
    rw [List.nil_append] at hinv
    exact hinv.receives
  · intro hclosed es' s' hadm' hrun'
    have hreach := reachable_of_run es' hadm' hrun'
    refine hreach.invariant (I := fun t => t.state = .closed ∧ emitted t.out = emitted s.out)
      ⟨hclosed, rfl⟩ ?_
    rintro t e t' ⟨ht, he⟩ hok hs
    obtain ⟨ht', he'⟩ := closed_emits_nothing ht hok hs
    exact ⟨ht', he'.trans he⟩

/-- One stanza read at once, one buffered, and the close while reading is
blocked. -/
def blockedRun : List Event :=
  [.receive 1 ['T', 'W', 'F', 'u'] true, .blockReading true,
    .receive 2 ['T', 'W', 'F', 'u'] true, .close none]

theorem received_data_answered_blockedRun :
    ∃ s, run step (State.new 1 .opened) blockedRun = some s ∧ s.state = .closed ∧
      answers s.out = [1, 2] ∧
      Receives (collect step arrival (State.new 1 .opened) blockedRun) s :=
  ⟨_, rfl, rfl, by decide, (received_data_answered 1 .opened blockedRun _ (by decide) rfl).1⟩

/-- The close leaves the read buffer, and unblocking hands it over. -/
theorem data_received_after_close :
    ∃ s s', run step (State.new 1 .opened) blockedRun = some s ∧ s.state = .closed ∧
      run step s [.blockReading false] = some s' ∧ s'.state = .closed ∧
      emitted s'.out ≠ emitted s.out :=
  ⟨_, _, rfl, rfl, rfl, rfl, by decide⟩

end Ibb
