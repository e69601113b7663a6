/-
# Reading in a SOCKS5 negotiation

What `transport_handler` makes of the bytes that were read, in each of the three
roles.  A negotiation has two messages to read.  `second` is the state after the
first of them was accepted, and `outcome` the state that the bytes read so far lead
to, for a way to tell what is made of the second message.
-/
import Gabble.BytestreamSocks5Messages

namespace Socks5

open Base64

variable {s : State} {t : Transport} {buffer : Bytes}

/-! ## Roles -/

/-- The roles in a negotiation: the target, connected to a streamhost; the initiator,
connected to a proxy; and the initiator, connected to the target. -/
inductive Role : Type where
  | target : Role
  | proxy : Role
  | initiator : Role
deriving DecidableEq

/-- The state in which the first message is awaited. -/
def Role.start : Role → Socks5State
  | .target => .targetAuthRequestSent
  | .proxy => .initiatorAuthRequestSent
  | .initiator => .initiatorAwaitingAuthRequest

/-- The state in which the second message is awaited. -/
def Role.awaiting : Role → Socks5State
  | .target => .targetConnectRequested
  | .proxy => .initiatorConnectRequested
  | .initiator => .initiatorAwaitingCommand

/-- What is made of the first message. -/
def Role.front : Role → Bytes → Verdict
  | .target | .proxy => authReply
  | .initiator => authRequest

/-- The header of the second message. -/
def Role.header : Role → Header
  | .target | .proxy => replyHeader
  | .initiator => commandHeader

theorem Role.prompt : ∀ role : Role, Prompt role.front
  | .target | .proxy => prompt_authReply
  | .initiator => prompt_authRequest

theorem Role.local_header : ∀ role : Role, Local role.header
  | .target | .proxy => local_replyHeader
  | .initiator => local_commandHeader

/-! ## Writing -/

/-- The buffer holds these bytes. -/
def holding (buffer : Bytes) (s : State) : State := { s with readBuffer := some buffer }

theorem holding_self (h : s.readBuffer = some buffer) :
    holding buffer s = s := by
  rw [holding, ← h]

/-- What becomes of the connection when something is written. -/
inductive Fate : Type where
  | kept : Fate
  | closed : Fate
  | broken : Fate
deriving DecidableEq

/-- What becomes of the connection with the next write: it breaks when the write
fails, and a stream that is about to be closed is when everything was written. -/
def fate (s : State) : Fate :=
  match s.transport with
  | none => .kept
  | some t =>
    if t.bufferEmpty then
      match s.writes.headD .whole with
      | .failed => .broken
      | .whole => if s.bytestreamState = .closing then .closed else .kept
      | .partly => .kept
    else .kept

theorem receives_iff :
    receives s = true ↔
      ∃ t, s.transport = some t ∧ t.phase = .connected ∧ t.receivingBlocked = false := by
  rw [receives, Option.any_eq_true]
  simp only [Bool.and_eq_true, decide_eq_true_eq, Bool.not_eq_true']

/-- What a write that keeps the connection leaves as it is. -/
structure Keeps (s s' : State) : Prop where
  receives : receives s' = true
  socks5State : s'.socks5State = s.socks5State
  bytestreamState : s'.bytestreamState = s.bytestreamState
  readBuffer : s'.readBuffer = s.readBuffer
  streamhosts : s'.streamhosts = s.streamhosts
  acknowledge : s'.msgForAcknowledgeConnection = s.msgForAcknowledgeConnection
  readBlocked : s'.readBlocked = s.readBlocked
  listener : s'.listener = s.listener
  timer : s'.timer = s.timer
  running : s'.aborted = s.aborted
  alive : s'.disposeHasRun = s.disposeHasRun
  streamId : s'.streamId = s.streamId
  peerJid : s'.peerJid = s.peerJid
  selfFullJid : s'.selfFullJid = s.selfFullJid
  notClosed : fate s' ≠ .closed

/-- The next write leaves nothing behind. -/
def writesAll (t : Transport) (s : State) : Bool :=
  t.bufferEmpty && s.writes.headD .whole = .whole

/-- The state after a write that keeps the connection. -/
def wrote (data : Bytes) (t : Transport) (s : State) : State :=
  { s with
    transport := some { t with bufferEmpty := writesAll t s }
    writes := if t.bufferEmpty then s.writes.tail else s.writes
    writeBlocked := s.writeBlocked && !writesAll t s
    out := s.out ++ .transportSend data ::
      if s.writeBlocked && writesAll t s then [.writeBlocked false] else [] }

/-- A write that keeps the connection writes something, or the stream is not about to
be closed. -/
theorem not_closing_of_kept (ht : s.transport = some t)
    (hfate : fate s = .kept) (hall : writesAll t s = true) : s.bytestreamState ≠ .closing := by
  intro hclosing
  rw [writesAll, Bool.and_eq_true, decide_eq_true_eq] at hall
  rw [fate, ht] at hfate
  dsimp only at hfate
  rw [if_pos hall.1, hall.2] at hfate
  dsimp only at hfate
  rw [if_pos hclosing] at hfate
  cases hfate

theorem write_kept (ht : s.transport = some t)
    (hphase : t.phase = .connected) (hfate : fate s = .kept) {data : Bytes} (hdata : data ≠ []) :
    writeToTransport data s = (wrote data t s, true) := by
  have hdata' : data.isEmpty = false := List.isEmpty_eq_false_iff.mpr hdata
  have hopen := not_closing_of_kept ht hfate
  rw [fate, ht] at hfate
  rw [writeToTransport, ht]
  dsimp only at hfate ⊢
  rw [if_neg (not_not.mpr hphase)]
  obtain ⟨phase, blocked, empty⟩ := t
  cases empty with
  | false => simp [wrote, writesAll, hdata', emit, ht]
  | true =>
    cases hw : s.writes.headD .whole with
    | failed =>
      rw [hw] at hfate
      cases hfate
    | whole =>
      have hopen' : s.bytestreamState ≠ .closing := by
        refine hopen ?_
        rw [writesAll, hw]
        rfl
      cases hb : s.writeBlocked with
      | false =>
        simp [wrote, writesAll, hw, emit, transportBufferEmptyCb, hopen', hb, ht,
          -List.headD_eq_head?_getD]
      | true =>
        simp [wrote, writesAll, hw, emit, transportBufferEmptyCb, changeWriteBlockedState,
          hopen', hb, ht, -List.headD_eq_head?_getD]
    | partly => simp [wrote, writesAll, hw, hdata', emit, -List.headD_eq_head?_getD]

/-- The state after a write that fails, before the stream is told. -/
def broke (data : Bytes) (t : Transport) (s : State) : State :=
  { s with
    transport := some { t with phase := .disconnected }
    writes := s.writes.tail
    out := s.out ++ [.transportSend data] }

theorem write_broken (ht : s.transport = some t)
    (hphase : t.phase = .connected) (hfate : fate s = .broken) (data : Bytes) :
    writeToTransport data s = (transportDisconnectedCb (broke data t s), false) := by
  rw [fate, ht] at hfate
  rw [writeToTransport, ht]
  dsimp only at hfate ⊢
  rw [if_neg (not_not.mpr hphase)]
  split at hfate
  case isTrue hempty =>
    rw [if_pos hempty]
    cases hw : s.writes.headD .whole with
    | failed => simp only [emit, hw, broke]
    | whole =>
      rw [hw] at hfate
      dsimp only at hfate
      split at hfate
      · cases hfate
      · cases hfate
    | partly =>
      rw [hw] at hfate
      cases hfate
  · cases hfate

/-- The state after everything was written on a stream that is about to be closed. -/
def drained (data : Bytes) (s : State) : State :=
  { s with writes := s.writes.tail, out := s.out ++ [.transportSend data] }

theorem write_closed (ht : s.transport = some t)
    (hphase : t.phase = .connected) (hfate : fate s = .closed) (data : Bytes) :
    writeToTransport data s = (bytestreamClosed (drained data s), true) := by
  rw [fate, ht] at hfate
  rw [writeToTransport, ht]
  dsimp only at hfate ⊢
  rw [if_neg (not_not.mpr hphase)]
  split at hfate
  case isTrue hempty =>
    rw [if_pos hempty]
    cases hw : s.writes.headD .whole with
    | failed =>
      rw [hw] at hfate
      cases hfate
    | whole =>
      rw [hw] at hfate
      dsimp only at hfate
      split at hfate
      case isTrue hclosing =>
        simp only [emit, hw, drained, transportBufferEmptyCb, hclosing, if_true]
      · cases hfate
    | partly =>
      rw [hw] at hfate
      cases hfate
  · cases hfate

theorem fate_wrote (ht : s.transport = some t)
    (hfate : fate s = .kept) (data : Bytes) : fate (wrote data t s) ≠ .closed := by
  cases hall : writesAll t s with
  | true =>
    have hopen : s.bytestreamState ≠ .closing := not_closing_of_kept ht hfate hall
    rw [fate]
    split
    · exact Fate.noConfusion
    · split
      · split
        · exact Fate.noConfusion
        · rw [if_neg (show (wrote data t s).bytestreamState ≠ .closing from hopen)]
          exact Fate.noConfusion
        · exact Fate.noConfusion
      · exact Fate.noConfusion
  | false =>
    rw [fate, wrote]
    dsimp only
    rw [hall, if_neg Bool.false_ne_true]
    exact Fate.noConfusion

theorem keeps_wrote (ht : s.transport = some t)
    (hphase : t.phase = .connected) (hblocked : t.receivingBlocked = false)
    (hfate : fate s = .kept) (data : Bytes) : Keeps s (wrote data t s) where
  receives := receives_iff.mpr ⟨_, rfl, hphase, hblocked⟩
  socks5State := rfl
  bytestreamState := rfl
  readBuffer := rfl
  streamhosts := rfl
  acknowledge := rfl
  readBlocked := rfl
  listener := rfl
  timer := rfl
  running := rfl
  alive := rfl
  streamId := rfl
  peerJid := rfl
  selfFullJid := rfl
  notClosed := fate_wrote ht hfate data

/-! ## The two messages -/

variable {role : Role}

section

variable (sha1Hex : Bytes → Bytes)

/-- The state in which a role waits for its first message, with an empty buffer. -/
structure Begins (role : Role) (s : State) : Prop where
  state : s.socks5State = role.start
  buffer : s.readBuffer = some []
  receives : receives s = true
  running : s.aborted = false
  alive : s.disposeHasRun = false
  timer : role ≠ .initiator → s.timer = false
  streamhosts : role = .target → s.streamhosts ≠ []
  acknowledge : role = .target → s.msgForAcknowledgeConnection ≠ none
  listener : role = .initiator → s.listener = true

/-- The state in which a role waits for its second message. -/
structure Awaits (role : Role) (s : State) : Prop where
  state : s.socks5State = role.awaiting
  transport : s.transport ≠ none
  running : s.aborted = false
  streamhosts : role = .target → s.streamhosts ≠ []
  acknowledge : role = .target → s.msgForAcknowledgeConnection ≠ none
  listener : role = .initiator → s.listener = true
  notClosed : role = .initiator → ∀ t, s.transport = some t → t.phase = .connected →
    fate s ≠ .closed

/-- What is done about the first message when it is accepted. -/
def second (role : Role) (s : State) : State :=
  match role with
  | .target | .proxy => sendConnectCommand sha1Hex s
  | .initiator =>
    { (writeToTransport [5, 0] s).1 with socks5State := .initiatorAwaitingCommand }

/-- What is done about the second message when it is accepted. -/
def accepts (role : Role) (s : State) (buffer : Bytes) (used : ℕ) : State × ℤ :=
  match role with
  | .target => (targetGotConnectReply (stopTimer s), used)
  | .proxy => (initiatorGotConnectReply (stopTimer s), used)
  | .initiator =>
    if checkDomain buffer (domain sha1Hex false s) then (sendConnectReply sha1Hex s, used)
    else (socks5Error (closeTransport s), -1)

theorem handleReceivedData_start (h : s.socks5State = role.start) (buffer : Bytes) :
    handleReceivedData sha1Hex s buffer =
      follow (role.front buffer) s fun used => (second sha1Hex role s, used) := by
  cases role with
  | target =>
    rw [handleReceivedData, h]
    rfl
  | proxy =>
    rw [handleReceivedData, h]
    rfl
  | initiator =>
    rw [handleReceivedData, h]
    rfl

theorem handleReceivedData_awaiting (h : s.socks5State = role.awaiting) (buffer : Bytes) :
    handleReceivedData sha1Hex s buffer =
      follow (message role.header buffer) s (accepts sha1Hex role s buffer) := by
  cases role with
  | target =>
    rw [handleReceivedData, h, Role.header, ← connectReply_eq]
    rfl
  | proxy =>
    rw [handleReceivedData, h, Role.header, ← connectReply_eq]
    rfl
  | initiator =>
    rw [handleReceivedData, h, Role.header, ← connectCommand_eq]
    rfl

/-- What a role writes when it accepts the first message. -/
def answer (role : Role) (s : State) : Bytes :=
  match role with
  | .target | .proxy =>
    connectMessage 1 (domain sha1Hex (s.socks5State = .targetAuthRequestSent) s)
  | .initiator => [5, 0]

theorem answer_ne_nil (role : Role) (s : State) : answer sha1Hex role s ≠ [] := by
  cases role with
  | target => exact List.cons_ne_nil _ _
  | proxy => exact List.cons_ne_nil _ _
  | initiator => exact List.cons_ne_nil _ _

/-- The second message is awaited when the connection is kept. -/
theorem second_kept (hs : s.socks5State = role.start)
    (ht : s.transport = some t) (hphase : t.phase = .connected)
    (htimer : role ≠ .initiator → s.timer = false) (hfate : fate s = .kept) :
    second sha1Hex role s =
      { wrote (answer sha1Hex role s) t s with
        socks5State := role.awaiting
        timer := s.timer || role ≠ .initiator } := by
  have hwrite := write_kept ht hphase hfate (answer_ne_nil sha1Hex role s)
  cases role with
  | target =>
    have hstate : s.socks5State = .targetAuthRequestSent := hs
    have hoff : s.timer = false := htimer Role.noConfusion
    rw [answer] at hwrite
    rw [second, sendConnectCommand]
    dsimp only
    rw [hwrite, answer]
    simp [startTimer, wrote, hstate, hoff, Role.awaiting]
  | proxy =>
    have hstate : s.socks5State = .initiatorAuthRequestSent := hs
    have hoff : s.timer = false := htimer Role.noConfusion
    rw [answer] at hwrite
    rw [second, sendConnectCommand]
    dsimp only
    rw [hwrite, answer]
    simp [startTimer, wrote, hstate, hoff, Role.awaiting]
  | initiator =>
    rw [answer] at hwrite
    rw [second]
    dsimp only
    rw [hwrite, answer]
    simp [wrote, Role.awaiting]

end

/-! ## Failures -/

/-- `socks5_error`, in the states of a role. -/
def fails (role : Role) (s : State) : State :=
  let s := { stopTimer s with socks5State := .error }
  match role with
  | .target => streamhostFailed s
  | .proxy => close none s
  | .initiator => s

theorem socks5Error_eq (h : s.socks5State = role.start ∨ s.socks5State = role.awaiting) :
    socks5Error s = fails role s := by
  cases role with
  | target =>
    rcases h with h | h
    · rw [socks5Error, h]
      rfl
    · rw [socks5Error, h]
      rfl
  | proxy =>
    rcases h with h | h
    · rw [socks5Error, h]
      rfl
    · rw [socks5Error, h]
      rfl
  | initiator =>
    rcases h with h | h
    · rw [socks5Error, h]
      rfl
    · rw [socks5Error, h]
      rfl

/-- Throw away what is in the buffer. -/
def erase (s : State) : State := { s with readBuffer := s.readBuffer.map fun _ => [] }

theorem setState_eq (state : Ibb.BytestreamState) (s : State) :
    setState state s =
      { s with
        bytestreamState := state
        registered := s.registered && (s.bytestreamState = state || state ≠ .closed)
        out := s.out ++ if s.bytestreamState = state then [] else [.stateChanged state] } := by
  rw [setState]
  split
  case isTrue h => simp [h.symm]
  case isFalse h => simp [emit, h]

/-- A failure does not depend on what is in the buffer. -/
theorem erase_fails (role : Role) (buffer : Bytes) (s : State) :
    erase (fails role (holding buffer s)) = fails role (holding [] s) := by
  cases role with
  | target =>
    rw [fails, fails]
    dsimp only [streamhostFailed, closeTransport, holding, stopTimer]
    cases s.streamhosts.tail with
    | nil =>
      dsimp only [noMoreStreamhosts, emit]
      cases s.msgForAcknowledgeConnection with
      | none => rfl
      | some iq => rfl
    | cons h rest => rfl
  | proxy =>
    rw [fails, fails]
    dsimp only [close, holding, stopTimer, decline, bytestreamClosed, closeTransport, emit]
    simp only [setState_eq]
    by_cases hclosed : s.bytestreamState = .closed
    · simp only [if_pos hclosed]
      rfl
    by_cases hpending : s.bytestreamState = .localPending
    · simp only [if_neg hclosed, if_pos hpending]
      rfl
    by_cases hbuffer : (s.transport.any fun t => !t.bufferEmpty) = true
    · simp only [if_neg hclosed, if_neg hpending, if_pos hbuffer]
      rfl
    · simp only [if_neg hclosed, if_neg hpending, if_neg hbuffer]
      rfl
  | initiator => rfl

/-- Closing the stream keeps the transport: something waits to be written, or the
stream is closed already, or it was only offered. -/
def lingers (s : State) : Bool :=
  s.bytestreamState = .closed || s.bytestreamState = .localPending ||
    s.transport.any fun t => !t.bufferEmpty

/-- What closing a stream does, when it keeps the transport and when it does not. -/
theorem close_cases (error : Option Ibb.GError) (s : State) :
    (lingers s = true ∧ ∃ state registered out, close error s =
      { s with bytestreamState := state, registered := registered, out := out }) ∨
    (lingers s = false ∧ ∃ registered out, close error s =
      { s with
        bytestreamState := .closed, registered := registered, out := out, transport := none,
        readBuffer := none }) := by
  simp only [close, lingers, decline, bytestreamClosed, closeTransport, emit, setState_eq]
  by_cases hclosed : s.bytestreamState = .closed
  · simp only [hclosed]
    exact .inl ⟨rfl, _, _, _, rfl⟩
  by_cases hpending : s.bytestreamState = .localPending
  · simp only [hpending]
    exact .inl ⟨rfl, _, _, _, rfl⟩
  by_cases hbuffer : (s.transport.any fun t => !t.bufferEmpty) = true
  · simp only [if_neg hclosed, if_neg hpending, hbuffer, Bool.or_true]
    exact .inl ⟨trivial, _, _, _, rfl⟩
  · simp only [hclosed, hpending, hbuffer]
    exact .inr ⟨rfl, _, _, rfl⟩

/-- What the failure of a streamhost leaves: the error, or the next streamhost, which
is tried with the query still to be answered. -/
structure GivesUp (s s' : State) : Prop where
  state : s'.socks5State = .error ∨
    s'.socks5State = .targetTryingConnect ∧ s'.streamhosts ≠ [] ∧
      s'.msgForAcknowledgeConnection = s.msgForAcknowledgeConnection
  timer : s'.timer = !s.streamhosts.tail.isEmpty
  receives : receives s' = false
  connected : (s'.transport.any fun t => t.phase = .connected) = false
  running : s.msgForAcknowledgeConnection ≠ none → s'.aborted = s.aborted
  listener : s'.listener = s.listener
  listening : s'.listening = s.listening

theorem fails_target (s : State) : GivesUp s (fails .target s) := by
  rw [fails]
  dsimp only [streamhostFailed, closeTransport, stopTimer]
  cases htail : s.streamhosts.tail with
  | nil =>
    have htimer : false = !s.streamhosts.tail.isEmpty := by
      rw [htail]
      rfl
    dsimp only [noMoreStreamhosts, emit]
    cases hmsg : s.msgForAcknowledgeConnection with
    | none => exact ⟨.inl rfl, htimer, rfl, rfl, fun h => absurd hmsg h, rfl, rfl⟩
    | some iq => exact ⟨.inl rfl, htimer, rfl, rfl, fun _ => rfl, rfl, rfl⟩
  | cons h rest =>
    have htimer : true = !s.streamhosts.tail.isEmpty := by
      rw [htail]
      rfl
    exact ⟨.inr ⟨rfl, List.cons_ne_nil _ _, rfl⟩, htimer, rfl, rfl, fun _ => rfl, rfl, rfl⟩

theorem fails_aborted (h : role = .target → s.msgForAcknowledgeConnection ≠ none) :
    (fails role s).aborted = s.aborted := by
  cases role with
  | target => exact (fails_target s).running (h rfl)
  | proxy =>
    rw [fails]
    rcases close_cases none { stopTimer s with socks5State := .error } with
      ⟨-, state, registered, out, hclose⟩ | ⟨-, registered, out, hclose⟩
    · rw [hclose]
      rfl
    · rw [hclose]
      rfl
  | initiator => rfl

/-- Whether there is still something to read after a failure. -/
def remains (role : Role) (s : State) : Bool :=
  match role with
  | .target => false
  | .proxy => lingers s
  | .initiator => true

theorem receives_fails (role : Role) (s : State) :
    receives (fails role s) = (receives s && remains role s) := by
  cases role with
  | target =>
    rw [remains, Bool.and_false]
    exact (fails_target s).receives
  | proxy =>
    rw [fails, remains]
    have hsame : lingers { stopTimer s with socks5State := .error } = lingers s := rfl
    rcases close_cases none { stopTimer s with socks5State := .error } with
      ⟨hkeep, state, registered, out, hclose⟩ | ⟨hkeep, registered, out, hclose⟩
    · rw [hclose, ← hsame, hkeep, Bool.and_true]
      rfl
    · rw [hclose, ← hsame, hkeep, Bool.and_false]
      rfl
  | initiator =>
    rw [fails, remains, Bool.and_true]
    rfl

/-- What a failure after which there is something to read leaves as it is. -/
theorem fails_of_remains (h : remains role s = true) :
    (fails role s).socks5State = .error ∧ (fails role s).readBuffer = s.readBuffer ∧
      (fails role s).disposeHasRun = s.disposeHasRun := by
  cases role with
  | target => cases h
  | proxy =>
    rw [fails]
    rcases close_cases none { stopTimer s with socks5State := .error } with
      ⟨-, state, registered, out, hclose⟩ | ⟨hkeep, -⟩
    · rw [hclose]
      exact ⟨rfl, rfl, rfl⟩
    · have hsame : lingers { stopTimer s with socks5State := .error } = lingers s := rfl
      rw [hsame, ← show remains .proxy s = lingers s from rfl, h] at hkeep
      cases hkeep
  | initiator => exact ⟨rfl, rfl, rfl⟩

/-! ## The loop -/

section

variable (sha1Hex : Bytes → Bytes)

/-- The end of a round of the loop, with what was used of the buffer. -/
def next (fuel : ℕ) (r : State × ℤ) : State :=
  if r.1.aborted then r.1
  else
    match r.1.readBuffer with
    | none => r.1
    | some buffer =>
      let rest := if r.2 < 0 then [] else buffer.drop r.2.toNat
      let s := { r.1 with readBuffer := some rest }
      if 0 < r.2 && !rest.isEmpty then readLoop sha1Hex fuel s else s

theorem readLoop_succ (fuel : ℕ) (buffer : Bytes) (s : State) :
    readLoop sha1Hex (fuel + 1) (holding buffer s) =
      next sha1Hex fuel (handleReceivedData sha1Hex (holding buffer s) buffer) := rfl

theorem next_aborted (fuel : ℕ) {r : State × ℤ} (h : r.1.aborted = true) :
    next sha1Hex fuel r = r.1 := by
  rw [next, if_pos h]

theorem next_gone (fuel : ℕ) {r : State × ℤ} (h : r.1.readBuffer = none) :
    next sha1Hex fuel r = r.1 := by
  rw [next, h]
  split
  · rfl
  · rfl

theorem next_wait (fuel : ℕ) (buffer : Bytes) (s : State) :
    next sha1Hex fuel (holding buffer s, 0) = holding buffer s := by
  rw [next]
  split
  · rfl
  · rfl

theorem next_refused (fuel : ℕ) (h : s.aborted = false) :
    next sha1Hex fuel (s, -1) = erase s := by
  rw [next, h, if_neg Bool.false_ne_true, erase]
  cases hbuffer : s.readBuffer with
  | none =>
    dsimp only [Option.map_none]
    rw [← hbuffer]
  | some buffer => rfl

/-- A message was used, and the loop goes on when something is left. -/
theorem next_used (fuel : ℕ) {used : ℕ} (h : s.aborted = false) (hused : 0 < used) :
    next sha1Hex fuel (holding buffer s, used) =
      if buffer.drop used = [] then holding [] s
      else readLoop sha1Hex fuel (holding (buffer.drop used) s) := by
  have hrunning : (holding buffer s).aborted = false := h
  have hnonneg : ¬ (used : ℤ) < 0 := by omega
  rw [next, hrunning, if_neg Bool.false_ne_true]
  dsimp only [holding]
  rw [if_neg hnonneg, Int.toNat_natCast, decide_eq_true (show (0 : ℤ) < used by omega),
    Bool.true_and]
  cases hrest : buffer.drop used with
  | nil => rfl
  | cons b rest => rfl

/-- Data that is received on a stream that is connected is handed to the user. -/
theorem readLoop_connected (fuel : ℕ) (hstate : s.socks5State = .connected)
    (hrunning : s.aborted = false) (hbuffer : buffer ≠ []) :
    readLoop sha1Hex (fuel + 1) (holding buffer s) = holding [] (deliver buffer s) := by
  have hhandle : handleReceivedData sha1Hex (holding buffer s) buffer =
      (holding buffer (deliver buffer s), ((buffer.length : ℕ) : ℤ)) := by
    rw [handleReceivedData, show (holding buffer s).socks5State = .connected from hstate]
    rfl
  have hrun : (deliver buffer s).aborted = false := hrunning
  rw [readLoop_succ, hhandle, next_used sha1Hex fuel hrun (List.length_pos_iff.mpr hbuffer),
    List.drop_length, if_pos rfl]

/-- What is received after an error is thrown away. -/
theorem readLoop_error (fuel : ℕ) (hstate : s.socks5State = .error)
    (hrunning : s.aborted = false) (hbuffer : buffer ≠ []) :
    readLoop sha1Hex (fuel + 1) (holding buffer s) = holding [] s := by
  have hhandle : handleReceivedData sha1Hex (holding buffer s) buffer =
      (holding buffer s, ((buffer.length : ℕ) : ℤ)) := by
    rw [handleReceivedData, show (holding buffer s).socks5State = .error from hstate]
  rw [readLoop_succ, hhandle, next_used sha1Hex fuel hrunning (List.length_pos_iff.mpr hbuffer),
    List.drop_length, if_pos rfl]

/-- Nothing may be received before the proxy has activated the stream. -/
theorem readLoop_activationSent (fuel : ℕ)
    (hstate : s.socks5State = .initiatorActivationSent) (buffer : Bytes) :
    readLoop sha1Hex (fuel + 1) (holding buffer s) = abort (holding buffer s) := by
  have hhandle : handleReceivedData sha1Hex (holding buffer s) buffer =
      (abort (holding buffer s), ((buffer.length : ℕ) : ℤ)) := by
    rw [handleReceivedData, show (holding buffer s).socks5State = .initiatorActivationSent from hstate]
  rw [readLoop_succ, hhandle, next_aborted sha1Hex fuel rfl]

/-! ## The second message -/

/-- The target has got the reply to its CONNECT command. -/
theorem targetGotConnectReply_spec (hs : Awaits .target s) :
    (∀ buffer, targetGotConnectReply (stopTimer (holding buffer s)) =
      holding buffer (targetGotConnectReply (stopTimer s))) ∧
    (targetGotConnectReply (stopTimer s)).socks5State = .connected ∧
    (targetGotConnectReply (stopTimer s)).aborted = false ∧
    (targetGotConnectReply (stopTimer s)).disposeHasRun = s.disposeHasRun ∧
    receives (targetGotConnectReply (stopTimer s)) = (receives s && !s.readBlocked) := by
  have hrunning := hs.running
  obtain ⟨t, ht⟩ := Option.ne_none_iff_exists'.mp hs.transport
  obtain ⟨h, rest, hstreamhosts⟩ := List.exists_cons_of_ne_nil (hs.streamhosts rfl)
  cases hblocked : s.readBlocked with
  | false =>
    simp [targetGotConnectReply, stopTimer, holding, setState_eq, hstreamhosts, emit, hblocked,
      hrunning, receives]
  | true =>
    simp [targetGotConnectReply, stopTimer, holding, setState_eq, hstreamhosts, emit, hblocked,
      hrunning, receives, blockReceiving, ht]

/-- The initiator has got the reply to its CONNECT command. -/
theorem initiatorGotConnectReply_spec (hs : Awaits .proxy s) :
    (∀ buffer, initiatorGotConnectReply (stopTimer (holding buffer s)) =
      holding buffer (initiatorGotConnectReply (stopTimer s))) ∧
    (initiatorGotConnectReply (stopTimer s)).socks5State = .initiatorActivationSent ∧
    (initiatorGotConnectReply (stopTimer s)).aborted = false ∧
    receives (initiatorGotConnectReply (stopTimer s)) = false := by
  have hrunning := hs.running
  obtain ⟨t, ht⟩ := Option.ne_none_iff_exists'.mp hs.transport
  simp [initiatorGotConnectReply, stopTimer, holding, emit, hrunning, receives, blockReceiving, ht]

/-- The initiator replies to the CONNECT command of the target. -/
theorem sendConnectReply_spec (hs : Awaits .initiator s)
    (ht : s.transport = some t) (hphase : t.phase = .connected) :
    (∀ buffer, sendConnectReply sha1Hex (holding buffer s) =
      holding buffer (sendConnectReply sha1Hex s)) ∧
    (sendConnectReply sha1Hex s).socks5State = .connected ∧
    (sendConnectReply sha1Hex s).aborted = false ∧
    receives (sendConnectReply sha1Hex s) = false := by
  have hrunning := hs.running
  have hlistener := hs.listener rfl
  have hstate : s.socks5State = .initiatorAwaitingCommand := hs.state
  have hdata : connectMessage 0 (domain sha1Hex false s) ≠ [] := List.cons_ne_nil _ _
  have hdomain : ∀ buffer, domain sha1Hex false (holding buffer s) = domain sha1Hex false s :=
    fun _ => rfl
  cases hfate : fate s with
  | kept =>
    have hwrite := write_kept ht hphase hfate hdata
    have hhold : ∀ buffer, writeToTransport (connectMessage 0 (domain sha1Hex false s))
        (holding buffer s) = (holding buffer (wrote _ t s), true) :=
      fun buffer => write_kept (s := holding buffer s) ht hphase hfate hdata
    refine ⟨fun buffer => ?_, ?_⟩
    · simp only [sendConnectReply, hdomain, hhold, hwrite]
      simp [wrote, blockReceiving, emit, holding, hlistener]
    · simp [sendConnectReply, hwrite, wrote, blockReceiving, emit, hlistener, hrunning, receives]
  | broken =>
    have hwrite := write_broken ht hphase hfate (connectMessage 0 (domain sha1Hex false s))
    have hhold : ∀ buffer, writeToTransport (connectMessage 0 (domain sha1Hex false s))
        (holding buffer s) = (transportDisconnectedCb (holding buffer (broke _ t s)), false) :=
      fun buffer => write_broken (s := holding buffer s) ht hphase hfate _
    refine ⟨fun buffer => ?_, ?_⟩
    · simp only [sendConnectReply, hdomain, hhold, hwrite]
      simp [broke, transportDisconnectedCb, socks5Error, stopTimer, hstate, blockReceiving, emit,
        holding, hlistener]
    · simp [sendConnectReply, hwrite, broke, transportDisconnectedCb, socks5Error, stopTimer,
        hstate, blockReceiving, emit, hlistener, hrunning, receives]
  | closed => exact absurd hfate (hs.notClosed rfl t ht hphase)

/-- The initiator cannot reply when the connection is broken. -/
theorem sendConnectReply_broken (ht : s.transport = some t) (hphase : t.phase ≠ .connected) :
    (sendConnectReply sha1Hex s).aborted = true ∧ receives (sendConnectReply sha1Hex s) = false := by
  have hwrite : writeToTransport (connectMessage 0 (domain sha1Hex false s)) s =
      (abort s, false) := by
    rw [writeToTransport, ht]
    exact if_pos hphase
  cases hlistener : s.listener with
  | false =>
    simp [sendConnectReply, hwrite, abort, blockReceiving, emit, ht, hlistener, receives]
  | true =>
    simp [sendConnectReply, hwrite, abort, blockReceiving, emit, ht, hlistener, receives]

/-- The state that a second message that is accepted leads to, with the data that was
read behind it. -/
def finish (role : Role) (s : State) (buffer : Bytes) (used : ℕ) : State :=
  match role with
  | .target => deliver (buffer.drop used) (holding [] (targetGotConnectReply (stopTimer s)))
  | .proxy =>
    let s := initiatorGotConnectReply (stopTimer s)
    if buffer.drop used = [] then holding [] s else abort (holding (buffer.drop used) s)
  | .initiator =>
    if checkDomain buffer (domain sha1Hex false s) then
      if (sendConnectReply sha1Hex s).aborted then sendConnectReply sha1Hex (holding buffer s)
      else deliver (buffer.drop used) (holding [] (sendConnectReply sha1Hex s))
    else fails .initiator (closeTransport s)

/-- The state that the bytes of a second message lead to. -/
def settled (verdict : Header → Bytes → Verdict) (role : Role) (s : State) (buffer : Bytes) :
    State :=
  match verdict role.header buffer with
  | .wait => holding buffer s
  | .refused => fails role (holding [] s)
  | .accepted used => finish sha1Hex role s buffer used

/-- Data behind an accepted message is handed to the user. -/
theorem next_connected (fuel : ℕ) (hstate : s.socks5State = .connected)
    (hrunning : s.aborted = false) (buffer : Bytes) {used : ℕ} (hused : 0 < used) :
    next sha1Hex (fuel + 1) (holding buffer s, used) =
      deliver (buffer.drop used) (holding [] s) := by
  rw [next_used sha1Hex _ hrunning hused]
  split
  case isTrue hrest =>
    rw [hrest, deliver, List.map_nil, List.append_nil]
  case isFalse hrest =>
    rw [readLoop_connected sha1Hex fuel hstate hrunning hrest]
    rfl

/-- A second message that is accepted. -/
theorem next_accepts (hs : Awaits role s) (fuel : ℕ) (buffer : Bytes)
    {used : ℕ} (hused : 0 < used) :
    next sha1Hex (fuel + 1) (accepts sha1Hex role (holding buffer s) buffer used) =
      finish sha1Hex role s buffer used := by
  cases role with
  | target =>
    obtain ⟨hhold, hstate, hrunning, -⟩ := targetGotConnectReply_spec hs
    rw [accepts, hhold]
    exact next_connected sha1Hex fuel hstate hrunning buffer hused
  | proxy =>
    obtain ⟨hhold, hstate, hrunning, -⟩ := initiatorGotConnectReply_spec hs
    rw [accepts, hhold, next_used sha1Hex _ hrunning hused,
      readLoop_activationSent sha1Hex fuel hstate]
    rfl
  | initiator =>
    obtain ⟨t, ht⟩ := Option.ne_none_iff_exists'.mp hs.transport
    rw [accepts, finish]
    have hdomain : domain sha1Hex false (holding buffer s) = domain sha1Hex false s := rfl
    rw [hdomain]
    by_cases hcheck : checkDomain buffer (domain sha1Hex false s) = true
    · rw [if_pos hcheck, if_pos hcheck]
      by_cases hphase : t.phase = .connected
      · obtain ⟨hhold, hstate, hrunning, -⟩ := sendConnectReply_spec sha1Hex hs ht hphase
        rw [hhold, hrunning, if_neg Bool.false_ne_true]
        exact next_connected sha1Hex fuel hstate hrunning buffer hused
      · obtain ⟨haborted, -⟩ := sendConnectReply_broken sha1Hex ht hphase
        obtain ⟨hheld, -⟩ := sendConnectReply_broken sha1Hex (s := holding buffer s) ht hphase
        rw [haborted, if_pos rfl]
        exact next_aborted sha1Hex _ hheld
    · have hstate : (closeTransport (holding buffer s)).socks5State = Role.initiator.awaiting :=
        hs.state
      rw [if_neg hcheck, if_neg hcheck, socks5Error_eq (.inr hstate)]
      exact next_gone sha1Hex _ rfl

theorem fails_running (hs : Awaits role s) (buffer : Bytes) :
    (fails role (holding buffer s)).aborted = false :=
  (fails_aborted (s := holding buffer s) hs.acknowledge).trans hs.running

/-- **The second message.**  The loop makes of it what `settled` says. -/
theorem readLoop_awaiting (hs : Awaits role s) (fuel : ℕ) (buffer : Bytes) :
    readLoop sha1Hex (fuel + 2) (holding buffer s) = settled sha1Hex message role s buffer := by
  rw [readLoop_succ, handleReceivedData_awaiting sha1Hex
    (show (holding buffer s).socks5State = role.awaiting from hs.state), settled]
  cases hverdict : message role.header buffer with
  | wait =>
    dsimp only [follow]
    exact next_wait sha1Hex _ buffer s
  | refused =>
    dsimp only [follow]
    have hrunning := fails_running hs buffer
    rw [socks5Error_eq (.inr (show (holding buffer s).socks5State = role.awaiting from hs.state)),
      next_refused sha1Hex _ hrunning, erase_fails]
  | accepted used =>
    dsimp only [follow]
    refine next_accepts sha1Hex hs fuel buffer ?_
    rcases message_eq role.header buffer with hwait | hideal
    · rw [hverdict] at hwait
      cases hwait
    · have hle := (ideal_accepted (hideal.symm.trans hverdict)).1
      rw [minLength] at hle
      omega

/-- The second message, with as many rounds as there are bytes. -/
theorem readLoop_length (hs : Awaits role s) (hbuffer : buffer ≠ []) :
    readLoop sha1Hex buffer.length (holding buffer s) = settled sha1Hex message role s buffer := by
  have hpos := List.length_pos_iff.mpr hbuffer
  by_cases hone : buffer.length = 1
  · have hwait : message role.header buffer = .wait := by
      rw [message, if_pos (by rw [minLength]; omega)]
    rw [hone, readLoop_succ, handleReceivedData_awaiting sha1Hex
      (show (holding buffer s).socks5State = role.awaiting from hs.state), settled, hwait]
    exact next_wait sha1Hex 0 buffer s
  · obtain ⟨fuel, hfuel⟩ : ∃ fuel, buffer.length = fuel + 2 := ⟨buffer.length - 2, by omega⟩
    rw [hfuel]
    exact readLoop_awaiting sha1Hex hs fuel buffer

/-- Whether there is still something to read after a verdict on the second message. -/
def stays (role : Role) (s : State) : Verdict → Bool
  | .wait => true
  | .refused => remains role s
  | .accepted _ => role = .target && !s.readBlocked

theorem receives_finish (hs : Awaits role s) (buffer : Bytes) (used : ℕ) :
    receives (finish sha1Hex role s buffer used) =
      (receives s && stays role s (.accepted used)) := by
  cases role with
  | target =>
    obtain ⟨-, -, -, -, hreceives⟩ := targetGotConnectReply_spec hs
    exact hreceives
  | proxy =>
    obtain ⟨-, -, -, hreceives⟩ := initiatorGotConnectReply_spec hs
    rw [finish, stays, decide_eq_false Role.noConfusion, Bool.false_and, Bool.and_false]
    split
    · exact hreceives
    · exact hreceives
  | initiator =>
    obtain ⟨t, ht⟩ := Option.ne_none_iff_exists'.mp hs.transport
    rw [finish, stays, decide_eq_false Role.noConfusion, Bool.false_and, Bool.and_false]
    split
    · by_cases hphase : t.phase = .connected
      · obtain ⟨-, -, hrunning, hreceives⟩ := sendConnectReply_spec sha1Hex hs ht hphase
        rw [hrunning, if_neg Bool.false_ne_true]
        exact hreceives
      · obtain ⟨haborted, -⟩ := sendConnectReply_broken sha1Hex ht hphase
        rw [haborted, if_pos rfl]
        exact (sendConnectReply_broken sha1Hex (s := holding buffer s) ht hphase).2
    · rfl

theorem receives_settled (hs : Awaits role s)
    (verdict : Header → Bytes → Verdict) (buffer : Bytes) :
    receives (settled sha1Hex verdict role s buffer) =
      (receives s && stays role s (verdict role.header buffer)) := by
  rw [settled]
  cases verdict role.header buffer with
  | wait =>
    rw [stays, Bool.and_true]
    rfl
  | refused => exact receives_fails role (holding [] s)
  | accepted used => exact receives_finish sha1Hex hs buffer used

/-- Whether the handler runs into an assertion when the second message is accepted. -/
theorem finish_aborted (hs : Awaits role s) (buffer : Bytes) (used : ℕ) :
    (finish sha1Hex role s buffer used).aborted =
      match role with
      | .target => false
      | .proxy => decide (used < buffer.length)
      | .initiator =>
        checkDomain buffer (domain sha1Hex false s) &&
          s.transport.any fun t => t.phase ≠ .connected := by
  cases role with
  | target =>
    obtain ⟨-, -, hrunning, -⟩ := targetGotConnectReply_spec hs
    exact hrunning
  | proxy =>
    obtain ⟨-, -, hrunning, -⟩ := initiatorGotConnectReply_spec hs
    rw [finish]
    dsimp only
    split
    case isTrue hrest =>
      have hle := List.drop_eq_nil_iff.mp hrest
      rw [decide_eq_false (by omega)]
      exact hrunning
    case isFalse hrest =>
      have hlt := mt List.drop_eq_nil_iff.mpr hrest
      rw [decide_eq_true (by omega)]
      rfl
  | initiator =>
    obtain ⟨t, ht⟩ := Option.ne_none_iff_exists'.mp hs.transport
    rw [finish, ht, Option.any_some]
    dsimp only
    split
    case isTrue hcheck =>
      rw [hcheck, Bool.true_and]
      by_cases hphase : t.phase = .connected
      · obtain ⟨-, -, hrunning, -⟩ := sendConnectReply_spec sha1Hex hs ht hphase
        rw [hrunning, if_neg Bool.false_ne_true, decide_eq_false (not_not.mpr hphase)]
        exact hrunning
      · obtain ⟨haborted, -⟩ := sendConnectReply_broken sha1Hex ht hphase
        rw [haborted, if_pos rfl, decide_eq_true hphase]
        exact (sendConnectReply_broken sha1Hex (s := holding buffer s) ht hphase).1
    case isFalse hcheck =>
      rw [eq_false_of_ne_true hcheck, Bool.false_and]
      exact hs.running

end

end Socks5
