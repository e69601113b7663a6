/-
# What a SOCKS5 negotiation comes to

`outcome` is the state that the bytes which were read so far lead to, if they come
in one read.  When they come in several, the state is that one, or the one they
would lead to byte by byte: this is `After`, and every read keeps it.
-/
import Gabble.BytestreamSocks5Read
import Gabble.Transition

namespace Socks5

open Base64 Transition

variable {s : State} {role : Role} {buffer data : Bytes} {verdict : Header → Bytes → Verdict}

section

variable (sha1Hex : Bytes → Bytes)

/-! ## The first message -/

/-- The handler has still a buffer when it has written its answer to the first
message. -/
def goesOn (role : Role) (s : State) : Bool :=
  match role with
  | .target => fate s = .kept
  | .proxy =>
    fate s = .kept || fate s = .broken &&
      (s.bytestreamState = .closed || s.bytestreamState = .localPending)
  | .initiator => fate s ≠ .closed

theorem goesOn_of_kept (role : Role) (h : fate s = .kept) : goesOn role s = true := by
  cases role with
  | target => exact decide_eq_true h
  | proxy =>
    rw [goesOn, decide_eq_true h]
    rfl
  | initiator =>
    rw [goesOn, h]
    rfl

/-- What follows the answer to the first message. -/
structure Goes (role : Role) (s : State) : Prop where
  holding : ∀ buffer, second sha1Hex role (holding buffer s) =
    Socks5.holding buffer (second sha1Hex role s)
  awaits : Awaits role (second sha1Hex role s)
  receives : receives (second sha1Hex role s) = decide (fate s = .kept)
  gone : fate s = .broken →
    ((second sha1Hex role s).transport.any fun t => t.phase = .connected) = false

/-- The connection is kept. -/
theorem goes_kept (hs : Begins role s) (hfate : fate s = .kept) :
    Goes sha1Hex role s := by
  obtain ⟨t, ht, hphase, hblocked⟩ := receives_iff.mp hs.receives
  have hsecond := second_kept sha1Hex hs.state ht hphase hs.timer hfate
  have hkeeps := keeps_wrote ht hphase hblocked hfate (answer sha1Hex role s)
  refine ⟨fun buffer => ?_, ?_, ?_, fun h => Fate.noConfusion (hfate.symm.trans h)⟩
  · have hheld := second_kept sha1Hex (s := holding buffer s) hs.state ht hphase hs.timer hfate
    rw [hheld, hsecond]
    rfl
  · rw [hsecond]
    exact ⟨rfl, Option.some_ne_none _, hs.running, hs.streamhosts, hs.acknowledge, hs.listener,
      fun _ _ _ _ => hkeeps.notClosed⟩
  · rw [hsecond, hfate]
    exact hkeeps.receives

/-- The connection to the target breaks: the initiator does not notice. -/
theorem goes_initiator (hs : Begins .initiator s) (hfate : fate s = .broken) :
    Goes sha1Hex .initiator s := by
  obtain ⟨t, ht, hphase, -⟩ := receives_iff.mp hs.receives
  have hstate : s.socks5State = .initiatorAwaitingAuthRequest := hs.state
  have hsecond : ∀ buffer, second sha1Hex .initiator (holding buffer s) =
      { broke [5, 0] t (holding buffer s) with
        socks5State := .initiatorAwaitingCommand, timer := false } := by
    intro buffer
    rw [second, write_broken (s := holding buffer s) ht hphase hfate]
    simp [transportDisconnectedCb, socks5Error, stopTimer, broke, holding, hstate]
  have hself : second sha1Hex .initiator s =
      { broke [5, 0] t s with socks5State := .initiatorAwaitingCommand, timer := false } := by
    rw [second, write_broken ht hphase hfate]
    simp [transportDisconnectedCb, socks5Error, stopTimer, broke, hstate]
  refine ⟨fun buffer => ?_, ?_, ?_, fun _ => by rw [hself]; rfl⟩
  · rw [hsecond, hself]
    rfl
  · rw [hself]
    refine ⟨rfl, Option.some_ne_none _, hs.running, Role.noConfusion, Role.noConfusion, hs.listener,
      fun _ t' ht' hphase' => ?_⟩
    cases ht'
    cases hphase'
  · rw [hself, hfate]
    rfl

theorem write_broken_holding {t : Transport} (ht : s.transport = some t)
    (hphase : t.phase = .connected) (hfate : fate s = .broken) (buffer data : Bytes) :
    writeToTransport data (holding buffer s) =
      (transportDisconnectedCb (holding buffer (broke data t s)), false) :=
  write_broken (s := holding buffer s) ht hphase hfate data

/-- The domain does not depend on the buffer. -/
theorem domain_holding (buffer : Bytes) :
    domain sha1Hex ((holding buffer s).socks5State = .targetAuthRequestSent) (holding buffer s) =
      domain sha1Hex (s.socks5State = .targetAuthRequestSent) s := rfl

/-- The connection to the proxy breaks, on a stream that is closed already or was only
offered. -/
theorem goes_proxy (hs : Begins .proxy s) (hfate : fate s = .broken)
    (hstate : s.bytestreamState = .closed ∨ s.bytestreamState = .localPending) :
    Goes sha1Hex .proxy s := by
  obtain ⟨t, ht, hphase, -⟩ := receives_iff.mp hs.receives
  have hstart : s.socks5State = .initiatorAuthRequestSent := hs.state
  have hwrite := write_broken ht hphase hfate
  have hheld := write_broken_holding ht hphase hfate
  have hrunning := hs.running
  rcases hstate with hclosed | hpending
  · refine ⟨fun buffer => ?_, ⟨?_, ?_, ?_, Role.noConfusion, Role.noConfusion, Role.noConfusion,
      Role.noConfusion⟩, ?_, fun _ => ?_⟩
    · simp only [second, sendConnectCommand, domain_holding, hheld, hwrite]
      simp [transportDisconnectedCb, socks5Error, stopTimer, broke, holding, hstart, close, hclosed,
        startTimer]
    all_goals
      simp [second, sendConnectCommand, hwrite, transportDisconnectedCb, socks5Error, stopTimer,
        broke, hstart, close, hclosed, startTimer, Role.awaiting, hrunning, receives, hfate]
  · refine ⟨fun buffer => ?_, ⟨?_, ?_, ?_, Role.noConfusion, Role.noConfusion, Role.noConfusion,
      Role.noConfusion⟩, ?_, fun _ => ?_⟩
    · simp only [second, sendConnectCommand, domain_holding, hheld, hwrite]
      simp [transportDisconnectedCb, socks5Error, stopTimer, broke, holding, hstart, close, hpending,
        decline, setState_eq, emit, startTimer]
    all_goals
      simp [second, sendConnectCommand, hwrite, transportDisconnectedCb, socks5Error, stopTimer,
        broke, hstart, close, hpending, decline, setState_eq, emit, startTimer, Role.awaiting,
        hrunning, receives, hfate]

theorem goes_of_goesOn (hs : Begins role s) (h : goesOn role s = true) :
    Goes sha1Hex role s := by
  cases hfate : fate s with
  | kept => exact goes_kept sha1Hex hs hfate
  | closed =>
    cases role with
    | target => simp [goesOn, hfate] at h
    | proxy => simp [goesOn, hfate] at h
    | initiator => simp [goesOn, hfate] at h
  | broken =>
    cases role with
    | target => simp [goesOn, hfate] at h
    | proxy =>
      refine goes_proxy sha1Hex hs hfate ?_
      simpa [goesOn, hfate] using h
    | initiator => exact goes_initiator sha1Hex hs hfate

/-- The handler stops after its answer to the first message. -/
structure Stops (role : Role) (s : State) : Prop where
  holding : ∀ buffer, second sha1Hex role (holding buffer s) = second sha1Hex role s
  done : (second sha1Hex role s).aborted = true ∨ (second sha1Hex role s).readBuffer = none
  receives : receives (second sha1Hex role s) = false
  aborted : (second sha1Hex role s).aborted =
    decide (role = .target ∧ fate s = .broken ∧ 2 ≤ s.streamhosts.length)

/-- A stream that is about to be closed is. -/
theorem stops_closed (hs : Begins role s) (hfate : fate s = .closed) :
    Stops sha1Hex role s := by
  obtain ⟨t, ht, hphase, -⟩ := receives_iff.mp hs.receives
  have hwrite := write_closed ht hphase hfate
  have hheld : ∀ buffer data, writeToTransport data (holding buffer s) =
      (bytestreamClosed (holding buffer (drained data s)), true) :=
    fun buffer data => write_closed (s := holding buffer s) ht hphase hfate data
  have hrunning := hs.running
  cases role with
  | initiator =>
    refine ⟨fun buffer => ?_, .inr ?_, ?_, ?_⟩
    · simp only [second, hheld, hwrite]
      simp [bytestreamClosed, closeTransport, setState_eq, drained, holding]
    all_goals
      simp [second, hwrite, bytestreamClosed, closeTransport, setState_eq, drained, receives,
        hrunning]
  | target | proxy =>
    have htimer := hs.timer Role.noConfusion
    refine ⟨fun buffer => ?_, .inr ?_, ?_, ?_⟩
    · simp only [second, sendConnectCommand, domain_holding, hheld, hwrite]
      simp [bytestreamClosed, closeTransport, setState_eq, drained, holding, startTimer, htimer]
    all_goals
      simp [second, sendConnectCommand, hwrite, bytestreamClosed, closeTransport, setState_eq,
        drained, receives, startTimer, htimer, hrunning, hfate]

/-- The connection to the streamhost breaks.  The next one is tried at once, and the
timer for its connection is running when the one for the reply is started. -/
theorem stops_target (hs : Begins .target s) (hfate : fate s = .broken) :
    Stops sha1Hex .target s := by
  obtain ⟨t, ht, hphase, -⟩ := receives_iff.mp hs.receives
  have hstart : s.socks5State = .targetAuthRequestSent := hs.state
  have hwrite := write_broken ht hphase hfate
  have hheld := write_broken_holding ht hphase hfate
  have hrunning := hs.running
  obtain ⟨iq, hiq⟩ := Option.ne_none_iff_exists'.mp (hs.acknowledge rfl)
  obtain ⟨h, rest, hstreamhosts⟩ := List.exists_cons_of_ne_nil (hs.streamhosts rfl)
  cases rest with
  | nil =>
    refine ⟨fun buffer => ?_, .inr ?_, ?_, ?_⟩
    · simp only [second, sendConnectCommand, domain_holding, hheld, hwrite]
      simp [transportDisconnectedCb, socks5Error, stopTimer, broke, holding, hstart,
        streamhostFailed, closeTransport, hstreamhosts, noMoreStreamhosts, emit, hiq, startTimer]
    all_goals
      simp [second, sendConnectCommand, hwrite, transportDisconnectedCb, socks5Error, stopTimer,
        broke, hstart, streamhostFailed, closeTransport, hstreamhosts, noMoreStreamhosts, emit,
        hiq, startTimer, receives, hrunning]
  | cons h' rest =>
    refine ⟨fun buffer => ?_, .inl ?_, ?_, ?_⟩
    · simp only [second, sendConnectCommand, domain_holding, hheld, hwrite]
      simp [transportDisconnectedCb, socks5Error, stopTimer, broke, holding, hstart,
        streamhostFailed, closeTransport, hstreamhosts, tryStreamhost, setTransport, emit,
        startTimer]
    all_goals
      simp [second, sendConnectCommand, hwrite, transportDisconnectedCb, socks5Error, stopTimer,
        broke, hstart, streamhostFailed, closeTransport, hstreamhosts, tryStreamhost,
        setTransport, emit, startTimer, abort, receives, hfate]

/-- The connection to the proxy breaks, and the stream is closed. -/
theorem stops_proxy (hs : Begins .proxy s) (hfate : fate s = .broken)
    (hclosed : s.bytestreamState ≠ .closed) (hpending : s.bytestreamState ≠ .localPending) :
    Stops sha1Hex .proxy s := by
  obtain ⟨t, ht, hphase, -⟩ := receives_iff.mp hs.receives
  have hstart : s.socks5State = .initiatorAuthRequestSent := hs.state
  have hempty : t.bufferEmpty = true := by
    rw [fate, ht] at hfate
    dsimp only at hfate
    split at hfate
    case isTrue h => exact h
    · cases hfate
  have hwrite := write_broken ht hphase hfate
  have hheld := write_broken_holding ht hphase hfate
  have hrunning := hs.running
  refine ⟨fun buffer => ?_, .inr ?_, ?_, ?_⟩
  · simp only [second, sendConnectCommand, domain_holding, hheld, hwrite]
    simp [transportDisconnectedCb, socks5Error, stopTimer, broke, holding, hstart, close, hclosed,
      hpending, setState_eq, hempty, bytestreamClosed, closeTransport, startTimer]
  all_goals
    simp [second, sendConnectCommand, hwrite, transportDisconnectedCb, socks5Error, stopTimer,
      broke, hstart, close, hclosed, hpending, setState_eq, hempty, bytestreamClosed,
      closeTransport, startTimer, receives, hrunning]

theorem stops_of_not_goesOn (hs : Begins role s)
    (h : goesOn role s = false) : Stops sha1Hex role s := by
  cases hfate : fate s with
  | kept =>
    rw [goesOn_of_kept role hfate] at h
    cases h
  | closed => exact stops_closed sha1Hex hs hfate
  | broken =>
    cases role with
    | target => exact stops_target sha1Hex hs hfate
    | proxy =>
      simp only [goesOn, hfate, reduceCtorEq, decide_false, decide_true, Bool.false_or,
        Bool.true_and, Bool.or_eq_false_iff, decide_eq_false_iff_not] at h
      exact stops_proxy sha1Hex hs hfate h.1 h.2
    | initiator => simp [goesOn, hfate] at h

/-! ## The outcome -/

/-- The state that the bytes which were read lead to, with a way to tell what is made
of the second message. -/
def outcome (verdict : Header → Bytes → Verdict) (role : Role) (s : State) (buffer : Bytes) :
    State :=
  match role.front buffer with
  | .wait => holding buffer s
  | .refused => fails role (holding [] s)
  | .accepted used =>
    if goesOn role s then settled sha1Hex verdict role (second sha1Hex role s) (buffer.drop used)
    else second sha1Hex role s

/-- **One read.**  The loop makes of the bytes what `outcome` says. -/
theorem readLoop_start (hs : Begins role s) (hbuffer : buffer ≠ []) :
    readLoop sha1Hex buffer.length (holding buffer s) = outcome sha1Hex message role s buffer := by
  obtain ⟨fuel, hfuel⟩ : ∃ fuel, buffer.length = fuel + 1 :=
    Nat.exists_eq_add_one_of_ne_zero (List.length_pos_iff.mpr hbuffer).ne'
  rw [hfuel, readLoop_succ, handleReceivedData_start sha1Hex
    (show (holding buffer s).socks5State = role.start from hs.state), outcome]
  cases hfront : role.front buffer with
  | wait =>
    dsimp only [follow]
    exact next_wait sha1Hex fuel buffer s
  | refused =>
    dsimp only [follow]
    have hrunning := (fails_aborted (s := holding buffer s) hs.acknowledge).trans hs.running
    rw [socks5Error_eq (.inl (show (holding buffer s).socks5State = role.start from hs.state)),
      next_refused sha1Hex fuel hrunning, erase_fails]
  | accepted used =>
    dsimp only [follow]
    obtain ⟨hused, hle⟩ := role.prompt.used hfront
    split
    case isTrue h =>
      obtain ⟨hhold, hawaits, -, -⟩ := goes_of_goesOn sha1Hex hs h
      rw [hhold, next_used sha1Hex fuel hawaits.running (by omega)]
      split
      case isTrue hrest =>
        rw [hrest, settled]
        rfl
      case isFalse hrest =>
        -- at least three bytes were read
        have hpos := List.length_pos_iff.mpr hrest
        rw [List.length_drop] at hpos
        obtain ⟨fuel', rfl⟩ : ∃ fuel', fuel = fuel' + 2 := ⟨fuel - 2, by omega⟩
        exact readLoop_awaiting sha1Hex hawaits fuel' _
    case isFalse h =>
      obtain ⟨hhold, hdone, -⟩ := stops_of_not_goesOn sha1Hex hs (Bool.not_eq_true _ ▸ h)
      rw [hhold]
      rcases hdone with haborted | hgone
      · exact next_aborted sha1Hex fuel haborted
      · exact next_gone sha1Hex fuel hgone

/-! ## Assertions -/

/-- The bytes, which may come in any number of reads, make the handler run into an
assertion: the target cannot write its command and has another streamhost to try;
the proxy sends more than its reply; the initiator cannot write its answer and finds
the command it would reply to in the buffer. -/
def crashes (role : Role) (s : State) (buffer : Bytes) : Bool :=
  match role.front buffer with
  | .wait | .refused => false
  | .accepted used =>
    match role with
    | .target => fate s = .broken && 2 ≤ s.streamhosts.length
    | .proxy =>
      goesOn .proxy s &&
        match connectReply (buffer.drop used) with
        | .wait | .refused => false
        | .accepted used' => used' < (buffer.drop used).length
    | .initiator =>
      fate s = .broken &&
        match connectCommand (buffer.drop used) with
        | .wait | .refused => false
        | .accepted _ => checkDomain (buffer.drop used) (domain sha1Hex false s)

/-- The answer to the first message does not change who the stream is with. -/
theorem second_domain (hs : Begins .initiator s) (h : goesOn .initiator s = true) :
    domain sha1Hex false (second sha1Hex .initiator s) = domain sha1Hex false s ∧
      ((second sha1Hex .initiator s).transport.any fun t => t.phase ≠ .connected) =
        decide (fate s = .broken) := by
  obtain ⟨t, ht, hphase, -⟩ := receives_iff.mp hs.receives
  have hstate : s.socks5State = .initiatorAwaitingAuthRequest := hs.state
  cases hfate : fate s with
  | kept =>
    rw [second_kept sha1Hex hs.state ht hphase hs.timer hfate]
    refine ⟨rfl, ?_⟩
    simp [wrote, hphase]
  | broken =>
    rw [second, write_broken ht hphase hfate]
    simp [transportDisconnectedCb, socks5Error, stopTimer, broke, hstate, domain]
  | closed => simp [goesOn, hfate] at h

/-- What `outcome` says about the assertions, when the handler goes on. -/
theorem settled_aborted (hs : Begins role s) (h : goesOn role s = true)
    {used : ℕ} (hfront : role.front buffer = .accepted used) :
    (settled sha1Hex message role (second sha1Hex role s) (buffer.drop used)).aborted =
      crashes sha1Hex role s buffer := by
  obtain ⟨-, hawaits, -⟩ := goes_of_goesOn sha1Hex hs h
  rw [settled, crashes, hfront]
  dsimp only
  cases role with
  | target =>
    have hfate : fate s = .kept := of_decide_eq_true h
    rw [hfate, decide_eq_false Fate.noConfusion, Bool.false_and]
    cases message Role.target.header (buffer.drop used) with
    | wait => exact hawaits.running
    | refused => exact fails_running hawaits []
    | accepted used' => exact finish_aborted sha1Hex hawaits _ used'
  | proxy =>
    rw [h, Bool.true_and, connectReply_eq, Role.header]
    cases message replyHeader (buffer.drop used) with
    | wait => exact hawaits.running
    | refused => exact fails_running hawaits []
    | accepted used' => exact finish_aborted sha1Hex hawaits _ used'
  | initiator =>
    obtain ⟨hdomain, hbroken⟩ := second_domain sha1Hex hs h
    rw [connectCommand_eq, Role.header]
    cases message commandHeader (buffer.drop used) with
    | wait =>
      rw [Bool.and_false]
      exact hawaits.running
    | refused =>
      rw [Bool.and_false]
      exact fails_running hawaits []
    | accepted used' =>
      have haborted := finish_aborted sha1Hex hawaits (buffer.drop used) used'
      rw [hdomain, hbroken] at haborted
      exact haborted.trans (Bool.and_comm _ _)

theorem outcome_aborted (hs : Begins role s) (buffer : Bytes) :
    (outcome sha1Hex message role s buffer).aborted = crashes sha1Hex role s buffer := by
  rw [outcome]
  cases hfront : role.front buffer with
  | wait =>
    rw [crashes, hfront]
    exact hs.running
  | refused =>
    rw [crashes, hfront]
    exact (fails_aborted (s := holding [] s) hs.acknowledge).trans hs.running
  | accepted used =>
    dsimp only
    split
    case isTrue h => exact settled_aborted sha1Hex hs h hfront
    case isFalse h =>
      have hstops := stops_of_not_goesOn sha1Hex hs (eq_false_of_ne_true h)
      rw [hstops.aborted, crashes, hfront]
      dsimp only
      cases role with
      | target =>
        simp only [true_and, Bool.decide_and]
      | proxy =>
        rw [eq_false_of_ne_true h, Bool.false_and]
        exact decide_eq_false fun hp => Role.noConfusion hp.1
      | initiator =>
        have hfate : fate s = .closed := by simpa [goesOn] using h
        rw [hfate]
        exact decide_eq_false fun hp => Role.noConfusion hp.1

/-! ## Several reads -/

/-- What the bytes read so far have led to, in one of the ways to read them. -/
def After (role : Role) (s : State) (buffer : Bytes) (s' : State) : Prop :=
  s' = outcome sha1Hex message role s buffer ∨
    s' = outcome sha1Hex ideal role s buffer ∧ receives s' = true

/-- A verdict on the second message, by the code or byte by byte. -/
def Tells (verdict : Header → Bytes → Verdict) : Prop := verdict = message ∨ verdict = ideal

/-- A message that is not waited for is decided for good. -/
theorem ideal_of_tells (h : Tells verdict) {header : Header} (hne : verdict header buffer ≠ .wait) :
    ideal header buffer = verdict header buffer := by
  rcases h with rfl | rfl
  · rcases message_eq header buffer with hwait | hideal
    · exact absurd hwait hne
    · exact hideal.symm
  · rfl

theorem transportHandler_eq (h : s.readBuffer = some buffer) (data : Bytes) :
    transportHandler sha1Hex data s =
      readLoop sha1Hex (buffer ++ data).length (holding (buffer ++ data) s) := by
  rw [transportHandler, h]
  rfl

/-- After an error, with an empty buffer, nothing that is read matters. -/
theorem transportHandler_error (hstate : s.socks5State = .error)
    (hrunning : s.aborted = false) (hbuffer : s.readBuffer = some [])
    (hdata : data ≠ []) : transportHandler sha1Hex data s = s := by
  obtain ⟨fuel, hfuel⟩ : ∃ fuel, data.length = fuel + 1 :=
    Nat.exists_eq_add_one_of_ne_zero (List.length_pos_iff.mpr hdata).ne'
  rw [transportHandler_eq sha1Hex hbuffer, List.nil_append, hfuel,
    readLoop_error sha1Hex fuel hstate hrunning hdata, holding_self hbuffer]

/-- On a stream that is connected, what is read is handed to the user. -/
theorem transportHandler_connected (hstate : s.socks5State = .connected)
    (hrunning : s.aborted = false) (hbuffer : s.readBuffer = some [])
    (hdata : data ≠ []) : transportHandler sha1Hex data s = deliver data s := by
  obtain ⟨fuel, hfuel⟩ : ∃ fuel, data.length = fuel + 1 :=
    Nat.exists_eq_add_one_of_ne_zero (List.length_pos_iff.mpr hdata).ne'
  have hsame : (deliver data s).readBuffer = some [] := hbuffer
  rw [transportHandler_eq sha1Hex hbuffer, List.nil_append, hfuel,
    readLoop_connected sha1Hex fuel hstate hrunning hdata, holding_self hsame]

/-- The connection was kept when there is something to read behind the first message. -/
theorem kept_of_receives (hs : Begins role s) {used : ℕ}
    (hfront : role.front buffer = .accepted used)
    (h : receives (outcome sha1Hex verdict role s buffer) = true) :
    fate s = .kept ∧ outcome sha1Hex verdict role s buffer =
      settled sha1Hex verdict role (second sha1Hex role s) (buffer.drop used) ∧
    stays role (second sha1Hex role s) (verdict role.header (buffer.drop used)) = true := by
  rw [outcome, hfront] at h
  rw [outcome, hfront]
  dsimp only at h ⊢
  split at h
  case isTrue hgoes =>
    obtain ⟨-, hawaits, hreceives, -⟩ := goes_of_goesOn sha1Hex hs hgoes
    rw [receives_settled sha1Hex hawaits, hreceives, Bool.and_eq_true, decide_eq_true_eq] at h
    rw [if_pos hgoes]
    exact ⟨h.1, rfl, h.2⟩
  case isFalse hgoes =>
    rw [(stops_of_not_goesOn sha1Hex hs (eq_false_of_ne_true hgoes)).receives] at h
    cases h

/-- What is read behind a second message that is decided changes nothing, or is handed
to the user. -/
theorem settled_decided (hs : Awaits role s) (htells : Tells verdict)
    (hne : verdict role.header buffer ≠ .wait)
    (hstays : stays role s (verdict role.header buffer) = true) (hdata : data ≠ []) :
    transportHandler sha1Hex data (settled sha1Hex verdict role s buffer) =
      settled sha1Hex ideal role s (buffer ++ data) := by
  have hideal := ideal_of_tells htells hne
  have hmore := ideal_append role.local_header (hideal ▸ hne) data
  rw [settled, settled, hmore, hideal]
  cases hv : verdict role.header buffer with
  | wait => exact absurd hv hne
  | refused =>
    rw [hv] at hstays
    obtain ⟨hstate, hbuffer, -⟩ :=
      fails_of_remains (s := holding [] s) (show remains role (holding [] s) = true from hstays)
    exact transportHandler_error sha1Hex hstate (fails_running hs []) hbuffer hdata
  | accepted used =>
    rw [hv, stays, Bool.and_eq_true, decide_eq_true_eq] at hstays
    obtain ⟨rfl, -⟩ := hstays
    obtain ⟨-, hstate, hrunning, -⟩ := targetGotConnectReply_spec hs
    have hle := (ideal_accepted (hideal.trans hv)).2
    have hread := transportHandler_connected sha1Hex
      (s := deliver (buffer.drop used) (holding [] (targetGotConnectReply (stopTimer s))))
      hstate hrunning rfl hdata
    dsimp only [finish]
    rw [hread, List.drop_append_of_le_length hle, deliver, deliver, deliver, List.map_append,
      ← List.append_assoc]

/-- What is read while the second message is awaited is read as if it had come before. -/
theorem read_waiting (hs : Begins role s) (hkept : fate s = .kept) {used : ℕ}
    (hfront : role.front buffer = .accepted used)
    (hwait : verdict role.header (buffer.drop used) = .wait) (hdata : data ≠ []) :
    transportHandler sha1Hex data (outcome sha1Hex verdict role s buffer) =
      outcome sha1Hex message role s (buffer ++ data) := by
  have hmore := (role.prompt.stays (by rw [hfront]; exact Verdict.noConfusion) data).trans hfront
  have hawaits := (goes_kept sha1Hex hs hkept).awaits
  rw [outcome, outcome, hfront, hmore]
  dsimp only
  rw [if_pos (goesOn_of_kept role hkept), if_pos (goesOn_of_kept role hkept),
    List.drop_append_of_le_length (role.prompt.used hfront).2, settled, hwait,
    transportHandler_eq sha1Hex rfl]
  exact readLoop_length sha1Hex hawaits (List.append_ne_nil_of_right_ne_nil _ hdata)

/-- What is read behind a second message that is decided. -/
theorem read_decided (hs : Begins role s) (htells : Tells verdict) {used : ℕ}
    (hfront : role.front buffer = .accepted used)
    (hne : verdict role.header (buffer.drop used) ≠ .wait)
    (hreceives : receives (outcome sha1Hex verdict role s buffer) = true) (hdata : data ≠ []) :
    transportHandler sha1Hex data (outcome sha1Hex verdict role s buffer) =
        outcome sha1Hex ideal role s (buffer ++ data) ∧
      receives (outcome sha1Hex ideal role s (buffer ++ data)) = true := by
  obtain ⟨hkept, heq, hstays⟩ := kept_of_receives sha1Hex hs hfront hreceives
  have hmore := (role.prompt.stays (by rw [hfront]; exact Verdict.noConfusion) data).trans hfront
  have hgoes := goes_kept sha1Hex hs hkept
  have hideal := ideal_of_tells htells hne
  have hdecided := ideal_append role.local_header (hideal ▸ hne) data
  have hout : outcome sha1Hex ideal role s (buffer ++ data) =
      settled sha1Hex ideal role (second sha1Hex role s) (buffer.drop used ++ data) := by
    rw [outcome, hmore]
    dsimp only
    rw [if_pos (goesOn_of_kept role hkept),
      List.drop_append_of_le_length (role.prompt.used hfront).2]
  rw [heq, hout, settled_decided sha1Hex hgoes.awaits htells hne hstays hdata]
  refine ⟨rfl, ?_⟩
  rw [receives_settled sha1Hex hgoes.awaits, hdecided, hideal, hstays, Bool.and_true,
    hgoes.receives]
  exact decide_eq_true hkept

/-- A first message that was refused is refused for good. -/
theorem outcome_refused (verdict : Header → Bytes → Verdict) (s : State)
    (h : role.front buffer = .refused) :
    outcome sha1Hex verdict role s buffer = fails role (holding [] s) := by
  rw [outcome, h]

/-- **One more read.** -/
theorem After.read (hs : Begins role s) {s' : State}
    (h : After sha1Hex role s buffer s') (hreceives : receives s' = true) (hdata : data ≠ []) :
    After sha1Hex role s (buffer ++ data) (transportHandler sha1Hex data s') := by
  obtain ⟨verdict, htells, rfl⟩ : ∃ verdict, Tells verdict ∧
      s' = outcome sha1Hex verdict role s buffer := by
    rcases h with h | h
    · exact ⟨message, .inl rfl, h⟩
    · exact ⟨ideal, .inr rfl, h.1⟩
  cases hfront : role.front buffer with
  | wait =>
    -- nothing was decided: this is as if all had come in one read
    have hhold : outcome sha1Hex verdict role s buffer = holding buffer s := by
      rw [outcome, hfront]
    rw [hhold, transportHandler_eq sha1Hex rfl]
    exact .inl (readLoop_start sha1Hex hs (List.append_ne_nil_of_right_ne_nil buffer hdata))
  | refused =>
    have hmore := role.prompt.stays (by rw [hfront]; exact Verdict.noConfusion) data
    have hrunning := (fails_aborted (s := holding [] s) hs.acknowledge).trans hs.running
    rw [outcome_refused sha1Hex verdict s hfront, receives_fails, Bool.and_eq_true] at hreceives
    obtain ⟨hstate, hbuffer, -⟩ := fails_of_remains hreceives.2
    rw [outcome_refused sha1Hex verdict s hfront,
      transportHandler_error sha1Hex hstate hrunning hbuffer hdata]
    exact .inl (outcome_refused sha1Hex message s (hmore.trans hfront)).symm
  | accepted used =>
    obtain ⟨hkept, -, -⟩ := kept_of_receives sha1Hex hs hfront hreceives
    by_cases hwait : verdict role.header (buffer.drop used) = .wait
    · exact .inl (read_waiting sha1Hex hs hkept hfront hwait hdata)
    · obtain ⟨heq, hstill⟩ := read_decided sha1Hex hs htells hfront hwait hreceives hdata
      exact .inr ⟨heq, heq ▸ hstill⟩

/-- As long as there is something to read, no assertion has failed and the stream is
there. -/
theorem outcome_live (hs : Begins role s)
    (h : receives (outcome sha1Hex verdict role s buffer) = true) :
    (outcome sha1Hex verdict role s buffer).aborted = false ∧
      (outcome sha1Hex verdict role s buffer).disposeHasRun = false := by
  cases hfront : role.front buffer with
  | wait =>
    rw [outcome, hfront]
    exact ⟨hs.running, hs.alive⟩
  | refused =>
    have hrunning := (fails_aborted (s := holding [] s) hs.acknowledge).trans hs.running
    rw [outcome_refused sha1Hex verdict s hfront, receives_fails, Bool.and_eq_true] at h
    rw [outcome_refused sha1Hex verdict s hfront]
    exact ⟨hrunning, (fails_of_remains h.2).2.2.trans hs.alive⟩
  | accepted used =>
    obtain ⟨hkept, heq, hstays⟩ := kept_of_receives sha1Hex hs hfront h
    have hawaits := (goes_kept sha1Hex hs hkept).awaits
    have halive : (second sha1Hex role s).disposeHasRun = false := by
      obtain ⟨t, ht, hphase, -⟩ := receives_iff.mp hs.receives
      rw [second_kept sha1Hex hs.state ht hphase hs.timer hkept]
      exact hs.alive
    rw [heq, settled]
    cases hv : verdict role.header (buffer.drop used) with
    | wait => exact ⟨hawaits.running, halive⟩
    | refused =>
      rw [hv] at hstays
      have hremains := fails_of_remains (s := holding [] (second sha1Hex role s))
        (show remains role (holding [] _) = true from hstays)
      exact ⟨fails_running hawaits [], hremains.2.2.trans halive⟩
    | accepted used' =>
      rw [hv, stays, Bool.and_eq_true, decide_eq_true_eq] at hstays
      obtain ⟨rfl, -⟩ := hstays
      obtain ⟨-, -, hrunning, hdispose, -⟩ := targetGotConnectReply_spec hawaits
      exact ⟨hrunning, hdispose.trans halive⟩

theorem After.live (hs : Begins role s) {s' : State}
    (h : After sha1Hex role s buffer s') (hreceives : receives s' = true) :
    s'.aborted = false ∧ s'.disposeHasRun = false := by
  rcases h with rfl | ⟨rfl, -⟩
  · exact outcome_live sha1Hex hs hreceives
  · exact outcome_live sha1Hex hs hreceives

/-- Whether an assertion has failed does not depend on the reads. -/
theorem After.aborted (hs : Begins role s) {s' : State}
    (h : After sha1Hex role s buffer s') : s'.aborted = crashes sha1Hex role s buffer := by
  rcases h with rfl | ⟨rfl, hreceives⟩
  · exact outcome_aborted sha1Hex hs buffer
  rw [(outcome_live sha1Hex hs hreceives).1, crashes]
  cases hfront : role.front buffer with
  | wait => rfl
  | refused => rfl
  | accepted used =>
    obtain ⟨hkept, -, hstays⟩ := kept_of_receives sha1Hex hs hfront hreceives
    cases role with
    | target =>
      dsimp only
      rw [hkept]
      rfl
    | initiator =>
      dsimp only
      rw [hkept]
      rfl
    | proxy =>
      dsimp only
      -- a proxy whose reply was accepted is not read from any more
      cases hreply : connectReply (buffer.drop used) with
      | wait => rw [Bool.and_false]
      | refused => rw [Bool.and_false]
      | accepted used' =>
        rw [connectReply_eq] at hreply
        have hideal : ideal replyHeader (buffer.drop used) =
            message replyHeader (buffer.drop used) :=
          ideal_of_tells (.inl rfl) (by rw [hreply]; exact Verdict.noConfusion)
        rw [Role.header, hideal, hreply] at hstays
        cases hstays

/-- A read happens when there is something to read. -/
theorem step_received {s s' : State} (hstep : step sha1Hex s (.received data) = some s') :
    receives s = true ∧ data ≠ [] ∧ s' = transportHandler sha1Hex data s := by
  rw [step] at hstep
  split at hstep
  · cases hstep
  case isFalse hlive =>
    cases hstep
    simp only [Bool.or_eq_true, not_or, Bool.not_eq_true', Bool.not_eq_false, enabled, isRead,
      Bool.and_eq_true] at hlive
    exact ⟨hlive.2.1, List.isEmpty_eq_false_iff.mp hlive.2.2.1, rfl⟩

/-- **The run lemma.** -/
theorem After.run (hs : Begins role s) (reads : List Bytes)
    {s₁ s₂ : State} (h : After sha1Hex role s buffer s₁)
    (hrun : run (step sha1Hex) s₁ (reads.map .received) = some s₂) :
    After sha1Hex role s (buffer ++ reads.flatten) s₂ := by
  induction reads generalizing buffer s₁ with
  | nil =>
    cases hrun
    rwa [List.flatten_nil, List.append_nil]
  | cons data reads ih =>
    obtain ⟨s', hstep, hrest⟩ := Option.bind_eq_some_iff.mp hrun
    obtain ⟨hreceives, hdata, rfl⟩ := step_received sha1Hex hstep
    rw [List.flatten_cons, ← List.append_assoc]
    exact ih (h.read sha1Hex hs hreceives hdata) hrest

theorem after_nil (hs : Begins role s) : After sha1Hex role s [] s := by
  have hhold : holding [] s = s := holding_self hs.buffer
  left
  cases role with
  | target => exact hhold.symm
  | proxy => exact hhold.symm
  | initiator => exact hhold.symm

end

end Socks5
