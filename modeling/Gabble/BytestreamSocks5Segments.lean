/-
# The reads of a SOCKS5 negotiation

A negotiation starts in a state that a run of the stream has reached, and then the
bytes of the peer come in any number of reads.  Which streams of bytes make the
handler run into an assertion, and which lead to different states when they are cut
in different ways, is told by the bytes and by the state in which they start to come.
A transport that is blocked or gone is not read from, and keeps the bytes it has.
-/
import Gabble.BytestreamSocks5Outcome
import Gabble.BytestreamSocks5Start
import Gabble.CText
import Mathlib.Data.Nat.Find

namespace Socks5

open Base64 Transition
open CText (ascii)

variable {s : State} {role : Role} {bytes buffer : Bytes} {used : ℕ}

section

variable (sha1Hex : Bytes → Bytes)

/-! ## Assertions -/

/-- **The assertions of the handler.**  From every state in which a negotiation starts,
and for all reads, no assertion fails if and only if the bytes are not among those that
`crashes` tells of. -/
theorem running_iff {streamId peerJid selfFullJid : Bytes} {mucContact : Bool}
    {state : Ibb.BytestreamState} {writes : List Written} {s : State}
    (hs : Reachable (step sha1Hex) anyEvent
      (State.new streamId peerJid selfFullJid mucContact state writes) s)
    {role : Role} (hstart : Starts role s) (reads : List Bytes) {s' : State}
    (hrun : run (step sha1Hex) s (reads.map .received) = some s') :
    s'.aborted = false ↔ crashes sha1Hex role s reads.flatten = false := by
  have hbegins := begins_of_reachable hs hstart
  have hafter := (after_nil sha1Hex hbegins).run sha1Hex hbegins reads hrun
  rw [List.nil_append] at hafter
  rw [hafter.aborted sha1Hex hbegins]

end

/-! ## A negotiation with a proxy -/

/-- The digests of the streams of the examples. -/
def sampleSha1Hex (input : Bytes) : Bytes :=
  if input = ascii "s5d@e/fa@b/c" then ascii "88ef4b0438fa32db2aacdc1b37e45ac31f8b55ca"
  else ascii "5f4d0bc532758557db03a6cd8308c072d1d66165"

def sampleProxy : Streamhost := ⟨ascii "proxy", ascii "192.0.2.1", 7777⟩

/-- A stream that we initiate. -/
def sampleInitiator : State :=
  State.new (ascii "s5") (ascii "d@e/f") (ascii "a@b/c") false .initiating []

/-- The target has chosen the proxy, and we are connected to it. -/
def toProxy : List Event :=
  [.initiate [] none [sampleProxy], .initReply (some (some (ascii "proxy"))) [sampleProxy],
    .transportConnected]

def proxyStart : State :=
  (run (step sampleSha1Hex) sampleInitiator toProxy).getD sampleInitiator

theorem reachable_proxyStart :
    Reachable (step sampleSha1Hex) anyEvent sampleInitiator proxyStart :=
  reachable_of_run toProxy (admits_anyEvent toProxy) (by decide +kernel)

theorem starts_proxyStart : Starts .proxy proxyStart where
  state := by decide +kernel
  buffer := by decide +kernel
  receives := by decide +kernel
  running := by decide +kernel
  alive := by decide +kernel

/-- The reply of the proxy to our CONNECT command. -/
def proxyReply : Bytes := connectMessage 0 (ascii "5f4d0bc532758557db03a6cd8308c072d1d66165")

/-- A proxy that sends one byte more than its reply. -/
theorem proxy_asserts :
    Reachable (step sampleSha1Hex) anyEvent sampleInitiator proxyStart ∧
      Starts .proxy proxyStart ∧
      ∃ s', run (step sampleSha1Hex) proxyStart ([[5, 0], proxyReply ++ [0]].map .received) =
        some s' ∧ s'.aborted = true := by
  refine ⟨reachable_proxyStart, starts_proxyStart, ?_⟩
  have hrun : (run (step sampleSha1Hex) proxyStart
      ([[5, 0], proxyReply ++ [0]].map .received)).any (·.aborted) = true := by decide +kernel
  exact (Option.any_eq_true _ _).mp hrun

/-- A proxy that sends its reply and no more. -/
theorem running_iff_proxy :
    ∃ s', run (step sampleSha1Hex) proxyStart ([[5, 0], proxyReply].map .received) = some s' ∧
      (s'.aborted = false ↔
        crashes sampleSha1Hex .proxy proxyStart ([[5, 0], proxyReply] : List Bytes).flatten =
          false) := by
  have hrun : (run (step sampleSha1Hex) proxyStart
      ([[5, 0], proxyReply].map .received)).isSome = true := by decide +kernel
  obtain ⟨s', hs'⟩ := Option.isSome_iff_exists.mp hrun
  exact ⟨s', hs', running_iff sampleSha1Hex reachable_proxyStart starts_proxyStart _ hs'⟩

/-! ## Reads -/

section

variable (sha1Hex : Bytes → Bytes)

/-- A way to cut the bytes into reads. -/
structure Cuts (bytes : Bytes) (reads : List Bytes) : Prop where
  flatten : reads.flatten = bytes
  reads : ∀ data ∈ reads, isRead data = true

/-- The peer sends what is read in these pieces.  When the transport is not read from any
more, because it is blocked or gone, what is left stays in it. -/
def feed (s : State) (reads : List Bytes) : State := advance (step sha1Hex) s (reads.map .received)

/-- What can be seen of a state.  The buffer of a connection that is gone is freed, and
nothing looks at it. -/
def visible (s : State) : State :=
  if s.transport.any fun t => t.phase = .connected then s else erase s

@[simp] theorem visible_socks5State (s : State) : (visible s).socks5State = s.socks5State := by
  rw [visible]
  split
  · rfl
  · rfl

@[simp] theorem visible_aborted (s : State) : (visible s).aborted = s.aborted := by
  rw [visible]
  split
  · rfl
  · rfl

@[simp] theorem visible_out (s : State) : (visible s).out = s.out := by
  rw [visible]
  split
  · rfl
  · rfl

/-- The transport is blocked behind a second message that is accepted. -/
def blocks (role : Role) (s : State) (rest : Bytes) : Bool :=
  match role with
  | .target => s.readBlocked
  | .proxy => true
  | .initiator => checkDomain rest (domain sha1Hex false s)

/-- The bytes behind the first message can be cut so that the code comes to different ends.

When the answer to the first message keeps the connection, the code may wait for a second
message that is complete (its length modulo 256 is too short), or handle the bytes behind a
message it accepts, which would stay in the transport if they had not been read with it.
When the answer is lost with the connection, the second message is handled only if it was
read with the first one. -/
def differsBehind (role : Role) (s : State) (rest : Bytes) : Bool :=
  match fate s with
  | .kept =>
    message role.header rest ≠ ideal role.header rest ||
      match message role.header rest with
      | .wait | .refused => false
      | .accepted used => used < rest.length && blocks sha1Hex role s rest
  | .broken => goesOn role s && ideal role.header rest ≠ .wait
  | .closed => false

/-- The bytes can be cut so that the code comes to different ends. -/
def differs (role : Role) (s : State) (bytes : Bytes) : Bool :=
  match role.front bytes with
  | .wait | .refused => false
  | .accepted used => differsBehind sha1Hex role s (bytes.drop used)

/-! ## Waiting -/

/-- The handler waits for more of a message, and the connection is there. -/
def Waits (role : Role) (s : State) (buffer : Bytes) : Prop :=
  role.front buffer = .wait ∨
    ∃ used, role.front buffer = .accepted used ∧ fate s = .kept ∧
      message role.header (buffer.drop used) = .wait

theorem Waits.receives (hs : Begins role s)
    (h : Waits role s buffer) : receives (outcome sha1Hex message role s buffer) = true := by
  rcases h with hfront | ⟨used, hfront, hkept, hwait⟩
  · rw [outcome, hfront]
    exact hs.receives
  · have hgoes := goes_kept sha1Hex hs hkept
    rw [outcome, hfront]
    dsimp only
    rw [if_pos (goesOn_of_kept role hkept), receives_settled sha1Hex hgoes.awaits, hgoes.receives,
      hwait, decide_eq_true hkept]
    rfl

theorem step_received_eq (hreceives : receives s = true)
    (hlive : s.aborted = false ∧ s.disposeHasRun = false) {data : Bytes}
    (hread : isRead data = true) :
    step sha1Hex s (.received data) = some (transportHandler sha1Hex data s) := by
  rw [step, hlive.1, hlive.2, enabled, hreceives, hread]
  rfl

/-- What is read while the handler waits is read as if it had come before. -/
theorem Waits.read (hs : Begins role s) {buffer data : Bytes}
    (h : Waits role s buffer) (hread : isRead data = true) :
    step sha1Hex (outcome sha1Hex message role s buffer) (.received data) =
      some (outcome sha1Hex message role s (buffer ++ data)) := by
  have hreceives := h.receives sha1Hex hs
  have hdata : data ≠ [] := by
    rintro rfl
    cases hread
  rw [step_received_eq sha1Hex hreceives (outcome_live sha1Hex hs hreceives) hread]
  rcases h with hfront | ⟨used, hfront, hkept, hwait⟩
  · have hhold : outcome sha1Hex message role s buffer = holding buffer s := by
      rw [outcome, hfront]
    rw [hhold, transportHandler_eq sha1Hex rfl]
    exact congrArg some
      (readLoop_start sha1Hex hs (List.append_ne_nil_of_right_ne_nil buffer hdata))
  · exact congrArg some (read_waiting sha1Hex hs hkept hfront hwait hdata)

/-- There is a way to read the bytes that leads to their outcome. -/
def ReadTo (role : Role) (s : State) (buffer : Bytes) : Prop :=
  ∃ reads, Cuts buffer reads ∧
    run (step sha1Hex) s (reads.map .received) = some (outcome sha1Hex message role s buffer)

theorem ReadTo.read (hs : Begins role s) {buffer data : Bytes}
    (h : ReadTo sha1Hex role s buffer) (hwaits : Waits role s buffer)
    (hread : isRead data = true) : ReadTo sha1Hex role s (buffer ++ data) := by
  obtain ⟨reads, ⟨rfl, hreads⟩, hrun⟩ := h
  refine ⟨reads ++ [data], ⟨by simp, fun d hd => ?_⟩, ?_⟩
  · rcases List.mem_append.mp hd with hd | hd
    · exact hreads d hd
    · exact List.mem_singleton.mp hd ▸ hread
  · rw [List.map_append, run_append, hrun, Option.bind_some, List.map_singleton, run,
      hwaits.read sha1Hex hs hread]
    rfl

theorem isRead_singleton (b : UInt8) : isRead [b] = true := rfl

/-- Byte by byte, as long as the handler waits. -/
theorem readTo_take (hs : Begins role s) {n : ℕ}
    (hle : n ≤ bytes.length) (hwaits : ∀ k < n, Waits role s (bytes.take k)) :
    ReadTo sha1Hex role s (bytes.take n) := by
  induction n with
  | zero =>
    have hstart : s = outcome sha1Hex message role s [] := by
      rcases after_nil sha1Hex hs with h | ⟨h, -⟩
      · exact h
      · cases role with
        | target => exact h
        | proxy => exact h
        | initiator => exact h
    exact ⟨[], ⟨rfl, fun d hd => by cases hd⟩, congrArg some hstart⟩
  | succ n ih =>
    rw [List.take_add_one, List.getElem?_eq_getElem (by omega), Option.toList_some]
    exact (ih (by omega) fun k hk => hwaits k (by omega)).read sha1Hex hs (hwaits n (by omega))
      (isRead_singleton _)

/-- The handler waits until the first message is there. -/
theorem waits_front (s : State)
    (hfront : role.front bytes = .accepted used) {k : ℕ} (hk : k < used) :
    Waits role s (bytes.take k) := by
  left
  by_contra hne
  have hmore := role.prompt.stays hne (bytes.drop k)
  rw [List.take_append_drop, hfront] at hmore
  have hle := (role.prompt.used hmore.symm).2
  rw [List.length_take] at hle
  omega

/-- The handler waits for the second message. -/
theorem waits_second {used k : ℕ}
    (hfront : role.front bytes = .accepted used) (hkept : fate s = .kept) (hk : used ≤ k)
    (hwait : message role.header ((bytes.drop used).take (k - used)) = .wait) :
    Waits role s (bytes.take k) := by
  refine .inr ⟨used, role.prompt.front_take hfront hk, hkept, ?_⟩
  rwa [List.drop_take]

/-- The second message can be read byte by byte until it is decided. -/
theorem readTo_second (hs : Begins role s) {used n : ℕ}
    (hfront : role.front bytes = .accepted used) (hkept : fate s = .kept)
    (hle : used + n ≤ bytes.length)
    (hwait : ∀ j < n, message role.header ((bytes.drop used).take j) = .wait) :
    ReadTo sha1Hex role s (bytes.take (used + n)) := by
  refine readTo_take sha1Hex hs hle fun k hk => ?_
  by_cases hbefore : k < used
  · exact waits_front s hfront hbefore
  · exact waits_second hfront hkept (by omega) (hwait (k - used) (by omega))

/-! ## Where the reads end -/

/-- The bytes, one by one. -/
theorem cuts_append {reads : List Bytes} (h : Cuts buffer reads) (rest : Bytes) :
    Cuts (buffer ++ rest) (reads ++ rest.map fun b => [b]) := by
  refine ⟨?_, fun data hdata => ?_⟩
  · rw [List.flatten_append, h.flatten, ← List.flatMap_def, List.flatMap_singleton']
  · rcases List.mem_append.mp hdata with hdata | hdata
    · exact h.reads data hdata
    · obtain ⟨b, -, rfl⟩ := List.mem_map.mp hdata
      exact isRead_singleton b

/-- The transport is not read from any more. -/
theorem step_eq_none (h : receives s = false ∨ s.aborted = true) (data : Bytes) :
    step sha1Hex s (.received data) = none := by
  rcases h with h | h
  · simp [step, enabled, h]
  · simp [step, h]

theorem ReadTo.stops (h : ReadTo sha1Hex role s buffer)
    (hstop : receives (outcome sha1Hex message role s buffer) = false ∨
      (outcome sha1Hex message role s buffer).aborted = true) (rest : Bytes) :
    ∃ reads, Cuts (buffer ++ rest) reads ∧
      feed sha1Hex s reads = outcome sha1Hex message role s buffer := by
  obtain ⟨reads, hcuts, hrun⟩ := h
  refine ⟨_, cuts_append hcuts rest, ?_⟩
  rw [feed, List.map_append, advance_append hrun]
  refine advance_of_forall fun e he => ?_
  obtain ⟨data, -, rfl⟩ := List.mem_map.mp he
  exact step_eq_none sha1Hex hstop data

/-- Once the second message is decided, the handler does not wait for it again. -/
theorem fails_socks5State (role : Role) (s : State) :
    (fails role s).socks5State ≠ role.awaiting := by
  cases role with
  | target =>
    rcases (fails_target s).state with herror | ⟨htrying, -⟩
    · rw [herror]
      exact Socks5State.noConfusion
    · rw [htrying]
      exact Socks5State.noConfusion
  | proxy =>
    rw [fails]
    rcases close_cases none { stopTimer s with socks5State := .error } with
      ⟨-, state, registered, out, hclose⟩ | ⟨-, registered, out, hclose⟩
    · rw [hclose]
      exact Socks5State.noConfusion
    · rw [hclose]
      exact Socks5State.noConfusion
  | initiator => exact Socks5State.noConfusion

theorem sendConnectReply_socks5State (s : State) :
    (sendConnectReply sha1Hex s).socks5State = .connected := by
  rw [sendConnectReply]
  generalize (writeToTransport (connectMessage 0 (domain sha1Hex false s)) s).1 = r
  have hblock : (blockReceiving true { r with socks5State := .connected }).socks5State =
      .connected := by
    rw [blockReceiving]
    split
    · rfl
    · rfl
  split
  · exact hblock
  · exact hblock

theorem finish_socks5State (hs : Awaits role s) (buffer : Bytes)
    (used : ℕ) : (finish sha1Hex role s buffer used).socks5State ≠ role.awaiting := by
  cases role with
  | target =>
    obtain ⟨-, hstate, -⟩ := targetGotConnectReply_spec hs
    change (targetGotConnectReply (stopTimer s)).socks5State ≠ _
    rw [hstate]
    exact Socks5State.noConfusion
  | proxy =>
    obtain ⟨-, hstate, -⟩ := initiatorGotConnectReply_spec hs
    rw [finish]
    split
    · exact fun h => Socks5State.noConfusion (hstate.symm.trans h)
    · exact fun h => Socks5State.noConfusion (hstate.symm.trans h)
  | initiator =>
    rw [finish]
    split
    · split
      · rw [sendConnectReply_socks5State]
        exact Socks5State.noConfusion
      · change (sendConnectReply sha1Hex s).socks5State ≠ _
        rw [sendConnectReply_socks5State]
        exact Socks5State.noConfusion
    · exact fails_socks5State .initiator _

theorem settled_socks5State (hs : Awaits role s) {verdict : Header → Bytes → Verdict}
    (hne : verdict role.header buffer ≠ .wait) :
    (settled sha1Hex verdict role s buffer).socks5State ≠ role.awaiting := by
  rw [settled]
  cases hv : verdict role.header buffer with
  | wait => exact absurd hv hne
  | refused => exact fails_socks5State role _
  | accepted used => exact finish_socks5State sha1Hex hs buffer used

/-- What the bytes come to when the handler goes on behind the first message. -/
theorem outcome_goesOn (verdict : Header → Bytes → Verdict)
    (hfront : role.front buffer = .accepted used) (hgoes : goesOn role s = true) :
    outcome sha1Hex verdict role s buffer =
      settled sha1Hex verdict role (second sha1Hex role s) (buffer.drop used) := by
  rw [outcome, hfront]
  exact if_pos hgoes

/-- A second message that was decided stays so, whatever is read behind it. -/
theorem ReadTo.decided (hs : Begins role s)
    (h : ReadTo sha1Hex role s buffer) (hfront : role.front buffer = .accepted used)
    (hkept : fate s = .kept) (hne : message role.header (buffer.drop used) ≠ .wait)
    (rest : Bytes) :
    ∃ reads, Cuts (buffer ++ rest) reads ∧
      (feed sha1Hex s reads).socks5State ≠ role.awaiting := by
  obtain ⟨reads, hcuts, hrun⟩ := h
  refine ⟨_, cuts_append hcuts rest, ?_⟩
  rw [feed, List.map_append, advance_append hrun]
  have hgoes := goes_kept sha1Hex hs hkept
  have hon := goesOn_of_kept role hkept
  -- the state after some more bytes, which were told from the message by the code or by one
  -- who reads byte by byte
  obtain ⟨verdict, more, -, heq, hmore, hdecided⟩ : ∃ verdict more, Tells verdict ∧
      advance (step sha1Hex) (outcome sha1Hex message role s buffer)
        ((rest.map fun b => [b]).map .received) = outcome sha1Hex verdict role s (buffer ++ more) ∧
      role.front (buffer ++ more) = .accepted used ∧
      verdict role.header ((buffer ++ more).drop used) ≠ .wait := by
    refine advance_invariant (I := fun t => ∃ verdict more, Tells verdict ∧
      t = outcome sha1Hex verdict role s (buffer ++ more) ∧
      role.front (buffer ++ more) = .accepted used ∧
      verdict role.header ((buffer ++ more).drop used) ≠ .wait) ?_ ?_
    · exact ⟨message, [], .inl rfl, by rw [List.append_nil], by rwa [List.append_nil],
        by rwa [List.append_nil]⟩
    · rintro t e t' ⟨verdict, more, htells, rfl, hmore, hdecided⟩ he hstep
      obtain ⟨data, -, rfl⟩ := List.mem_map.mp he
      obtain ⟨hreceives, hdata, rfl⟩ := step_received sha1Hex hstep
      obtain ⟨heq, -⟩ := read_decided sha1Hex hs htells hmore hdecided hreceives hdata
      have hideal := ideal_of_tells htells hdecided
      rw [List.append_assoc] at heq
      refine ⟨ideal, more ++ data, .inr rfl, heq, ?_, ?_⟩
      · rw [← List.append_assoc]
        exact (role.prompt.stays (by rw [hmore]; exact Verdict.noConfusion) data).trans hmore
      · rw [← List.append_assoc, List.drop_append_of_le_length (role.prompt.used hmore).2,
          ideal_append role.local_header (hideal ▸ hdecided), hideal]
        exact hdecided
  rw [heq, outcome_goesOn sha1Hex verdict hmore hon]
  exact settled_socks5State sha1Hex hgoes.awaits hdecided

/-! ## Cuts that agree -/

/-- The reads that happen, and why the next one does not. -/
theorem feed_cases (s : State) {reads : List Bytes} (hcuts : Cuts bytes reads) :
    ∃ (done : List Bytes) (rest : Bytes), bytes = done.flatten ++ rest ∧
      run (step sha1Hex) s (done.map .received) = some (feed sha1Hex s reads) ∧
      (rest ≠ [] → ¬ (receives (feed sha1Hex s reads) = true ∧
        (feed sha1Hex s reads).aborted = false ∧
          (feed sha1Hex s reads).disposeHasRun = false)) := by
  obtain ⟨es₁, es₂, hsplit, hrun, hend⟩ := advance_cases (step sha1Hex) s (reads.map .received)
  obtain ⟨done, rest, rfl, rfl, rfl⟩ := List.map_eq_append_iff.mp hsplit
  refine ⟨done, rest.flatten, ?_, hrun, ?_⟩
  · rw [← hcuts.flatten, List.flatten_append]
  · rintro hne ⟨hreceives, hlive⟩
    cases rest with
    | nil => exact hne rfl
    | cons data rest =>
      have hread := hcuts.reads data (by simp)
      have hnext := step_received_eq sha1Hex hreceives hlive hread
      rw [feed, hend (.received data) rfl] at hnext
      cases hnext

/-- The domain of a message is told by the bytes that are accepted. -/
theorem checkDomain_append
    (h : ideal commandHeader buffer = .accepted used) (more expected : Bytes) :
    checkDomain (buffer ++ more) expected = checkDomain buffer expected := by
  obtain ⟨hmin, hle⟩ := ideal_accepted h
  rw [minLength] at hmin
  rw [checkDomain, checkDomain, byteAt_append (show 4 < buffer.length by omega)]
  by_cases hlen : byteAt buffer 4 = 40
  · have hused : used = 47 := by
      rw [ideal, commandHeader, hlen] at h
      dsimp only at h
      split at h
      · cases h
      · split at h
        · cases h
        · split at h
          · cases h
          · cases h
            rfl
    rw [List.drop_append_of_le_length (by omega),
      List.take_append_of_le_length (by rw [List.length_drop]; omega)]
  · rw [decide_eq_false hlen, Bool.false_and, Bool.false_and]

section

variable (hs : Begins role s)

include hs

/-- The connection that broke with the answer is gone. -/
theorem visible_holding
    (hgoes : goesOn role s = true) (hbroken : fate s = .broken) (buffer buffer' : Bytes) :
    visible (holding buffer (second sha1Hex role s)) =
      visible (holding buffer' (second sha1Hex role s)) := by
  have hgone := (goes_of_goesOn sha1Hex hs hgoes).gone hbroken
  have hphase : ∀ buffer, ((holding buffer (second sha1Hex role s)).transport.any
      fun t => t.phase = .connected) = false := fun _ => hgone
  rw [visible, visible, hphase, hphase]
  rfl

/-- All the bytes were read. -/
theorem After.eq (hdiffers : differs sha1Hex role s bytes = false) {s' : State}
    (h : After sha1Hex role s bytes s') : s' = outcome sha1Hex message role s bytes := by
  rcases h with h | ⟨rfl, hreceives⟩
  · exact h
  cases hfront : role.front bytes with
  | wait => rw [outcome, outcome, hfront]
  | refused => rw [outcome, outcome, hfront]
  | accepted used =>
    obtain ⟨hkept, -, -⟩ := kept_of_receives sha1Hex hs hfront hreceives
    rw [differs, hfront] at hdiffers
    dsimp only at hdiffers
    rw [differsBehind, hkept] at hdiffers
    have hsame := (Bool.or_eq_false_iff.mp hdiffers).1
    rw [decide_eq_false_iff_not, not_not] at hsame
    rw [outcome, outcome, hfront]
    dsimp only
    rw [settled, settled, hsame]

/-- Some bytes were not read. -/
theorem outcome_stopped {buffer rest : Bytes}
    (hdiffers : differs sha1Hex role s (buffer ++ rest) = false) (hrest : rest ≠ [])
    (hstop : receives (outcome sha1Hex message role s buffer) ≠ true) :
    visible (outcome sha1Hex message role s buffer) =
      visible (outcome sha1Hex message role s (buffer ++ rest)) := by
  cases hfront : role.front buffer with
  | wait => exact absurd (Waits.receives sha1Hex hs (.inl hfront)) hstop
  | refused =>
    have hmore := role.prompt.stays (by rw [hfront]; exact Verdict.noConfusion) rest
    rw [outcome_refused sha1Hex message s hfront,
      outcome_refused sha1Hex message s (hmore.trans hfront)]
  | accepted used =>
    have hmore := (role.prompt.stays (by rw [hfront]; exact Verdict.noConfusion) rest).trans
      hfront
    have hused := (role.prompt.used hfront).2
    by_cases hgoes : goesOn role s = true
    swap
    · rw [outcome, outcome, hfront, hmore]
      dsimp only
      rw [if_neg hgoes, if_neg hgoes]
    rw [differs, hmore] at hdiffers
    dsimp only at hdiffers
    rw [differsBehind, List.drop_append_of_le_length hused] at hdiffers
    rw [outcome_goesOn sha1Hex message hfront hgoes,
      outcome_goesOn sha1Hex message hmore hgoes, List.drop_append_of_le_length hused]
    cases hfate : fate s with
    | kept =>
      rw [hfate] at hdiffers
      obtain ⟨hsame, hnone⟩ := Bool.or_eq_false_iff.mp hdiffers
      rw [decide_eq_false_iff_not, not_not] at hsame
      have hgoes' := goes_kept sha1Hex hs hfate
      by_cases hwait : message role.header (buffer.drop used) = .wait
      · exact absurd (Waits.receives sha1Hex hs (.inr ⟨used, hfront, hfate, hwait⟩)) hstop
      have hideal := ideal_of_tells (.inl rfl) hwait
      have hverdict := hsame.trans
        ((ideal_append role.local_header (hideal ▸ hwait) rest).trans hideal)
      rw [settled, settled, hverdict]
      cases hv : message role.header (buffer.drop used) with
      | wait => exact absurd hv hwait
      | refused => rfl
      | accepted used' =>
        have hle := (ideal_accepted (hideal.trans hv)).2
        have hpos := List.length_pos_iff.mpr hrest
        have hlonger : used' < (buffer.drop used ++ rest).length := by
          rw [List.length_append]
          omega
        rw [hverdict, hv] at hnone
        dsimp only at hnone
        rw [decide_eq_true hlonger, Bool.true_and] at hnone
        cases role with
        | target =>
          -- the data behind the reply is read
          refine absurd ?_ hstop
          rw [outcome_goesOn sha1Hex message hfront hgoes,
            receives_settled sha1Hex hgoes'.awaits, hv, hgoes'.receives,
            decide_eq_true hfate, stays]
          obtain ⟨t, ht, hphase, -⟩ := receives_iff.mp hs.receives
          rw [second_kept sha1Hex hs.state ht hphase hs.timer hfate]
          dsimp only [wrote]
          rw [show s.readBlocked = false from hnone]
          rfl
        | proxy => cases hnone
        | initiator =>
          have hdomain := (second_domain sha1Hex hs hgoes).1
          have hcheck := checkDomain_append (hideal.trans hv) rest
            (domain sha1Hex false s)
          have hwrong : checkDomain (buffer.drop used ++ rest) (domain sha1Hex false s) =
              false := hnone
          dsimp only
          rw [finish, finish, hdomain, hwrong, ← hcheck, hwrong]
          rfl
    | broken =>
      rw [hfate, hgoes, Bool.true_and, decide_eq_false_iff_not, not_not] at hdiffers
      -- nothing is decided, and the buffer is lost
      have hall : message role.header (buffer.drop used ++ rest) = .wait := by
        rcases message_eq role.header (buffer.drop used ++ rest) with h | h
        · exact h
        · exact h.trans hdiffers
      have hwait : message role.header (buffer.drop used) = .wait := by
        by_contra hne
        have hideal := ideal_of_tells (.inl rfl) hne
        rw [ideal_append role.local_header (hideal ▸ hne), hideal] at hdiffers
        exact hne hdiffers
      rw [settled, settled, hall, hwait]
      exact visible_holding sha1Hex hs hgoes hfate _ _
    | closed =>
      cases role with
      | target => simp [goesOn, hfate] at hgoes
      | proxy => simp [goesOn, hfate] at hgoes
      | initiator => simp [goesOn, hfate] at hgoes

/-- **Cuts that agree.**  However they are cut, the bytes come to their outcome. -/
theorem visible_feed (hdiffers : differs sha1Hex role s bytes = false) {reads : List Bytes}
    (hcuts : Cuts bytes reads) :
    visible (feed sha1Hex s reads) = visible (outcome sha1Hex message role s bytes) := by
  obtain ⟨done, rest, rfl, hrun, hstop⟩ := feed_cases sha1Hex s hcuts
  have hafter := (after_nil sha1Hex hs).run sha1Hex hs done hrun
  rw [List.nil_append] at hafter
  by_cases hrest : rest = []
  · subst hrest
    rw [List.append_nil] at hdiffers ⊢
    rw [hafter.eq sha1Hex hs hdiffers]
  have hnot : receives (feed sha1Hex s reads) ≠ true := fun hreceives =>
    hstop hrest ⟨hreceives, hafter.live sha1Hex hs hreceives⟩
  rcases hafter with heq | ⟨-, hreceives⟩
  · rw [heq] at hnot ⊢
    exact outcome_stopped sha1Hex hs hdiffers hrest hnot
  · exact absurd hreceives hnot

/-! ## Cuts that do not agree -/

/-- The second message is complete, and the code waits: so it does when the bytes come in steps
of 256. -/
theorem readTo_of_wait (hfront : role.front bytes = .accepted used) (hkept : fate s = .kept)
    (hwait : message role.header (bytes.drop used) = .wait) : ReadTo sha1Hex role s bytes := by
  have hused := (role.prompt.used hfront).2
  have hlength : (bytes.drop used).length = bytes.length - used := List.length_drop
  have htake := message_take_eq_wait role.local_header hwait
  rw [hlength] at htake
  -- so much is read before the first step
  obtain ⟨first, hfirst⟩ : ∃ first, first = (bytes.length - used) % 256 := ⟨_, rfl⟩
  rw [← hfirst] at htake
  have hsteps : ∀ k, used + (first + 256 * k) ≤ bytes.length →
      ReadTo sha1Hex role s (bytes.take (used + (first + 256 * k))) := by
    intro k
    induction k with
    | zero =>
      intro hle
      refine readTo_second sha1Hex hs hfront hkept hle fun j hj => ?_
      have hshort : ((bytes.drop used).take (first + 256 * 0)).length < 256 := by
        rw [List.length_take]
        omega
      exact message_take_of_le role.local_header
        ((message_eq_ideal _ hshort).symm.trans (htake 0)) hj.le
    | succ k ih =>
      intro hle
      have hnext : used + (first + 256 * (k + 1)) = used + (first + 256 * k) + 256 := by omega
      rw [hnext, List.take_add]
      have hlen : ((bytes.drop (used + (first + 256 * k))).take 256).length = 256 := by
        rw [List.length_take, List.length_drop]
        omega
      refine (ih (by omega)).read sha1Hex hs (waits_second hfront hkept (by omega) ?_) ?_
      · rw [show used + (first + 256 * k) - used = first + 256 * k by omega]
        exact htake k
      · rw [isRead, hlen, List.isEmpty_eq_false_iff.mpr (List.ne_nil_of_length_pos (by omega))]
        rfl
  have hall := hsteps ((bytes.length - used) / 256) (by omega)
  rwa [List.take_of_length_le (by omega)] at hall

/-- Byte by byte, a second message that is complete is decided. -/
theorem exists_readTo_decided (hfront : role.front bytes = .accepted used) (hkept : fate s = .kept)
    (hideal : ideal role.header (bytes.drop used) ≠ .wait) :
    ∃ n, message role.header ((bytes.drop used).take n) ≠ .wait ∧
      ReadTo sha1Hex role s (bytes.take (used + n)) := by
  have hused := (role.prompt.used hfront).2
  have hex : ∃ n, n ≤ (bytes.drop used).length ∧
      message role.header ((bytes.drop used).take n) ≠ .wait := by
    obtain ⟨n, hn, -, hne⟩ := exists_message_ne_wait role.local_header hideal
    exact ⟨n, hn, hne⟩
  obtain ⟨hle, hne⟩ := Nat.find_spec hex
  refine ⟨Nat.find hex, hne, readTo_second sha1Hex hs hfront hkept ?_ fun j hj => ?_⟩
  · have hlength : (bytes.drop used).length = bytes.length - used := List.length_drop
    omega
  · by_contra hwait
    exact Nat.find_min hex hj ⟨hj.le.trans hle, hwait⟩

/-- The last byte of the first message comes with bytes of the second one. -/
theorem readTo_at_once {used n : ℕ} (hfront : role.front bytes = .accepted used) (hn : n < bufSize)
    (hle : used + n ≤ bytes.length) : ReadTo sha1Hex role s (bytes.take (used + n)) := by
  have hmin := (role.prompt.used hfront).1
  have hbefore : ReadTo sha1Hex role s (bytes.take (used - 1)) :=
    readTo_take sha1Hex hs (by omega) fun k hk => waits_front s hfront (by omega)
  have hlen : ((bytes.drop (used - 1)).take (n + 1)).length = n + 1 := by
    rw [List.length_take, List.length_drop]
    omega
  rw [show used + n = used - 1 + (n + 1) by omega, List.take_add]
  refine hbefore.read sha1Hex hs (waits_front s hfront (by omega)) ?_
  rw [isRead, hlen, List.isEmpty_eq_false_iff.mpr (List.ne_nil_of_length_pos (by omega)),
    decide_eq_true (show n + 1 ≤ bufSize from hn)]
  rfl

end

/-- With bytes behind it, an accepted message comes to another end than without. -/
theorem visible_finish_ne (hs : Awaits role s) {buffer more : Bytes} (hmore : more ≠ [])
    (hready : role = .initiator → receives s = true ∧
      checkDomain buffer (domain sha1Hex false s) = true ∧
      checkDomain (buffer ++ more) (domain sha1Hex false s) = true) :
    visible (finish sha1Hex role s buffer buffer.length) ≠
      visible (finish sha1Hex role s (buffer ++ more) buffer.length) := by
  -- the one who was handed the bytes has been handed more
  have hdeliver : ∀ t : State, visible (deliver (buffer.drop buffer.length) t) ≠
      visible (deliver ((buffer ++ more).drop buffer.length) t) := by
    intro t heq
    have hout := congrArg (fun s => s.out.length) heq
    simp only [visible_out, deliver, List.drop_length, List.drop_left, List.length_append,
      List.length_map, List.length_nil] at hout
    have hpos := List.length_pos_iff.mpr hmore
    omega
  cases role with
  | target => exact hdeliver _
  | proxy =>
    intro heq
    have haborted := congrArg State.aborted heq
    have hpos := List.length_pos_iff.mpr hmore
    rw [visible_aborted, visible_aborted, finish_aborted sha1Hex hs, finish_aborted sha1Hex hs]
      at haborted
    dsimp only at haborted
    rw [List.length_append, decide_eq_false (by omega), decide_eq_true (by omega)] at haborted
    cases haborted
  | initiator =>
    obtain ⟨hreceives, hcheck, hcheck'⟩ := hready rfl
    obtain ⟨t, ht, hphase, -⟩ := receives_iff.mp hreceives
    obtain ⟨-, -, hrunning, -⟩ := sendConnectReply_spec sha1Hex hs ht hphase
    rw [finish, finish, if_pos hcheck, if_pos hcheck', hrunning, if_neg Bool.false_ne_true,
      if_neg Bool.false_ne_true]
    exact hdeliver _

/-- Bytes behind an accepted message are read with it, or stay in the transport. -/
theorem exists_cuts_behind (hs : Begins role s)
    {used used' : ℕ} (hfront : role.front bytes = .accepted used) (hkept : fate s = .kept)
    (hmessage : message role.header (bytes.drop used) = .accepted used')
    (hlonger : used' < (bytes.drop used).length)
    (hblocks : blocks sha1Hex role s (bytes.drop used) = true) :
    ∃ reads reads', Cuts bytes reads ∧ Cuts bytes reads' ∧
      visible (feed sha1Hex s reads) ≠ visible (feed sha1Hex s reads') := by
  have hused := (role.prompt.used hfront).2
  have hgoes := goesOn_of_kept role hkept
  have hgoes' := goes_kept sha1Hex hs hkept
  obtain ⟨rest, hrest⟩ : ∃ rest, rest = bytes.drop used := ⟨_, rfl⟩
  have hlength : rest.length = bytes.length - used := hrest ▸ List.length_drop
  rw [← hrest] at hmessage hlonger hblocks
  have hideal := (ideal_of_tells (.inl rfl) (hmessage ▸ Verdict.noConfusion)).trans hmessage
  have hmod := le_mod_of_accepted hmessage
  -- so many bytes are read at once, and the cast does not matter
  obtain ⟨m, hm, hle, hsmall, hcast⟩ :
      ∃ m, used' < m ∧ m ≤ rest.length ∧ m < bufSize ∧ used' ≤ m % 256 := by
    rw [bufSize]
    by_cases hshort : rest.length ≤ 511
    · exact ⟨rest.length, hlonger, le_rfl, by omega, hmod⟩
    · exact ⟨511, by omega, by omega, by omega, by omega⟩
  have htake : ∀ n, n ≤ rest.length → used' ≤ n % 256 →
      message role.header (rest.take n) = .accepted used' := fun n hn hcast =>
    message_take role.local_header hideal hn hcast
  have houtcome : ∀ n, message role.header (rest.take n) = .accepted used' →
      outcome sha1Hex message role s (bytes.take (used + n)) =
        finish sha1Hex role (second sha1Hex role s) (rest.take n) used' := by
    intro n hn
    have hdrop : (bytes.take (used + n)).drop used = rest.take n := by
      rw [List.drop_take, Nat.add_sub_cancel_left, hrest]
    rw [outcome_goesOn sha1Hex message
      (role.prompt.front_take hfront (Nat.le_add_right used n)) hgoes, settled, hdrop, hn]
  have hreceives : ∀ n, receives (finish sha1Hex role (second sha1Hex role s) (rest.take n) used') =
      false := by
    intro n
    rw [receives_finish sha1Hex hgoes'.awaits, stays]
    cases role with
    | target =>
      obtain ⟨t, ht, hphase, -⟩ := receives_iff.mp hs.receives
      rw [second_kept sha1Hex hs.state ht hphase hs.timer hkept]
      dsimp only [wrote]
      rw [show s.readBlocked = true from hblocks, Bool.not_true, Bool.and_false, Bool.and_false]
    | proxy => exact Bool.and_false _
    | initiator => exact Bool.and_false _
  have hstops : ∀ n, n < bufSize → n ≤ rest.length → used' ≤ n % 256 →
      ∃ reads, Cuts bytes reads ∧ feed sha1Hex s reads =
        finish sha1Hex role (second sha1Hex role s) (rest.take n) used' := by
    intro n hn hle hcast
    have hout := houtcome n (htake n hle hcast)
    obtain ⟨reads, hcuts, hfeed⟩ :=
      (readTo_at_once sha1Hex hs hfront hn (by omega)).stops sha1Hex
        (.inl (hout ▸ hreceives n)) (bytes.drop (used + n))
    rw [List.take_append_drop] at hcuts
    exact ⟨reads, hcuts, hfeed.trans hout⟩
  obtain ⟨reads, hcuts, hfeed⟩ := hstops used' (by omega) hlonger.le (by omega)
  obtain ⟨reads', hcuts', hfeed'⟩ := hstops m hsmall hle hcast
  refine ⟨reads, reads', hcuts, hcuts', ?_⟩
  have hexact : (rest.take used').length = used' := by
    rw [List.length_take]
    omega
  have hsplit : rest.take m = rest.take used' ++ (rest.drop used').take (m - used') := by
    rw [← List.take_add, show used' + (m - used') = m by omega]
  have hmore : (rest.drop used').take (m - used') ≠ [] := by
    refine List.ne_nil_of_length_pos ?_
    rw [List.length_take, List.length_drop]
    omega
  have hne := @visible_finish_ne _ _ sha1Hex hgoes'.awaits (rest.take used') _ hmore ?_
  · rwa [hexact, ← hsplit, ← hfeed, ← hfeed'] at hne
  rintro rfl
  refine ⟨by rw [hgoes'.receives, decide_eq_true hkept], ?_⟩
  have hfirst := htake used' hlonger.le (by omega)
  have hideal' := (ideal_of_tells (.inl rfl) (hfirst ▸ Verdict.noConfusion)).trans hfirst
  have hcheck := checkDomain_append hideal' (rest.drop used') (domain sha1Hex false s)
  have hcheck' := checkDomain_append hideal' ((rest.drop used').take (m - used'))
    (domain sha1Hex false s)
  rw [List.take_append_drop] at hcheck
  rw [(second_domain sha1Hex hs hgoes).1, hcheck', ← hcheck]
  exact ⟨hblocks, hblocks⟩

/-- **Cuts that do not agree.** -/
theorem exists_cuts_ne (hs : Begins role s) (hdiffers : differs sha1Hex role s bytes = true) :
    ∃ reads reads', Cuts bytes reads ∧ Cuts bytes reads' ∧
      visible (feed sha1Hex s reads) ≠ visible (feed sha1Hex s reads') := by
  rw [differs] at hdiffers
  cases hfront : role.front bytes with
  | wait =>
    rw [hfront] at hdiffers
    cases hdiffers
  | refused =>
    rw [hfront] at hdiffers
    cases hdiffers
  | accepted used =>
    rw [hfront] at hdiffers
    dsimp only at hdiffers
    rw [differsBehind] at hdiffers
    have hused := (role.prompt.used hfront).2
    have hlength : (bytes.drop used).length = bytes.length - used := List.length_drop
    -- what is left when some of the second message was read
    have hcut : ∀ n, bytes.take (used + n) ++ bytes.drop (used + n) = bytes := fun n =>
      List.take_append_drop _ _
    have hrest : ∀ n, (bytes.take (used + n)).drop used = (bytes.drop used).take n := by
      intro n
      rw [List.drop_take, Nat.add_sub_cancel_left]
    have hfirst : ∀ n, role.front (bytes.take (used + n)) = .accepted used := fun n =>
      role.prompt.front_take hfront (Nat.le_add_right used n)
    cases hfate : fate s with
    | closed =>
      rw [hfate] at hdiffers
      cases hdiffers
    | broken =>
      rw [hfate] at hdiffers
      dsimp only at hdiffers
      rw [Bool.and_eq_true, decide_eq_true_eq] at hdiffers
      obtain ⟨hgoes, hideal⟩ := hdiffers
      have hgoes' := goes_of_goesOn sha1Hex hs hgoes
      obtain ⟨n, hn, hsmall, hne⟩ := exists_message_ne_wait role.local_header hideal
      rw [hlength] at hn
      -- nothing is read when the answer to the first message is lost
      have hend : ∀ n, receives (outcome sha1Hex message role s (bytes.take (used + n))) =
          false := by
        intro n
        rw [outcome_goesOn sha1Hex message (hfirst n) hgoes,
          receives_settled sha1Hex hgoes'.awaits, hgoes'.receives, hfate]
        rfl
      obtain ⟨reads, hcuts, hfeed⟩ := (readTo_at_once sha1Hex hs hfront (n := 0)
        (by decide) (by omega)).stops sha1Hex (.inl (hend 0)) (bytes.drop (used + 0))
      obtain ⟨reads', hcuts', hfeed'⟩ := (readTo_at_once sha1Hex hs hfront (n := n)
        (hsmall.trans (by decide)) (by omega)).stops sha1Hex (.inl (hend n))
          (bytes.drop (used + n))
      rw [hcut] at hcuts hcuts'
      refine ⟨reads, reads', hcuts, hcuts', fun heq => ?_⟩
      have hstate := congrArg State.socks5State heq
      rw [visible_socks5State, visible_socks5State, hfeed, hfeed',
        outcome_goesOn sha1Hex message (hfirst 0) hgoes,
        outcome_goesOn sha1Hex message (hfirst n) hgoes, hrest, hrest] at hstate
      refine settled_socks5State sha1Hex hgoes'.awaits hne (hstate.symm.trans ?_)
      exact hgoes'.awaits.state
    | kept =>
      rw [hfate] at hdiffers
      dsimp only at hdiffers
      rw [Bool.or_eq_true, decide_eq_true_eq] at hdiffers
      have hgoes := goesOn_of_kept role hfate
      have hgoes' := goes_kept sha1Hex hs hfate
      by_cases hsame : message role.header (bytes.drop used) =
          ideal role.header (bytes.drop used)
      swap
      · -- in steps of 256 bytes the handler waits, byte by byte it does not
        have hwait : message role.header (bytes.drop used) = .wait :=
          (message_eq role.header (bytes.drop used)).resolve_right hsame
        obtain ⟨reads, hcuts, hrun⟩ := readTo_of_wait sha1Hex hs hfront hfate hwait
        obtain ⟨n, hne, hread⟩ := exists_readTo_decided sha1Hex hs hfront hfate
          (fun h => hsame (hwait.trans h.symm))
        obtain ⟨reads', hcuts', hstate⟩ := hread.decided sha1Hex hs (hfirst n) hfate
          (by rwa [hrest]) (bytes.drop (used + n))
        rw [hcut] at hcuts'
        refine ⟨reads, reads', hcuts, hcuts', fun heq => hstate ?_⟩
        have hstates := congrArg State.socks5State heq
        rw [visible_socks5State, visible_socks5State, feed, advance_of_run hrun,
          outcome_goesOn sha1Hex message hfront hgoes, settled, hwait] at hstates
        exact hstates.symm.trans hgoes'.awaits.state
      · have hbehind := hdiffers.resolve_left (not_not.mpr hsame)
        cases hv : message role.header (bytes.drop used) with
        | wait =>
          rw [hv] at hbehind
          cases hbehind
        | refused =>
          rw [hv] at hbehind
          cases hbehind
        | accepted used' =>
          rw [hv] at hbehind
          dsimp only at hbehind
          rw [Bool.and_eq_true, decide_eq_true_eq] at hbehind
          exact exists_cuts_behind sha1Hex hs hfront hfate hv hbehind.1 hbehind.2

/-- **Segmentation.**  From every state in which a negotiation starts, all ways to cut a
stream of bytes into reads come to the same end if and only if the bytes are not among
those that `differs` tells of. -/
theorem segmentation_iff {streamId peerJid selfFullJid : Bytes} {mucContact : Bool}
    {state : Ibb.BytestreamState} {writes : List Written} {s : State}
    (hs : Reachable (step sha1Hex) anyEvent
      (State.new streamId peerJid selfFullJid mucContact state writes) s)
    {role : Role} (hstart : Starts role s) (bytes : Bytes) :
    (∀ reads reads', Cuts bytes reads → Cuts bytes reads' →
      visible (feed sha1Hex s reads) = visible (feed sha1Hex s reads')) ↔
      differs sha1Hex role s bytes = false := by
  have hbegins := begins_of_reachable hs hstart
  constructor
  · intro hagree
    by_contra hdiffers
    rw [Bool.not_eq_false] at hdiffers
    obtain ⟨reads, reads', hcuts, hcuts', hne⟩ := exists_cuts_ne sha1Hex hbegins hdiffers
    exact hne (hagree reads reads' hcuts hcuts')
  · intro hdiffers reads reads' hcuts hcuts'
    rw [visible_feed sha1Hex hbegins hdiffers hcuts, visible_feed sha1Hex hbegins hdiffers hcuts']

end

/-! ## A negotiation with a streamhost -/

/-- A stream that we are offered. -/
def sampleTarget : State :=
  State.new (ascii "s5") (ascii "d@e/f") (ascii "a@b/c") false .localPending []

/-- We have accepted it, and are connected to a streamhost. -/
def toStreamhost : List Event :=
  [.accept true, .query 1 [⟨false, some (ascii "d@e/f"), some (ascii "192.0.2.2"), some 7778⟩],
    .transportConnected]

def targetStart : State :=
  (run (step sampleSha1Hex) sampleTarget toStreamhost).getD sampleTarget

theorem reachable_targetStart :
    Reachable (step sampleSha1Hex) anyEvent sampleTarget targetStart :=
  reachable_of_run toStreamhost (admits_anyEvent toStreamhost) (by decide +kernel)

theorem starts_targetStart : Starts .target targetStart where
  state := by decide +kernel
  buffer := by decide +kernel
  receives := by decide +kernel
  running := by decide +kernel
  alive := by decide +kernel

/-- The reply of the streamhost to our CONNECT command. -/
def streamhostReply : Bytes := connectMessage 0 (ascii "88ef4b0438fa32db2aacdc1b37e45ac31f8b55ca")

/-- The data that follows it at once. -/
def firstData : Bytes := List.replicate 209 97

/-- The reply and the data are 256 bytes: read at once they do not open the stream. -/
theorem streamhostReply_stalls :
    Reachable (step sampleSha1Hex) anyEvent sampleTarget targetStart ∧
      Starts .target targetStart ∧
      ∃ bytes reads reads', Cuts bytes reads ∧ Cuts bytes reads' ∧
        (visible (feed sampleSha1Hex targetStart reads)).bytestreamState = .opened ∧
        (visible (feed sampleSha1Hex targetStart reads')).bytestreamState = .accepted :=
  ⟨reachable_targetStart, starts_targetStart, _, [[5, 0], streamhostReply, firstData],
    [[5, 0], streamhostReply ++ firstData], ⟨rfl, by decide +kernel⟩,
    ⟨by decide +kernel, by decide +kernel⟩, by decide +kernel, by decide +kernel⟩

/-- The reply alone cannot be cut in a way that matters. -/
theorem segmentation_iff_streamhost :
    (∀ reads reads', Cuts ([5, 0] ++ streamhostReply) reads →
      Cuts ([5, 0] ++ streamhostReply) reads' →
      visible (feed sampleSha1Hex targetStart reads) =
        visible (feed sampleSha1Hex targetStart reads')) ↔
      differs sampleSha1Hex .target targetStart ([5, 0] ++ streamhostReply) = false :=
  segmentation_iff sampleSha1Hex reachable_targetStart starts_targetStart _

end Socks5
