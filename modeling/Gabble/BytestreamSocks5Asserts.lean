/-
# The assertions of a SOCKS5 bytestream

That the transport and its buffer come and go together does not keep `set_transport`
from being called while there is a transport, nor `start_timer` while the timer
runs.  The module has the assertions that each event comes to, with what they look
at (`checks`), and the condition on one event under which none of them fails
(`Within`).
-/
import Gabble.BytestreamSocks5Pairs
import Gabble.BytestreamSocks5Segments

namespace Socks5

open Base64 Transition
open CText (ascii)

/-! ## The assertions -/

/-- An assertion that is evaluated, and what it looks at.  Beside its own assertion
`set_transport` takes it that there is no transport. -/
inductive Check : Type where
  | setTransport (transport : Option Transport) (readBuffer : Option Bytes) : Check
  | transportHandler (readBuffer : Option Bytes) : Check
  | startTimer (timer : Bool) : Check
deriving DecidableEq

def Check.passes : Check → Bool
  | .setTransport transport readBuffer => transport.isNone && readBuffer.isNone
  | .transportHandler readBuffer => readBuffer.isSome
  | .startTimer timer => !timer

/-- The assertions of `socks5_connect` with a streamhost to try. -/
def tryStreamhostChecks (s : State) : List Check :=
  [.setTransport s.transport s.readBuffer, .startTimer s.timer]

/-- The assertions of `socks5_error`. -/
def socks5ErrorChecks (s : State) : List Check :=
  match s.socks5State with
  | .targetTryingConnect | .targetAuthRequestSent | .targetConnectRequested =>
    if s.streamhosts.tail = [] then [] else tryStreamhostChecks (closeTransport (stopTimer s))
  | _ => []

/-- The assertions of `socks5_connect`. -/
def socks5ConnectChecks (s : State) : List Check :=
  match s.streamhosts with
  | _ :: _ => tryStreamhostChecks s
  | [] => socks5ErrorChecks { s with socks5State := .targetTryingConnect }

/-- Whether a write breaks the connection. -/
def breaks (s : State) : Bool :=
  (s.transport.any fun t => t.phase = .connected && t.bufferEmpty) &&
    s.writes.headD .whole = .failed

/-- The assertions of `write_to_transport`. -/
def writeToTransportChecks (s : State) : List Check :=
  if breaks s then socks5ErrorChecks s else []

/-- The assertions on the way to what a verdict leads to. -/
def followChecks (v : Verdict) (s : State) (accept : List Check) : List Check :=
  match v with
  | .wait => []
  | .refused => socks5ErrorChecks s
  | .accepted _ => accept

section

variable (sha1Hex : Bytes → Bytes)

/-- The CONNECT command is written. -/
def connectWritten (s : State) : State :=
  (writeToTransport
    (connectMessage 1 (domain sha1Hex (s.socks5State = .targetAuthRequestSent) s)) s).1

/-- The assertions of `socks5_handle_received_data`. -/
def handleReceivedDataChecks (s : State) (buffer : Bytes) : List Check :=
  match s.socks5State with
  | .targetAuthRequestSent | .initiatorAuthRequestSent =>
    followChecks (authReply buffer) s
      (writeToTransportChecks s ++ [.startTimer (connectWritten sha1Hex s).timer])
  | .targetConnectRequested | .initiatorConnectRequested => followChecks (connectReply buffer) s []
  | .initiatorAwaitingAuthRequest =>
    followChecks (authRequest buffer) s (writeToTransportChecks s)
  | .initiatorAwaitingCommand =>
    followChecks (connectCommand buffer) s <|
      if checkDomain buffer (domain sha1Hex false s) then writeToTransportChecks s
      else socks5ErrorChecks (closeTransport s)
  | .connected | .error | .targetTryingConnect | .initiatorTryingConnect | .initiatorOfferSent
  | .initiatorActivationSent | .invalid => []

/-- The assertions in the loop of `transport_handler`. -/
def readLoopChecks : ℕ → State → List Check
  | 0, _ => []
  | fuel + 1, s =>
    match s.readBuffer with
    | none => []
    | some buffer =>
      let r := handleReceivedData sha1Hex s buffer
      handleReceivedDataChecks sha1Hex s buffer ++
        if r.1.aborted then []
        else
          match r.1.readBuffer with
          | none => []
          | some buffer =>
            let rest := if r.2 < 0 then [] else buffer.drop r.2.toNat
            if 0 < r.2 && !rest.isEmpty then
              readLoopChecks fuel { r.1 with readBuffer := some rest }
            else []

/-- The assertions of `transport_handler`. -/
def transportHandlerChecks (data : Bytes) (s : State) : List Check :=
  .transportHandler s.readBuffer ::
    match s.readBuffer with
    | none => []
    | some buffer =>
      readLoopChecks sha1Hex (buffer ++ data).length { s with readBuffer := some (buffer ++ data) }

/-- The assertions of an event. -/
def checks (s : State) : Event → List Check
  | .send _ => if s.bytestreamState = .opened then writeToTransportChecks s else []
  | .query _ nodes => socks5ConnectChecks (nodes.foldl addStreamhost s)
  | .initReply (some (some jid)) proxies =>
    if jid ≠ s.selfFullJid ∧ s.socks5State = .initiatorOfferSent ∧
        (proxies.find? fun p => p.jid = jid).isSome then
      [.setTransport s.transport s.readBuffer]
    else []
  | .newConnection => [.setTransport s.transport s.readBuffer]
  | .transportConnected =>
    if s.socks5State = .targetTryingConnect ∨ s.socks5State = .initiatorTryingConnect then
      writeToTransportChecks { s with transport := s.transport.map fun t =>
        { t with phase := .connected } }
    else []
  | .transportDisconnected => socks5ErrorChecks s
  | .received data => transportHandlerChecks sha1Hex data s
  | .timeout => socks5ErrorChecks s
  | .initReply _ _ | .initiate _ _ _ | .accept _ | .close _ | .blockReading _ | .activationReply _
  | .transportBufferEmpty | .dispose => []

end

/-! ## Errors and writes -/

/-- After an error there is no transport and no timer, so that the next streamhost can
be tried. -/
theorem socks5ErrorChecks_pass (s : State) : ∀ c ∈ socks5ErrorChecks s, c.passes = true := by
  have htry : ∀ c ∈ tryStreamhostChecks (closeTransport (stopTimer s)), c.passes = true := by
    simp [tryStreamhostChecks, closeTransport, stopTimer, Check.passes]
  intro c hc
  rw [socks5ErrorChecks] at hc
  split at hc
  case h_4 => cases hc
  all_goals
    split at hc
    · cases hc
    · exact htry c hc

theorem writeToTransportChecks_pass (s : State) :
    ∀ c ∈ writeToTransportChecks s, c.passes = true := by
  rw [writeToTransportChecks]
  split
  · exact socks5ErrorChecks_pass s
  · exact nofun

theorem tryStreamhostChecks_pass_iff {s : State} (hs : Paired s) :
    (∀ c ∈ tryStreamhostChecks s, c.passes = true) ↔ s.transport = none ∧ s.timer = false := by
  have hnone := hs.readBuffer_eq_none
  simp only [tryStreamhostChecks, List.mem_cons, List.not_mem_nil, or_false, forall_eq_or_imp,
    forall_eq, Check.passes, Bool.and_eq_true, Option.isNone_iff_eq_none, Bool.not_eq_true']
  rw [hnone, and_self]

theorem setTransport_passes_iff {s : State} (hs : Paired s) :
    (∀ c ∈ [Check.setTransport s.transport s.readBuffer], c.passes = true) ↔
      s.transport = none := by
  have hnone := hs.readBuffer_eq_none
  simp only [List.mem_singleton, forall_eq, Check.passes, Bool.and_eq_true,
    Option.isNone_iff_eq_none]
  rw [hnone, and_self]

/-- After an error the timer runs when there is another streamhost to try. -/
theorem socks5Error_timer (s : State) :
    (socks5Error s).timer = (s.socks5State.isTarget && !s.streamhosts.tail.isEmpty) := by
  have hclosed : (close none { stopTimer s with socks5State := .error }).timer = false :=
    (calm_close none { stopTimer s with socks5State := .error }).timer
  rw [socks5Error]
  cases hstate : s.socks5State with
  | targetTryingConnect | targetAuthRequestSent | targetConnectRequested =>
    exact (fails_target s).timer
  | initiatorAwaitingAuthRequest | initiatorAwaitingCommand => rfl
  | invalid | connected | initiatorOfferSent | initiatorTryingConnect | initiatorAuthRequestSent
  | initiatorConnectRequested | initiatorActivationSent | error => exact hclosed

/-- A write leaves the timer alone unless it breaks the connection. -/
theorem writeToTransport_timer (data : Bytes) (s : State) :
    (writeToTransport data s).1.timer =
      if breaks s then s.socks5State.isTarget && !s.streamhosts.tail.isEmpty else s.timer := by
  have hbreaks : ∀ t, s.transport = some t → breaks s =
      (decide (t.phase = .connected) && t.bufferEmpty &&
        decide (s.writes.headD .whole = .failed)) := fun t ht => by
    rw [breaks, ht]
    rfl
  rw [writeToTransport]
  cases ht : s.transport with
  | none =>
    rw [show breaks s = false by rw [breaks, ht]; rfl]
    rfl
  | some t =>
    rw [hbreaks t ht]
    dsimp only [emit]
    by_cases hphase : t.phase = .connected
    case neg =>
      rw [if_pos hphase, decide_eq_false hphase]
      rfl
    rw [if_neg (not_not_intro hphase), decide_eq_true hphase, Bool.true_and]
    by_cases hempty : t.bufferEmpty = true
    case neg =>
      rw [if_neg hempty, Bool.eq_false_of_not_eq_true hempty]
      split
      · exact (calm_transportBufferEmptyCb _).timer
      · rfl
    rw [if_pos hempty, hempty]
    cases hwritten : s.writes.headD .whole with
    | failed => exact socks5Error_timer _
    | whole => exact (calm_transportBufferEmptyCb _).timer
    | partly =>
      dsimp only
      split
      · exact (calm_transportBufferEmptyCb _).timer
      · rfl

/-! ## Receiving -/

/-- The CONNECT command breaks the connection, and there is another streamhost to try:
`socks5_error` has started the timer before `start_timer` is called. -/
def Retries (s : State) (buffer : Bytes) : Prop :=
  s.socks5State = .targetAuthRequestSent ∧ authReply buffer = .accepted 2 ∧ breaks s = true ∧
    s.streamhosts.tail ≠ []

instance (s : State) (buffer : Bytes) : Decidable (Retries s buffer) :=
  inferInstanceAs (Decidable (_ ∧ _ ∧ _ ∧ _))

/-- The timer is not running when the reply to an authorization request comes. -/
def Ready (s : State) : Prop := s.socks5State.authSent = true → s.timer = false

section

variable {sha1Hex : Bytes → Bytes} {s : State}

theorem authReply_accepted {buffer : Bytes} {used : ℕ} (h : authReply buffer = .accepted used) :
    used = 2 := by
  rw [authReply] at h
  split at h
  · cases h
  split at h
  · cases h
  · cases h
    rfl

theorem follow_pass_iff {v : Verdict} {accept : List Check} :
    (∀ c ∈ followChecks v s accept, c.passes = true) ↔
      ∀ used, v = .accepted used → ∀ c ∈ accept, c.passes = true := by
  cases v with
  | wait => exact iff_of_true nofun nofun
  | refused => exact iff_of_true (socks5ErrorChecks_pass s) nofun
  | accepted used => exact ⟨fun h _ _ => h, fun h => h used rfl⟩

/-- The assertion after the CONNECT command. -/
theorem connectWritten_timer_iff (hauth : s.socks5State.authSent = true) (hready : Ready s) :
    (connectWritten sha1Hex s).timer = false ↔
      ¬ (s.socks5State = .targetAuthRequestSent ∧ breaks s = true ∧ s.streamhosts.tail ≠ []) := by
  rw [connectWritten, writeToTransport_timer]
  cases hbreaks : breaks s with
  | false => simp [hready hauth]
  | true =>
    rw [if_pos rfl]
    cases hstate : s.socks5State with
    | targetAuthRequestSent => simp [Socks5State.isTarget]
    | initiatorAuthRequestSent => simp [Socks5State.isTarget]
    | _ =>
      rw [hstate] at hauth
      cases hauth

/-- The assertions of one round of the loop. -/
theorem handleReceivedDataChecks_pass_iff (hready : Ready s) (buffer : Bytes) :
    (∀ c ∈ handleReceivedDataChecks sha1Hex s buffer, c.passes = true) ↔ ¬ Retries s buffer := by
  have hother : ∀ {checks : List Check}, s.socks5State ≠ .targetAuthRequestSent →
      (∀ c ∈ checks, c.passes = true) →
      ((∀ c ∈ checks, c.passes = true) ↔ ¬ Retries s buffer) := fun hne hpass =>
    iff_of_true hpass fun h => hne h.1
  have hauth : s.socks5State.authSent = true →
      ((∀ c ∈ followChecks (authReply buffer) s
        (writeToTransportChecks s ++ [Check.startTimer (connectWritten sha1Hex s).timer]),
          c.passes = true) ↔ ¬ Retries s buffer) := by
    intro hauth
    have htimer : (connectWritten sha1Hex s).timer = false ↔ _ :=
      connectWritten_timer_iff hauth hready
    rw [follow_pass_iff]
    constructor
    · rintro hpass ⟨hstate, haccepted, hbreaks, htail⟩
      have hstart := hpass 2 haccepted (.startTimer (connectWritten sha1Hex s).timer)
        (List.mem_append_right _ List.mem_cons_self)
      exact htimer.mp (by simpa [Check.passes] using hstart) ⟨hstate, hbreaks, htail⟩
    · intro hnot used haccepted c hc
      rcases List.mem_append.mp hc with hc | hc
      · exact writeToTransportChecks_pass s c hc
      · rw [List.mem_singleton.mp hc]
        have hfalse := htimer.mpr fun h =>
          hnot ⟨h.1, authReply_accepted haccepted ▸ haccepted, h.2.1, h.2.2⟩
        simp [Check.passes, hfalse]
  rw [handleReceivedDataChecks]
  cases hstate : s.socks5State with
  | targetAuthRequestSent => exact hauth (by rw [hstate]; rfl)
  | initiatorAuthRequestSent => exact hauth (by rw [hstate]; rfl)
  | targetConnectRequested => exact hother (by simp [hstate]) (follow_pass_iff.mpr nofun)
  | initiatorConnectRequested => exact hother (by simp [hstate]) (follow_pass_iff.mpr nofun)
  | initiatorAwaitingAuthRequest =>
    exact hother (by simp [hstate]) (follow_pass_iff.mpr fun _ _ => writeToTransportChecks_pass s)
  | initiatorAwaitingCommand =>
    refine hother (by simp [hstate]) (follow_pass_iff.mpr fun _ _ => ?_)
    split
    · exact writeToTransportChecks_pass s
    · exact socks5ErrorChecks_pass _
  | connected | error | targetTryingConnect | initiatorTryingConnect | initiatorOfferSent
  | initiatorActivationSent | invalid => exact hother (by simp [hstate]) nofun

/-- After a message was used, no reply to an authorization request is awaited. -/
theorem authSent_of_used {buffer : Bytes} (hused : 0 < (handleReceivedData sha1Hex s buffer).2) :
    (handleReceivedData sha1Hex s buffer).1.socks5State.authSent = false := by
  have hfollow : ∀ {v : Verdict} {accept : ℕ → State × ℤ}, 0 < (follow v s accept).2 →
      (∀ used, (accept used).1.socks5State.authSent = false ∨ (accept used).2 ≤ 0) →
      (follow v s accept).1.socks5State.authSent = false := by
    intro v accept hused haccept
    cases v with
    | wait => cases hused
    | refused => cases hused
    | accepted used => exact (haccept used).resolve_right (not_le.mpr hused)
  have hstart : ∀ s, (startTimer s).socks5State = s.socks5State := fun s => by
    rw [startTimer]
    split <;> rfl
  have hblock : ∀ s, (blockReceiving true s).socks5State = s.socks5State := fun s =>
    (calm_blockReceiving true s).socks5State
  have hcommand : (sendConnectCommand sha1Hex s).socks5State.authSent = false := by
    rw [sendConnectCommand, hstart]
    dsimp only
    split <;> rfl
  have htarget : (targetGotConnectReply (stopTimer s)).socks5State.authSent = false := by
    have hopen := (calm_setState .opened
      { stopTimer s with socks5State := .connected }).socks5State
    rw [targetGotConnectReply]
    dsimp only
    split
    · exact congrArg Socks5State.authSent hopen
    · split
      · rw [hblock]
        exact congrArg Socks5State.authSent hopen
      · exact congrArg Socks5State.authSent hopen
  have hproxy : (initiatorGotConnectReply (stopTimer s)).socks5State.authSent = false :=
    congrArg Socks5State.authSent (hblock { stopTimer s with socks5State := .initiatorActivationSent })
  have hreply : (sendConnectReply sha1Hex s).socks5State.authSent = false := by
    rw [sendConnectReply]
    split
    all_goals exact congrArg Socks5State.authSent (hblock _)
  rw [handleReceivedData] at hused ⊢
  cases hstate : s.socks5State with
  | targetAuthRequestSent | initiatorAuthRequestSent =>
    rw [hstate] at hused
    exact hfollow hused fun _ => .inl hcommand
  | targetConnectRequested =>
    rw [hstate] at hused
    exact hfollow hused fun _ => .inl htarget
  | initiatorConnectRequested =>
    rw [hstate] at hused
    exact hfollow hused fun _ => .inl hproxy
  | initiatorAwaitingAuthRequest =>
    rw [hstate] at hused
    exact hfollow hused fun _ => .inl rfl
  | initiatorAwaitingCommand =>
    rw [hstate] at hused
    refine hfollow hused fun used => ?_
    split
    · exact .inl hreply
    · exact .inr (show (-1 : ℤ) ≤ 0 by decide)
  | connected | error | targetTryingConnect | initiatorTryingConnect | initiatorOfferSent
  | initiatorActivationSent | invalid => exact congrArg Socks5State.authSent hstate

/-- The assertions after a round, from those of the next rounds. -/
theorem rest_pass {fuel : ℕ} {r : State × ℤ}
    (hnext : 0 < r.2 → ∀ rest, ∀ c ∈ readLoopChecks sha1Hex fuel
      { r.1 with readBuffer := some rest }, c.passes = true) :
    ∀ c ∈ (if r.1.aborted then [] else
      match r.1.readBuffer with
      | none => []
      | some buffer =>
        let rest := if r.2 < 0 then [] else buffer.drop r.2.toNat
        if 0 < r.2 && !rest.isEmpty then
          readLoopChecks sha1Hex fuel { r.1 with readBuffer := some rest }
        else []), c.passes = true := by
  split
  · exact nofun
  split
  · exact nofun
  case h_2 buffer _ =>
    dsimp only
    generalize (if r.2 < 0 then [] else buffer.drop r.2.toNat) = rest
    split
    case isTrue hgo => exact hnext (of_decide_eq_true (Bool.and_eq_true_iff.mp hgo).1) rest
    case isFalse => exact nofun

/-- The assertions after the first round of the loop do not fail. -/
theorem readLoopChecks_pass (fuel : ℕ) (hs : s.socks5State.authSent = false) :
    ∀ c ∈ readLoopChecks sha1Hex fuel s, c.passes = true := by
  induction fuel generalizing s with
  | zero => exact nofun
  | succ fuel ih =>
    have hready : Ready s := fun h => by rw [hs] at h; cases h
    rw [readLoopChecks]
    split
    · exact nofun
    case h_2 buffer _ =>
      have hround : ∀ c ∈ handleReceivedDataChecks sha1Hex s buffer, c.passes = true :=
        (handleReceivedDataChecks_pass_iff hready buffer).mpr fun h => by
          rw [h.1] at hs
          cases hs
      refine List.forall_mem_append.mpr ⟨hround, rest_pass fun hused rest => ?_⟩
      exact ih (authSent_of_used hused)

/-- The assertions of the loop are those of its first round. -/
theorem readLoopChecks_pass_iff (fuel : ℕ) {buffer : Bytes} (hbuffer : s.readBuffer = some buffer)
    (hready : Ready s) :
    (∀ c ∈ readLoopChecks sha1Hex (fuel + 1) s, c.passes = true) ↔ ¬ Retries s buffer := by
  have hround : (∀ c ∈ handleReceivedDataChecks sha1Hex s buffer, c.passes = true) ↔
      ¬ Retries s buffer := handleReceivedDataChecks_pass_iff hready buffer
  rw [← hround, readLoopChecks, hbuffer]
  dsimp only
  rw [List.forall_mem_append]
  refine and_iff_left (rest_pass fun hused rest => ?_)
  exact readLoopChecks_pass fuel (authSent_of_used hused)

end

/-! ## Every event -/

/-- The condition on one event: nothing connects while there is a transport, a query
with streamhosts does not come while one is tried, and the CONNECT command is not
lost while there are other streamhosts. -/
def Within (s : State) : Event → Prop
  | .query _ nodes =>
    (nodes.foldl addStreamhost s).streamhosts ≠ [] → s.transport = none ∧ s.timer = false
  | .initReply (some (some jid)) proxies =>
    jid ≠ s.selfFullJid ∧ s.socks5State = .initiatorOfferSent ∧
      (proxies.find? fun p => p.jid = jid).isSome → s.transport = none
  | .newConnection => s.transport = none
  | .received data => ¬ Retries s (s.readBuffer.getD [] ++ data)
  | _ => True

instance (s : State) : (e : Event) → Decidable (Within s e)
  | .query _ _ => inferInstanceAs (Decidable (_ → _ ∧ _))
  | .initReply (some (some _)) _ => inferInstanceAs (Decidable (_ ∧ _ ∧ _ → _))
  | .newConnection => inferInstanceAs (Decidable (_ = _))
  | .received _ => inferInstanceAs (Decidable (¬ _))
  | .initReply none _ | .initReply (some none) _ | .initiate _ _ _ | .accept _ | .send _
  | .close _ | .blockReading _ | .activationReply _ | .transportConnected
  | .transportDisconnected | .transportBufferEmpty | .timeout | .dispose => .isTrue trivial

/-- What a stream keeps to until it is disposed. -/
structure Steady (s : State) : Prop where
  sound : Sound s
  paired : s.disposeHasRun = false → Paired s

theorem addStreamhosts_fields (nodes : List StreamhostNode) (s : State) :
    ∃ streamhosts, nodes.foldl addStreamhost s = { s with streamhosts := streamhosts } := by
  induction nodes generalizing s with
  | nil => exact ⟨s.streamhosts, rfl⟩
  | cons node nodes ih =>
    obtain ⟨streamhosts, heq, -⟩ := addStreamhost_fields s node
    obtain ⟨rest, hrest⟩ := ih (addStreamhost s node)
    exact ⟨rest, by rw [List.foldl_cons, hrest, heq]⟩

section

variable {sha1Hex : Bytes → Bytes} {s s' : State} {e : Event}

theorem step_live (hstep : step sha1Hex s e = some s') :
    s.disposeHasRun = false ∧ s.aborted = false ∧ enabled s e = true ∧ handle sha1Hex s e = s' := by
  rw [step] at hstep
  split at hstep
  · cases hstep
  case isFalse hlive =>
    simp only [Bool.or_eq_true, Bool.not_eq_true', not_or, Bool.not_eq_true,
      Bool.not_eq_false] at hlive
    exact ⟨hlive.1.1, hlive.1.2, hlive.2, Option.some.inj hstep⟩

theorem Steady.step (hs : Steady s) (hstep : step sha1Hex s e = some s') : Steady s' := by
  refine ⟨sound_step hs.sound hstep, fun hlive => ?_⟩
  obtain ⟨hd, -, -, rfl⟩ := step_live hstep
  refine (hs.paired hd).handle e ?_
  rintro rfl
  rw [show handle sha1Hex s .dispose = dispose s from rfl, dispose_disposeHasRun] at hlive
  cases hlive

/-- **The assertions of one event hold exactly when it meets the condition.** -/
theorem checks_pass_iff (hs : Steady s) (hstep : step sha1Hex s e = some s') :
    (∀ c ∈ checks sha1Hex s e, c.passes = true) ↔ Within s e := by
  obtain ⟨hd, -, henabled, -⟩ := step_live hstep
  have hpaired := hs.paired hd
  have hfacts : Facts s := hs.sound.resolve_left (by rw [hd]; exact Bool.false_ne_true)
  cases e with
  | query iq nodes =>
    obtain ⟨streamhosts, heq⟩ := addStreamhosts_fields nodes s
    dsimp only [checks, Within]
    rw [heq, socks5ConnectChecks]
    dsimp only
    cases streamhosts with
    | nil => exact iff_of_true (socks5ErrorChecks_pass _) fun hne => absurd rfl hne
    | cons h rest =>
      have hconnect := tryStreamhostChecks_pass_iff
        (s := { s with streamhosts := h :: rest }) hpaired
      exact hconnect.trans ⟨fun h _ => h, fun h => h (List.cons_ne_nil _ _)⟩
  | initReply reply proxies =>
    rcases reply with - | - | jid
    · exact iff_of_true (List.forall_mem_nil _) trivial
    · exact iff_of_true (List.forall_mem_nil _) trivial
    · dsimp only [checks, Within]
      split
      case isTrue h => exact (setTransport_passes_iff hpaired).trans ⟨fun hn _ => hn, fun hn => hn h⟩
      case isFalse h => exact iff_of_true (List.forall_mem_nil _) fun hh => absurd hh h
  | newConnection => exact setTransport_passes_iff hpaired
  | received data =>
    simp only [enabled, Bool.and_eq_true] at henabled
    obtain ⟨hreceives, hread⟩ := henabled
    obtain ⟨t, ht, hphase, -⟩ := receives_iff.mp hreceives
    obtain ⟨buffer, hbuffer⟩ : ∃ buffer, s.readBuffer = some buffer := by
      rw [← Option.isSome_iff_exists, hpaired, ht]
      rfl
    have hready : Ready s := fun hauth => hfacts.timely hauth (by
      rw [ht]
      exact decide_eq_true hphase)
    have hlength : ∃ n, (buffer ++ data).length = n + 1 := by
      refine Nat.exists_eq_succ_of_ne_zero fun hzero => ?_
      have hnil : data = [] := (List.append_eq_nil_iff.mp (List.length_eq_zero_iff.mp hzero)).2
      rw [hnil] at hread
      cases hread
    obtain ⟨n, hn⟩ := hlength
    dsimp only [checks, Within]
    rw [transportHandlerChecks, hbuffer]
    dsimp only
    rw [hn, List.forall_mem_cons]
    refine (and_iff_right rfl).trans ?_
    exact readLoopChecks_pass_iff n (s := { s with readBuffer := some (buffer ++ data) }) rfl hready
  | send str =>
    refine iff_of_true ?_ trivial
    dsimp only [checks]
    split
    · exact writeToTransportChecks_pass s
    · exact List.forall_mem_nil _
  | transportConnected =>
    refine iff_of_true ?_ trivial
    dsimp only [checks]
    split
    · exact writeToTransportChecks_pass _
    · exact List.forall_mem_nil _
  | transportDisconnected => exact iff_of_true (socks5ErrorChecks_pass s) trivial
  | timeout => exact iff_of_true (socks5ErrorChecks_pass s) trivial
  | initiate | accept | close | blockReading | activationReply | transportBufferEmpty | dispose =>
    exact iff_of_true (List.forall_mem_nil _) trivial

/-! ## An assertion that fails stops the program -/

theorem setTransport_aborted (t : Transport) (hbuffer : s.readBuffer ≠ none) :
    (setTransport t s).aborted = true := by
  rw [setTransport, if_pos (Option.isSome_iff_ne_none.mpr hbuffer)]
  rfl

theorem startTimer_aborted (htimer : s.timer = true) : (startTimer s).aborted = true := by
  rw [startTimer, if_pos htimer]
  rfl

theorem aborted_startTimer (haborted : s.aborted = true) : (startTimer s).aborted = true := by
  rw [startTimer]
  split
  · rfl
  · exact haborted

/-! ## Every run -/

variable {streamId peerJid selfFullJid : Bytes} {mucContact : Bool} {state : Ibb.BytestreamState}
  {writes : List Written} {es : List Event}

theorem steady_new :
    Steady (State.new streamId peerJid selfFullJid mucContact state writes) :=
  ⟨.inr (facts_of_idle rfl rfl rfl fun h => Bool.noConfusion h), fun _ => rfl⟩

/-- **The assertions hold all along a run exactly when its events meet the condition.**
The transport and its buffer come and go together in every run. -/
theorem asserts_hold_iff
    (hrun : run (step sha1Hex) (State.new streamId peerJid selfFullJid mucContact state writes) es =
      some s) :
    (s.disposeHasRun = false → (s.readBuffer.isSome = true ↔ s.transport.isSome = true)) ∧
    ((∀ c ∈ collect (step sha1Hex) (checks sha1Hex)
        (State.new streamId peerJid selfFullJid mucContact state writes) es, c.passes = true) ↔
      Admits Within (step sha1Hex)
        (State.new streamId peerJid selfFullJid mucContact state writes) es) := by
  have hsteady : Steady s :=
    (reachable_of_run es (admits_anyEvent es) hrun).invariant (I := Steady) steady_new
      fun _ _ _ h _ hstep => h.step hstep
  refine ⟨fun hd => ?_, ?_⟩
  · rw [hsteady.paired hd]
  · exact forall_collect_iff_admits (I := Steady) (fun _ _ _ h hstep => h.step hstep)
      (fun _ _ _ h hstep => checks_pass_iff h hstep) es steady_new hrun

end

theorem asserts_hold_iff_toStreamhost :
    ∃ s, run (step sampleSha1Hex) sampleTarget toStreamhost = some s ∧
      s.readBuffer.isSome = true ∧
      ∀ c ∈ collect (step sampleSha1Hex) (checks sampleSha1Hex) sampleTarget toStreamhost,
        c.passes = true := by
  have hrun : run (step sampleSha1Hex) (State.new (ascii "s5") (ascii "d@e/f") (ascii "a@b/c")
      false .localPending []) toStreamhost = some targetStart := by
    decide +kernel
  have hadm : Admits Within (step sampleSha1Hex) sampleTarget toStreamhost := by decide +kernel
  obtain ⟨hpaired, hchecks⟩ := asserts_hold_iff hrun
  exact ⟨targetStart, hrun, (hpaired (by decide +kernel)).mpr (by decide +kernel),
    hchecks.mpr hadm⟩

/-- We listen for the target. -/
def listen : Event := .initiate [ascii "192.0.2.3"] (some 5000) []

/-- The query of `toStreamhost` comes again. -/
def sameQuery : Event :=
  .query 2 [⟨false, some (ascii "d@e/f"), some (ascii "192.0.2.2"), some 7778⟩]

/-- A run ends in an assertion that fails. -/
def Fails (start : State) (es : List Event) (c : Check) : Prop :=
  c ∈ collect (step sampleSha1Hex) (checks sampleSha1Hex) start es ∧ c.passes = false ∧
    (run (step sampleSha1Hex) start es).any State.aborted = true

instance (start : State) (es : List Event) (c : Check) : Decidable (Fails start es c) :=
  inferInstanceAs (Decidable (_ ∧ _ ∧ _))

/-- A second client connects while the first one negotiates; a client connects again
after its first connection broke; and the query comes again. -/
theorem second_connection_fails :
    Fails sampleInitiator [listen, .newConnection, .newConnection]
      (.setTransport (some ⟨.connected, false, true⟩) (some [])) ∧
    Fails sampleInitiator [listen, .newConnection, .transportDisconnected, .newConnection]
      (.setTransport (some ⟨.disconnected, false, true⟩) (some [])) ∧
    Fails sampleTarget (toStreamhost ++ [sameQuery])
      (.setTransport (some ⟨.connected, false, true⟩) (some [])) := by
  decide +kernel

end Socks5
