/-
# Direct connections that fail

An initiator that has sent its streamhosts listens for the target, and the target may
fail to connect to it and choose one of the proxies.  `socks5_error` does not close the
stream then, but it does not bring it back to where it was either: the state is
`SOCKS5_STATE_ERROR` and the buffer of the failed connection is kept.  So the next
connection trips over the buffer, and a proxy is refused.  The theorem says that the
initiator can still be reached in both ways exactly as long as nobody has connected to
its listener.
-/
import Gabble.BytestreamSocks5Asserts

namespace Socks5

open Base64 Transition
open CText (ascii)

/-! ## The two ways to reach the initiator -/

/-- What happens at the listener: a connection is made, sends something, is lost or has
taken what was written to it.  Meanwhile the user may block the stream. -/
def Event.isDirect : Event → Bool
  | .newConnection | .received _ | .transportDisconnected | .transportBufferEmpty
  | .blockReading _ => true
  | _ => false

/-- The stream listens, and the answer of the target has not come yet. -/
structure Waiting (selfFullJid : Bytes) (s : State) : Prop where
  selfFullJid : s.selfFullJid = selfFullJid
  bytestreamState : s.bytestreamState = .initiating
  socks5State : s.socks5State = .initiatorOfferSent
  transport : s.transport = none
  readBuffer : s.readBuffer = none
  listener : s.listener = true
  listening : s.listening = true
  initsPending : s.initsPending ≠ 0
  running : s.aborted = false
  alive : s.disposeHasRun = false

/-- Somebody has connected to the listener. -/
def Socks5State.taken : Socks5State → Bool
  | .initiatorAwaitingAuthRequest | .initiatorAwaitingCommand | .connected | .error => true
  | _ => false

section

variable (sha1Hex : Bytes → Bytes)

/-- A client that does everything right. -/
def validConnection (s : State) : List Event :=
  [.newConnection, .received [5, 1, 0], .received (connectMessage 1 (domain sha1Hex false s))]

/-- The stream is not closed, a valid connection to the listener is accepted if what is
written to it can be sent, and when the target says that it uses the proxy, the stream
connects to it.  `known` are the proxies that the factory knows then. -/
structure Recovers (known : List Streamhost) (proxy : Streamhost) (s : State) : Prop where
  notClosed : s.bytestreamState ≠ .closed
  direct : ∃ s', run (step sha1Hex) { s with writes := [] } (validConnection sha1Hex s) = some s' ∧
    s'.aborted = false ∧ s'.socks5State = .connected
  proxy : ∃ s', step sha1Hex s (.initReply (some (some proxy.jid)) known) = some s' ∧
    s'.aborted = false ∧ s'.bytestreamState ≠ .closed ∧ s'.socks5State = .initiatorTryingConnect ∧
      ∃ p ∈ known, p.jid = proxy.jid ∧ s'.out = s.out ++ [.transportConnect p.host p.port]

end

/-! ## After the first connection -/

section

variable {sha1Hex : Bytes → Bytes} {s s' : State} {e : Event} {selfFullJid : Bytes}

theorem step_of_live (halive : s.disposeHasRun = false) (hrunning : s.aborted = false)
    (henabled : enabled s e = true) : step sha1Hex s e = some (handle sha1Hex s e) := by
  rw [step, halive, hrunning, henabled, if_neg (by decide)]

theorem taken_of_calm (hs : s.socks5State.taken = true) (h : Calm s s') :
    s'.socks5State.taken = true := by
  rw [h.socks5State]
  exact hs

theorem taken_socks5Error (hs : s.socks5State.taken = true) :
    (socks5Error s).socks5State.taken = true := by
  have hclosed : (close none { stopTimer s with socks5State := .error }).socks5State = .error :=
    (calm_close none _).socks5State
  rw [socks5Error]
  cases hstate : s.socks5State with
  | initiatorAwaitingAuthRequest => rfl
  | initiatorAwaitingCommand => rfl
  | connected => exact congrArg Socks5State.taken hclosed
  | error => exact congrArg Socks5State.taken hclosed
  | _ =>
    rw [hstate] at hs
    cases hs

theorem taken_follow {v : Verdict} {accept : ℕ → State × ℤ} (hs : s.socks5State.taken = true)
    (haccept : ∀ used, (accept used).1.socks5State.taken = true) :
    (follow v s accept).1.socks5State.taken = true := by
  cases v with
  | wait => exact hs
  | refused => exact taken_socks5Error hs
  | accepted used => exact haccept used

theorem taken_sendConnectReply (s : State) :
    (sendConnectReply sha1Hex s).socks5State.taken = true := by
  have hconnected := (calm_blockReceiving true
    { (writeToTransport (connectMessage 0 (domain sha1Hex false s)) s).1 with
      socks5State := .connected }).socks5State
  rw [sendConnectReply]
  split
  · exact congrArg Socks5State.taken hconnected
  · exact congrArg Socks5State.taken hconnected

theorem taken_handleReceivedData (hs : s.socks5State.taken = true) (buffer : Bytes) :
    (handleReceivedData sha1Hex s buffer).1.socks5State.taken = true := by
  rw [handleReceivedData]
  cases hstate : s.socks5State with
  | initiatorAwaitingAuthRequest => exact taken_follow hs fun _ => rfl
  | initiatorAwaitingCommand =>
    refine taken_follow hs fun used => ?_
    split
    · exact taken_sendConnectReply s
    · exact taken_socks5Error (s := closeTransport s) hs
  | connected =>
    change s.socks5State.taken = true
    exact hs
  | error => exact hs
  | _ =>
    rw [hstate] at hs
    cases hs

/-- By induction on the rounds of the loop. -/
theorem taken_readLoop (fuel : ℕ) (hs : s.socks5State.taken = true) :
    (readLoop sha1Hex fuel s).socks5State.taken = true := by
  induction fuel generalizing s with
  | zero => exact hs
  | succ fuel ih =>
    rw [readLoop]
    split
    · exact hs
    case h_2 buffer hbuffer =>
      have hround := @taken_handleReceivedData sha1Hex s hs buffer
      dsimp only
      split
      · exact hround
      split
      · exact hround
      · have hrest : ∀ rest, ({ (handleReceivedData sha1Hex s buffer).1 with
            readBuffer := some rest } : State).socks5State.taken = true := fun _ => hround
        split
        · split
          · exact ih (hrest _)
          · exact hrest _
        · split
          · exact ih (hrest _)
          · exact hrest _

/-- A connection to the listener, once made, keeps the stream from waiting again. -/
theorem taken_step (hs : s.socks5State.taken = true) (hdirect : e.isDirect = true)
    (hstep : step sha1Hex s e = some s') : s'.socks5State.taken = true := by
  obtain ⟨-, -, -, rfl⟩ := step_live hstep
  cases e with
  | newConnection =>
    change (setTransport _ _).socks5State.taken = true
    rw [setTransport]
    split <;> rfl
  | received data =>
    change (transportHandler sha1Hex data s).socks5State.taken = true
    rw [transportHandler]
    cases s.readBuffer with
    | none => exact hs
    | some buffer => exact taken_readLoop _ hs
  | transportDisconnected => exact taken_socks5Error hs
  | transportBufferEmpty =>
    have hcalm := calm_transportBufferEmptyCb { s with transport := s.transport.map fun t =>
      { t with bufferEmpty := true } }
    exact taken_of_calm (by exact hs) hcalm
  | blockReading block =>
    change (blockReading block s).socks5State.taken = true
    rw [blockReading]
    split
    · exact hs
    dsimp only
    split
    · have hcalm := calm_blockReceiving block { s with readBlocked := block }
      exact taken_of_calm (by exact hs) hcalm
    · exact hs
  | _ => cases hdirect

theorem taken_run {es : List Event} (hs : s.socks5State.taken = true)
    (hdirect : ∀ e ∈ es, e.isDirect = true) (hrun : run (step sha1Hex) s es = some s') :
    s'.socks5State.taken = true := by
  induction es generalizing s with
  | nil =>
    cases hrun
    exact hs
  | cons e es ih =>
    obtain ⟨s₁, hs₁, hrun'⟩ := Option.bind_eq_some_iff.mp hrun
    obtain ⟨he, hes⟩ := List.forall_mem_cons.mp hdirect
    exact ih (taken_step hs he hs₁) hes hrun'

/-! ## While nobody has connected -/

/-- Nothing but a connection ends the waiting. -/
theorem Waiting.step (hs : Waiting selfFullJid s) (hdirect : e.isDirect = true)
    (hstep : step sha1Hex s e = some s') :
    (e = .newConnection ∧ s'.socks5State.taken = true) ∨
      (e ≠ .newConnection ∧ Waiting selfFullJid s') := by
  obtain ⟨-, -, henabled, rfl⟩ := step_live hstep
  cases e with
  | newConnection =>
    left
    refine ⟨rfl, ?_⟩
    change (setTransport _ _).socks5State.taken = true
    rw [setTransport]
    split <;> rfl
  | received data =>
    rw [enabled, receives, hs.transport] at henabled
    cases henabled
  | transportDisconnected =>
    rw [enabled, hs.transport] at henabled
    cases henabled
  | transportBufferEmpty =>
    rw [enabled, hs.transport] at henabled
    cases henabled
  | blockReading block =>
    right
    refine ⟨by rintro ⟨⟩, ?_⟩
    change Waiting selfFullJid (blockReading block s)
    rw [blockReading]
    split
    · exact hs
    dsimp only
    rw [if_neg (by rw [hs.transport]; exact Bool.false_ne_true)]
    exact ⟨hs.selfFullJid, hs.bytestreamState, hs.socks5State, hs.transport, hs.readBuffer,
      hs.listener, hs.listening, hs.initsPending, hs.running, hs.alive⟩
  | _ => cases hdirect

/-- The stream waits exactly until the first connection. -/
theorem Waiting.run {es : List Event} (hs : Waiting selfFullJid s)
    (hdirect : ∀ e ∈ es, e.isDirect = true)
    (hrun : Transition.run (Socks5.step sha1Hex) s es = some s') :
    (Event.newConnection ∈ es ∧ s'.socks5State.taken = true) ∨
      (Event.newConnection ∉ es ∧ Waiting selfFullJid s') := by
  induction es generalizing s with
  | nil =>
    cases hrun
    exact .inr ⟨List.not_mem_nil, hs⟩
  | cons e es ih =>
    obtain ⟨s₁, hs₁, hrun'⟩ := Option.bind_eq_some_iff.mp hrun
    obtain ⟨he, hes⟩ := List.forall_mem_cons.mp hdirect
    rcases hs.step he hs₁ with ⟨rfl, htaken⟩ | ⟨hne, hwaiting⟩
    · exact .inl ⟨List.mem_cons_self, taken_run htaken hes hrun'⟩
    · rcases ih hwaiting hes hrun' with ⟨hmem, htaken⟩ | ⟨hnot, hwaiting'⟩
      · exact .inl ⟨List.mem_cons_of_mem _ hmem, htaken⟩
      · refine .inr ⟨fun hmem => ?_, hwaiting'⟩
        rcases List.mem_cons.mp hmem with h | h
        · exact hne h.symm
        · exact hnot h

theorem find_proxy_iff {jid : Bytes} {known : List Streamhost} :
    (∃ p, known.find? (fun p => some p.jid = some jid) = some p) ↔ ∃ p ∈ known, p.jid = jid := by
  rw [← Option.isSome_iff_exists, List.find?_isSome]
  simp only [Option.some.injEq, decide_eq_true_eq]

/-- The answer that names a proxy makes the stream connect exactly if it was waiting and
the factory knows the proxy. -/
theorem socks5InitReplyCb_tries_iff {jid : Bytes} {known : List Streamhost}
    (hs : s.socks5State = .initiatorOfferSent ∨ s.socks5State.taken = true) :
    (socks5InitReplyCb (some (some jid)) known s).socks5State = .initiatorTryingConnect ↔
      jid ≠ s.selfFullJid ∧ s.socks5State = .initiatorOfferSent ∧ ∃ p ∈ known, p.jid = jid := by
  have hidle : s.socks5State ≠ .initiatorTryingConnect := by
    intro h
    rw [h] at hs
    rcases hs with hs | hs <;> cases hs
  have hfailed (s₁ : State) : (connectionFailed s₁).socks5State = s₁.socks5State :=
    (calm_connectionFailed s₁).socks5State
  rw [socks5InitReplyCb]
  dsimp only
  split
  case isTrue hjid =>
    split
    case isTrue hoffer =>
      rw [hfailed]
      exact iff_of_false hidle fun h => hoffer h.2.1
    case isFalse hoffer =>
      rw [← find_proxy_iff, initiatorConnectedToProxy]
      split
      case h_1 hfind =>
        dsimp only at hfind
        rw [hfailed, hfind]
        exact iff_of_false hidle fun h => by simp at h
      case h_2 p hfind =>
        dsimp only at hfind
        refine iff_of_true ?_ ⟨hjid, not_not.mp hoffer, p, hfind⟩
        change (setTransport _ _).socks5State = _
        rw [setTransport]
        split <;> rfl
  case isFalse hjid =>
    have hjid : jid = s.selfFullJid := not_not.mp hjid
    split
    · rw [hfailed]
      exact iff_of_false hidle fun h => h.1 hjid
    · rw [(calm_blockReceiving false _).socks5State, (calm_setState .opened _).socks5State]
      exact iff_of_false hidle fun h => h.1 hjid

/-! ## A valid connection -/

theorem byteAt_connectMessage {domain : Bytes} (code : UInt8) (hdomain : domain.length = 40) :
    byteAt (connectMessage code domain) 45 = 0 ∧ byteAt (connectMessage code domain) 46 = 0 := by
  constructor
  all_goals simp [byteAt, connectMessage, hdomain]

/-- The CONNECT command with a domain of the right length is complete. -/
theorem connectCommand_connectMessage {domain : Bytes} (hdomain : domain.length = 40) :
    connectCommand (connectMessage 1 domain) = .accepted 47 := by
  have hlength : (connectMessage 1 domain).length = 47 := by simp [connectMessage, hdomain]
  obtain ⟨hzero, hzero'⟩ := byteAt_connectMessage 1 hdomain
  have hfour : byteAt (connectMessage 1 domain) 4 = 40 := rfl
  rw [connectCommand, hlength, if_neg (by decide), hfour, complete, hlength, if_neg (by decide)]
  have haddr : ((40 : UInt8) + 1).toNat = 41 := rfl
  rw [haddr, hzero, hzero']
  rfl

theorem checkDomain_connectMessage {domain : Bytes} (hdomain : domain.length = 40) :
    checkDomain (connectMessage 1 domain) domain = true := by
  have hfour : byteAt (connectMessage 1 domain) 4 = 40 := rfl
  have htake : ((connectMessage 1 domain).drop 5).take 40 = domain := by
    change (domain ++ [0, 0]).take 40 = domain
    rw [List.take_append_of_le_length hdomain.ge, ← hdomain, List.take_length]
  rw [checkDomain, hfour, htake]
  simp

/-- The client has connected to the listener, and what is written to it is sent. -/
def greeted (s : State) : State :=
  { s with
    socks5State := .initiatorAwaitingAuthRequest
    transport := some ⟨.connected, false, true⟩
    readBuffer := some []
    writes := [] }

/-- The authorization request was accepted. -/
def agreed (s : State) : State :=
  { wrote [5, 0] ⟨.connected, false, true⟩ (greeted s) with
    socks5State := .initiatorAwaitingCommand }

section

variable (hs : Waiting selfFullJid s)

include hs

theorem Waiting.newConnection :
    Socks5.step sha1Hex { s with writes := [] } .newConnection = some (greeted s) := by
  simp [Socks5.step, enabled, handle, newConnectionCb, setTransport, greeted, hs.alive, hs.running,
    hs.listening, hs.readBuffer]

theorem Waiting.fate_greeted (buffer : Bytes) :
    fate (holding buffer (greeted s)) = .kept := by
  simp [fate, holding, greeted, hs.bytestreamState]

theorem Waiting.authRequest :
    Socks5.step sha1Hex (greeted s) (.received [5, 1, 0]) = some (agreed s) := by
  have hsecond : second sha1Hex .initiator (holding [5, 1, 0] (greeted s)) =
      holding [5, 1, 0] (agreed s) := by
    rw [second_kept sha1Hex (s := holding [5, 1, 0] (greeted s)) rfl rfl rfl
      (fun h => absurd rfl h) (hs.fate_greeted [5, 1, 0])]
    simp [agreed, wrote, writesAll, holding, greeted, answer, Role.awaiting]
  have hverdict : Role.initiator.front [5, 1, 0] = .accepted 3 := rfl
  have hrunning : (agreed s).aborted = false := hs.running
  have hempty : holding [] (agreed s) = agreed s := holding_self rfl
  rw [step_received_eq sha1Hex (s := greeted s) rfl ⟨hs.running, hs.alive⟩ rfl]
  change some (readLoop sha1Hex 3 (holding [5, 1, 0] (greeted s))) = _
  rw [readLoop_succ, @handleReceivedData_start _ .initiator sha1Hex rfl, hverdict, follow,
    hsecond, next_used sha1Hex 2 hrunning (by decide),
    if_pos (show [5, 1, 0].drop 3 = ([] : Bytes) from rfl), hempty]

theorem Waiting.awaits : Awaits .initiator (agreed s) where
  state := rfl
  transport := Option.some_ne_none _
  running := hs.running
  streamhosts := nofun
  acknowledge := nofun
  listener := fun _ => hs.listener
  notClosed := by
    intro _ t ht _
    exact fate_wrote (s := greeted s) rfl (hs.fate_greeted []) [5, 0]

/-- **A valid connection is accepted** while the stream waits. -/
theorem Waiting.direct (hlength : ∀ b, (sha1Hex b).length = 40) :
    ∃ s', Transition.run (Socks5.step sha1Hex) { s with writes := [] } (validConnection sha1Hex s) =
      some s' ∧ s'.aborted = false ∧ s'.socks5State = .connected := by
  have hdomain : (domain sha1Hex false s).length = 40 := hlength _
  have hsame : domain sha1Hex false (agreed s) = domain sha1Hex false s := rfl
  have hsize : (connectMessage 1 (domain sha1Hex false s)).length ≤ bufSize := by
    simp [connectMessage, hdomain, bufSize]
  have hne : connectMessage 1 (domain sha1Hex false s) ≠ [] := List.cons_ne_nil _ _
  have hread : isRead (connectMessage 1 (domain sha1Hex false s)) = true := by
    rw [isRead, List.isEmpty_eq_false_iff.mpr hne, decide_eq_true hsize]
    rfl
  obtain ⟨-, hstate, hrunning, -⟩ := sendConnectReply_spec sha1Hex hs.awaits rfl rfl
  have hverdict := connectCommand_connectMessage hdomain
  rw [connectCommand_eq] at hverdict
  refine ⟨transportHandler sha1Hex (connectMessage 1 (domain sha1Hex false s)) (agreed s), ?_, ?_⟩
  · rw [validConnection, Transition.run, hs.newConnection, Option.bind_some, Transition.run,
      hs.authRequest, Option.bind_some, Transition.run,
      step_received_eq sha1Hex (s := agreed s) rfl ⟨hs.running, hs.alive⟩ hread]
    rfl
  · change (readLoop sha1Hex _ (holding _ (agreed s))).aborted = false ∧
      (readLoop sha1Hex _ (holding _ (agreed s))).socks5State = .connected
    rw [List.nil_append, readLoop_length sha1Hex hs.awaits hne, settled, Role.header, hverdict]
    dsimp only [finish]
    rw [hsame, checkDomain_connectMessage hdomain, if_pos rfl, hrunning, if_neg Bool.false_ne_true]
    exact ⟨hrunning, hstate⟩

/-- **A proxy is connected to** while the stream waits. -/
theorem Waiting.proxy {known : List Streamhost} {jid : Bytes}
    (hjid : jid ≠ selfFullJid) (hknown : ∃ p ∈ known, p.jid = jid) :
    ∃ s', Socks5.step sha1Hex s (.initReply (some (some jid)) known) = some s' ∧
      s'.aborted = false ∧ s'.bytestreamState ≠ .closed ∧ s'.socks5State = .initiatorTryingConnect ∧
        ∃ p ∈ known, p.jid = jid ∧ s'.out = s.out ++ [Effect.transportConnect p.host p.port] := by
  obtain ⟨p, hfind⟩ := find_proxy_iff.mpr hknown
  have hp : p.jid = jid := by simpa using List.find?_some hfind
  have hother : jid ≠ s.selfFullJid := by
    rw [hs.selfFullJid]
    exact hjid
  refine ⟨emit (.transportConnect p.host p.port)
    { s with
      initsPending := s.initsPending - 1
      proxyJid := some jid
      socks5State := .initiatorTryingConnect
      transport := some ⟨.connecting, false, true⟩
      readBuffer := some [] }, ?_, hs.running, ?_, rfl, p, List.mem_of_find?_eq_some hfind, hp, rfl⟩
  · have hpending : enabled s (.initReply (some (some jid)) known) = true :=
      decide_eq_true hs.initsPending
    rw [step_of_live hs.alive hs.running hpending, handle, socks5InitReplyCb]
    dsimp only
    rw [if_pos hother, if_neg (not_not.mpr hs.socks5State), initiatorConnectedToProxy]
    dsimp only
    rw [hfind]
    dsimp only
    rw [setTransport, if_neg (by rw [hs.readBuffer]; exact Bool.false_ne_true)]
  · change s.bytestreamState ≠ .closed
    rw [hs.bytestreamState]
    decide

end

/-! ## Direct connections and proxies -/

variable {streamId peerJid : Bytes} {mucContact : Bool} {writes : List Written}

/-- The stream waits when it has sent the streamhosts and listens. -/
theorem waiting_initiate {ips : List Bytes} (hips : ips ≠ []) (port : ℕ)
    (proxies : List Streamhost) :
    Waiting selfFullJid (initiate ips (some port) proxies
      (State.new streamId peerJid selfFullJid mucContact .initiating writes)) := by
  have hips' : ips.isEmpty ≠ true := by simpa using hips
  rw [initiate, if_neg (fun h => h rfl), if_neg hips', if_neg (fun h => Bool.noConfusion h)]
  exact ⟨rfl, rfl, rfl, rfl, rfl, rfl, rfl, Nat.succ_ne_zero _, rfl, rfl⟩

/-- **The stream can be reached in both ways exactly if nobody has connected to the
listener**, and the proxy is one that the factory still knows and not ourselves. -/
theorem recovers_iff {ips : List Bytes} (hips : ips ≠ []) (port : ℕ)
    {proxies known : List Streamhost} {proxy : Streamhost}
    (hlength : ∀ b, (sha1Hex b).length = 40) {es : List Event}
    (hdirect : ∀ e ∈ es, e.isDirect = true)
    (hrun : run (step sha1Hex)
      (State.new streamId peerJid selfFullJid mucContact .initiating writes)
      (.initiate ips (some port) proxies :: es) = some s) :
    Recovers sha1Hex known proxy s ↔
      .newConnection ∉ es ∧ proxy.jid ≠ selfFullJid ∧ ∃ p ∈ known, p.jid = proxy.jid := by
  obtain ⟨s₁, hs₁, hrun'⟩ := Option.bind_eq_some_iff.mp hrun
  cases hs₁
  have hwaiting := @waiting_initiate selfFullJid streamId peerJid mucContact writes ips hips port
    proxies
  rcases hwaiting.run hdirect hrun' with ⟨hmem, htaken⟩ | ⟨hnot, hs⟩
  · refine iff_of_false (fun h => ?_) fun h => h.1 hmem
    obtain ⟨s', hstep, -, -, htries, -⟩ := h.proxy
    obtain ⟨-, -, -, rfl⟩ := step_live hstep
    have hoffer := ((socks5InitReplyCb_tries_iff (.inr htaken)).mp htries).2.1
    rw [hoffer] at htaken
    cases htaken
  · constructor
    · intro h
      obtain ⟨s', hstep, -, -, htries, -⟩ := h.proxy
      obtain ⟨-, -, -, rfl⟩ := step_live hstep
      obtain ⟨hother, -, hknown⟩ := (socks5InitReplyCb_tries_iff (.inl hs.socks5State)).mp htries
      exact ⟨hnot, hs.selfFullJid ▸ hother, hknown⟩
    · rintro ⟨-, hother, hknown⟩
      refine ⟨?_, hs.direct hlength, hs.proxy hother hknown⟩
      rw [hs.bytestreamState]
      decide

end

/-- We listen for the target, and offer a proxy. -/
def listenOrProxy : Event := .initiate [ascii "192.0.2.3"] (some 5000) [sampleProxy]

/-- The user blocks the stream, and nobody has connected. -/
def blocked : List Event := [.blockReading true]

theorem recovers_iff_blocked :
    ∃ s, run (step sampleSha1Hex) sampleInitiator (listenOrProxy :: blocked) = some s ∧
      Recovers sampleSha1Hex [sampleProxy] sampleProxy s := by
  have hlength : ∀ b, (sampleSha1Hex b).length = 40 := by
    intro b
    rw [sampleSha1Hex]
    split
    · decide +kernel
    · decide +kernel
  have hother : sampleProxy.jid ≠ ascii "a@b/c" := by decide +kernel
  exact ⟨_, rfl, (recovers_iff (List.cons_ne_nil _ _) 5000 hlength
    (show ∀ e ∈ blocked, e.isDirect = true by decide) rfl).mpr
      ⟨by decide, hother, sampleProxy, List.mem_singleton_self _, rfl⟩⟩

/-- The stream is closed by the answer that names the proxy. -/
def lostProxy (s : State) : Bool :=
  s.socks5State = .error &&
    (step sampleSha1Hex s (.initReply (some (some sampleProxy.jid)) [sampleProxy])).all
      fun s => s.bytestreamState = .closed

theorem not_recovers_of_lostProxy {s : State} (hlost : lostProxy s = true) :
    ¬ Recovers sampleSha1Hex [sampleProxy] sampleProxy s := by
  intro h
  obtain ⟨s', hstep, -, hopen, -⟩ := h.proxy
  rw [lostProxy, hstep, Bool.and_eq_true, Option.all_some, decide_eq_true_eq, decide_eq_true_eq]
    at hlost
  exact hopen hlost.2

/-- The target sends a wrong version to the listener, or its connection breaks.  Then the
stream is closed when the target chooses the proxy. -/
theorem attempt_not_recovered :
    (∃ s, run (step sampleSha1Hex) sampleInitiator
        [listenOrProxy, .newConnection, .received [4, 1]] = some s ∧
      ¬ Recovers sampleSha1Hex [sampleProxy] sampleProxy s) ∧
    ∃ s, run (step sampleSha1Hex) sampleInitiator
        [listenOrProxy, .newConnection, .transportDisconnected] = some s ∧
      ¬ Recovers sampleSha1Hex [sampleProxy] sampleProxy s := by
  constructor
  · have hrun : (run (step sampleSha1Hex) sampleInitiator
        [listenOrProxy, .newConnection, .received [4, 1]]).any lostProxy = true := by
      decide +kernel
    obtain ⟨s, hs, hlost⟩ := (Option.any_eq_true _ _).mp hrun
    exact ⟨s, hs, not_recovers_of_lostProxy hlost⟩
  · have hrun : (run (step sampleSha1Hex) sampleInitiator
        [listenOrProxy, .newConnection, .transportDisconnected]).any lostProxy = true := by
      decide +kernel
    obtain ⟨s, hs, hlost⟩ := (Option.any_eq_true _ _).mp hrun
    exact ⟨s, hs, not_recovers_of_lostProxy hlost⟩

end Socks5
