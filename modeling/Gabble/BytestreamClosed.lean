/-
# Bytestreams that are closed

Whether a bytestream that is closed stays so.  Neither class looks at its state in
every callback: `wakes` tells which events still send data or change the state, and
without them nothing does.
-/
import Gabble.BytestreamIbbSend
import Gabble.BytestreamSocks5Segments

open CInt (guintSize)
open Transition

namespace Ibb

open Base64

/-! ## In-band bytestreams -/

/-- Neither data nor a new state. -/
def Effect.isQuiet : Effect → Bool
  | .data _ _ _ | .stateChanged _ => false
  | _ => true

/-- The state is as before, nothing was sent and no state was signalled. -/
structure Quiet (s s' : State) : Prop where
  state : s'.state = s.state
  out : ∃ new, s'.out = s.out ++ new ∧ new.all Effect.isQuiet = true

/-- The event makes a stream that is closed change its state or send data: the answer
to our `open` request comes late, or a data stanza is acknowledged while there is
something in the write buffer. -/
def wakes (s : State) : Event → Bool
  | .initReply success => success
  | .ack stanza =>
    0 < s.unsent.length % guintSize &&
      (s.sentStanzasNotAcked.erase stanza).length < windowSize
  | _ => false

theorem Quiet.refl (s : State) : Quiet s s := ⟨rfl, [], (List.append_nil _).symm, rfl⟩

theorem Quiet.trans {s s' s'' : State} (h : Quiet s s') (h' : Quiet s' s'') : Quiet s s'' := by
  obtain ⟨new, hout, hnew⟩ := h.out
  obtain ⟨new', hout', hnew'⟩ := h'.out
  refine ⟨h'.state.trans h.state, new ++ new', ?_, ?_⟩
  · rw [hout', hout, List.append_assoc]
  · rw [List.all_append, hnew, hnew']
    rfl

theorem quiet_emit (s : State) {effects : List Effect}
    (h : effects.all Effect.isQuiet = true) : Quiet s (emit s effects) :=
  ⟨rfl, effects, rfl, h⟩

theorem quiet_changeWriteBlockedState (s : State) (blocked : Bool) :
    Quiet s (changeWriteBlockedState s blocked) := by
  rw [changeWriteBlockedState]
  split
  · exact Quiet.refl s
  · exact ⟨rfl, _, rfl, rfl⟩

theorem quiet_answerAll (s : State) {answer : ℕ → Effect}
    (h : ∀ id, (answer id).isQuiet = true) : Quiet s (answerAll s answer) := by
  refine ⟨rfl, _, rfl, ?_⟩
  rw [List.all_map, List.all_eq_true]
  exact fun id _ => h id

theorem close_of_closed {s : State} (h : s.state = .closed) (error : Option GError) :
    close s error = s := if_pos h

/-- Nothing goes out when the buffer has no length or the window is full. -/
theorem sendData_none {s : State} (str : Bytes) {len : ℕ}
    (h : ¬ (0 < len ∧ s.sentStanzasNotAcked.length < windowSize)) : sendData s str len = (s, 0) := by
  by_cases hlen : 0 < len
  · have hfull : s.sentStanzasNotAcked.length ≥ windowSize := by
      by_contra hroom
      exact h ⟨hlen, by omega⟩
    show sendDataLoop str len (9 + 1) s 0 = _
    rw [sendDataLoop, if_pos hlen, if_pos hfull]
  · obtain rfl : len = 0 := by omega
    exact sendData_zero s str

theorem quiet_iqReplyCb {s : State} (hclosed : s.state = .closed) (stanza : ℕ) (acked : Bool)
    (h : acked = true → wakes s (.ack stanza) = false) : Quiet s (iqReplyCb s stanza acked) := by
  have hremoved : Quiet s (removeSent s stanza) := ⟨rfl, [], (List.append_nil _).symm, rfl⟩
  cases acked with
  | false =>
    rw [iqReplyCb, if_neg Bool.false_ne_true]
    exact (close_of_closed (s := removeSent s stanza) hclosed none).symm ▸ hremoved
  | true =>
    have hquiet := h rfl
    rw [iqReplyCb, if_pos rfl]
    cases hbuffer : s.writeBuffer with
    | none =>
      rw [show (removeSent s stanza).writeBuffer = none from hbuffer]
      exact hremoved
    | some buffer =>
      rw [show (removeSent s stanza).writeBuffer = some buffer from hbuffer]
      rw [wakes, State.unsent, hbuffer, Option.getD_some, Bool.and_eq_false_iff,
        decide_eq_false_iff_not, decide_eq_false_iff_not, ← not_and_or] at hquiet
      dsimp only [flushWriteBuffer]
      rw [sendData_none (s := removeSent s stanza) buffer hquiet]
      split
      · have hstate : (changeWriteBlockedState
            { removeSent s stanza with writeBuffer := none } false).state ≠ .closing := by
          rw [(quiet_changeWriteBlockedState _ false).state]
          exact fun hc => BytestreamState.noConfusion (hclosed.symm.trans hc)
        rw [if_neg hstate]
        have hflushed : Quiet s { removeSent s stanza with writeBuffer := none } :=
          ⟨rfl, [], (List.append_nil _).symm, rfl⟩
        exact hflushed.trans (quiet_changeWriteBlockedState _ false)
      · exact ⟨rfl, [], (List.append_nil _).symm, rfl⟩

/-- **The step lemma.** -/
theorem quiet_step {s s' : State} {e : Event} (hclosed : s.state = .closed)
    (hwakes : wakes s e = false) (hstep : step s e = some s') : Quiet s s' := by
  cases (step_does hstep).2 with
  | traffic h =>
    cases h with
    | send str =>
      rw [send, if_pos (by rw [hclosed]; exact BytestreamState.noConfusion)]
      exact Quiet.refl s
    | acked stanza => exact quiet_iqReplyCb hclosed stanza true fun _ => hwakes
    | refused stanza => exact quiet_iqReplyCb hclosed stanza false fun h => Bool.noConfusion h
    | close error =>
      rw [close_of_closed hclosed]
      exact Quiet.refl s
    | closeReceived iq =>
      rw [closeReceived, close_of_closed (s := { s with closeIqToAck := some iq }) hclosed]
      exact ⟨rfl, [], (List.append_nil _).symm, rfl⟩
    | receive id content isIq =>
      rw [receive, if_pos (by rw [hclosed]; exact BytestreamState.noConfusion), answer]
      split
      · exact quiet_emit s rfl
      · exact Quiet.refl s
    | blockReading block =>
      rw [blockReading]
      split
      · exact Quiet.refl s
      dsimp only
      split
      · refine Quiet.trans ?_ (quiet_answerAll _ fun _ => rfl)
        exact ⟨rfl, _, rfl, rfl⟩
      · exact ⟨rfl, [], (List.append_nil _).symm, rfl⟩
  | accept sent =>
    rw [accept, if_pos (by rw [hclosed]; exact BytestreamState.noConfusion)]
    exact Quiet.refl s
  | openReceived blockSize haccepted =>
    exact BytestreamState.noConfusion (hclosed.symm.trans haccepted)
  | initiate sent =>
    rw [initiate, if_pos (by rw [hclosed]; exact BytestreamState.noConfusion)]
    exact Quiet.refl s
  | initReply success =>
    have hfailed : success = false := hwakes
    rw [ibbInitReplyCb, hfailed, if_neg Bool.false_ne_true, setState]
    rw [if_pos (show ({ s with initsPending := s.initsPending - 1 } : State).state = .closed from
      hclosed)]
    exact ⟨rfl, [], (List.append_nil _).symm, rfl⟩
  | dispose =>
    rw [dispose]
    split
    · exact Quiet.refl s
    · dsimp only
      rw [if_neg (not_not.mpr hclosed)]
      split
      · exact ⟨rfl, _, rfl, rfl⟩
      · exact ⟨rfl, [], (List.append_nil _).symm, rfl⟩

end Ibb

namespace Socks5

open Base64

/-! ## SOCKS5 bytestreams -/

/-- Neither data nor a new state. -/
def Effect.isQuiet : Effect → Bool
  | .transportSend _ | .stateChanged _ => false
  | _ => true

/-- The state is as before, nothing was sent and no state was signalled. -/
structure Quiet (s s' : State) : Prop where
  state : s'.bytestreamState = s.bytestreamState
  out : ∃ new, s'.out = s.out ++ new ∧ new.all Effect.isQuiet = true

/-- The message that is awaited is complete, and the handler answers it or opens the
stream. -/
def answers (sha1Hex : Bytes → Bytes) (s : State) (buffer : Bytes) : Bool :=
  match s.socks5State with
  | .targetAuthRequestSent | .initiatorAuthRequestSent =>
    match authReply buffer with
    | .accepted _ => true
    | .wait | .refused => false
  | .targetConnectRequested =>
    match connectReply buffer with
    | .accepted _ => true
    | .wait | .refused => false
  | .initiatorAwaitingAuthRequest =>
    match authRequest buffer with
    | .accepted _ => true
    | .wait | .refused => false
  | .initiatorAwaitingCommand =>
    match connectCommand buffer with
    | .accepted _ => checkDomain buffer (domain sha1Hex false s)
    | .wait | .refused => false
  | _ => false

/-- The event makes a stream that is closed change its state or send data: an answer to
a query or an activation comes late, or the negotiation goes on. -/
def wakes (sha1Hex : Bytes → Bytes) (s : State) : Event → Bool
  | .initReply reply _ => reply = some (some s.selfFullJid) && s.socks5State = .connected
  | .activationReply success => success && s.socks5State = .initiatorActivationSent
  | .transportConnected =>
    s.socks5State = .targetTryingConnect || s.socks5State = .initiatorTryingConnect
  | .received data => answers sha1Hex s (s.readBuffer.getD [] ++ data)
  | _ => false

theorem Quiet.refl (s : State) : Quiet s s := ⟨rfl, [], (List.append_nil _).symm, rfl⟩

theorem Quiet.trans {s s' s'' : State} (h : Quiet s s') (h' : Quiet s' s'') : Quiet s s'' := by
  obtain ⟨new, hout, hnew⟩ := h.out
  obtain ⟨new', hout', hnew'⟩ := h'.out
  refine ⟨h'.state.trans h.state, new ++ new', ?_, ?_⟩
  · rw [hout', hout, List.append_assoc]
  · rw [List.all_append, hnew, hnew']
    rfl

/-- Other fields have changed. -/
theorem quiet_of_same {s s' : State} (hstate : s'.bytestreamState = s.bytestreamState)
    (hout : s'.out = s.out) : Quiet s s' :=
  ⟨hstate, [], by rw [hout, List.append_nil], rfl⟩

/-- Other fields have changed, and something was signalled that is quiet. -/
theorem quiet_of_emit {s s' : State} {e : Effect} (he : e.isQuiet = true)
    (hstate : s'.bytestreamState = s.bytestreamState) (hout : s'.out = s.out ++ [e]) :
    Quiet s s' :=
  ⟨hstate, [e], hout, by rw [List.all_cons, he]; rfl⟩

section

variable {s : State}

theorem quiet_blockReceiving (block : Bool) (s : State) : Quiet s (blockReceiving block s) := by
  rw [blockReceiving]
  split
  · exact quiet_of_same rfl rfl
  · exact quiet_of_emit rfl rfl rfl

theorem quiet_changeWriteBlockedState (blocked : Bool) (s : State) :
    Quiet s (changeWriteBlockedState blocked s) := by
  rw [changeWriteBlockedState]
  split
  · exact Quiet.refl s
  · exact quiet_of_emit rfl rfl rfl

theorem quiet_setTransport (t : Transport) (s : State) : Quiet s (setTransport t s) := by
  rw [setTransport]
  split
  · exact quiet_of_same rfl rfl
  · exact quiet_of_same rfl rfl

theorem quiet_startTimer (s : State) : Quiet s (startTimer s) := by
  rw [startTimer]
  split
  · exact quiet_of_same rfl rfl
  · exact quiet_of_same rfl rfl

theorem quiet_tryStreamhost (h : Streamhost) (s : State) : Quiet s (tryStreamhost h s) := by
  have hset : Quiet s (setTransport ⟨.connecting, false, true⟩
      { s with socks5State := .targetTryingConnect }) := by
    refine Quiet.trans ?_ (quiet_setTransport _ _)
    exact quiet_of_same rfl rfl
  exact (hset.trans (quiet_startTimer _)).trans (quiet_of_emit rfl rfl rfl)

theorem quiet_noMoreStreamhosts (s : State) : Quiet s (noMoreStreamhosts s) := by
  have hemit : Quiet s (emit .connectionError s) := quiet_of_emit rfl rfl rfl
  refine hemit.trans ?_
  rw [noMoreStreamhosts]
  split
  · exact quiet_of_same rfl rfl
  · exact quiet_of_emit rfl rfl rfl

theorem quiet_streamhostFailed (s : State) : Quiet s (streamhostFailed s) := by
  rw [streamhostFailed]
  dsimp only
  split
  · refine Quiet.trans ?_ (quiet_tryStreamhost _ _)
    exact quiet_of_same rfl rfl
  · refine Quiet.trans ?_ (quiet_noMoreStreamhosts _)
    exact quiet_of_same rfl rfl

theorem setState_closed (hclosed : s.bytestreamState = .closed) : setState .closed s = s :=
  if_pos hclosed

theorem close_of_closed (hclosed : s.bytestreamState = .closed) (error : Option Ibb.GError) :
    close error s = s := if_pos hclosed

theorem quiet_socks5Error (hclosed : s.bytestreamState = .closed) : Quiet s (socks5Error s) := by
  have hstopped : Quiet s { stopTimer s with socks5State := .error } := quiet_of_same rfl rfl
  have hclose : close none { stopTimer s with socks5State := .error } =
      { stopTimer s with socks5State := .error } :=
    close_of_closed (s := { stopTimer s with socks5State := .error }) hclosed none
  refine hstopped.trans ?_
  rw [socks5Error]
  split
  · exact quiet_streamhostFailed _
  · exact quiet_streamhostFailed _
  · exact quiet_streamhostFailed _
  · exact Quiet.refl _
  · exact Quiet.refl _
  · rw [hclose]
    exact Quiet.refl _

theorem quiet_connectionFailed (hclosed : s.bytestreamState = .closed) :
    Quiet s (connectionFailed s) := by
  rw [connectionFailed, setState_closed (s := emit .connectionError s) hclosed]
  exact quiet_of_emit rfl rfl rfl

theorem quiet_addStreamhosts (nodes : List StreamhostNode) (s : State) :
    Quiet s (nodes.foldl addStreamhost s) := by
  induction nodes generalizing s with
  | nil => exact Quiet.refl s
  | cons node nodes ih =>
    rw [List.foldl_cons]
    refine Quiet.trans ?_ (ih _)
    rw [addStreamhost]
    split
    · split
      · exact Quiet.refl s
      · split
        · exact Quiet.refl s
        · exact quiet_of_same rfl rfl
    · exact Quiet.refl s

theorem quiet_queryReceived (hclosed : s.bytestreamState = .closed) (iq : ℕ)
    (nodes : List StreamhostNode) : Quiet s (queryReceived iq nodes s) := by
  have hadded : Quiet s { nodes.foldl addStreamhost s with msgForAcknowledgeConnection := some iq } :=
    (quiet_addStreamhosts nodes s).trans (quiet_of_same rfl rfl)
  refine hadded.trans ?_
  rw [queryReceived, socks5Connect]
  split
  · exact quiet_tryStreamhost _ _
  · refine Quiet.trans ?_ (quiet_socks5Error ?_)
    · exact quiet_of_same rfl rfl
    · exact hadded.state.trans hclosed

theorem quiet_socks5InitReplyCb (hclosed : s.bytestreamState = .closed)
    {reply : Option (Option Bytes)} {proxies : List Streamhost}
    (h : ¬ (reply = some (some s.selfFullJid) ∧ s.socks5State = .connected)) :
    Quiet s (socks5InitReplyCb reply proxies s) := by
  have hanswered : Quiet s { s with initsPending := s.initsPending - 1 } := quiet_of_same rfl rfl
  have hfailed := hanswered.trans
    (quiet_connectionFailed (s := { s with initsPending := s.initsPending - 1 }) hclosed)
  rcases reply with - | - | jid
  · exact hfailed
  · exact hfailed
  rw [socks5InitReplyCb]
  split
  · split
    · exact hfailed
    · rw [initiatorConnectedToProxy]
      split
      · refine Quiet.trans ?_ (quiet_connectionFailed hclosed)
        exact quiet_of_same rfl rfl
      · refine Quiet.trans (Quiet.trans ?_ (quiet_setTransport _ _)) (quiet_of_emit rfl rfl rfl)
        exact quiet_of_same rfl rfl
  case isFalse hjid =>
    split
    · exact hfailed
    case isFalse hstate =>
      refine absurd ⟨?_, not_not.mp hstate⟩ h
      rw [not_not.mp hjid]

end

section

variable (sha1Hex : Bytes → Bytes)

/-- A round of the loop that answers nothing, and what the next one may find. -/
structure Listens (s : State) (buffer : Bytes) (r : State × ℤ) : Prop where
  quiet : Quiet s r.1
  rest : 0 < r.2 → r.1.socks5State = .initiatorActivationSent ∨
    r.2 = buffer.length ∧ r.1.readBuffer = s.readBuffer

theorem listens_follow {s : State} (hclosed : s.bytestreamState = .closed) {buffer : Bytes}
    {v : Verdict} {accept : ℕ → State × ℤ}
    (haccept : ∀ used, v = .accepted used → Listens s buffer (accept used)) :
    Listens s buffer (follow v s accept) := by
  cases v with
  | wait => exact ⟨Quiet.refl s, fun h => absurd h (lt_irrefl 0)⟩
  | refused => exact ⟨quiet_socks5Error hclosed, fun h => absurd h (show ¬ (0 : ℤ) < -1 by decide)⟩
  | accepted used => exact haccept used rfl

theorem listens_handleReceivedData {s : State} (hclosed : s.bytestreamState = .closed)
    {buffer : Bytes} (h : answers sha1Hex s buffer = false) :
    Listens s buffer (handleReceivedData sha1Hex s buffer) := by
  rw [answers] at h
  rw [handleReceivedData]
  cases hstate : s.socks5State with
  | targetAuthRequestSent =>
    rw [hstate] at h
    refine listens_follow hclosed fun used hv => ?_
    rw [hv] at h
    cases h
  | initiatorAuthRequestSent =>
    rw [hstate] at h
    refine listens_follow hclosed fun used hv => ?_
    rw [hv] at h
    cases h
  | targetConnectRequested =>
    rw [hstate] at h
    refine listens_follow hclosed fun used hv => ?_
    rw [hv] at h
    cases h
  | initiatorConnectRequested =>
    refine listens_follow hclosed fun used _ => ⟨?_, fun _ => .inl ?_⟩
    · refine Quiet.trans (Quiet.trans ?_ (quiet_blockReceiving _ _)) (quiet_of_emit rfl rfl rfl)
      exact quiet_of_same rfl rfl
    · show (blockReceiving true { stopTimer s with
          socks5State := .initiatorActivationSent }).socks5State = _
      rw [blockReceiving]
      split
      · rfl
      · rfl
  | initiatorAwaitingAuthRequest =>
    rw [hstate] at h
    refine listens_follow hclosed fun used hv => ?_
    rw [hv] at h
    cases h
  | initiatorAwaitingCommand =>
    rw [hstate] at h
    refine listens_follow hclosed fun used hv => ?_
    rw [hv] at h
    rw [if_neg (by rw [show checkDomain buffer (domain sha1Hex false s) = false from h]; decide)]
    refine ⟨?_, fun h => absurd h (show ¬ (0 : ℤ) < -1 by decide)⟩
    refine Quiet.trans ?_ (quiet_socks5Error (s := closeTransport s) hclosed)
    exact quiet_of_same rfl rfl
  | connected =>
    refine ⟨⟨rfl, _, rfl, ?_⟩, fun _ => .inr ⟨rfl, rfl⟩⟩
    rw [List.all_map, List.all_eq_true]
    exact fun _ _ => rfl
  | error => exact ⟨Quiet.refl s, fun _ => .inr ⟨rfl, rfl⟩⟩
  | targetTryingConnect => exact ⟨quiet_of_same rfl rfl, fun _ => .inr ⟨rfl, rfl⟩⟩
  | initiatorTryingConnect => exact ⟨quiet_of_same rfl rfl, fun _ => .inr ⟨rfl, rfl⟩⟩
  | initiatorOfferSent => exact ⟨quiet_of_same rfl rfl, fun _ => .inr ⟨rfl, rfl⟩⟩
  | initiatorActivationSent => exact ⟨quiet_of_same rfl rfl, fun _ => .inr ⟨rfl, rfl⟩⟩
  | invalid => exact ⟨quiet_of_same rfl rfl, fun _ => .inr ⟨rfl, rfl⟩⟩

theorem quiet_readLoop (fuel : ℕ) {s : State} (hclosed : s.bytestreamState = .closed)
    (h : ∀ buffer, s.readBuffer = some buffer → answers sha1Hex s buffer = false) :
    Quiet s (readLoop sha1Hex fuel s) := by
  induction fuel generalizing s with
  | zero => exact Quiet.refl s
  | succ fuel ih =>
    cases hbuffer : s.readBuffer with
    | none =>
      rw [readLoop, hbuffer]
      exact Quiet.refl s
    | some buffer =>
      have hround := listens_handleReceivedData sha1Hex hclosed (h buffer hbuffer)
      rw [← holding_self hbuffer, readLoop_succ, holding_self hbuffer]
      generalize handleReceivedData sha1Hex s buffer = r at hround
      rw [next]
      split
      · exact hround.quiet
      split
      · exact hround.quiet
      case h_2 buffer' hbuffer' =>
        dsimp only
        generalize hrest : (if r.2 < 0 then [] else buffer'.drop r.2.toNat) = rest
        have hsame : Quiet s { r.1 with readBuffer := some rest } :=
          hround.quiet.trans (quiet_of_same rfl rfl)
        split
        case isFalse => exact hsame
        case isTrue hgo =>
          rw [Bool.and_eq_true, decide_eq_true_eq, Bool.not_eq_true',
            List.isEmpty_eq_false_iff] at hgo
          refine hsame.trans (ih (hsame.state.trans hclosed) fun buffer'' _ => ?_)
          rcases hround.rest hgo.1 with hactivation | ⟨hall, hkept⟩
          · rw [answers, show ({ r.1 with readBuffer := some rest } : State).socks5State =
              .initiatorActivationSent from hactivation]
          · -- everything was used
            rw [hkept, hbuffer] at hbuffer'
            cases hbuffer'
            rw [hall, if_neg (by omega), Int.toNat_natCast, List.drop_length] at hrest
            exact absurd hrest.symm hgo.2

theorem transportConnectedCb_idle {s : State}
    (h : (s.socks5State = .targetTryingConnect || s.socks5State = .initiatorTryingConnect) =
      false) : transportConnectedCb s = stopTimer s := by
  rw [transportConnectedCb]
  exact if_neg (ne_true_of_eq_false h)

/-- **The step lemma.** -/
theorem quiet_step {s s' : State} {e : Event} (hclosed : s.bytestreamState = .closed)
    (hwakes : wakes sha1Hex s e = false) (hstep : step sha1Hex s e = some s') : Quiet s s' := by
  rw [step] at hstep
  split at hstep
  · cases hstep
  cases hstep
  cases e with
  | initiate ips port proxies =>
    dsimp only [handle, initiate]
    rw [if_pos (by rw [hclosed]; exact Ibb.BytestreamState.noConfusion)]
    exact Quiet.refl s
  | accept sent =>
    dsimp only [handle, accept]
    rw [if_pos (by rw [hclosed]; exact Ibb.BytestreamState.noConfusion)]
    exact Quiet.refl s
  | send str =>
    dsimp only [handle, send]
    rw [if_pos (by rw [hclosed]; exact Ibb.BytestreamState.noConfusion)]
    exact Quiet.refl s
  | close error =>
    dsimp only [handle]
    rw [close_of_closed hclosed]
    exact Quiet.refl s
  | blockReading block =>
    dsimp only [handle, blockReading]
    split
    · exact Quiet.refl s
    split
    · refine Quiet.trans ?_ (quiet_blockReceiving block _)
      exact quiet_of_same rfl rfl
    · exact quiet_of_same rfl rfl
  | query iq nodes => exact quiet_queryReceived hclosed iq nodes
  | initReply reply proxies =>
    rw [wakes, Bool.and_eq_false_iff, decide_eq_false_iff_not, decide_eq_false_iff_not,
      ← not_and_or] at hwakes
    exact quiet_socks5InitReplyCb hclosed hwakes
  | activationReply success =>
    dsimp only [handle, socks5ActivationReplyCb]
    rw [if_neg (by rw [show (success && decide (s.socks5State = .initiatorActivationSent)) = false
      from hwakes]; decide)]
    refine Quiet.trans ?_ (quiet_connectionFailed ?_)
    · exact quiet_of_same rfl rfl
    · exact hclosed
  | newConnection =>
    refine Quiet.trans ?_ (quiet_setTransport _ _)
    exact quiet_of_same rfl rfl
  | transportConnected =>
    have hidle := transportConnectedCb_idle (s := { s with
      transport := s.transport.map fun t => { t with phase := .connected } }) hwakes
    rw [handle, hidle]
    exact quiet_of_same rfl rfl
  | transportDisconnected =>
    refine Quiet.trans ?_ (quiet_socks5Error ?_)
    · exact quiet_of_same rfl rfl
    · exact hclosed
  | transportBufferEmpty =>
    dsimp only [handle, transportBufferEmptyCb]
    rw [if_neg (by rw [hclosed]; exact Ibb.BytestreamState.noConfusion)]
    split
    · refine Quiet.trans ?_ (quiet_changeWriteBlockedState false _)
      exact quiet_of_same rfl rfl
    · exact quiet_of_same rfl rfl
  | received data =>
    dsimp only [handle]
    rw [transportHandler]
    rw [wakes] at hwakes
    split
    · exact quiet_of_same rfl rfl
    case h_2 buffer hbuffer =>
      rw [hbuffer, Option.getD_some] at hwakes
      refine Quiet.trans ?_ (quiet_readLoop sha1Hex _ ?_ ?_)
      · exact quiet_of_same rfl rfl
      · exact hclosed
      · intro buffer' hbuffer'
        cases hbuffer'
        exact hwakes
  | timeout => exact quiet_socks5Error hclosed
  | dispose =>
    dsimp only [handle, dispose]
    rw [if_neg (not_not.mpr (show (stopTimer { s with disposeHasRun := true }).bytestreamState =
      .closed from hclosed))]
    exact quiet_of_same rfl rfl

end

end Socks5

namespace Bytestream

open Socks5 (sampleSha1Hex)

/-! ## Both classes -/

/-- **Closed for good.**  In every run of a stream that is closed in which no event wakes
it, the stream stays closed, sends no data and signals no state. -/
theorem closed_stays (sha1Hex : Base64.Bytes → Base64.Bytes) (s s' : Ibb.State)
    (es : List Ibb.Event) (t t' : Socks5.State) (fs : List Socks5.Event) :
    (s.state = .closed → Admits (fun s e => Ibb.wakes s e = false) Ibb.step s es →
      run Ibb.step s es = some s' → Ibb.Quiet s s') ∧
    (t.bytestreamState = .closed →
      Admits (fun t e => Socks5.wakes sha1Hex t e = false) (Socks5.step sha1Hex) t fs →
      run (Socks5.step sha1Hex) t fs = some t' → Socks5.Quiet t t') := by
  constructor
  · intro hclosed hadm hrun
    refine (reachable_of_run es hadm hrun).invariant (Ibb.Quiet.refl s) ?_
    intro s₁ e s₂ hquiet hok hstep
    exact hquiet.trans (Ibb.quiet_step (hquiet.state.trans hclosed) hok hstep)
  · intro hclosed hadm hrun
    refine (reachable_of_run fs hadm hrun).invariant (Socks5.Quiet.refl t) ?_
    intro t₁ e t₂ hquiet hok hstep
    exact hquiet.trans (Socks5.quiet_step sha1Hex (hquiet.state.trans hclosed) hok hstep)

/-- An in-band stream whose `open` request is answered after it was closed. -/
def lateAnswer : List Ibb.Event := [.initiate true, .close none, .initReply true]

/-- A target that was closed while it connects to the first of two streamhosts: the
timer is still running, and the second is tried. -/
def lateTimeout : List Socks5.Event :=
  [.accept true,
    .query 1 [⟨false, some (CText.ascii "d@e/f"), some (CText.ascii "192.0.2.2"), some 7778⟩,
      ⟨false, some (CText.ascii "d@e/f"), some (CText.ascii "192.0.2.3"), some 7778⟩],
    .close none, .timeout, .transportConnected, .received [5, 0],
    .received Socks5.streamhostReply]

/-- Both streams are open in the end, although they were closed. -/
theorem opened_again :
    ((run Ibb.step (Ibb.State.new 4096 .initiating) (lateAnswer.take 2)).map (·.state) =
        some .closed ∧
      (run Ibb.step (Ibb.State.new 4096 .initiating) lateAnswer).map (·.state) = some .opened) ∧
    (run (Socks5.step sampleSha1Hex) Socks5.sampleTarget (lateTimeout.take 3)).map
        (·.bytestreamState) = some .closed ∧
      (run (Socks5.step sampleSha1Hex) Socks5.sampleTarget lateTimeout).map
        (·.bytestreamState) = some .opened := by
  decide +kernel

/-- The in-band stream after it was closed, when its request is refused and data comes. -/
def refusedAnswer : List Ibb.Event := [.initReply false, .receive 1 [] true]

/-- The target after it was closed, when no streamhost can be reached. -/
def lostStreamhosts : List Socks5.Event := [.timeout, .transportDisconnected]

/-- Runs that nothing wakes. -/
theorem closed_stays_refused :
    ∃ s s' t t',
      run Ibb.step (Ibb.State.new 4096 .initiating) (lateAnswer.take 2) = some s ∧
      run (Socks5.step sampleSha1Hex) Socks5.sampleTarget (lateTimeout.take 3) = some t ∧
      Ibb.Quiet s s' ∧ Socks5.Quiet t t' := by
  have hibb : ((run Ibb.step (Ibb.State.new 4096 .initiating) (lateAnswer.take 2)).any fun s =>
      s.state = .closed && Admits (fun s e => Ibb.wakes s e = false) Ibb.step s refusedAnswer &&
        (run Ibb.step s refusedAnswer).isSome) = true := by decide +kernel
  have hsocks : ((run (Socks5.step sampleSha1Hex) Socks5.sampleTarget (lateTimeout.take 3)).any
      fun t => t.bytestreamState = .closed &&
        Admits (fun t e => Socks5.wakes sampleSha1Hex t e = false) (Socks5.step sampleSha1Hex) t
          lostStreamhosts &&
        (run (Socks5.step sampleSha1Hex) t lostStreamhosts).isSome) = true := by decide +kernel
  obtain ⟨s, hs, hgo⟩ := (Option.any_eq_true _ _).mp hibb
  obtain ⟨t, ht, hgo'⟩ := (Option.any_eq_true _ _).mp hsocks
  simp only [Bool.and_eq_true, decide_eq_true_eq] at hgo hgo'
  obtain ⟨⟨hclosed, hadm⟩, hrun⟩ := hgo
  obtain ⟨⟨hclosed', hadm'⟩, hrun'⟩ := hgo'
  obtain ⟨s', hs'⟩ := Option.isSome_iff_exists.mp hrun
  obtain ⟨t', ht'⟩ := Option.isSome_iff_exists.mp hrun'
  obtain ⟨hquiet, hquiet'⟩ := closed_stays sampleSha1Hex s s' refusedAnswer t t' lostStreamhosts
  exact ⟨s, s', t, t', hs, ht, hquiet hclosed hadm hs', hquiet' hclosed' hadm' ht'⟩

end Bytestream
