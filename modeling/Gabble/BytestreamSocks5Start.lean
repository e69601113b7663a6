/-
# Where a SOCKS5 negotiation starts

What the code relies on when the first message of a negotiation comes, proved for
every state of the stream that any run can reach: a target has a streamhost and a
query to answer, an initiator has a listener, and the timer was stopped when the
connection was made.
-/
import Gabble.BytestreamSocks5Read
import Gabble.Transition

namespace Socks5

open Base64 Transition

variable {s : State}

/-! ## The invariant -/

/-- The states of a target. -/
def Socks5State.isTarget : Socks5State → Bool
  | .targetTryingConnect | .targetAuthRequestSent | .targetConnectRequested => true
  | _ => false

/-- The authorization request was sent. -/
def Socks5State.authSent : Socks5State → Bool
  | .targetAuthRequestSent | .initiatorAuthRequestSent => true
  | _ => false

/-- A client negotiates with the listener. -/
def Socks5State.serves : Socks5State → Bool
  | .initiatorAwaitingAuthRequest | .initiatorAwaitingCommand => true
  | _ => false

/-- The timer is not running when the transport is connected. -/
def Timely (s : State) : Prop :=
  (s.transport.any fun t => t.phase = .connected) = true → s.timer = false

/-- What holds in every state. -/
structure Facts (s : State) : Prop where
  target : s.socks5State.isTarget = true →
    s.streamhosts ≠ [] ∧ s.msgForAcknowledgeConnection ≠ none
  timely : s.socks5State.authSent = true → Timely s
  listener : s.socks5State.serves = true → s.listener = true
  listening : s.listening = true → s.listener = true

/-- The negotiation goes on as before, unless the connection is lost. -/
structure Calm (s s' : State) : Prop where
  socks5State : s'.socks5State = s.socks5State
  streamhosts : s'.streamhosts = s.streamhosts
  acknowledge : s'.msgForAcknowledgeConnection = s.msgForAcknowledgeConnection
  timer : s'.timer = s.timer
  listener : s'.listener = s.listener
  listening : s'.listening = s.listening
  transport : (s'.transport.any fun t => t.phase = .connected) = true →
    (s.transport.any fun t => t.phase = .connected) = true

theorem Calm.refl (s : State) : Calm s s := ⟨rfl, rfl, rfl, rfl, rfl, rfl, id⟩

theorem Calm.trans {s s' s'' : State} (h : Calm s s') (h' : Calm s' s'') : Calm s s'' where
  socks5State := h'.socks5State.trans h.socks5State
  streamhosts := h'.streamhosts.trans h.streamhosts
  acknowledge := h'.acknowledge.trans h.acknowledge
  timer := h'.timer.trans h.timer
  listener := h'.listener.trans h.listener
  listening := h'.listening.trans h.listening
  transport := fun hc => h.transport (h'.transport hc)

theorem Calm.timely {s s' : State} (h : Calm s s') (hs : Timely s) : Timely s' := by
  intro hc
  rw [h.timer]
  exact hs (h.transport hc)

theorem Calm.facts {s s' : State} (h : Calm s s') (hs : Facts s) : Facts s' where
  target := by
    rw [h.socks5State, h.streamhosts, h.acknowledge]
    exact hs.target
  timely := by
    rw [h.socks5State]
    exact fun ha => h.timely (hs.timely ha)
  listener := by
    rw [h.socks5State, h.listener]
    exact hs.listener
  listening := by
    rw [h.listening, h.listener]
    exact hs.listening

/-! ## What does not touch the negotiation -/

theorem calm_setState (state : Ibb.BytestreamState) (s : State) : Calm s (setState state s) := by
  rw [setState_eq]
  exact ⟨rfl, rfl, rfl, rfl, rfl, rfl, id⟩

theorem calm_blockReceiving (block : Bool) (s : State) : Calm s (blockReceiving block s) := by
  rw [blockReceiving]
  cases ht : s.transport with
  | none => exact ⟨rfl, rfl, rfl, rfl, rfl, rfl, id⟩
  | some t =>
    refine ⟨rfl, rfl, rfl, rfl, rfl, rfl, ?_⟩
    rw [ht]
    exact id

theorem calm_bytestreamClosed (s : State) : Calm s (bytestreamClosed s) := by
  have hclose : Calm s (closeTransport s) :=
    ⟨rfl, rfl, rfl, rfl, rfl, rfl, fun h => Bool.noConfusion h⟩
  exact hclose.trans (calm_setState _ _)

theorem calm_changeWriteBlockedState (blocked : Bool) (s : State) :
    Calm s (changeWriteBlockedState blocked s) := by
  rw [changeWriteBlockedState]
  split
  · exact Calm.refl s
  · exact ⟨rfl, rfl, rfl, rfl, rfl, rfl, id⟩

theorem calm_transportBufferEmptyCb (s : State) : Calm s (transportBufferEmptyCb s) := by
  rw [transportBufferEmptyCb]
  split
  · exact calm_bytestreamClosed s
  · split
    · exact calm_changeWriteBlockedState false s
    · exact Calm.refl s

theorem calm_close (error : Option Ibb.GError) (s : State) : Calm s (close error s) := by
  rcases close_cases error s with ⟨-, state, registered, out, h⟩ | ⟨-, registered, out, h⟩
  · rw [h]
    exact ⟨rfl, rfl, rfl, rfl, rfl, rfl, id⟩
  · rw [h]
    exact ⟨rfl, rfl, rfl, rfl, rfl, rfl, fun h => Bool.noConfusion h⟩

theorem calm_connectionFailed (s : State) : Calm s (connectionFailed s) := by
  have hemit : Calm s (emit .connectionError s) := ⟨rfl, rfl, rfl, rfl, rfl, rfl, id⟩
  exact hemit.trans (calm_setState _ _)

/-! ## Errors and writes -/

/-- The state after an error: nothing is negotiated, or the next streamhost is tried. -/
structure Failed (s s' : State) : Prop where
  state : s'.socks5State = .error ∨
    s'.socks5State = .targetTryingConnect ∧ s'.streamhosts ≠ [] ∧
      s'.msgForAcknowledgeConnection = s.msgForAcknowledgeConnection
  target : s'.socks5State = .targetTryingConnect → s.socks5State.isTarget = true
  timely : Timely s'
  listener : s'.listener = s.listener
  listening : s'.listening = s.listening

theorem failed_fails (htarget : s.socks5State.isTarget = true) : Failed s (fails .target s) where
  state := (fails_target s).state
  target := fun _ => htarget
  timely := by
    intro hconnected
    rw [(fails_target s).connected] at hconnected
    cases hconnected
  listener := (fails_target s).listener
  listening := (fails_target s).listening

theorem failed_socks5Error (s : State) : Failed s (socks5Error s) := by
  have hclosed : Failed s (close none { stopTimer s with socks5State := .error }) := by
    have hcalm := calm_close none { stopTimer s with socks5State := .error }
    refine ⟨.inl hcalm.socks5State, fun h => ?_, fun _ => hcalm.timer, hcalm.listener,
      hcalm.listening⟩
    rw [hcalm.socks5State] at h
    cases h
  have herror : Failed s { stopTimer s with socks5State := .error } :=
    ⟨.inl rfl, fun h => Socks5State.noConfusion h, fun _ => rfl, rfl, rfl⟩
  rw [socks5Error]
  cases hstate : s.socks5State with
  | targetTryingConnect => exact failed_fails (by rw [hstate]; rfl)
  | targetAuthRequestSent => exact failed_fails (by rw [hstate]; rfl)
  | targetConnectRequested => exact failed_fails (by rw [hstate]; rfl)
  | initiatorAwaitingAuthRequest => exact herror
  | initiatorAwaitingCommand => exact herror
  | invalid => exact hclosed
  | connected => exact hclosed
  | initiatorOfferSent => exact hclosed
  | initiatorTryingConnect => exact hclosed
  | initiatorAuthRequestSent => exact hclosed
  | initiatorConnectRequested => exact hclosed
  | initiatorActivationSent => exact hclosed
  | error => exact hclosed

theorem Failed.facts {s s' : State} (h : Failed s s') (hs : Facts s) : Facts s' where
  target := by
    intro htarget
    rcases h.state with herror | ⟨htrying, hstreamhosts, hacknowledge⟩
    · rw [herror] at htarget
      cases htarget
    · rw [hacknowledge]
      exact ⟨hstreamhosts, (hs.target (h.target htrying)).2⟩
  timely := fun _ => h.timely
  listener := by
    intro hserves
    rcases h.state with herror | ⟨htrying, -⟩
    · rw [herror] at hserves
      cases hserves
    · rw [htrying] at hserves
      cases hserves
  listening := by
    rw [h.listening, h.listener]
    exact hs.listening

theorem facts_socks5Error (hs : Facts s) : Facts (socks5Error s) :=
  (failed_socks5Error s).facts hs

/-- A write goes on as before, or the stream was told that the connection is broken. -/
theorem writeToTransport_cases (data : Bytes) (s : State) :
    Calm s (writeToTransport data s).1 ∨ Failed s (writeToTransport data s).1 := by
  rw [writeToTransport]
  cases ht : s.transport with
  | none => exact .inl ⟨rfl, rfl, rfl, rfl, rfl, rfl, id⟩
  | some t =>
    dsimp only
    split
    · exact .inl ⟨rfl, rfl, rfl, rfl, rfl, rfl, id⟩
    split
    · split
      · right
        have hfailed := failed_socks5Error (stopTimer
          { emit (.transportSend data) s with
            transport := some { t with phase := .disconnected }, writes := s.writes.tail })
        exact ⟨hfailed.state, hfailed.target, hfailed.timely, hfailed.listener,
          hfailed.listening⟩
      · refine .inl (Calm.trans ?_ (calm_transportBufferEmptyCb _))
        exact ⟨rfl, rfl, rfl, rfl, rfl, rfl, id⟩
      · split
        · refine .inl (Calm.trans ?_ (calm_transportBufferEmptyCb _))
          exact ⟨rfl, rfl, rfl, rfl, rfl, rfl, id⟩
        · refine .inl ⟨rfl, rfl, rfl, rfl, rfl, rfl, ?_⟩
          rw [ht]
          exact id
    · split
      · refine .inl (Calm.trans ?_ (calm_transportBufferEmptyCb _))
        exact ⟨rfl, rfl, rfl, rfl, rfl, rfl, id⟩
      · exact .inl ⟨rfl, rfl, rfl, rfl, rfl, rfl, id⟩

theorem facts_writeToTransport (data : Bytes) (hs : Facts s) :
    Facts (writeToTransport data s).1 := by
  rcases writeToTransport_cases data s with hcalm | hfailed
  · exact hcalm.facts hs
  · exact hfailed.facts hs

theorem listener_writeToTransport (data : Bytes) (s : State) :
    (writeToTransport data s).1.listener = s.listener ∧
      (writeToTransport data s).1.listening = s.listening := by
  rcases writeToTransport_cases data s with hcalm | hfailed
  · exact ⟨hcalm.listener, hcalm.listening⟩
  · exact ⟨hfailed.listener, hfailed.listening⟩

/-- A state in which nothing depends on the negotiation. -/
theorem facts_of_idle (htarget : s.socks5State.isTarget = false)
    (hauth : s.socks5State.authSent = false) (hserves : s.socks5State.serves = false)
    (hlistening : s.listening = true → s.listener = true) : Facts s where
  target := fun h => by
    rw [htarget] at h
    cases h
  timely := fun h => by
    rw [hauth] at h
    cases h
  listener := fun h => by
    rw [hserves] at h
    cases h
  listening := hlistening

/-! ## Receiving -/

section

variable (sha1Hex : Bytes → Bytes)

section

variable (hs : Facts s)

include hs

theorem facts_startTimer (hauth : s.socks5State.authSent = false) :
    Facts (startTimer s) := by
  rw [startTimer]
  split
  · exact ⟨hs.target, hs.timely, hs.listener, hs.listening⟩
  · refine ⟨hs.target, fun h => ?_, hs.listener, hs.listening⟩
    rw [show ({ s with timer := true } : State).socks5State = s.socks5State from rfl, hauth] at h
    cases h

theorem facts_sendConnectCommand :
    Facts (sendConnectCommand sha1Hex s) := by
  rw [sendConnectCommand]
  have hwritten := facts_writeToTransport
    (connectMessage 1 (domain sha1Hex (s.socks5State = .targetAuthRequestSent) s)) hs
  generalize (writeToTransport
    (connectMessage 1 (domain sha1Hex (s.socks5State = .targetAuthRequestSent) s)) s).1 = s₁
    at hwritten
  split
  case isTrue htarget =>
    refine facts_startTimer ⟨fun _ => hwritten.target (by rw [htarget]; rfl),
      fun h => Bool.noConfusion h, fun h => Bool.noConfusion h, hwritten.listening⟩ rfl
  case isFalse =>
    exact facts_startTimer (facts_of_idle rfl rfl rfl hwritten.listening) rfl

theorem facts_sendConnectReply : Facts (sendConnectReply sha1Hex s) := by
  have hwritten := facts_writeToTransport (connectMessage 0 (domain sha1Hex false s)) hs
  rw [sendConnectReply]
  generalize (writeToTransport (connectMessage 0 (domain sha1Hex false s)) s).1 = s₁ at hwritten
  have hblocked := (calm_blockReceiving true { s₁ with socks5State := .connected }).facts
    (facts_of_idle rfl rfl rfl hwritten.listening)
  split
  · refine facts_of_idle ?_ ?_ ?_ fun h => Bool.noConfusion h
    all_goals
      dsimp only
      rw [(calm_blockReceiving true { s₁ with socks5State := .connected }).socks5State]
      rfl
  · exact ⟨hblocked.target, hblocked.timely, hblocked.listener, hblocked.listening⟩

theorem facts_follow {v : Verdict} {accept : ℕ → State × ℤ}
    (haccept : ∀ used, Facts (accept used).1) : Facts (follow v s accept).1 := by
  cases v with
  | wait => exact hs
  | refused => exact facts_socks5Error hs
  | accepted used => exact haccept used

theorem facts_targetGotConnectReply :
    Facts (targetGotConnectReply s) := by
  have hopen := (calm_setState .opened { s with socks5State := .connected }).facts
    (facts_of_idle rfl rfl rfl hs.listening)
  rw [targetGotConnectReply]
  dsimp only
  split
  · exact ⟨hopen.target, hopen.timely, hopen.listener, hopen.listening⟩
  · split
    · refine (calm_blockReceiving true _).facts ?_
      exact ⟨hopen.target, hopen.timely, hopen.listener, hopen.listening⟩
    · exact ⟨hopen.target, hopen.timely, hopen.listener, hopen.listening⟩

theorem facts_initiatorGotConnectReply :
    Facts (initiatorGotConnectReply s) := by
  have hblocked := (calm_blockReceiving true { s with socks5State := .initiatorActivationSent }).facts
    (facts_of_idle rfl rfl rfl hs.listening)
  exact ⟨hblocked.target, hblocked.timely, hblocked.listener, hblocked.listening⟩

theorem facts_handleReceivedData (buffer : Bytes) :
    Facts (handleReceivedData sha1Hex s buffer).1 := by
  have hstopped : Facts (stopTimer s) := ⟨hs.target, fun _ _ => rfl, hs.listener, hs.listening⟩
  rw [handleReceivedData]
  split
  · exact facts_follow hs fun used => facts_sendConnectCommand sha1Hex hs
  · exact facts_follow hs fun used => facts_sendConnectCommand sha1Hex hs
  · exact facts_follow hs fun used => facts_targetGotConnectReply hstopped
  · exact facts_follow hs fun used => facts_initiatorGotConnectReply hstopped
  case h_5 hstate =>
    refine facts_follow hs fun used => ?_
    obtain ⟨hlistener, hlistening⟩ := listener_writeToTransport [5, 0] s
    refine ⟨fun h => Bool.noConfusion h, fun h => Bool.noConfusion h, fun _ => ?_, fun h => ?_⟩
    · exact hlistener.trans (hs.listener (by rw [hstate]; rfl))
    · exact hlistener.trans (hs.listening (hlistening.symm.trans h))
  · refine facts_follow hs fun used => ?_
    split
    · exact facts_sendConnectReply sha1Hex hs
    · exact facts_socks5Error ⟨hs.target, fun _ h => Bool.noConfusion h, hs.listener, hs.listening⟩
  · exact ⟨hs.target, hs.timely, hs.listener, hs.listening⟩
  · exact hs
  all_goals exact ⟨hs.target, hs.timely, hs.listener, hs.listening⟩

end

theorem facts_readLoop (fuel : ℕ) (hs : Facts s) :
    Facts (readLoop sha1Hex fuel s) := by
  induction fuel generalizing s with
  | zero => exact hs
  | succ fuel ih =>
    rw [readLoop]
    split
    · exact hs
    case h_2 buffer hbuffer =>
      have hround := facts_handleReceivedData sha1Hex hs buffer
      dsimp only
      split
      · exact hround
      split
      · exact hround
      · have hrest : ∀ rest, Facts
            { (handleReceivedData sha1Hex s buffer).1 with readBuffer := some rest } :=
          fun rest => ⟨hround.target, hround.timely, hround.listener, hround.listening⟩
        split
        · split
          · exact ih (hrest _)
          · exact hrest _
        · split
          · exact ih (hrest _)
          · exact hrest _

end

/-! ## Every event -/

theorem facts_setTransport (t : Transport) (hs : Facts s)
    (hauth : s.socks5State.authSent = false) : Facts (setTransport t s) := by
  have hnever : ∀ {P : Prop}, s.socks5State.authSent = true → P := by
    intro P h
    rw [hauth] at h
    cases h
  rw [setTransport]
  split
  · exact ⟨hs.target, hnever, hs.listener, hs.listening⟩
  · exact ⟨hs.target, hnever, hs.listener, hs.listening⟩

theorem facts_tryStreamhost (h : Streamhost) (hs : Facts s)
    (htarget : s.streamhosts ≠ [] ∧ s.msgForAcknowledgeConnection ≠ none) :
    Facts (tryStreamhost h s) := by
  have hset : ∀ {s' : State}, s' = setTransport ⟨.connecting, false, true⟩
      { s with socks5State := .targetTryingConnect } →
      s'.socks5State = .targetTryingConnect ∧ Facts s' := by
    rintro s' rfl
    refine ⟨?_, facts_setTransport _ ⟨fun _ => htarget, fun h => Bool.noConfusion h,
      fun h => Bool.noConfusion h, hs.listening⟩ rfl⟩
    rw [setTransport]
    split
    · rfl
    · rfl
  obtain ⟨hstate, hfacts⟩ := hset rfl
  have hstarted := facts_startTimer hfacts (by rw [hstate]; rfl)
  exact ⟨hstarted.target, hstarted.timely, hstarted.listener, hstarted.listening⟩

theorem addStreamhost_fields (s : State) (node : StreamhostNode) :
    ∃ streamhosts, addStreamhost s node = { s with streamhosts := streamhosts } ∧
      (s.streamhosts ≠ [] → streamhosts ≠ []) := by
  rw [addStreamhost]
  split
  · split
    · exact ⟨_, rfl, id⟩
    · split
      · exact ⟨_, rfl, id⟩
      · exact ⟨_, rfl, fun _ => List.append_ne_nil_of_right_ne_nil _ (List.cons_ne_nil _ _)⟩
  · exact ⟨_, rfl, id⟩

theorem facts_addStreamhosts (nodes : List StreamhostNode) (hs : Facts s) :
    Facts (nodes.foldl addStreamhost s) := by
  induction nodes generalizing s with
  | nil => exact hs
  | cons node nodes ih =>
    obtain ⟨streamhosts, heq, hne⟩ := addStreamhost_fields s node
    rw [List.foldl_cons]
    refine ih ?_
    rw [heq]
    exact ⟨fun h => ⟨hne (hs.target h).1, (hs.target h).2⟩, hs.timely, hs.listener, hs.listening⟩

theorem facts_queryReceived (iq : ℕ) (nodes : List StreamhostNode) (hs : Facts s) :
    Facts (queryReceived iq nodes s) := by
  have hadded := facts_addStreamhosts nodes hs
  rw [queryReceived]
  generalize nodes.foldl addStreamhost s = s₁ at hadded
  have hquery : Facts { s₁ with msgForAcknowledgeConnection := some iq } :=
    ⟨fun h => ⟨(hadded.target h).1, Option.some_ne_none iq⟩, hadded.timely, hadded.listener,
      hadded.listening⟩
  rw [socks5Connect]
  split
  case h_1 h rest hstreamhosts =>
    refine facts_tryStreamhost h hquery ⟨?_, Option.some_ne_none iq⟩
    rw [hstreamhosts]
    exact List.cons_ne_nil _ _
  case h_2 hnone =>
    -- no streamhost is usable: nothing is tried
    have hnil : s₁.streamhosts = [] := hnone
    have hfailed : socks5Error { s₁ with
        msgForAcknowledgeConnection := some iq, socks5State := .targetTryingConnect } =
        emit (.iqError iq ⟨.itemNotFound, some "impossible to connect to any streamhost"⟩)
          { emit .connectionError { stopTimer (closeTransport s₁) with
              socks5State := .error, streamhosts := [] } with
            msgForAcknowledgeConnection := none } := by
      simp [socks5Error, streamhostFailed, stopTimer, closeTransport, hnil, noMoreStreamhosts, emit]
    rw [hfailed]
    exact facts_of_idle rfl rfl rfl hadded.listening

theorem facts_transportConnectedCb (hs : Facts s) : Facts (transportConnectedCb s) := by
  have hstopped : Facts (stopTimer s) := ⟨hs.target, fun _ _ => rfl, hs.listener, hs.listening⟩
  rw [transportConnectedCb]
  dsimp only
  split
  case isFalse => exact hstopped
  case isTrue =>
    have hwritten := facts_writeToTransport [5, 1, 0] hstopped
    have htimely : Timely (writeToTransport [5, 1, 0] (stopTimer s)).1 := by
      rcases writeToTransport_cases [5, 1, 0] (stopTimer s) with hcalm | hfailed
      · exact hcalm.timely fun _ => rfl
      · exact hfailed.timely
    generalize (writeToTransport [5, 1, 0] (stopTimer s)).1 = s₁ at hwritten htimely
    split
    case isTrue htrying =>
      exact ⟨fun _ => hwritten.target (by rw [htrying]; rfl), fun _ => htimely,
        fun h => Bool.noConfusion h, hwritten.listening⟩
    case isFalse =>
      exact ⟨fun h => Bool.noConfusion h, fun _ => htimely, fun h => Bool.noConfusion h,
        hwritten.listening⟩

theorem facts_initiate (ips : List Bytes) (port : Option ℕ) (proxies : List Streamhost)
    (hs : Facts s) : Facts (initiate ips port proxies s) := by
  rw [initiate]
  split
  · exact hs
  split
  · exact facts_of_idle rfl rfl rfl hs.listening
  split
  · exact ⟨hs.target, hs.timely, hs.listener, hs.listening⟩
  · cases port with
    | none => exact facts_of_idle rfl rfl rfl fun _ => rfl
    | some port => exact facts_of_idle rfl rfl rfl fun _ => rfl

theorem facts_send (str : Bytes) (hs : Facts s) : Facts (send str s).1 := by
  have hwritten := facts_writeToTransport str hs
  rw [send]
  split
  · exact hs
  dsimp only
  split
  · exact (calm_close none _).facts hwritten
  · split
    · exact hwritten
    · dsimp only
      split
      · exact hwritten
      · exact (calm_changeWriteBlockedState true _).facts hwritten

theorem facts_socks5InitReplyCb (reply : Option (Option Bytes)) (proxies : List Streamhost)
    (hs : Facts s) : Facts (socks5InitReplyCb reply proxies s) := by
  have hanswered : Facts { s with initsPending := s.initsPending - 1 } :=
    ⟨hs.target, hs.timely, hs.listener, hs.listening⟩
  rcases reply with - | - | jid
  · exact (calm_connectionFailed _).facts hanswered
  · exact (calm_connectionFailed _).facts hanswered
  rw [socks5InitReplyCb]
  split
  · split
    · exact (calm_connectionFailed _).facts hanswered
    · rw [initiatorConnectedToProxy]
      split
      · refine (calm_connectionFailed _).facts ?_
        exact ⟨hs.target, hs.timely, hs.listener, hs.listening⟩
      · have hset : ∀ p, Facts (setTransport ⟨.connecting, false, true⟩
            { s with
              initsPending := s.initsPending - 1, proxyJid := p,
              socks5State := .initiatorTryingConnect }) := fun p =>
          facts_setTransport _ (facts_of_idle rfl rfl rfl hs.listening) rfl
        exact ⟨(hset _).target, (hset _).timely, (hset _).listener, (hset _).listening⟩
  · split
    · exact (calm_connectionFailed _).facts hanswered
    · exact (calm_blockReceiving false _).facts ((calm_setState .opened _).facts hanswered)

theorem facts_socks5ActivationReplyCb (success : Bool) (hs : Facts s) :
    Facts (socks5ActivationReplyCb success s) := by
  rw [socks5ActivationReplyCb]
  split
  · exact (calm_blockReceiving false _).facts ((calm_setState .opened _).facts
      (facts_of_idle rfl rfl rfl hs.listening))
  · exact (calm_connectionFailed _).facts ⟨hs.target, hs.timely, hs.listener, hs.listening⟩

theorem dispose_disposeHasRun (s : State) : (dispose s).disposeHasRun = true := by
  rw [dispose]
  dsimp only
  split
  · rcases close_cases none (stopTimer { s with disposeHasRun := true }) with
      ⟨-, state, registered, out, h⟩ | ⟨-, registered, out, h⟩
    · rw [h]
      rfl
    · rw [h]
      rfl
  · rfl

/-- What a stream keeps to until it is gone. -/
def Sound (s : State) : Prop := s.disposeHasRun = true ∨ Facts s

/-- **The step lemma.** -/
theorem sound_step {sha1Hex : Bytes → Bytes} {s s' : State} {e : Event} (hs : Sound s)
    (hstep : step sha1Hex s e = some s') : Sound s' := by
  rw [step] at hstep
  split at hstep
  · cases hstep
  case isFalse hlive =>
  cases hstep
  simp only [Bool.or_eq_true, Bool.not_eq_true', not_or, Bool.not_eq_true,
    Bool.not_eq_false] at hlive
  obtain ⟨⟨halive, -⟩, henabled⟩ := hlive
  have hfacts : Facts s := hs.resolve_left (by rw [halive]; exact Bool.false_ne_true)
  cases e with
  | initiate ips port proxies => exact .inr (facts_initiate ips port proxies hfacts)
  | accept sent =>
    right
    dsimp only [handle, accept]
    split
    · exact hfacts
    split
    · refine (calm_setState .accepted _).facts ?_
      exact ⟨hfacts.target, hfacts.timely, hfacts.listener, hfacts.listening⟩
    · exact hfacts
  | send str => exact .inr (facts_send str hfacts)
  | close error => exact .inr ((calm_close error s).facts hfacts)
  | blockReading block =>
    right
    dsimp only [handle, blockReading]
    have hflag : Facts { s with readBlocked := block } :=
      ⟨hfacts.target, hfacts.timely, hfacts.listener, hfacts.listening⟩
    split
    · exact hfacts
    split
    · exact (calm_blockReceiving block _).facts hflag
    · exact hflag
  | query iq nodes => exact .inr (facts_queryReceived iq nodes hfacts)
  | initReply reply proxies => exact .inr (facts_socks5InitReplyCb reply proxies hfacts)
  | activationReply success => exact .inr (facts_socks5ActivationReplyCb success hfacts)
  | newConnection =>
    right
    exact facts_setTransport _ ⟨fun h => Bool.noConfusion h, fun h => Bool.noConfusion h,
      fun _ => hfacts.listening henabled, hfacts.listening⟩ rfl
  | transportConnected =>
    right
    -- the timer is stopped first
    have hstopped : Facts (stopTimer s) :=
      ⟨hfacts.target, fun _ _ => rfl, hfacts.listener, hfacts.listening⟩
    exact facts_transportConnectedCb (s := { stopTimer s with
      transport := s.transport.map fun t => { t with phase := .connected } })
      ⟨hstopped.target, fun _ _ => rfl, hstopped.listener, hstopped.listening⟩
  | transportDisconnected =>
    right
    exact facts_socks5Error
      ⟨hfacts.target, fun _ _ => rfl, hfacts.listener, hfacts.listening⟩
  | transportBufferEmpty =>
    right
    refine (calm_transportBufferEmptyCb _).facts
      ⟨hfacts.target, fun hauth hconnected => hfacts.timely hauth ?_, hfacts.listener,
        hfacts.listening⟩
    rw [Option.any_map] at hconnected
    exact hconnected
  | received data =>
    right
    dsimp only [handle]
    rw [transportHandler]
    split
    · exact ⟨hfacts.target, hfacts.timely, hfacts.listener, hfacts.listening⟩
    · refine facts_readLoop sha1Hex _ ?_
      exact ⟨hfacts.target, hfacts.timely, hfacts.listener, hfacts.listening⟩
  | timeout => exact .inr (facts_socks5Error hfacts)
  | dispose => exact .inl (dispose_disposeHasRun s)

/-- A state in which the first message of a role is read from its first byte. -/
structure Starts (role : Role) (s : State) : Prop where
  state : s.socks5State = role.start
  buffer : s.readBuffer = some []
  receives : receives s = true
  running : s.aborted = false
  alive : s.disposeHasRun = false

/-- **The start of a negotiation.**  In every run of a new stream, what the code relies
on is so when the first message comes. -/
theorem begins_of_reachable {sha1Hex : Bytes → Bytes} {streamId peerJid selfFullJid : Bytes}
    {mucContact : Bool} {state : Ibb.BytestreamState} {writes : List Written}
    (hs : Reachable (step sha1Hex) anyEvent
      (State.new streamId peerJid selfFullJid mucContact state writes) s)
    {role : Role} (hstart : Starts role s) : Begins role s := by
  have hsound : Sound s := hs.invariant
    (.inr (facts_of_idle rfl rfl rfl fun h => Bool.noConfusion h))
    fun _ _ _ h _ hstep => sound_step h hstep
  have hfacts : Facts s := hsound.resolve_left (by rw [hstart.alive]; exact Bool.false_ne_true)
  obtain ⟨t, ht, hphase, -⟩ := receives_iff.mp hstart.receives
  have hconnected : (s.transport.any fun t => t.phase = .connected) = true := by
    rw [ht]
    exact decide_eq_true hphase
  have hstate := hstart.state
  refine ⟨hstate, hstart.buffer, hstart.receives, hstart.running, hstart.alive, fun hrole => ?_,
    ?_, ?_, ?_⟩
  · refine hfacts.timely ?_ hconnected
    rw [hstate]
    cases role with
    | target => rfl
    | proxy => rfl
    | initiator => exact absurd rfl hrole
  · rintro rfl
    exact (hfacts.target (by rw [hstate]; rfl)).1
  · rintro rfl
    exact (hfacts.target (by rw [hstate]; rfl)).2
  · rintro rfl
    exact hfacts.listener (by rw [hstate]; rfl)

end Socks5
