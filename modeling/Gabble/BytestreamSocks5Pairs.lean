/-
# The transport of a SOCKS5 bytestream and its buffer

The transport and its buffer are made and dropped together, whoever connects and
whatever fails.
-/
import Gabble.BytestreamSocks5Start

namespace Socks5

open Base64 Transition

variable {s : State}

/-- There is a buffer exactly when there is a transport. -/
def Paired (s : State) : Prop := s.readBuffer.isSome = s.transport.isSome

/-- Only whether the two are there matters. -/
theorem Paired.congr {s s' : State} (hs : Paired s)
    (hbuffer : s'.readBuffer.isSome = s.readBuffer.isSome)
    (htransport : s'.transport.isSome = s.transport.isSome) : Paired s' :=
  hbuffer.trans (hs.trans htransport.symm)

/-- Nothing is read without a connection. -/
theorem Paired.readBuffer_eq_none (hs : Paired s) :
    s.readBuffer = none ↔ s.transport = none := by
  rw [← Option.isNone_iff_eq_none, ← Option.isNone_iff_eq_none, ← Option.not_isSome,
    ← Option.not_isSome, hs]

/-- A connection comes with an empty buffer. -/
theorem paired_setTransport (t : Transport) (s : State) : Paired (setTransport t s) := by
  rw [setTransport]
  split
  case isTrue h => exact h
  case isFalse => exact rfl

theorem Paired.setState (hs : Paired s) (state : Ibb.BytestreamState) :
    Paired (setState state s) := by
  rw [setState_eq]
  exact hs

theorem Paired.blockReceiving (hs : Paired s) (block : Bool) :
    Paired (blockReceiving block s) := by
  rw [Socks5.blockReceiving]
  split
  · exact hs
  case h_2 t ht => exact hs.congr rfl (by rw [ht]; rfl)

/-- The last connection takes the buffer along. -/
theorem paired_bytestreamClosed (s : State) : Paired (bytestreamClosed s) :=
  Paired.setState (s := closeTransport s) rfl .closed

theorem Paired.changeWriteBlockedState (hs : Paired s) (blocked : Bool) :
    Paired (changeWriteBlockedState blocked s) := by
  rw [Socks5.changeWriteBlockedState]
  split <;> exact hs

theorem Paired.transportBufferEmptyCb (hs : Paired s) :
    Paired (transportBufferEmptyCb s) := by
  rw [Socks5.transportBufferEmptyCb]
  split
  · exact paired_bytestreamClosed s
  · split
    · exact hs.changeWriteBlockedState false
    · exact hs

theorem Paired.close (hs : Paired s) (error : Option Ibb.GError) :
    Paired (close error s) := by
  rcases close_cases error s with ⟨-, state, registered, out, h⟩ | ⟨-, registered, out, h⟩
  · rw [h]
    exact hs
  · rw [h]
    exact rfl

theorem Paired.startTimer (hs : Paired s) : Paired (startTimer s) := by
  rw [Socks5.startTimer]
  split <;> exact hs

theorem paired_tryStreamhost (h : Streamhost) (s : State) : Paired (tryStreamhost h s) :=
  Paired.startTimer (paired_setTransport _ _)

/-- The next streamhost gets a new buffer. -/
theorem paired_streamhostFailed (s : State) : Paired (streamhostFailed s) := by
  rw [streamhostFailed]
  dsimp only
  split
  · exact paired_tryStreamhost _ _
  · rw [noMoreStreamhosts]
    split <;> exact rfl

theorem Paired.socks5Error (hs : Paired s) : Paired (socks5Error s) := by
  rw [Socks5.socks5Error]
  dsimp only
  split
  · exact paired_streamhostFailed _
  · exact paired_streamhostFailed _
  · exact paired_streamhostFailed _
  · exact hs
  · exact hs
  · exact Paired.close (s := { stopTimer s with socks5State := .error }) hs none

/-- The connection may break while it is written to. -/
theorem Paired.writeToTransport (hs : Paired s) (data : Bytes) :
    Paired (writeToTransport data s).1 := by
  rw [Socks5.writeToTransport]
  split
  · exact hs
  case h_2 t ht =>
    have hisSome : ∀ t' : Transport, (some t').isSome = s.transport.isSome := fun _ => by
      rw [ht]
      rfl
    split
    · exact hs
    dsimp only
    split
    · split
      · exact Paired.socks5Error (hs.congr rfl (hisSome _))
      · refine Paired.transportBufferEmptyCb ?_
        exact hs
      · split
        · refine Paired.transportBufferEmptyCb ?_
          exact hs
        · exact hs.congr rfl (hisSome _)
    · split
      · refine Paired.transportBufferEmptyCb ?_
        exact hs
      · exact hs

section

variable (sha1Hex : Bytes → Bytes)

theorem Paired.sendConnectCommand (hs : Paired s) :
    Paired (sendConnectCommand sha1Hex s) :=
  Paired.startTimer (hs.writeToTransport _)

theorem Paired.sendConnectReply (hs : Paired s) :
    Paired (sendConnectReply sha1Hex s) := by
  have hblocked := Paired.blockReceiving (s := { (Socks5.writeToTransport
    (connectMessage 0 (domain sha1Hex false s)) s).1 with socks5State := .connected })
    (hs.writeToTransport _) true
  rw [Socks5.sendConnectReply]
  split <;> exact hblocked

theorem Paired.targetGotConnectReply (hs : Paired s) :
    Paired (targetGotConnectReply s) := by
  have hopen := Paired.setState (s := { s with socks5State := .connected }) hs .opened
  rw [Socks5.targetGotConnectReply]
  dsimp only
  split
  · exact hopen
  · split
    · exact Paired.blockReceiving (s := emit _ _) hopen true
    · exact hopen

/-- Whatever the verdict on a message is. -/
theorem Paired.follow {v : Verdict} {accept : ℕ → State × ℤ} (hs : Paired s)
    (haccept : ∀ used, Paired (accept used).1) : Paired (follow v s accept).1 := by
  cases v with
  | wait => exact hs
  | refused => exact hs.socks5Error
  | accepted used => exact haccept used

/-- A message is taken out of a buffer that stays. -/
theorem Paired.handleReceivedData (hs : Paired s) (buffer : Bytes) :
    Paired (handleReceivedData sha1Hex s buffer).1 := by
  have hstopped : Paired (stopTimer s) := hs
  rw [Socks5.handleReceivedData]
  split
  · exact hs.follow fun used => hs.sendConnectCommand sha1Hex
  · exact hs.follow fun used => hs.sendConnectCommand sha1Hex
  · exact hs.follow fun used => hstopped.targetGotConnectReply
  · exact hs.follow fun used => Paired.blockReceiving
      (s := { stopTimer s with socks5State := .initiatorActivationSent }) hs true
  · exact hs.follow fun used => hs.writeToTransport [5, 0]
  · refine hs.follow fun used => ?_
    split
    · exact hs.sendConnectReply sha1Hex
    · exact Paired.socks5Error (s := closeTransport s) rfl
  all_goals exact hs

/-- By induction on the rounds that are left. -/
theorem Paired.readLoop (fuel : ℕ) (hs : Paired s) :
    Paired (readLoop sha1Hex fuel s) := by
  induction fuel generalizing s with
  | zero => exact hs
  | succ fuel ih =>
    rw [Socks5.readLoop]
    split
    · exact hs
    case h_2 buffer hbuffer =>
      have hround := hs.handleReceivedData sha1Hex buffer
      dsimp only
      split
      · exact hround
      split
      · exact hround
      case h_2 rest hrest =>
        have hkept : ∀ rest, Paired
            { (Socks5.handleReceivedData sha1Hex s buffer).1 with readBuffer := some rest } :=
          fun rest => hround.congr (by rw [hrest]; rfl) rfl
        split
        · split
          · exact ih (hkept _)
          · exact hkept _
        · split
          · exact ih (hkept _)
          · exact hkept _

end

/-- The first streamhost is connected to. -/
theorem Paired.queryReceived (iq : ℕ) (nodes : List StreamhostNode) :
    Paired (queryReceived iq nodes s) := by
  rw [Socks5.queryReceived, socks5Connect]
  split
  · exact paired_tryStreamhost _ _
  · exact paired_streamhostFailed _

section

variable (hs : Paired s)

include hs

theorem Paired.transportConnectedCb :
    Paired (transportConnectedCb s) := by
  have hstopped : Paired (stopTimer s) := hs
  rw [Socks5.transportConnectedCb]
  dsimp only
  split
  · exact hstopped.writeToTransport [5, 1, 0]
  · exact hstopped

theorem Paired.initiate (ips : List Bytes) (port : Option ℕ)
    (proxies : List Streamhost) : Paired (initiate ips port proxies s) := by
  rw [Socks5.initiate]
  split
  · exact hs
  split
  · exact hs
  split
  · exact hs
  · cases port <;> exact hs

theorem Paired.send (str : Bytes) : Paired (send str s).1 := by
  have hwritten := hs.writeToTransport str
  rw [Socks5.send]
  split
  · exact hs
  dsimp only
  split
  · exact hwritten.close none
  · split
    · exact hwritten
    · dsimp only
      split
      · exact hwritten
      · exact hwritten.changeWriteBlockedState true

/-- The initiator gives up. -/
theorem Paired.connectionFailed : Paired (connectionFailed s) :=
  Paired.setState (s := emit .connectionError s) hs .closed

/-- The proxy that was chosen is connected to. -/
theorem Paired.socks5InitReplyCb (reply : Option (Option Bytes))
    (proxies : List Streamhost) : Paired (socks5InitReplyCb reply proxies s) := by
  have hanswered : Paired { s with initsPending := s.initsPending - 1 } := hs
  rcases reply with - | - | jid
  · exact hanswered.connectionFailed
  · exact hanswered.connectionFailed
  rw [Socks5.socks5InitReplyCb]
  split
  · split
    · exact hanswered.connectionFailed
    · rw [initiatorConnectedToProxy]
      split
      · exact Paired.connectionFailed hs
      · exact paired_setTransport _ _
  · split
    · exact hanswered.connectionFailed
    · exact (hanswered.setState .opened).blockReceiving false

theorem Paired.socks5ActivationReplyCb (success : Bool) :
    Paired (socks5ActivationReplyCb success s) := by
  rw [Socks5.socks5ActivationReplyCb]
  split
  · exact (Paired.setState (s := { s with
      activationsPending := s.activationsPending - 1, socks5State := .connected }) hs
      .opened).blockReceiving false
  · exact Paired.connectionFailed hs

/-- **The transport and its buffer come and go together**, until the stream is
disposed. -/
theorem Paired.handle {sha1Hex : Bytes → Bytes} (e : Event)
    (he : e ≠ .dispose) : Paired (handle sha1Hex s e) := by
  have hmap : ∀ f : Transport → Transport, Paired { s with transport := s.transport.map f } :=
    fun f => hs.congr rfl (by simp)
  cases e with
  | initiate ips port proxies => exact hs.initiate ips port proxies
  | accept sent =>
    dsimp only [Socks5.handle, accept]
    split
    · exact hs
    split
    · exact Paired.setState (s := emit .siAccept s) hs .accepted
    · exact hs
  | send str => exact hs.send str
  | close error => exact hs.close error
  | blockReading block =>
    dsimp only [Socks5.handle, blockReading]
    split
    · exact hs
    split
    · exact Paired.blockReceiving (s := { s with readBlocked := block }) hs block
    · exact hs
  | query iq nodes => exact Paired.queryReceived iq nodes
  | initReply reply proxies => exact hs.socks5InitReplyCb reply proxies
  | activationReply success => exact hs.socks5ActivationReplyCb success
  | newConnection => exact paired_setTransport _ _
  | transportConnected => exact (hmap _).transportConnectedCb
  | transportDisconnected => exact Paired.socks5Error (s := stopTimer _) (hmap _)
  | transportBufferEmpty => exact (hmap _).transportBufferEmptyCb
  | received data =>
    dsimp only [Socks5.handle]
    rw [transportHandler]
    split
    · exact hs
    case h_2 buffer hbuffer =>
      exact Paired.readLoop sha1Hex _ (hs.congr (by rw [hbuffer]; rfl) rfl)
  | timeout => exact hs.socks5Error
  | dispose => exact absurd rfl he

end

end Socks5
