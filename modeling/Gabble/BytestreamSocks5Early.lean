/-
# Data that comes too early on a SOCKS5 bytestream

The SOCKS5 connection of a stream is there before the stream is open: the initiator
still waits for the answer to its offer.  The code asks the transport not to receive
anything until then.  What was read together with the CONNECT command has been
received already, and the loop of `transport_handler` goes on with it.  This module
says what a read hands to the user and in which state of the stream, and in which
runs that is always an open one.
-/
import Gabble.BytestreamSocks5Asserts
import Gabble.BytestreamConsent
import Gabble.PhasedLog

namespace Socks5

open Base64 Transition
open CText (ascii)

variable {role : Role} {buffer : Bytes}

/-! ## What the user is told -/

/-- The state that the stream changes to. -/
def Effect.newState : Effect → Option Ibb.BytestreamState
  | .stateChanged state => some state
  | _ => none

/-- The byte that is handed to the user. -/
def Effect.data : Effect → Option UInt8
  | .dataReceived byte => some byte
  | _ => none

/-- The bytes that are handed to the user. -/
def delivered (effects : List Effect) : Bytes := effects.filterMap Effect.data

/-- Data only comes in an open stream. -/
def Timed (state : Ibb.BytestreamState) (effect : Effect) : Prop :=
  effect.data = none ∨ state = .opened

instance : ∀ state effect, Decidable (Timed state effect) :=
  fun state effect => inferInstanceAs (Decidable (effect.data = none ∨ state = .opened))

/-- A stream that was in this state hands over data only while it is open. -/
def DeliversOpen (state : Ibb.BytestreamState) (effects : List Effect) : Prop :=
  PhasedLog.Proper Effect.newState Timed state effects

/-! ## What a step tells the user -/

section

variable {sha1Hex : Bytes → Bytes} {s s' s'' : State} {e : Event}

/-- What has happened since, and the state it leads to. -/
structure Adds (s s' : State) (effects : List Effect) : Prop where
  out : s'.out = s.out ++ effects
  state : s'.bytestreamState = PhasedLog.after Effect.newState s.bytestreamState effects

theorem Adds.trans {effects effects' : List Effect} (h : Adds s s' effects)
    (h' : Adds s' s'' effects') : Adds s s'' (effects ++ effects') where
  out := by rw [h'.out, h.out, List.append_assoc]
  state := by rw [h'.state, h.state, PhasedLog.after_append]

theorem delivered_append (effects effects' : List Effect) :
    delivered (effects ++ effects') = delivered effects ++ delivered effects' :=
  List.filterMap_append

/-- Nothing is handed to the user. -/
def Withholds (s s' : State) : Prop := ∃ effects, Adds s s' effects ∧ delivered effects = []

theorem withholds_of_eq (hout : s'.out = s.out) (hstate : s'.bytestreamState = s.bytestreamState) :
    Withholds s s' :=
  ⟨[], ⟨by rw [hout, List.append_nil], hstate⟩, rfl⟩

theorem Withholds.refl (s : State) : Withholds s s := withholds_of_eq rfl rfl

theorem Withholds.trans (h : Withholds s s') (h' : Withholds s' s'') : Withholds s s'' := by
  obtain ⟨effects, hadds, hnone⟩ := h
  obtain ⟨effects', hadds', hnone'⟩ := h'
  exact ⟨effects ++ effects', hadds.trans hadds', by rw [delivered_append, hnone, hnone']; rfl⟩

theorem withholds_of_emit {effect : Effect} (hdata : effect.data = none)
    (hstate : effect.newState = none) (hout : s'.out = s.out ++ [effect])
    (hsame : s'.bytestreamState = s.bytestreamState) : Withholds s s' := by
  refine ⟨[effect], ⟨hout, ?_⟩, ?_⟩
  · rw [PhasedLog.after, hstate]
    exact hsame
  · rw [delivered, List.filterMap_cons, hdata]
    rfl

theorem Withholds.holding (h : Withholds s s') (buffer : Bytes) :
    Withholds s (holding buffer s') :=
  h.trans (withholds_of_eq rfl rfl)

theorem withholds_emit {effect : Effect} (hdata : effect.data = none)
    (hstate : effect.newState = none) (s : State) : Withholds s (emit effect s) :=
  withholds_of_emit hdata hstate rfl rfl

theorem withholds_setState (state : Ibb.BytestreamState) (s : State) :
    Withholds s (setState state s) := by
  rw [setState]
  split
  · exact Withholds.refl s
  · exact ⟨[.stateChanged state], ⟨rfl, rfl⟩, rfl⟩

theorem withholds_blockReceiving (block : Bool) (s : State) :
    Withholds s (blockReceiving block s) := by
  rw [blockReceiving]
  split
  · exact withholds_of_eq rfl rfl
  · exact withholds_of_emit rfl rfl rfl rfl

theorem withholds_bytestreamClosed (s : State) : Withholds s (bytestreamClosed s) := by
  have hclose : Withholds s (closeTransport s) := withholds_of_eq rfl rfl
  exact hclose.trans (withholds_setState _ _)

theorem withholds_changeWriteBlockedState (blocked : Bool) (s : State) :
    Withholds s (changeWriteBlockedState blocked s) := by
  rw [changeWriteBlockedState]
  split
  · exact Withholds.refl s
  · exact withholds_of_emit rfl rfl rfl rfl

theorem withholds_transportBufferEmptyCb (s : State) : Withholds s (transportBufferEmptyCb s) := by
  rw [transportBufferEmptyCb]
  split
  · exact withholds_bytestreamClosed s
  · split
    · exact withholds_changeWriteBlockedState false s
    · exact Withholds.refl s

theorem withholds_setTransport (t : Transport) (s : State) : Withholds s (setTransport t s) := by
  rw [setTransport]
  split
  · exact withholds_of_eq rfl rfl
  · exact withholds_of_eq rfl rfl

theorem withholds_startTimer (s : State) : Withholds s (startTimer s) := by
  rw [startTimer]
  split
  · exact withholds_of_eq rfl rfl
  · exact withholds_of_eq rfl rfl

theorem withholds_decline (error : Option Ibb.GError) (s : State) :
    Withholds s (decline error s) := by
  refine Withholds.trans ?_ (withholds_setState _ _)
  exact withholds_of_emit rfl rfl rfl rfl

theorem withholds_close (error : Option Ibb.GError) (s : State) : Withholds s (close error s) := by
  rw [close]
  split
  · exact Withholds.refl s
  split
  · exact withholds_decline error s
  · have hclosing := withholds_setState .closing s
    dsimp only
    split
    · exact hclosing
    · exact hclosing.trans (withholds_bytestreamClosed _)

theorem withholds_tryStreamhost (h : Streamhost) (s : State) : Withholds s (tryStreamhost h s) := by
  have hstate : Withholds s { s with socks5State := .targetTryingConnect } :=
    withholds_of_eq rfl rfl
  exact ((hstate.trans (withholds_setTransport _ _)).trans (withholds_startTimer _)).trans
    (withholds_emit rfl rfl _)

theorem withholds_noMoreStreamhosts (s : State) : Withholds s (noMoreStreamhosts s) := by
  have herror : Withholds s (emit .connectionError s) := withholds_emit rfl rfl s
  rw [noMoreStreamhosts]
  split
  · exact herror.trans (withholds_of_eq rfl rfl)
  · exact herror.trans (withholds_of_emit rfl rfl rfl rfl)

theorem withholds_streamhostFailed (s : State) : Withholds s (streamhostFailed s) := by
  rw [streamhostFailed]
  dsimp only
  split
  · refine Withholds.trans ?_ (withholds_tryStreamhost _ _)
    exact withholds_of_eq rfl rfl
  · refine Withholds.trans ?_ (withholds_noMoreStreamhosts _)
    exact withholds_of_eq rfl rfl

theorem withholds_socks5Error (s : State) : Withholds s (socks5Error s) := by
  have herror : Withholds s { stopTimer s with socks5State := .error } := withholds_of_eq rfl rfl
  rw [socks5Error]
  dsimp only
  split
  · exact herror.trans (withholds_streamhostFailed _)
  · exact herror.trans (withholds_streamhostFailed _)
  · exact herror.trans (withholds_streamhostFailed _)
  · exact herror
  · exact herror
  · exact herror.trans (withholds_close none _)

theorem withholds_transportDisconnectedCb (s : State) :
    Withholds s (transportDisconnectedCb s) := by
  have hstopped : Withholds s (stopTimer s) := withholds_of_eq rfl rfl
  exact hstopped.trans (withholds_socks5Error _)

theorem withholds_writeToTransport (data : Bytes) (s : State) :
    Withholds s (writeToTransport data s).1 := by
  rw [writeToTransport]
  split
  · exact withholds_of_eq rfl rfl
  dsimp only
  split
  · exact withholds_of_eq rfl rfl
  split
  · split
    · refine Withholds.trans ?_ (withholds_transportDisconnectedCb _)
      exact withholds_of_emit rfl rfl rfl rfl
    · refine Withholds.trans ?_ (withholds_transportBufferEmptyCb _)
      exact withholds_of_emit rfl rfl rfl rfl
    · split
      · refine Withholds.trans ?_ (withholds_transportBufferEmptyCb _)
        exact withholds_of_emit rfl rfl rfl rfl
      · exact withholds_of_emit rfl rfl rfl rfl
  · split
    · exact (withholds_emit rfl rfl s).trans (withholds_transportBufferEmptyCb _)
    · exact withholds_emit rfl rfl s

theorem withholds_targetGotConnectReply (s : State) : Withholds s (targetGotConnectReply s) := by
  have hopened : Withholds s (setState .opened { s with socks5State := .connected }) := by
    refine Withholds.trans ?_ (withholds_setState _ _)
    exact withholds_of_eq rfl rfl
  rw [targetGotConnectReply]
  dsimp only
  split
  · exact hopened.trans (withholds_of_eq rfl rfl)
  · split
    · refine hopened.trans (Withholds.trans ?_ (withholds_blockReceiving _ _))
      exact withholds_emit rfl rfl _
    · exact hopened.trans (withholds_emit rfl rfl _)

theorem withholds_initiatorGotConnectReply (s : State) :
    Withholds s (initiatorGotConnectReply s) := by
  have hblocked : Withholds s
      (blockReceiving true { s with socks5State := .initiatorActivationSent }) := by
    refine Withholds.trans ?_ (withholds_blockReceiving _ _)
    exact withholds_of_eq rfl rfl
  exact hblocked.trans (withholds_of_emit rfl rfl rfl rfl)

variable (sha1Hex) in
theorem withholds_sendConnectCommand (s : State) : Withholds s (sendConnectCommand sha1Hex s) := by
  have hwritten := withholds_writeToTransport
    (connectMessage 1 (domain sha1Hex (s.socks5State = .targetAuthRequestSent) s)) s
  refine Withholds.trans ?_ (withholds_startTimer _)
  exact hwritten.trans (withholds_of_eq rfl rfl)

variable (sha1Hex) in
theorem withholds_sendConnectReply (s : State) : Withholds s (sendConnectReply sha1Hex s) := by
  have hwritten := withholds_writeToTransport (connectMessage 0 (domain sha1Hex false s)) s
  rw [sendConnectReply]
  generalize (writeToTransport (connectMessage 0 (domain sha1Hex false s)) s).1 = s₁ at hwritten
  have hblocked : Withholds s (blockReceiving true { s₁ with socks5State := .connected }) := by
    refine hwritten.trans (Withholds.trans ?_ (withholds_blockReceiving _ _))
    exact withholds_of_eq rfl rfl
  split
  · exact hblocked.trans (withholds_of_eq rfl rfl)
  · exact hblocked.trans (withholds_of_eq rfl rfl)

theorem withholds_fails (role : Role) (s : State) : Withholds s (fails role s) := by
  have herror : Withholds s { stopTimer s with socks5State := .error } := withholds_of_eq rfl rfl
  cases role with
  | target => exact herror.trans (withholds_streamhostFailed _)
  | proxy => exact herror.trans (withholds_close none _)
  | initiator => exact herror

theorem withholds_second (role : Role) (s : State) : Withholds s (second sha1Hex role s) := by
  cases role with
  | target => exact withholds_sendConnectCommand sha1Hex s
  | proxy => exact withholds_sendConnectCommand sha1Hex s
  | initiator => exact (withholds_writeToTransport [5, 0] s).trans (withholds_of_eq rfl rfl)

/-! ## The other events -/

theorem withholds_connectionFailed (s : State) : Withholds s (connectionFailed s) := by
  refine Withholds.trans ?_ (withholds_setState _ _)
  exact withholds_emit rfl rfl s

theorem withholds_socks5ActivationReplyCb (success : Bool) (s : State) :
    Withholds s (socks5ActivationReplyCb success s) := by
  rw [socks5ActivationReplyCb]
  dsimp only
  split
  · refine Withholds.trans ?_ (withholds_blockReceiving _ _)
    refine Withholds.trans ?_ (withholds_setState _ _)
    exact withholds_of_eq rfl rfl
  · refine Withholds.trans ?_ (withholds_connectionFailed _)
    exact withholds_of_eq rfl rfl

theorem withholds_initiatorConnectedToProxy (proxies : List Streamhost) (s : State) :
    Withholds s (initiatorConnectedToProxy proxies s) := by
  rw [initiatorConnectedToProxy]
  split
  · exact withholds_connectionFailed s
  · refine Withholds.trans ?_ (withholds_emit rfl rfl _)
    refine Withholds.trans ?_ (withholds_setTransport _ _)
    exact withholds_of_eq rfl rfl

theorem withholds_socks5InitReplyCb (reply : Option (Option Bytes)) (proxies : List Streamhost)
    (s : State) : Withholds s (socks5InitReplyCb reply proxies s) := by
  have hanswered : Withholds s { s with initsPending := s.initsPending - 1 } :=
    withholds_of_eq rfl rfl
  rcases reply with - | - | jid
  · exact hanswered.trans (withholds_connectionFailed _)
  · exact hanswered.trans (withholds_connectionFailed _)
  rw [socks5InitReplyCb]
  split
  · split
    · exact hanswered.trans (withholds_connectionFailed _)
    · refine Withholds.trans ?_ (withholds_initiatorConnectedToProxy _ _)
      exact withholds_of_eq rfl rfl
  · split
    · exact hanswered.trans (withholds_connectionFailed _)
    · refine hanswered.trans (Withholds.trans ?_ (withholds_blockReceiving _ _))
      exact withholds_setState _ _

theorem withholds_transportConnectedCb (s : State) : Withholds s (transportConnectedCb s) := by
  have hstopped : Withholds s (stopTimer s) := withholds_of_eq rfl rfl
  rw [transportConnectedCb]
  dsimp only
  split
  · refine hstopped.trans ((withholds_writeToTransport [5, 1, 0] _).trans ?_)
    exact withholds_of_eq rfl rfl
  · exact hstopped

theorem withholds_socks5Connect (s : State) : Withholds s (socks5Connect s) := by
  rw [socks5Connect]
  split
  · exact withholds_tryStreamhost _ s
  · refine Withholds.trans ?_ (withholds_socks5Error _)
    exact withholds_of_eq rfl rfl

theorem withholds_queryReceived (iq : ℕ) (nodes : List StreamhostNode) (s : State) :
    Withholds s (queryReceived iq nodes s) := by
  refine Withholds.trans ?_ (withholds_socks5Connect _)
  rw [addStreamhosts_eq]
  exact withholds_of_eq rfl rfl

theorem withholds_sendStreamhosts (ips : List Bytes) (port : ℕ) (proxies : List Streamhost)
    (s : State) : Withholds s (sendStreamhosts ips port proxies s) := by
  refine Withholds.trans ?_ (withholds_emit rfl rfl _)
  exact withholds_of_eq rfl rfl

theorem withholds_initiate (ips : List Bytes) (port : Option ℕ) (proxies : List Streamhost)
    (s : State) : Withholds s (initiate ips port proxies s) := by
  have hlistens : Withholds s { s with listener := true, listening := port.isSome } :=
    withholds_of_eq rfl rfl
  rw [initiate]
  split
  · exact Withholds.refl s
  split
  · exact withholds_sendStreamhosts _ _ _ s
  split
  · exact withholds_of_eq rfl rfl
  cases port with
  | none => exact hlistens.trans (withholds_sendStreamhosts _ _ _ _)
  | some port => exact hlistens.trans (withholds_sendStreamhosts _ _ _ _)

theorem withholds_send (str : Bytes) (s : State) : Withholds s (send str s).1 := by
  have hwritten := withholds_writeToTransport str s
  rw [send]
  split
  · exact Withholds.refl s
  dsimp only
  split
  · exact hwritten.trans (withholds_close none _)
  split
  · exact hwritten
  · dsimp only
    split
    · exact hwritten
    · exact hwritten.trans (withholds_changeWriteBlockedState true _)

theorem withholds_accept (sent : Bool) (s : State) : Withholds s (accept sent s) := by
  rw [accept]
  split
  · exact Withholds.refl s
  split
  · exact (withholds_emit rfl rfl s).trans (withholds_setState _ _)
  · exact Withholds.refl s

theorem withholds_blockReading (block : Bool) (s : State) : Withholds s (blockReading block s) := by
  have hflag : Withholds s { s with readBlocked := block } := withholds_of_eq rfl rfl
  rw [blockReading]
  split
  · exact Withholds.refl s
  dsimp only
  split
  · exact hflag.trans (withholds_blockReceiving block _)
  · exact hflag

theorem withholds_dispose (s : State) : Withholds s (dispose s) := by
  have hstopped : Withholds s (stopTimer { s with disposeHasRun := true }) :=
    withholds_of_eq rfl rfl
  rw [dispose]
  split
  · exact (hstopped.trans (withholds_close none _)).trans (withholds_of_eq rfl rfl)
  · exact hstopped.trans (withholds_of_eq rfl rfl)

/-- Nothing but a read hands data to the user. -/
theorem withholds_step (he : ∀ data, e ≠ .received data) (hstep : step sha1Hex s e = some s') :
    Withholds s s' := by
  rw [step, Option.ite_none_left_eq_some] at hstep
  obtain ⟨-, heq⟩ := hstep
  cases heq
  cases e with
  | initiate ips port proxies => exact withholds_initiate ips port proxies s
  | accept sent => exact withholds_accept sent s
  | send str => exact withholds_send str s
  | close error => exact withholds_close error s
  | blockReading block => exact withholds_blockReading block s
  | query iq nodes => exact withholds_queryReceived iq nodes s
  | initReply reply proxies => exact withholds_socks5InitReplyCb reply proxies s
  | activationReply success => exact withholds_socks5ActivationReplyCb success s
  | newConnection =>
    refine Withholds.trans ?_ (withholds_setTransport _ _)
    exact withholds_of_eq rfl rfl
  | transportConnected =>
    refine Withholds.trans ?_ (withholds_transportConnectedCb _)
    exact withholds_of_eq rfl rfl
  | transportDisconnected =>
    refine Withholds.trans ?_ (withholds_transportDisconnectedCb _)
    exact withholds_of_eq rfl rfl
  | transportBufferEmpty =>
    refine Withholds.trans ?_ (withholds_transportBufferEmptyCb _)
    exact withholds_of_eq rfl rfl
  | received data => exact absurd rfl (he data)
  | timeout => exact withholds_socks5Error s
  | dispose => exact withholds_dispose s

end

/-! ## What a read hands over -/

section

variable (sha1Hex : Bytes → Bytes)

/-- What comes behind a CONNECT command that the initiator accepts. -/
def behindCommand (s : State) (buffer : Bytes) : Bytes :=
  match connectCommand buffer with
  | .accepted used => if checkDomain buffer (domain sha1Hex false s) then buffer.drop used else []
  | .wait | .refused => []

/-- What comes behind a reply to the CONNECT command of the target. -/
def behindReply (buffer : Bytes) : Bytes :=
  match connectReply buffer with
  | .accepted used => buffer.drop used
  | .wait | .refused => []

/-- The bytes that come behind the negotiation.  A first message is only followed by a second one
if the answer to it can be written. -/
def behind (s : State) (buffer : Bytes) : Bytes :=
  match s.socks5State with
  | .connected => buffer
  | .initiatorAwaitingCommand => if fate s = .closed then [] else behindCommand sha1Hex s buffer
  | .initiatorAwaitingAuthRequest =>
    match authRequest buffer with
    | .accepted used => if fate s = .kept then behindCommand sha1Hex s (buffer.drop used) else []
    | .wait | .refused => []
  | .targetConnectRequested => behindReply buffer
  | .targetAuthRequestSent =>
    match authReply buffer with
    | .accepted used => if fate s = .kept then behindReply (buffer.drop used) else []
    | .wait | .refused => []
  | _ => []

/-- What was read and is part of a message that is not complete. -/
def heldBytes (s : State) : Bytes := s.readBuffer.getD []

/-- The data that an event brings. -/
def payload (s : State) : Event → Bytes
  | .received data => behind sha1Hex s (heldBytes s ++ data)
  | _ => []

/-- No data is read too early.  As long as the stream is not open, the initiator is sent nothing
behind the CONNECT command, and nothing is read any more once the SOCKS5 connection is there. -/
def InTime (s : State) : Event → Prop
  | .received data =>
    s.socks5State = .connected ∨ s.socks5State.serves = true →
      s.bytestreamState = .opened ∨ behind sha1Hex s (heldBytes s ++ data) = []
  | _ => True

instance : ∀ s e, Decidable (InTime sha1Hex s e)
  | _, .received _ => inferInstanceAs (Decidable (_ ∨ _ → _ ∨ _))
  | _, .initiate _ _ _ | _, .accept _ | _, .send _ | _, .close _ | _, .blockReading _
  | _, .query _ _ | _, .initReply _ _ | _, .activationReply _ | _, .newConnection
  | _, .transportConnected | _, .transportDisconnected | _, .transportBufferEmpty | _, .timeout
  | _, .dispose => .isTrue trivial

end

section

variable {sha1Hex : Bytes → Bytes} {s s' : State} {bytes : Bytes} {state : Ibb.BytestreamState}

/-- These bytes are handed to the user, if any while the stream is in this state. -/
structure Hands (s s' : State) (bytes : Bytes) (state : Ibb.BytestreamState) : Prop where
  intro ::
  delivers : ∃ s₁, Withholds s s₁ ∧ s'.out = s₁.out ++ bytes.map .dataReceived ∧
    s'.bytestreamState = s₁.bytestreamState ∧ (bytes ≠ [] → s₁.bytestreamState = state)

theorem Withholds.hands (h : Withholds s s') : Hands s s' [] state :=
  ⟨s', h, (List.append_nil _).symm, rfl, fun hne => absurd rfl hne⟩

theorem Withholds.hands_trans {s₀ : State} (h : Withholds s₀ s) (h' : Hands s s' bytes state) :
    Hands s₀ s' bytes state := by
  obtain ⟨s₁, hquiet, hrest⟩ := h'.delivers
  exact ⟨s₁, h.trans hquiet, hrest⟩

theorem blockReceiving_state (block : Bool) (s : State) :
    (blockReceiving block s).bytestreamState = s.bytestreamState := by
  rw [blockReceiving]
  split
  · rfl
  · rfl

theorem targetGotConnectReply_opened (s : State) :
    (targetGotConnectReply s).bytestreamState = .opened := by
  have hopened : (setState .opened { s with socks5State := .connected }).bytestreamState =
      .opened := by
    rw [setState_eq]
  rw [targetGotConnectReply]
  generalize setState .opened { s with socks5State := .connected } = s₁ at hopened
  dsimp only
  split
  · exact hopened
  · split
    · rw [blockReceiving_state]
      exact hopened
    · exact hopened

/-- The reply to the CONNECT command does not change the state of the stream. -/
theorem sendConnectReply_state (hs : Awaits .initiator s) {t : Transport}
    (ht : s.transport = some t) (hphase : t.phase = .connected) :
    (sendConnectReply sha1Hex s).bytestreamState = s.bytestreamState := by
  have hlistener := hs.listener rfl
  have hstate : s.socks5State = .initiatorAwaitingCommand := hs.state
  have hdata : connectMessage 0 (domain sha1Hex false s) ≠ [] := List.cons_ne_nil _ _
  cases hfate : fate s with
  | kept =>
    simp [sendConnectReply, write_kept ht hphase hfate hdata, wrote, blockReceiving, emit,
      hlistener]
  | broken =>
    simp [sendConnectReply, write_broken ht hphase hfate, broke, transportDisconnectedCb,
      socks5Error, stopTimer, hstate, blockReceiving, emit, hlistener]
  | closed => exact absurd hfate (hs.notClosed rfl t ht hphase)

variable (sha1Hex) in
/-- What comes behind the second message of a role. -/
def behindSecond (role : Role) (s : State) (buffer : Bytes) : Bytes :=
  match role with
  | .target => behindReply buffer
  | .proxy => []
  | .initiator =>
    if s.transport.any fun t => t.phase ≠ .connected then [] else behindCommand sha1Hex s buffer

/-- The state of the stream in which a role is handed data. -/
def Role.handing (role : Role) (state : Ibb.BytestreamState) : Ibb.BytestreamState :=
  match role with
  | .target => .opened
  | .proxy | .initiator => state

theorem hands_finish (hs : Awaits role s) {used : ℕ}
    (hverdict : message role.header buffer = .accepted used) :
    Hands s (finish sha1Hex role s buffer used) (behindSecond sha1Hex role s buffer)
      (role.handing s.bytestreamState) := by
  have hstopped : Withholds s (stopTimer s) := withholds_of_eq rfl rfl
  cases role with
  | target =>
    have hgot := hstopped.trans (withholds_targetGotConnectReply _)
    rw [behindSecond, behindReply, connectReply_eq,
      show message replyHeader buffer = .accepted used from hverdict]
    exact ⟨holding [] (targetGotConnectReply (stopTimer s)), hgot.holding [], rfl, rfl,
      fun _ => targetGotConnectReply_opened _⟩
  | proxy =>
    have hgot := hstopped.trans (withholds_initiatorGotConnectReply _)
    rw [finish]
    split
    · exact (hgot.holding []).hands
    · have hasserts : Withholds s (abort (holding (buffer.drop used)
          (initiatorGotConnectReply (stopTimer s)))) := hgot.trans (withholds_of_eq rfl rfl)
      exact hasserts.hands
  | initiator =>
    obtain ⟨t, ht⟩ := Option.ne_none_iff_exists'.mp hs.transport
    rw [finish, behindSecond, behindCommand, connectCommand_eq,
      show message commandHeader buffer = .accepted used from hverdict, ht, Option.any_some]
    by_cases hcheck : checkDomain buffer (domain sha1Hex false s) = true
    · dsimp only
      rw [if_pos hcheck, if_pos hcheck]
      by_cases hphase : t.phase = .connected
      · -- the reply can be written, and the rest of the buffer is data
        obtain ⟨-, -, hrunning, -⟩ := sendConnectReply_spec sha1Hex hs ht hphase
        rw [hrunning, if_neg Bool.false_ne_true, if_neg (by simp [hphase])]
        exact ⟨holding [] (sendConnectReply sha1Hex s),
          (withholds_sendConnectReply sha1Hex s).holding [], rfl, rfl,
          fun _ => sendConnectReply_state hs ht hphase⟩
      · rw [(sendConnectReply_broken sha1Hex ht hphase).1, if_pos rfl, if_pos (by simp [hphase])]
        have hheld := (Withholds.refl s).holding buffer
        exact (hheld.trans (withholds_sendConnectReply sha1Hex _)).hands
    · dsimp only
      rw [if_neg hcheck, if_neg hcheck, ite_self]
      have hclosed : Withholds s (closeTransport s) := withholds_of_eq rfl rfl
      exact (hclosed.trans (withholds_fails .initiator _)).hands

/-- Nothing comes behind a second message that is not accepted. -/
theorem behindSecond_of_not_accepted (role : Role)
    (h : ∀ used, message role.header buffer ≠ .accepted used) :
    behindSecond sha1Hex role s buffer = [] := by
  cases role with
  | target =>
    rw [behindSecond, behindReply, connectReply_eq]
    cases hverdict : message replyHeader buffer with
    | wait => rfl
    | refused => rfl
    | accepted used => exact absurd hverdict (h used)
  | proxy => rfl
  | initiator =>
    rw [behindSecond, behindCommand, connectCommand_eq]
    cases hverdict : message commandHeader buffer with
    | wait => exact ite_self _
    | refused => exact ite_self _
    | accepted used => exact absurd hverdict (h used)

variable (sha1Hex) in
/-- **The second message** of a negotiation, and what comes behind it. -/
theorem hands_settled (hs : Awaits role s) (buffer : Bytes) :
    Hands s (settled sha1Hex message role s buffer) (behindSecond sha1Hex role s buffer)
      (role.handing s.bytestreamState) := by
  rw [settled]
  cases hverdict : message role.header buffer with
  | wait =>
    rw [behindSecond_of_not_accepted role (by rw [hverdict]; rintro _ ⟨⟩)]
    exact ((Withholds.refl s).holding buffer).hands
  | refused =>
    rw [behindSecond_of_not_accepted role (by rw [hverdict]; rintro _ ⟨⟩)]
    exact (((Withholds.refl s).holding []).trans (withholds_fails role _)).hands
  | accepted used => exact hands_finish hs hverdict

/-- When nothing is handed over, the state does not matter. -/
theorem Hands.of_nil (h : Hands s s' [] state) (state' : Ibb.BytestreamState) :
    Hands s s' [] state' := by
  obtain ⟨s₁, hquiet, hout, hstate, -⟩ := h.delivers
  exact ⟨s₁, hquiet, hout, hstate, fun hne => absurd rfl hne⟩

variable (sha1Hex) in
/-- What comes behind the second message, when the connection is kept. -/
def behindKept (role : Role) (s : State) (buffer : Bytes) : Bytes :=
  match role with
  | .target => behindReply buffer
  | .proxy => []
  | .initiator => behindCommand sha1Hex s buffer

theorem behind_start (hstate : s.socks5State = role.start) (buffer : Bytes) :
    behind sha1Hex s buffer =
      match role.front buffer with
      | .accepted used =>
        if fate s = .kept then behindKept sha1Hex role s (buffer.drop used) else []
      | .wait | .refused => [] := by
  cases role with
  | target =>
    rw [behind, hstate]
    rfl
  | initiator =>
    rw [behind, hstate]
    rfl
  | proxy =>
    rw [behind, hstate]
    cases Role.proxy.front buffer with
    | wait => rfl
    | refused => rfl
    | accepted used => exact (ite_self _).symm

/-- The connection was kept by the answer to the first message. -/
theorem hands_kept (hs : Begins role s) (hfate : fate s = .kept) (rest : Bytes) :
    Hands s (settled sha1Hex message role (second sha1Hex role s) rest)
      (behindKept sha1Hex role s rest) (role.handing s.bytestreamState) := by
  have hgoes := goes_kept sha1Hex hs hfate
  have hsettled := (withholds_second role s).hands_trans (hands_settled sha1Hex hgoes.awaits rest)
  obtain ⟨t, ht, hphase, -⟩ := receives_iff.mp hs.receives
  have hstate : (second sha1Hex role s).bytestreamState = s.bytestreamState := by
    rw [second_kept sha1Hex hs.state ht hphase hs.timer hfate]
    rfl
  have hbehind : behindSecond sha1Hex role (second sha1Hex role s) rest =
      behindKept sha1Hex role s rest := by
    cases role with
    | target => rfl
    | proxy => rfl
    | initiator =>
      obtain ⟨hdomain, hconnected⟩ :=
        second_domain sha1Hex hs (goesOn_of_kept .initiator hfate)
      rw [behindSecond, hconnected, hfate, if_neg (by decide), behindKept, behindCommand,
        behindCommand, hdomain]
  rwa [hstate, hbehind] at hsettled

/-- It was not: then nothing is handed over. -/
theorem hands_lost (hs : Begins role s) (hfate : fate s ≠ .kept) (rest : Bytes) :
    Hands s
      (if goesOn role s then settled sha1Hex message role (second sha1Hex role s) rest
        else second sha1Hex role s) [] state := by
  split
  case isFalse => exact (withholds_second role s).hands
  case isTrue hgoesOn =>
    have hgoes := goes_of_goesOn sha1Hex hs hgoesOn
    have hsettled := (withholds_second role s).hands_trans (hands_settled sha1Hex hgoes.awaits rest)
    have hnil : behindSecond sha1Hex role (second sha1Hex role s) rest = [] := by
      cases role with
      | target => exact absurd (of_decide_eq_true hgoesOn) hfate
      | proxy => rfl
      | initiator =>
        have hbroken : fate s = .broken := by
          have hclosed : fate s ≠ .closed := of_decide_eq_true hgoesOn
          cases hcase : fate s with
          | kept => exact absurd hcase hfate
          | closed => exact absurd hcase hclosed
          | broken => rfl
        rw [behindSecond, (second_domain sha1Hex hs hgoesOn).2, hbroken]
        exact if_pos rfl
    rw [hnil] at hsettled
    exact hsettled.of_nil state

/-- **The first message** of a negotiation, and what comes behind it. -/
theorem hands_start (hs : Begins role s) (hbuffer : buffer ≠ []) :
    Hands s (readLoop sha1Hex buffer.length (holding buffer s)) (behind sha1Hex s buffer)
      (role.handing s.bytestreamState) := by
  rw [readLoop_start sha1Hex hs hbuffer, outcome, behind_start hs.state]
  cases role.front buffer with
  | wait => exact ((Withholds.refl s).holding buffer).hands
  | refused => exact (((Withholds.refl s).holding []).trans (withholds_fails role _)).hands
  | accepted used =>
    dsimp only
    by_cases hfate : fate s = .kept
    · rw [if_pos hfate, if_pos (goesOn_of_kept role hfate)]
      exact hands_kept hs hfate _
    · rw [if_neg hfate]
      exact hands_lost hs hfate _

variable (sha1Hex) in
/-- The reply is the last thing that is written before the stream is closed. -/
theorem sendConnectReply_closed {t : Transport} (ht : s.transport = some t)
    (hphase : t.phase = .connected) (hfate : fate s = .closed) :
    (sendConnectReply sha1Hex s).aborted = true := by
  have hwrite := write_closed ht hphase hfate (connectMessage 0 (domain sha1Hex false s))
  cases hlistener : s.listener with
  | false =>
    simp [sendConnectReply, hwrite, bytestreamClosed, setState_eq, closeTransport, blockReceiving,
      abort, drained, hlistener]
  | true =>
    simp [sendConnectReply, hwrite, bytestreamClosed, setState_eq, closeTransport, blockReceiving,
      abort, drained, hlistener]

/-- What the initiator makes of the command when its reply is the last thing that is written before
the stream is closed. -/
theorem withholds_closing (hstate : s.socks5State = .initiatorAwaitingCommand)
    (hreceives : receives s = true) (hfate : fate s = .closed) (fuel : ℕ) (buffer : Bytes) :
    Withholds s (readLoop sha1Hex (fuel + 1) (holding buffer s)) := by
  obtain ⟨t, ht, hphase, -⟩ := receives_iff.mp hreceives
  have hheld := (Withholds.refl s).holding buffer
  have hunused : ∀ {r : State × ℤ}, r.2 ≤ 0 → Withholds s r.1 →
      Withholds s (next sha1Hex fuel r) := by
    intro r hr hquiet
    rcases next_unused fuel hr with h | ⟨-, rest, -, h⟩
    · rwa [h]
    · rw [h]
      exact hquiet.holding rest
  rw [readLoop_succ, handleReceivedData_awaiting sha1Hex
    (show (holding buffer s).socks5State = Role.initiator.awaiting from hstate)]
  cases message Role.initiator.header buffer with
  | wait => exact hunused (r := (holding buffer s, 0)) le_rfl hheld
  | refused =>
    exact hunused (r := (socks5Error (holding buffer s), -1)) (show (-1 : ℤ) ≤ 0 by decide)
      (hheld.trans (withholds_socks5Error _))
  | accepted used =>
    dsimp only [follow]
    rw [accepts]
    split
    · -- the write has closed the stream, and the transport is gone
      have hasserts := sendConnectReply_closed sha1Hex (s := holding buffer s) ht hphase hfate
      rw [next_aborted sha1Hex fuel hasserts]
      exact hheld.trans (withholds_sendConnectReply sha1Hex _)
    · have hclosed : Withholds s (closeTransport (holding buffer s)) := withholds_of_eq rfl rfl
      exact hunused (r := (socks5Error (closeTransport (holding buffer s)), -1))
        (show (-1 : ℤ) ≤ 0 by decide) (hclosed.trans (withholds_socks5Error _))

/-- The state of the stream in which what is read is handed over. -/
def handing (s : State) : Ibb.BytestreamState :=
  if s.socks5State.isTarget then .opened else s.bytestreamState

/-- Nothing is read in a state in which nothing is to be read. -/
theorem withholds_asserting {n : ℤ}
    (h : handleReceivedData sha1Hex (holding buffer s) buffer = (abort (holding buffer s), n))
    (fuel : ℕ) : Withholds s (readLoop sha1Hex (fuel + 1) (holding buffer s)) := by
  rw [readLoop_succ, h, next_aborted sha1Hex fuel rfl]
  exact withholds_of_eq rfl rfl

/-- **A read** hands over what comes behind the negotiation. -/
theorem hands_received (hs : Facts s) (hpaired : Paired s) (hrunning : s.aborted = false)
    (halive : s.disposeHasRun = false) (hreceives : receives s = true) {data : Bytes}
    (hdata : data ≠ []) :
    Hands s (transportHandler sha1Hex data s) (behind sha1Hex s (heldBytes s ++ data))
      (handing s) := by
  obtain ⟨t, ht, hphase, -⟩ := receives_iff.mp hreceives
  obtain ⟨held, hheld⟩ : ∃ held, s.readBuffer = some held :=
    Option.isSome_iff_exists.mp (by rw [show s.readBuffer.isSome = _ from hpaired, ht]; rfl)
  rw [transportHandler_eq sha1Hex hheld, heldBytes, hheld, Option.getD_some]
  have hne : held ++ data ≠ [] := fun h => hdata (List.append_eq_nil_iff.mp h).2
  generalize held ++ data = buffer at hne
  obtain ⟨fuel, hfuel⟩ : ∃ fuel, buffer.length = fuel + 1 :=
    Nat.exists_eq_add_one_of_ne_zero (List.length_pos_iff.mpr hne).ne'
  have hconnected : (s.transport.any fun t => t.phase = .connected) = true := by
    rw [ht]
    exact decide_eq_true hphase
  -- a first message, perhaps not from its first byte on
  have hstart : ∀ role : Role, s.socks5State = role.start →
      handing s = role.handing s.bytestreamState →
      Hands s (readLoop sha1Hex buffer.length (holding buffer s)) (behind sha1Hex s buffer)
        (handing s) := by
    intro role hstate hhanding
    have hbegins : Begins role (holding [] s) := by
      refine ⟨hstate, rfl, hreceives, hrunning, halive, fun hrole => ?_, ?_, ?_, ?_⟩
      · refine hs.timely ?_ hconnected
        rw [hstate]
        cases role with
        | target => rfl
        | proxy => rfl
        | initiator => exact absurd rfl hrole
      · rintro rfl
        exact (hs.target (by rw [hstate]; rfl)).1
      · rintro rfl
        exact (hs.target (by rw [hstate]; rfl)).2
      · rintro rfl
        exact hs.listener (by rw [hstate]; rfl)
    rw [hhanding]
    exact ((Withholds.refl s).holding []).hands_trans (hands_start hbegins hne)
  -- a second message
  have hsecond : ∀ role : Role, Awaits role s → handing s = role.handing s.bytestreamState →
      behind sha1Hex s buffer = behindSecond sha1Hex role s buffer →
      Hands s (readLoop sha1Hex buffer.length (holding buffer s)) (behind sha1Hex s buffer)
        (handing s) := by
    intro role hawaits hhanding hbehind
    rw [readLoop_length sha1Hex hawaits hne, hhanding, hbehind]
    exact hands_settled sha1Hex hawaits buffer
  cases hstate : s.socks5State with
  | targetAuthRequestSent => exact hstart .target hstate (by rw [handing, hstate]; rfl)
  | initiatorAuthRequestSent => exact hstart .proxy hstate (by rw [handing, hstate]; rfl)
  | initiatorAwaitingAuthRequest => exact hstart .initiator hstate (by rw [handing, hstate]; rfl)
  | targetConnectRequested =>
    obtain ⟨hstreamhosts, hack⟩ := hs.target (by rw [hstate]; rfl)
    refine hsecond .target ⟨hstate, by simp [ht], hrunning, fun _ => hstreamhosts, fun _ => hack,
      nofun, nofun⟩ (by rw [handing, hstate]; rfl) ?_
    rw [behind, hstate]
    rfl
  | initiatorConnectRequested =>
    refine hsecond .proxy ⟨hstate, by simp [ht], hrunning, nofun, nofun, nofun, nofun⟩
      (by rw [handing, hstate]; rfl) ?_
    rw [behind, hstate]
    rfl
  | initiatorAwaitingCommand =>
    by_cases hfate : fate s = .closed
    · rw [hfuel, behind, hstate]
      dsimp only
      rw [if_pos hfate]
      exact (withholds_closing hstate hreceives hfate fuel buffer).hands
    · refine hsecond .initiator ⟨hstate, by simp [ht], hrunning, nofun, nofun,
        fun _ => hs.listener (by rw [hstate]; rfl), fun _ _ _ _ => hfate⟩
        (by rw [handing, hstate]; rfl) ?_
      rw [behind, hstate, behindSecond, ht]
      dsimp only
      rw [if_neg hfate, if_neg (by simp [hphase])]
  | connected =>
    rw [hfuel, readLoop_connected sha1Hex fuel hstate hrunning hne, behind, handing, hstate]
    exact ⟨s, Withholds.refl s, rfl, rfl, fun _ => rfl⟩
  | error =>
    rw [hfuel, readLoop_error sha1Hex fuel hstate hrunning hne, behind, hstate]
    exact ((Withholds.refl s).holding []).hands
  | _ =>
    rw [hfuel, behind, hstate]
    refine (withholds_asserting (n := (buffer.length : ℤ)) ?_ fuel).hands
    rw [handleReceivedData, show (holding buffer s).socks5State = _ from hstate]

/-! ## Runs -/

/-- A block of data is handed over in time when there is none or the stream is open. -/
theorem deliversOpen_data (bytes : Bytes) :
    DeliversOpen state (bytes.map .dataReceived) ↔ bytes = [] ∨ state = .opened := by
  rw [DeliversOpen, PhasedLog.proper_iff_of_none (by
    intro effect heffect
    obtain ⟨byte, -, rfl⟩ := List.mem_map.mp heffect
    rfl)]
  constructor
  · intro h
    cases bytes with
    | nil => exact .inl rfl
    | cons byte bytes =>
      exact .inr ((h _ List.mem_cons_self).resolve_left (Option.some_ne_none byte))
  · rintro (rfl | hopened) effect heffect
    · cases heffect
    · exact .inr hopened

/-- What an event adds: its payload, in time if and only if the stream is open for it. -/
structure Gives (s s' : State) (effects : List Effect) (bytes : Bytes) (inTime : Prop) : Prop where
  adds : Adds s s' effects
  bytes : delivered effects = bytes
  inTime : DeliversOpen s.bytestreamState effects ↔ inTime

theorem Hands.gives (h : Hands s s' bytes state) :
    ∃ effects, Gives s s' effects bytes (bytes = [] ∨ state = .opened) := by
  obtain ⟨s₁, ⟨effects, hadds, hnone⟩, hout, hstate, hopened⟩ := h.delivers
  have hquiet : DeliversOpen s.bytestreamState effects :=
    PhasedLog.proper_of_always fun effect heffect _ =>
      .inl (List.filterMap_eq_nil_iff.mp hnone effect heffect)
  have hblock : ∀ effect ∈ bytes.map Effect.dataReceived, effect.newState = none := by
    intro effect heffect
    obtain ⟨byte, -, rfl⟩ := List.mem_map.mp heffect
    rfl
  refine ⟨effects ++ bytes.map .dataReceived, ⟨?_, ?_⟩, ?_, ?_⟩
  · rw [hout, hadds.out, List.append_assoc]
  · rw [hstate, hadds.state, PhasedLog.after_append, PhasedLog.after_of_none hblock]
  · rw [delivered_append, hnone, List.nil_append, delivered, List.filterMap_map]
    exact List.filterMap_some
  · rw [DeliversOpen, PhasedLog.proper_append, ← hadds.state]
    refine (and_iff_right hquiet).trans ((deliversOpen_data bytes).trans ?_)
    by_cases hbytes : bytes = []
    · exact iff_of_true (.inl hbytes) (.inl hbytes)
    · rw [hopened hbytes]

theorem isTarget_of_reads {state : Socks5State} (h : state = .connected ∨ state.serves = true) :
    state.isTarget = false := by
  rcases h with rfl | hserves
  · rfl
  · cases state <;> first | rfl | cases hserves

/-- In the other states of an initiator nothing that is read is data. -/
theorem behind_eq_nil (htarget : s.socks5State.isTarget = false)
    (hreads : ¬ (s.socks5State = .connected ∨ s.socks5State.serves = true)) (buffer : Bytes) :
    behind sha1Hex s buffer = [] := by
  rw [not_or] at hreads
  rw [behind]
  cases hstate : s.socks5State with
  | connected => exact absurd hstate hreads.1
  | initiatorAwaitingAuthRequest | initiatorAwaitingCommand =>
    rw [hstate] at hreads
    exact absurd rfl hreads.2
  | targetAuthRequestSent | targetConnectRequested =>
    rw [hstate] at htarget
    cases htarget
  | _ => rfl

/-- The condition of a read. -/
theorem inTime_received_iff (data : Bytes) :
    payload sha1Hex s (.received data) = [] ∨ handing s = .opened ↔
      InTime sha1Hex s (.received data) := by
  rw [payload, InTime, handing]
  constructor
  · rintro (hnil | hopened) hreads
    · exact .inr hnil
    · rw [isTarget_of_reads hreads, if_neg Bool.false_ne_true] at hopened
      exact .inl hopened
  · intro h
    by_cases htarget : s.socks5State.isTarget = true
    · exact .inr (if_pos htarget)
    rw [if_neg htarget]
    by_cases hreads : s.socks5State = .connected ∨ s.socks5State.serves = true
    · exact (h hreads).symm
    · exact .inl (behind_eq_nil (eq_false_of_ne_true htarget) hreads _)

/-- **The step lemma.**  An event adds its payload, and keeps to the rule if it is in time. -/
theorem gives_step (hs : Steady s) (hstep : step sha1Hex s e = some s') :
    ∃ effects, Gives s s' effects (payload sha1Hex s e) (InTime sha1Hex s e) := by
  have hquiet : (∀ data, e ≠ .received data) → ∃ effects, Gives s s' effects [] True := by
    intro he
    have hhands : Hands s s' [] .opened := (withholds_step he hstep).hands
    obtain ⟨effects, hgives⟩ := hhands.gives
    exact ⟨effects, hgives.adds, hgives.bytes, hgives.inTime.trans (iff_of_true (.inl rfl) trivial)⟩
  cases e with
  | received data =>
    obtain ⟨halive, hrunning, henabled, rfl⟩ := step_live hstep
    rw [enabled, Bool.and_eq_true, isRead, Bool.and_eq_true, Bool.not_eq_true',
      List.isEmpty_eq_false_iff] at henabled
    obtain ⟨hreceives, hdata, -⟩ := henabled
    have hfacts := hs.sound.resolve_left (by rw [halive]; exact Bool.false_ne_true)
    have hhands := @hands_received sha1Hex s hfacts (hs.paired halive) hrunning halive hreceives
      data hdata
    obtain ⟨effects, hgives⟩ := hhands.gives
    exact ⟨effects, hgives.adds, hgives.bytes, hgives.inTime.trans (inTime_received_iff data)⟩
  | _ => exact hquiet (by rintro _ ⟨⟩)

/-- **The run lemma.** -/
theorem gives_run (es : List Event) (hs : Steady s) (hrun : run (step sha1Hex) s es = some s') :
    ∃ effects, Gives s s' effects (collect (step sha1Hex) (payload sha1Hex) s es)
      (Admits (InTime sha1Hex) (step sha1Hex) s es) := by
  induction es generalizing s with
  | nil =>
    cases hrun
    exact ⟨[], ⟨(List.append_nil _).symm, rfl⟩, rfl, Iff.rfl⟩
  | cons e es ih =>
    obtain ⟨s₁, hstep, hrest⟩ := Option.bind_eq_some_iff.mp hrun
    obtain ⟨effects, hgives⟩ := gives_step hs hstep
    obtain ⟨effects', hgives'⟩ := ih (hs.step hstep) hrest
    refine ⟨effects ++ effects', hgives.adds.trans hgives'.adds, ?_, ?_⟩
    · rw [delivered_append, hgives.bytes, hgives'.bytes, collect, hstep]
      rfl
    · rw [admits_cons_iff hstep, ← hgives.inTime, ← hgives'.inTime, hgives.adds.state]
      exact PhasedLog.proper_append effects'

/-- **Data is handed over while the stream is open** in exactly the runs in which none is read
too early.  In every run the user gets what comes behind the negotiation, in this order. -/
theorem data_in_time_iff {streamId peerJid selfFullJid : Bytes} {mucContact : Bool}
    {state : Ibb.BytestreamState} {writes : List Written} (es : List Event)
    (hrun : run (step sha1Hex)
      (State.new streamId peerJid selfFullJid mucContact state writes) es = some s) :
    DeliversOpen state s.out ∧
        delivered s.out = collect (step sha1Hex) (payload sha1Hex)
          (State.new streamId peerJid selfFullJid mucContact state writes) es ↔
      Admits (InTime sha1Hex) (step sha1Hex)
        (State.new streamId peerJid selfFullJid mucContact state writes) es := by
  obtain ⟨effects, hadds, hbytes, hinTime⟩ := gives_run es steady_new hrun
  have hout : s.out = effects := hadds.out
  rw [hout, and_iff_left hbytes]
  exact hinTime

end

/-! ## A client that does not wait -/

/-- The CONNECT command that the initiator expects. -/
def commandReceived : Bytes := connectMessage 1 (domain sampleSha1Hex false sampleInitiator)

/-- The target sends data when the initiator has answered its CONNECT command, and says which
streamhost it uses before the initiator reads any. -/
def patientClient : List Event :=
  [listen, .newConnection, .received [5, 1, 0], .received commandReceived,
    .initReply (some (some (ascii "a@b/c"))) [], .received (ascii "hi")]

theorem data_in_time_iff_patientClient :
    ∃ s, run (step sampleSha1Hex) sampleInitiator patientClient = some s ∧
      DeliversOpen .initiating s.out ∧ delivered s.out = ascii "hi" := by
  have hrun : (run (step sampleSha1Hex) sampleInitiator patientClient).isSome = true := by
    decide +kernel
  obtain ⟨s, hs⟩ := Option.isSome_iff_exists.mp hrun
  have hadm : Admits (InTime sampleSha1Hex) (step sampleSha1Hex) sampleInitiator patientClient := by
    decide +kernel
  obtain ⟨hopen, hbytes⟩ := (data_in_time_iff patientClient hs).mpr hadm
  have hcollected : collect (step sampleSha1Hex) (payload sampleSha1Hex) sampleInitiator
      patientClient = ascii "hi" := by
    decide +kernel
  exact ⟨s, hs, hopen, hbytes.trans hcollected⟩

/-- The data comes with the CONNECT command, and the user gets it before the stream is open. -/
theorem data_before_open :
    ∃ s, run (step sampleSha1Hex) sampleInitiator
        [listen, .newConnection, .received [5, 1, 0], .received (commandReceived ++ ascii "hi")] =
          some s ∧
      delivered s.out = ascii "hi" ∧ s.bytestreamState = .initiating ∧
      ¬ DeliversOpen .initiating s.out := by
  have hrun : (run (step sampleSha1Hex) sampleInitiator
      [listen, .newConnection, .received [5, 1, 0], .received (commandReceived ++ ascii "hi")]).any
      (fun s => delivered s.out = ascii "hi" ∧ s.bytestreamState = .initiating ∧
        ¬ PhasedLog.Proper Effect.newState Timed .initiating s.out) = true := by
    decide +kernel
  obtain ⟨s, hs, hearly⟩ := (Option.any_eq_true _ _).mp hrun
  obtain ⟨hbytes, hstate, hnot⟩ := of_decide_eq_true hearly
  exact ⟨s, hs, hbytes, hstate, hnot⟩

end Socks5
