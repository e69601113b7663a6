/-
# SOCKS5 bytestreams

The model of `bytestream-socks5.c`.  The target connects to the streamhosts it was
offered, one after the other, until the SOCKS5 negotiation with one succeeds.  The
initiator listens for the target, or connects to the proxy the target has chosen
and asks it to activate the stream.

A callback is a function on `State`; what the stream signals, sends or asks for is
appended to `out`.  The transport tells before `gibber_transport_send` returns that
everything was written or that the connection is broken, and the functions run
these callbacks where the code runs them.  What the user of the stream does when it
is called back, and a connection that is made or refused at once, are events of
their own that come next.
-/
import Gabble.BytestreamIbb
import Gabble.Transition

namespace Socks5

open Base64
open Ibb (BytestreamState GError XmppError)

/-! ## Data -/

/-- `Socks5State` -/
inductive Socks5State : Type where
  | invalid : Socks5State
  | targetTryingConnect : Socks5State
  | targetAuthRequestSent : Socks5State
  | targetConnectRequested : Socks5State
  | connected : Socks5State
  | initiatorOfferSent : Socks5State
  | initiatorAwaitingAuthRequest : Socks5State
  | initiatorAwaitingCommand : Socks5State
  | initiatorTryingConnect : Socks5State
  | initiatorAuthRequestSent : Socks5State
  | initiatorConnectRequested : Socks5State
  | initiatorActivationSent : Socks5State
  | error : Socks5State
deriving DecidableEq

/-- `Streamhost`, and `GabbleSocks5Proxy`. -/
structure Streamhost where
  jid : Bytes
  host : Bytes
  port : ℕ
deriving DecidableEq

/-- `GibberTransportState` -/
inductive Phase : Type where
  | connecting : Phase
  | connected : Phase
  | disconnected : Phase
deriving DecidableEq

/-- The `GibberTransport` of the stream. -/
structure Transport where
  phase : Phase
  receivingBlocked : Bool
  /-- nothing waits to be written -/
  bufferEmpty : Bool
deriving DecidableEq

/-- What comes of a write to a transport with an empty buffer. -/
inductive Written : Type where
  | whole : Written
  | partly : Written
  | failed : Written
deriving DecidableEq

/-- What the stream signals, sends or asks for. -/
inductive Effect : Type where
  | stateChanged (state : BytestreamState) : Effect
  | writeBlocked (blocked : Bool) : Effect
  | connectionError : Effect
  /-- one byte of the data that is received -/
  | dataReceived (byte : UInt8) : Effect
  | transportSend (data : Bytes) : Effect
  | transportConnect (host : Bytes) (port : ℕ) : Effect
  | transportBlockReceiving (block : Bool) : Effect
  | siAccept : Effect
  | siDecline (error : GError) : Effect
  /-- the query with the streamhosts that are offered -/
  | offer (streamhosts : List Streamhost) : Effect
  | activate (proxy : Option Bytes) (target : Bytes) : Effect
  /-- the answer to the query with the streamhosts -/
  | streamhostUsed (iq : Option ℕ) (jid : Bytes) : Effect
  | iqError (iq : ℕ) (error : GError) : Effect
deriving DecidableEq

/-- `GabbleBytestreamSocks5Private`, what waits for an answer, and `out`. -/
structure State where
  streamId : Bytes
  peerJid : Bytes
  selfFullJid : Bytes
  mucContact : Bool
  bytestreamState : BytestreamState
  socks5State : Socks5State
  proxyJid : Option Bytes
  streamhosts : List Streamhost
  msgForAcknowledgeConnection : Option ℕ
  transport : Option Transport
  readBuffer : Option Bytes
  writeBlocked : Bool
  readBlocked : Bool
  /-- `listener` is set -/
  listener : Bool
  /-- the listener accepts connections -/
  listening : Bool
  /-- `timer_id` is set -/
  timer : Bool
  disposeHasRun : Bool
  /-- how many queries with streamhosts have no answer yet -/
  initsPending : ℕ
  /-- how many activations have no answer yet -/
  activationsPending : ℕ
  /-- the factory has the stream in its table -/
  registered : Bool
  /-- what comes of the next writes; those after the last of them are whole -/
  writes : List Written
  /-- an assertion has failed or a `NULL` was used -/
  aborted : Bool
  out : List Effect
deriving DecidableEq

/-- A new bytestream in the state its creator gives it. -/
def State.new (streamId peerJid selfFullJid : Bytes) (mucContact : Bool) (state : BytestreamState)
    (writes : List Written) : State where
  streamId := streamId
  peerJid := peerJid
  selfFullJid := selfFullJid
  mucContact := mucContact
  bytestreamState := state
  socks5State := .invalid
  proxyJid := none
  streamhosts := []
  msgForAcknowledgeConnection := none
  transport := none
  readBuffer := none
  writeBlocked := false
  readBlocked := false
  listener := false
  listening := false
  timer := false
  disposeHasRun := false
  initsPending := 0
  activationsPending := 0
  registered := true
  writes := writes
  aborted := false
  out := []

def emit (e : Effect) (s : State) : State := { s with out := s.out ++ [e] }

/-- A failed assertion, or the use of a `NULL`. -/
def abort (s : State) : State := { s with aborted := true }

/-- Setting the property "state".  The factory lets go of a stream that is
closed. -/
def setState (state : BytestreamState) (s : State) : State :=
  if s.bytestreamState = state then s
  else
    emit (.stateChanged state)
      { s with bytestreamState := state, registered := s.registered && state ≠ .closed }

/-! ## Timers and transports -/

/-- `stop_timer` -/
def stopTimer (s : State) : State := { s with timer := false }

/-- `start_timer` -/
def startTimer (s : State) : State := if s.timer then abort s else { s with timer := true }

/-- `change_write_blocked_state` -/
def changeWriteBlockedState (blocked : Bool) (s : State) : State :=
  if s.writeBlocked = blocked then s
  else emit (.writeBlocked blocked) { s with writeBlocked := blocked }

/-- `gibber_transport_block_receiving` on the stream's transport. -/
def blockReceiving (block : Bool) (s : State) : State :=
  match s.transport with
  | none => abort s
  | some t =>
    emit (.transportBlockReceiving block)
      { s with transport := some { t with receivingBlocked := block } }

/-- `socks5_close_transport` -/
def closeTransport (s : State) : State := { s with readBuffer := none, transport := none }

/-- `bytestream_closed` -/
def bytestreamClosed (s : State) : State := setState .closed (closeTransport s)

/-- `transport_buffer_empty_cb` -/
def transportBufferEmptyCb (s : State) : State :=
  if s.bytestreamState = .closing then bytestreamClosed s
  else if s.writeBlocked then changeWriteBlockedState false s
  else s

/-- `set_transport` -/
def setTransport (t : Transport) (s : State) : State :=
  if s.readBuffer.isSome then abort { s with transport := some t }
  else { s with transport := some t, readBuffer := some [] }

/-! ## Closing -/

/-- `gabble_bytestream_socks5_decline` -/
def decline (error : Option GError) (s : State) : State :=
  setState .closed
    (emit (.siDecline (error.getD ⟨.forbidden, some "Offer Declined"⟩)) s)

/-- `gabble_bytestream_socks5_close` -/
def close (error : Option GError) (s : State) : State :=
  if s.bytestreamState = .closed then s
  else if s.bytestreamState = .localPending then decline error s
  else
    let s := setState .closing s
    if s.transport.any fun t => !t.bufferEmpty then s else bytestreamClosed s

/-- `socks5_connect` with a streamhost to try. -/
def tryStreamhost (h : Streamhost) (s : State) : State :=
  let s := setTransport ⟨.connecting, false, true⟩ { s with socks5State := .targetTryingConnect }
  emit (.transportConnect h.host h.port) (startTimer s)

/-- The end of `socks5_error` when no streamhost is left. -/
def noMoreStreamhosts (s : State) : State :=
  let s := emit .connectionError s
  match s.msgForAcknowledgeConnection with
  | none => abort s
  | some iq =>
    emit (.iqError iq ⟨.itemNotFound, some "impossible to connect to any streamhost"⟩)
      { s with msgForAcknowledgeConnection := none }

/-- The attempt to connect to a streamhost has failed. -/
def streamhostFailed (s : State) : State :=
  let s := closeTransport s
  let s := { s with streamhosts := s.streamhosts.tail }
  match s.streamhosts with
  | h :: _ => tryStreamhost h s
  | [] => noMoreStreamhosts s

/-- `socks5_error` -/
def socks5Error (s : State) : State :=
  let previous := s.socks5State
  let s := { stopTimer s with socks5State := .error }
  match previous with
  | .targetTryingConnect | .targetAuthRequestSent | .targetConnectRequested => streamhostFailed s
  | .initiatorAwaitingAuthRequest | .initiatorAwaitingCommand => s
  | _ => close none s

/-- `socks5_connect` -/
def socks5Connect (s : State) : State :=
  match s.streamhosts with
  | h :: _ => tryStreamhost h s
  | [] => socks5Error { s with socks5State := .targetTryingConnect }

/-- `transport_disconnected_cb` -/
def transportDisconnectedCb (s : State) : State := socks5Error (stopTimer s)

/-- `write_to_transport`.  Data behind other data waits with it. -/
def writeToTransport (data : Bytes) (s : State) : State × Bool :=
  match s.transport with
  | none => (abort s, false)
  | some t =>
    if t.phase ≠ .connected then (abort s, false)
    else
      let s := emit (.transportSend data) s
      if t.bufferEmpty then
        let written := s.writes.headD .whole
        let s := { s with writes := s.writes.tail }
        match written with
        | .failed =>
          (transportDisconnectedCb
            { s with transport := some { t with phase := .disconnected } }, false)
        | .whole => (transportBufferEmptyCb s, true)
        | .partly =>
          if data.isEmpty then (transportBufferEmptyCb s, true)
          else ({ s with transport := some { t with bufferEmpty := false } }, true)
      else (if data.isEmpty then transportBufferEmptyCb s else s, true)

/-! ## Messages -/

/-- What is made of the bytes that were received so far: they are not enough, or
they are refused, or a message is complete. -/
inductive Verdict : Type where
  | wait : Verdict
  | refused : Verdict
  | accepted (used : ℕ) : Verdict
deriving DecidableEq

/-- The byte at a position. -/
def byteAt (buffer : Bytes) (i : ℕ) : UInt8 := buffer.getD i 0

/-- `SOCKS5_MIN_LENGTH`: version, command or reply, reserved, type of the address,
and two bytes for the port. -/
def minLength : ℕ := 6

/-- The checks of a message whose address has a length: the length of the buffer is
compared as a `guint8`, and `ok` tells what else is checked then. -/
def complete (addrLen : UInt8) (ok : Bool) (buffer : Bytes) : Verdict :=
  if (UInt8.ofNat buffer.length).toNat < minLength + addrLen.toNat then .wait
  else if !ok || byteAt buffer (4 + addrLen.toNat) ≠ 0 || byteAt buffer (5 + addrLen.toNat) ≠ 0 then
    .refused
  else .accepted (minLength + addrLen.toNat)

/-- The reply to our authorization request. -/
def authReply (buffer : Bytes) : Verdict :=
  if buffer.length < 2 then .wait
  else if byteAt buffer 0 ≠ 5 || byteAt buffer 1 ≠ 0 then .refused
  else .accepted 2

/-- The reply to our CONNECT command.  An address of type 0 is taken for one
without a domain. -/
def connectReply (buffer : Bytes) : Verdict :=
  if buffer.length < minLength then .wait
  else if byteAt buffer 0 ≠ 5 || byteAt buffer 1 ≠ 0 || byteAt buffer 2 ≠ 0 then .refused
  else if byteAt buffer 3 = 3 then complete (byteAt buffer 4 + 1) true buffer
  else if byteAt buffer 3 = 0 then complete 0 true buffer
  else .refused

/-- The length of an authorization request with this number of methods, which is
read as a signed `char` and added as a `guint`. -/
def authLength (methods : UInt8) : ℕ :=
  if methods.toNat < 128 then methods.toNat + 2 else (2 ^ 32 - 256 + methods.toNat + 2) % 2 ^ 32

/-- The authorization request of a client. -/
def authRequest (buffer : Bytes) : Verdict :=
  if buffer.length < 2 then .wait
  else if byteAt buffer 0 ≠ 5 then .refused
  else
    let authLen := authLength (byteAt buffer 1)
    if buffer.length < authLen then .wait
    else if (buffer.take authLen).drop 2 |>.any fun b => b = 0 then .accepted authLen
    else .refused

/-- The CONNECT command of a client, but for its domain. -/
def connectCommand (buffer : Bytes) : Verdict :=
  if buffer.length < minLength then .wait
  else
    complete (byteAt buffer 4 + 1)
      (byteAt buffer 0 = 5 && byteAt buffer 1 = 1 && byteAt buffer 2 = 0 && byteAt buffer 3 = 3)
      buffer

section

-- `sha1_hex`
variable (sha1Hex : Bytes → Bytes)

/-- `compute_domain` -/
def computeDomain (sid initiator target : Bytes) : Bytes := sha1Hex (sid ++ initiator ++ target)

/-- The domain for a stream that the peer has initiated, or that we have. -/
def domain (initiatedByPeer : Bool) (s : State) : Bytes :=
  if initiatedByPeer then computeDomain sha1Hex s.streamId s.peerJid s.selfFullJid
  else computeDomain sha1Hex s.streamId s.selfFullJid s.peerJid

/-- `check_domain` on the domain of a message: its length is the byte before it. -/
def checkDomain (buffer expected : Bytes) : Bool :=
  byteAt buffer 4 = 40 && (buffer.drop 5).take 40 = expected

/-- A CONNECT command, and the reply to it. -/
def connectMessage (code : UInt8) (domain : Bytes) : Bytes :=
  [5, code, 0, 3, 40] ++ domain ++ [0, 0]

/-! ## Receiving -/

/-- `target_got_connect_reply` -/
def targetGotConnectReply (s : State) : State :=
  let s := setState .opened { s with socks5State := .connected }
  match s.streamhosts with
  | [] => abort s
  | h :: _ =>
    let s := emit (.streamhostUsed s.msgForAcknowledgeConnection h.jid) s
    if s.readBlocked then blockReceiving true s else s

/-- `initiator_got_connect_reply` -/
def initiatorGotConnectReply (s : State) : State :=
  let s := blockReceiving true { s with socks5State := .initiatorActivationSent }
  emit (.activate s.proxyJid s.peerJid) { s with activationsPending := s.activationsPending + 1 }

/-- The CONNECT command that follows the reply to our authorization request. -/
def sendConnectCommand (s : State) : State :=
  let s := (writeToTransport
    (connectMessage 1 (domain sha1Hex (s.socks5State = .targetAuthRequestSent) s)) s).1
  startTimer
    { s with socks5State :=
        if s.socks5State = .targetAuthRequestSent then .targetConnectRequested
        else .initiatorConnectRequested }

/-- The reply to a CONNECT command with the right domain. -/
def sendConnectReply (s : State) : State :=
  let s := (writeToTransport (connectMessage 0 (domain sha1Hex false s)) s).1
  let s := blockReceiving true { s with socks5State := .connected }
  if s.listener then { s with listener := false, listening := false } else abort s

/-- Hand data to the user. -/
def deliver (data : Bytes) (s : State) : State := { s with out := s.out ++ data.map .dataReceived }

/-- What a verdict leads to; `-1` when the message was refused. -/
def follow (v : Verdict) (s : State) (accept : ℕ → State × ℤ) : State × ℤ :=
  match v with
  | .wait => (s, 0)
  | .refused => (socks5Error s, -1)
  | .accepted used => accept used

/-- `socks5_handle_received_data`: what was used of the buffer. -/
def handleReceivedData (s : State) (buffer : Bytes) : State × ℤ :=
  match s.socks5State with
  | .targetAuthRequestSent | .initiatorAuthRequestSent =>
    follow (authReply buffer) s fun used => (sendConnectCommand sha1Hex s, used)
  | .targetConnectRequested =>
    -- a wrong domain is ignored
    follow (connectReply buffer) s fun used => (targetGotConnectReply (stopTimer s), used)
  | .initiatorConnectRequested =>
    follow (connectReply buffer) s fun used => (initiatorGotConnectReply (stopTimer s), used)
  | .initiatorAwaitingAuthRequest =>
    follow (authRequest buffer) s fun used =>
      ({ (writeToTransport [5, 0] s).1 with socks5State := .initiatorAwaitingCommand }, used)
  | .initiatorAwaitingCommand =>
    follow (connectCommand buffer) s fun used =>
      if checkDomain buffer (domain sha1Hex false s) then (sendConnectReply sha1Hex s, used)
      else (socks5Error (closeTransport s), -1)
  | .connected => (deliver buffer s, buffer.length)
  | .error => (s, buffer.length)
  | .targetTryingConnect | .initiatorTryingConnect | .initiatorOfferSent
  | .initiatorActivationSent | .invalid => (abort s, buffer.length)

/-- The loop of `transport_handler`.  Every round uses a byte, so that as many rounds
as bytes are enough. -/
def readLoop : ℕ → State → State
  | 0, s => s
  | fuel + 1, s =>
    match s.readBuffer with
    | none => s
    | some buffer =>
      let r := handleReceivedData sha1Hex s buffer
      if r.1.aborted then r.1
      else
        match r.1.readBuffer with
        | none => r.1
        | some buffer =>
          let rest := if r.2 < 0 then [] else buffer.drop r.2.toNat
          let s := { r.1 with readBuffer := some rest }
          if 0 < r.2 && !rest.isEmpty then readLoop fuel s else s

/-- `transport_handler` -/
def transportHandler (data : Bytes) (s : State) : State :=
  match s.readBuffer with
  | none => abort s
  | some buffer =>
    readLoop sha1Hex (buffer ++ data).length { s with readBuffer := some (buffer ++ data) }

end

/-! ## Setting the stream up -/

/-- `transport_connected_cb`, on a transport that is connected. -/
def transportConnectedCb (s : State) : State :=
  let s := stopTimer s
  if s.socks5State = .targetTryingConnect || s.socks5State = .initiatorTryingConnect then
    let s := (writeToTransport [5, 1, 0] s).1
    { s with socks5State :=
        if s.socks5State = .targetTryingConnect then .targetAuthRequestSent
        else .initiatorAuthRequestSent }
  else s

/-- The stream could not be set up. -/
def connectionFailed (s : State) : State := setState .closed (emit .connectionError s)

/-- `socks5_activation_reply_cb` -/
def socks5ActivationReplyCb (success : Bool) (s : State) : State :=
  let s := { s with activationsPending := s.activationsPending - 1 }
  if success && s.socks5State = .initiatorActivationSent then
    blockReceiving false (setState .opened { s with socks5State := .connected })
  else connectionFailed s

/-- `initiator_connected_to_proxy`; `proxies` are those the factory knows. -/
def initiatorConnectedToProxy (proxies : List Streamhost) (s : State) : State :=
  match proxies.find? fun p => some p.jid = s.proxyJid with
  | none => connectionFailed s
  | some p =>
    emit (.transportConnect p.host p.port)
      (setTransport ⟨.connecting, false, true⟩ { s with socks5State := .initiatorTryingConnect })

/-- `socks5_init_reply_cb`: `none` when the query has failed, and otherwise the
`jid` of the `streamhost-used`, if there is one. -/
def socks5InitReplyCb (reply : Option (Option Bytes)) (proxies : List Streamhost) (s : State) :
    State :=
  let s := { s with initsPending := s.initsPending - 1 }
  match reply with
  | some (some jid) =>
    if jid ≠ s.selfFullJid then
      if s.socks5State ≠ .initiatorOfferSent then connectionFailed s
      else initiatorConnectedToProxy proxies { s with proxyJid := some jid }
    else if s.socks5State ≠ .connected then connectionFailed s
    else blockReceiving false (setState .opened s)
  | _ => connectionFailed s

/-- `new_connection_cb` -/
def newConnectionCb (s : State) : State :=
  setTransport ⟨.connected, false, true⟩ { s with socks5State := .initiatorAwaitingAuthRequest }

/-- `send_streamhosts` -/
def sendStreamhosts (ips : List Bytes) (port : ℕ) (proxies : List Streamhost) (s : State) : State :=
  let direct := if port ≠ 0 then ips.map fun ip => ⟨s.selfFullJid, ip, port⟩ else []
  emit (.offer (direct ++ if s.mucContact then [] else proxies))
    { s with socks5State := .initiatorOfferSent, initsPending := s.initsPending + 1 }

/-- `gabble_bytestream_socks5_initiate`: the addresses of the local interfaces, and
the port of the listener if it can listen. -/
def initiate (ips : List Bytes) (port : Option ℕ) (proxies : List Streamhost) (s : State) : State :=
  if s.bytestreamState ≠ .initiating then s
  else if ips.isEmpty then sendStreamhosts [] 0 proxies s
  else if s.listener then abort s
  else
    let s := { s with listener := true, listening := port.isSome }
    match port with
    | none => sendStreamhosts [] 0 proxies s
    | some port => sendStreamhosts ips port proxies s

/-- A `streamhost` node; the port is what `g_ascii_strtoll` makes of it. -/
structure StreamhostNode where
  zeroconf : Bool
  jid : Option Bytes
  host : Option Bytes
  port : Option ℤ
deriving DecidableEq

/-- `gabble_bytestream_socks5_add_streamhost` -/
def addStreamhost (s : State) (node : StreamhostNode) : State :=
  match node.zeroconf, node.jid, node.host, node.port with
  | false, some jid, some host, some port =>
    if port ≤ 0 || port > 65535 then s
    else if jid ≠ s.peerJid && s.mucContact then s
    else { s with streamhosts := s.streamhosts ++ [⟨jid, host, port.toNat⟩] }
  | _, _, _, _ => s

/-- The part of `handle_socks5_query_iq` of the factory that concerns the stream,
with `gabble_bytestream_socks5_connect_to_streamhost`. -/
def queryReceived (iq : ℕ) (nodes : List StreamhostNode) (s : State) : State :=
  socks5Connect { nodes.foldl addStreamhost s with msgForAcknowledgeConnection := some iq }

/-! ## The user -/

/-- `gabble_bytestream_socks5_send` -/
def send (str : Bytes) (s : State) : State × Bool :=
  if s.bytestreamState ≠ .opened then (s, false)
  else
    let r := writeToTransport str s
    if !r.2 then (close none r.1, false)
    else
      match r.1.transport with
      | none => (r.1, false)
      | some t => (if t.bufferEmpty then r.1 else changeWriteBlockedState true r.1, true)

/-- `gabble_bytestream_socks5_accept`; `sent` tells whether the stanza could be
sent. -/
def accept (sent : Bool) (s : State) : State :=
  if s.bytestreamState ≠ .localPending then s
  else if sent then setState .accepted (emit .siAccept s)
  else s

/-- `gabble_bytestream_socks5_block_reading` -/
def blockReading (block : Bool) (s : State) : State :=
  if s.readBlocked = block then s
  else
    let s := { s with readBlocked := block }
    if s.transport.isSome then blockReceiving block s else s

/-- `gabble_bytestream_socks5_dispose` -/
def dispose (s : State) : State :=
  let s := stopTimer { s with disposeHasRun := true }
  let s := if s.bytestreamState ≠ .closed then close none s else s
  { s with transport := none, listener := false, listening := false }

/-! ## Steps -/

/-- What can happen to a bytestream. -/
inductive Event : Type where
  | initiate (ips : List Bytes) (port : Option ℕ) (proxies : List Streamhost) : Event
  | accept (sent : Bool) : Event
  | send (str : Bytes) : Event
  | close (error : Option GError) : Event
  | blockReading (block : Bool) : Event
  | query (iq : ℕ) (nodes : List StreamhostNode) : Event
  | initReply (reply : Option (Option Bytes)) (proxies : List Streamhost) : Event
  | activationReply (success : Bool) : Event
  | newConnection : Event
  | transportConnected : Event
  | transportDisconnected : Event
  | transportBufferEmpty : Event
  | received (data : Bytes) : Event
  | timeout : Event
  | dispose : Event
deriving DecidableEq

/-- `BUFSIZE`: a transport reads no more at once. -/
def bufSize : ℕ := 1024

/-- The transport reads what the peer has sent. -/
def receives (s : State) : Bool :=
  s.transport.any fun t => t.phase = .connected && !t.receivingBlocked

/-- Something a transport reads at once. -/
def isRead (data : Bytes) : Bool := !data.isEmpty && data.length ≤ bufSize

/-- Whether an event can happen now. -/
def enabled (s : State) : Event → Bool
  | .query _ _ => s.registered
  | .initReply _ _ => s.initsPending ≠ 0
  | .activationReply _ => s.activationsPending ≠ 0
  | .newConnection => s.listening
  | .transportConnected => s.transport.any fun t => t.phase = .connecting
  | .transportDisconnected => s.transport.any fun t => t.phase ≠ .disconnected
  | .transportBufferEmpty => s.transport.any fun t => t.phase = .connected && !t.bufferEmpty
  | .received data => receives s && isRead data
  | .timeout => s.timer
  | .initiate _ _ _ | .accept _ | .send _ | .close _ | .blockReading _ | .dispose => true

/-- What the code does when an event happens. -/
def handle (sha1Hex : Bytes → Bytes) (s : State) : Event → State
  | .initiate ips port proxies => initiate ips port proxies s
  | .accept sent => accept sent s
  | .send str => (send str s).1
  | .close error => close error s
  | .blockReading block => blockReading block s
  | .query iq nodes => queryReceived iq nodes s
  | .initReply reply proxies => socks5InitReplyCb reply proxies s
  | .activationReply success => socks5ActivationReplyCb success s
  | .newConnection => newConnectionCb s
  | .transportConnected =>
    transportConnectedCb { s with transport := s.transport.map fun t =>
      { t with phase := .connected } }
  | .transportDisconnected =>
    transportDisconnectedCb { s with transport := s.transport.map fun t =>
      { t with phase := .disconnected, bufferEmpty := true } }
  | .transportBufferEmpty =>
    transportBufferEmptyCb { s with transport := s.transport.map fun t =>
      { t with bufferEmpty := true } }
  | .received data => transportHandler sha1Hex data s
  | .timeout => socks5Error s
  | .dispose => dispose s

/-- One event; nothing happens to a stream that is gone. -/
def step (sha1Hex : Bytes → Bytes) (s : State) (e : Event) : Option State :=
  if s.disposeHasRun || s.aborted || !enabled s e then none else some (handle sha1Hex s e)

end Socks5
