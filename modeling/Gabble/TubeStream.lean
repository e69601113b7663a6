/-
# Stream tubes (`src/tube-stream.c`)

A stream tube forwards connections of local applications.  Each connection has a
transport, which is its local socket, and a bytestream to the other side.  The side that
accepted the tube gets local connections and asks for a bytestream with a stream
initiation; the side that offered it gets bytestreams and connects to the local socket.

Transports and bytestreams are numbered in the order in which the tube gets them.  What
the libraries do between two pieces of the tube's code is an event, also when it happens
inside of a call: the calls after which a callback goes on are kept as frames.  Calls of a
bytestream's methods are in the log with the D-Bus signals.
-/
import Mathlib.Algebra.Group.Nat.Defs
import Mathlib.Data.List.AList
import Mathlib.Logic.Function.Basic
import Gabble.BytestreamIbb
import Gabble.InverseTables
import Gabble.Transition

namespace TubeStream

open CInt (guintSize)
open Ibb (BytestreamState)

abbrev Handle := ℕ

/-- A pointer to a `GibberTransport`. -/
abbrev Transport := ℕ

/-- A pointer to a `GabbleBytestreamIface`. -/
abbrev Bytestream := ℕ

/-- A `guint`. -/
abbrev ConnectionId := ℕ

/-! ## Data -/

/-- `GibberTransportState`. -/
inductive TransportState : Type where
  | disconnected : TransportState
  | connecting : TransportState
  | connected : TransportState
  | disconnecting : TransportState
  deriving DecidableEq

/-- `TpTubeChannelState`. -/
inductive TubeState : Type where
  | localPending : TubeState
  | remotePending : TubeState
  | opened : TubeState
  deriving DecidableEq

/-- The handle types a tube can have. -/
inductive HandleType : Type where
  | contact : HandleType
  | room : HandleType
  deriving DecidableEq

/-- `TpSocketAddressType`. -/
inductive AddressType : Type where
  | unix : AddressType
  | ipv4 : AddressType
  | ipv6 : AddressType
  deriving DecidableEq

/-- `TpSocketAccessControl` with the parameter given to `Accept`. -/
inductive AccessControl : Type where
  | localhost : AccessControl
  | port (host : String) (port : ℕ) : AccessControl
  | credentials : AccessControl
  deriving DecidableEq

/-- The access control parameter of `NewRemoteConnection`. -/
inductive AccessParam : Type where
  | dummy : AccessParam
  | port (host : String) (port : ℕ) : AccessParam
  | credentials (byte : UInt8) : AccessParam
  deriving DecidableEq

/-- The errors of `ConnectionClosed`. -/
inductive CloseError : Type where
  | cancelled : CloseError
  | connectionLost : CloseError
  | connectionRefused : CloseError
  deriving DecidableEq

/-- What is said on D-Bus, sent to the other side, or asked of a bytestream. -/
inductive Action : Type where
  | newLocalConnection (id : ConnectionId) : Action
  | newRemoteConnection (contact : Handle) (param : AccessParam) (id : ConnectionId) : Action
  | connectionClosed (id : ConnectionId) (error : CloseError) (debugMsg : String) : Action
  | tubeChannelStateChanged (state : TubeState) : Action
  | streamInit (fullJid : String) (child : String) (tube : ℕ) : Action
  | closeMessage : Action
  | bytestreamAccept (bytestream : Bytestream) : Action
  | bytestreamClose (bytestream : Bytestream) : Action
  | bytestreamSend (bytestream : Bytestream) (data : List UInt8) : Action
  | transportSend (transport : Transport) (data : List UInt8) : Action
deriving DecidableEq

/-- The assertions. -/
inductive Fault : Type where
  /-- No bytestream in `transport_buffer_empty_cb`. -/
  | bufferEmptyLookup : Fault
  /-- No transport in `bytestream_write_blocked_cb`. -/
  | writeBlockedLookup : Fault
  /-- No transport in `extra_bytestream_state_changed_cb`. -/
  | openLookup : Fault
  /-- No transport in `data_received_cb`. -/
  | dataReceivedLookup : Fault
  /-- `gibber_transport_set_handler` while there is a handler. -/
  | handlerSet : Fault
  /-- `gibber_transport_send` on a transport that is not connected. -/
  | sendNotConnected : Fault
  /-- The transport is not connected in `extra_bytestream_negotiate_cb`. -/
  | negotiateNotConnected : Fault
  /-- No connection id in `fire_new_remote_connection`. -/
  | connectionIdZero : Fault
  /-- `gibber_unix_transport_connect` fails and was given no place for the error. -/
  | connectError : Fault
  deriving DecidableEq

/-- The assertions that a table has an entry. -/
def Fault.lookup : Fault → Bool
  | .bufferEmptyLookup | .writeBlockedLookup | .openLookup | .dataReceivedLookup => true
  | .handlerSet | .sendNotConnected | .negotiateNotConnected | .connectionIdZero
  | .connectError => false

/-- A `GibberTransport`, and which of the tube's callbacks are connected to it. -/
structure TransportInfo where
  state : TransportState
  bufferEmpty : Bool
  receivingBlocked : Bool
  /-- `transport_handler` is set. -/
  handler : Bool
  /-- `transport_disconnected_cb` and `transport_buffer_empty_cb` are connected. -/
  signals : Bool
  /-- `transport_connected_cb` is connected, with the contact of its data. -/
  connectedFor : Option Handle
  deriving DecidableEq

/-- A `GabbleBytestreamIface`, and which of the tube's callbacks are connected to it. -/
structure BytestreamInfo where
  state : BytestreamState
  readingBlocked : Bool
  /-- `extra_bytestream_state_changed_cb` is connected. -/
  stateChanged : Bool
  /-- `data_received_cb` and `bytestream_write_blocked_cb` are connected. -/
  dataReceived : Bool
  deriving DecidableEq

/-- A transport nothing is known of. -/
def TransportInfo.new (state : TransportState) : TransportInfo :=
  ⟨state, true, false, false, false, none⟩

/-- A bytestream nobody listens to. -/
def BytestreamInfo.new (state : BytestreamState) : BytestreamInfo := ⟨state, false, false, false⟩

/-- A call after which a callback goes on. -/
inductive Frame : Type where
  /-- `gibber_transport_send` in `data_received_cb`. -/
  | send (bytestream : Bytestream) (transport : Transport) : Frame
  /-- `fire_new_remote_connection` in `transport_connected_cb`. -/
  | connected (transport : Transport) : Frame
  deriving DecidableEq

/-- The properties of the tube and of its channel. -/
structure Config where
  id : ℕ
  /-- The tube was offered by the local user. -/
  requested : Bool
  targetHandleType : HandleType
  addressType : AddressType
  accessControl : AccessControl
  /-- The JID of the initiator. -/
  initiator : String
  uid : ℕ

/-- `GabbleTubeStreamPrivate`, with the objects it knows. -/
structure State where
  config : Config
  tubeState : TubeState
  bytestreamToTransport : AList fun _ : Bytestream => Transport
  transportToBytestream : AList fun _ : Transport => Bytestream
  transportToId : AList fun _ : Transport => ConnectionId
  lastConnectionId : ℕ
  transport : Transport → TransportInfo
  nextTransport : Transport
  bytestream : Bytestream → BytestreamInfo
  nextBytestream : Bytestream
  /-- The transports whose stream initiation waits for its answer. -/
  negotiations : List Transport
  /-- The transports that wait for credentials. -/
  awaitingCredentials : List Transport
  frames : List Frame
  /-- The tube has been closed, and its last reference is dropped. -/
  closed : Bool
  log : List Action
  fault : Option Fault

/-- `gabble_tube_stream_new`; the tube of the local user has been offered. -/
def State.new (config : Config) : State where
  config := config
  tubeState := if config.requested then .remotePending else .localPending
  bytestreamToTransport := ∅
  transportToBytestream := ∅
  transportToId := ∅
  lastConnectionId := 0
  transport := fun _ => .new .disconnected
  nextTransport := 0
  bytestream := fun _ => .new .closed
  nextBytestream := 0
  negotiations := []
  awaitingCredentials := []
  frames := []
  closed := false
  log := []
  fault := none

namespace State

def record (s : State) (a : Action) : State := { s with log := s.log ++ [a] }

def fail (s : State) (f : Fault) : State := { s with fault := some f }

def setTransport (s : State) (t : Transport) (info : TransportInfo) : State :=
  { s with transport := Function.update s.transport t info }

def setBytestream (s : State) (b : Bytestream) (info : BytestreamInfo) : State :=
  { s with bytestream := Function.update s.bytestream b info }

/-- A new transport, which is `s.nextTransport`. -/
def newTransport (s : State) (state : TransportState) : State :=
  { s.setTransport s.nextTransport (.new state) with nextTransport := s.nextTransport + 1 }

/-- A new bytestream, which is `s.nextBytestream`. -/
def newBytestream (s : State) (state : BytestreamState) : State :=
  { s.setBytestream s.nextBytestream (.new state) with nextBytestream := s.nextBytestream + 1 }

@[simp] theorem setTransport_self (s : State) (t : Transport) (info : TransportInfo) :
    (s.setTransport t info).transport t = info := Function.update_self ..

theorem setTransport_of_ne (s : State) {t t' : Transport} (info : TransportInfo) (h : t' ≠ t) :
    (s.setTransport t info).transport t' = s.transport t' := Function.update_of_ne h ..

@[simp] theorem setBytestream_self (s : State) (b : Bytestream) (info : BytestreamInfo) :
    (s.setBytestream b info).bytestream b = info := Function.update_self ..

theorem setBytestream_of_ne (s : State) {b b' : Bytestream} (info : BytestreamInfo)
    (h : b' ≠ b) : (s.setBytestream b info).bytestream b' = s.bytestream b' :=
  Function.update_of_ne h ..

/-- `gabble_bytestream_iface_block_reading`. -/
def blockReading (s : State) (b : Bytestream) (block : Bool) : State :=
  s.setBytestream b { s.bytestream b with readingBlocked := block }

/-- `gibber_transport_block_receiving`. -/
def blockReceiving (s : State) (t : Transport) (block : Bool) : State :=
  s.setTransport t { s.transport t with receivingBlocked := block }

/-! ## The end of a connection -/

/-- `fire_connection_closed`. -/
def fireConnectionClosed (s : State) (t : Transport) (error : CloseError) (debugMsg : String) :
    State :=
  let connectionId := (s.transportToId.lookup t).getD 0
  if connectionId = 0 then s
  else
    { s with transportToId := s.transportToId.erase t }.record
      (.connectionClosed connectionId error debugMsg)

/-- `transport_disconnected_cb`. -/
def transportDisconnectedCb (s : State) (t : Transport) : State :=
  let s := s.fireConnectionClosed t .cancelled "local socket has been disconnected"
  match s.transportToBytestream.lookup t with
  | none => s
  | some b => s.record (.bytestreamClose b)

/-- The transport is disconnected: its buffer is freed and "disconnected" is emitted. -/
def disconnected (s : State) (t : Transport) : State :=
  let info := s.transport t
  let s := s.setTransport t { info with state := .disconnected, bufferEmpty := true }
  if info.signals then s.transportDisconnectedCb t else s

/-- `gibber_transport_disconnect`. -/
def transportDisconnect (s : State) (t : Transport) : State :=
  if (s.transport t).state = .disconnected then s else s.disconnected t

/-- `g_signal_handlers_disconnect_matched` for all that the tube connected to a transport. -/
def forgetTransport (s : State) (t : Transport) : State :=
  s.setTransport t { s.transport t with signals := false, connectedFor := none }

/-- `remove_transport`. -/
def removeTransport (s : State) (b : Bytestream) (t : Transport) : State :=
  let s := s.forgetTransport t
  let s := s.transportDisconnect t
  let s := s.fireConnectionClosed t .connectionLost "bytestream has been broken"
  { s with
    transportToBytestream := s.transportToBytestream.erase t
    bytestreamToTransport := s.bytestreamToTransport.erase b
    transportToId := s.transportToId.erase t }

/-- `transport_buffer_empty_cb`. -/
def transportBufferEmptyCb (s : State) (t : Transport) : State :=
  match s.transportToBytestream.lookup t with
  | none => s.fail .bufferEmptyLookup
  | some b =>
    if (s.bytestream b).state = .closed then s.removeTransport b t
    else s.blockReading b false

/-! ## The bytestreams -/

/-- `add_transport`. -/
def addTransport (s : State) (t : Transport) : State :=
  if (s.transport t).handler then s.fail .handlerSet
  else
    (s.setTransport t { s.transport t with handler := true, signals := true }).blockReceiving t
      false

/-- `bytestream_write_blocked_cb`. -/
def bytestreamWriteBlockedCb (s : State) (b : Bytestream) (blocked : Bool) : State :=
  match s.bytestreamToTransport.lookup b with
  | none => s.fail .writeBlockedLookup
  | some t => s.blockReceiving t blocked

/-- `extra_bytestream_state_changed_cb`. -/
def extraBytestreamStateChangedCb (s : State) (b : Bytestream) (state : BytestreamState) : State :=
  match state with
  | .opened =>
    let s := s.setBytestream b { s.bytestream b with dataReceived := true }
    match s.bytestreamToTransport.lookup b with
    | none => s.fail .openLookup
    | some t => s.addTransport t
  | .closed =>
    match s.bytestreamToTransport.lookup b with
    | none => s
    | some t => if (s.transport t).bufferEmpty then s.removeTransport b t else s
  | .localPending | .accepted | .initiating | .closing => s

/-- The first half of `data_received_cb`, with the call of `gibber_transport_send`. -/
def dataReceivedCb (s : State) (b : Bytestream) (data : List UInt8) : State :=
  match s.bytestreamToTransport.lookup b with
  | none => s.fail .dataReceivedLookup
  | some t =>
    if (s.transport t).state ≠ .connected then s.fail .sendNotConnected
    else { s.record (.transportSend t data) with frames := .send b t :: s.frames }

/-- What `gibber_transport_send` returns, and whether a part of the data is buffered. -/
inductive SendResult : Type where
  | failed : SendResult
  | sent (buffered : Bool) : SendResult
  deriving DecidableEq

/-- The second half of `data_received_cb`. -/
def dataSent (s : State) (b : Bytestream) (t : Transport) : SendResult → State
  | .failed => s
  | .sent buffered =>
    let info := s.transport t
    let s := s.setTransport t { info with
      bufferEmpty := info.bufferEmpty && !(buffered && info.state = .connected) }
    if (s.transport t).bufferEmpty then s else s.blockReading b true

/-- `transport_handler`. -/
def transportHandler (s : State) (t : Transport) (data : List UInt8) : State :=
  match s.transportToBytestream.lookup t with
  | none => s
  | some b => s.record (.bytestreamSend b data)

/-- Insert a pair in both tables, and listen to the bytestream. -/
def insertPair (s : State) (b : Bytestream) (t : Transport) : State :=
  { s with
    bytestreamToTransport := s.bytestreamToTransport.insert b t
    transportToBytestream := s.transportToBytestream.insert t b }.setBytestream b
      { s.bytestream b with stateChanged := true }

@[simp] theorem insertPair_bytestreamToTransport (s : State) (b : Bytestream) (t : Transport) :
    (s.insertPair b t).bytestreamToTransport = s.bytestreamToTransport.insert b t := rfl

@[simp] theorem insertPair_transportToBytestream (s : State) (b : Bytestream) (t : Transport) :
    (s.insertPair b t).transportToBytestream = s.transportToBytestream.insert t b := rfl

/-- `generate_connection_id`. -/
def generateConnectionId (s : State) (t : Transport) : State :=
  let lastConnectionId := (s.lastConnectionId + 1) % guintSize
  { s with
    lastConnectionId := lastConnectionId
    transportToId := s.transportToId.insert t lastConnectionId }

/-! ## Local connections -/

/-- `extra_bytestream_negotiate_cb`. -/
def extraBytestreamNegotiateCb (s : State) (t : Transport) : Option Bytestream → State
  | none => s.fireConnectionClosed t .connectionRefused "connection has been refused"
  | some b =>
    if (s.transport t).state ≠ .connected then s.fail .negotiateNotConnected
    else s.insertPair b t

/-- `start_stream_initiation`, with whether it worked.  `presence` is that of the initiator,
with the resource that has the tubes capability. -/
def startStreamInitiation (s : State) (t : Transport) (presence : Option (Option String)) :
    State × Bool :=
  let negotiate (fullJid child : String) : State :=
    { s with negotiations := s.negotiations ++ [t] }.record
      (.streamInit fullJid child s.config.id)
  match s.config.targetHandleType with
  | .room => (negotiate s.config.initiator "muc-stream", true)
  | .contact =>
    match presence with
    | none | some none => (s, false)
    | some (some resource) => (negotiate (s.config.initiator ++ "/" ++ resource) "stream", true)

/-- `fire_new_local_connection`. -/
def fireNewLocalConnection (s : State) (t : Transport) : State :=
  let s := s.generateConnectionId t
  s.record (.newLocalConnection s.lastConnectionId)

/-- Start the stream initiation, and announce the connection if that worked. -/
def initiateLocal (s : State) (t : Transport) (presence : Option (Option String)) : State :=
  let (s, ok) := s.startStreamInitiation t presence
  if ok then s.fireNewLocalConnection t else s

/-- What `credentials_received_cb` is called with. -/
inductive Credentials : Type where
  | error : Credentials
  | received (length : ℕ) (uid : ℕ) : Credentials
  deriving DecidableEq

/-- `credentials_received_cb`. -/
def credentialsReceivedCb (s : State) (t : Transport) (credentials : Credentials)
    (presence : Option (Option String)) : State :=
  let s := s.blockReceiving t true
  match credentials with
  | .error => s
  | .received length uid =>
    if length ≠ 1 then s
    else if uid ≠ s.config.uid then s
    else s.initiateLocal t presence

/-- What the system says about a new local connection: whether credentials can be received,
and the address of the peer. -/
structure Incoming where
  recvCredentials : Bool
  peer : Option (String × ℕ)
  deriving DecidableEq

/-- `check_incoming_connection`, with what it returns. -/
def checkIncomingConnection (s : State) (t : Transport) (incoming : Incoming) : State × Bool :=
  match s.config.accessControl with
  | .localhost => (s, true)
  | .credentials =>
    if incoming.recvCredentials then
      ({ s.blockReceiving t false with awaitingCredentials := s.awaitingCredentials ++ [t] },
        false)
    else (s, false)
  | .port host port => (s, incoming.peer = some (host, port))

/-- `local_new_connection_cb`, for a new transport. -/
def localNewConnectionCb (s : State) (incoming : Incoming) (presence : Option (Option String)) :
    State :=
  let t := s.nextTransport
  let s := (s.newTransport .connected).blockReceiving t true
  let (s, ok) := s.checkIncomingConnection t incoming
  if ok then s.initiateLocal t presence else s

/-! ## Remote connections -/

/-- `fire_new_remote_connection`.  `param` is what `set_credentials_access_control_param`
or `set_port_access_control_param` come up with. -/
def fireNewRemoteConnection (s : State) (t : Transport) (contact : Handle)
    (param : Option AccessParam) : State :=
  let emit (param : AccessParam) : State :=
    let connectionId := (s.transportToId.lookup t).getD 0
    if connectionId = 0 then s.fail .connectionIdZero
    else s.record (.newRemoteConnection contact param connectionId)
  match s.config.accessControl with
  | .localhost => emit .dummy
  | .credentials | .port _ _ =>
    match param with
    | none => s.transportDisconnect t
    | some param => emit param

/-- `transport_connected_cb` up to the lookup. -/
def transportConnectedCb (s : State) (t : Transport) (contact : Handle)
    (param : Option AccessParam) : State :=
  let s := s.fireNewRemoteConnection t contact param
  { s with frames := .connected t :: s.frames }

/-- The rest of `transport_connected_cb`. -/
def remoteConnectionFired (s : State) (t : Transport) : State :=
  match s.transportToBytestream.lookup t with
  | none => s
  | some b => s.blockReading b false

/-- `new_connection_to_socket`: the transport is new, and `outcome` is its state after the
attempt to connect. -/
def newConnectionToSocket (s : State) (b : Bytestream) (outcome : TransportState) : State :=
  let t := s.nextTransport
  if s.config.addressType = .unix ∧ outcome ≠ .connected then s.fail .connectError
  else
    let s := (s.newTransport outcome).blockReceiving t true
    let s := s.generateConnectionId t
    let s := s.blockReading b true
    s.insertPair b t

/-- The first bytestream opens the tube. -/
def openTube (s : State) : State :=
  if s.tubeState = .remotePending then
    { s with tubeState := .opened }.record (.tubeChannelStateChanged .opened)
  else s

/-- `gabble_bytestream_iface_accept`; the stanza may not go out. -/
def bytestreamAccept (s : State) (b : Bytestream) (sent : Bool) : State :=
  let s := s.record (.bytestreamAccept b)
  if sent then s.setBytestream b { s.bytestream b with state := .accepted } else s

/-- The end of `gabble_tube_stream_add_bytestream`: announce the connection, now or when
the transport is connected. -/
def announceRemote (s : State) (b : Bytestream) (t : Transport) (contact : Handle)
    (param : Option AccessParam) : State :=
  if (s.transport t).state = .connected then
    (s.blockReading b false).fireNewRemoteConnection t contact param
  else s.setTransport t { s.transport t with connectedFor := some contact }

/-- `gabble_tube_stream_add_bytestream`, for a new bytestream. -/
def addBytestream (s : State) (contact : Handle) (outcome : TransportState) (sent : Bool)
    (param : Option AccessParam) : State :=
  let b := s.nextBytestream
  let t := s.nextTransport
  let s := s.newBytestream .localPending
  if !s.config.requested then s.record (.bytestreamClose b)
  else
    let s := s.newConnectionToSocket b outcome
    if s.fault.isSome then s
    else ((s.openTube).bytestreamAccept b sent).announceRemote b t contact param

/-! ## Closing the tube -/

/-- `close_each_extra_bytestream`. -/
def closeEachExtraBytestream (s : State) (b : Bytestream) (t : Transport) : State :=
  let s := s.setBytestream b { s.bytestream b with stateChanged := false, dataReceived := false }
  let s := s.forgetTransport t
  let s := s.record (.bytestreamClose b)
  let s := s.transportDisconnect t
  let s := s.fireConnectionClosed t .cancelled "tube is closing"
  { s with transportToBytestream := s.transportToBytestream.erase t }

/-- One round of `g_hash_table_foreach_remove`. -/
def removeEntry (s : State) (entry : Σ _ : Bytestream, Transport) : State :=
  let s := s.closeEachExtraBytestream entry.1 entry.2
  { s with bytestreamToTransport := s.bytestreamToTransport.erase entry.1 }

/-- `gabble_tube_iface_stream_close`. -/
def streamClose (s : State) (closedRemotely : Bool) : State :=
  let s := s.bytestreamToTransport.entries.foldl removeEntry s
  let s := if !closedRemotely && s.config.targetHandleType = .contact then s.record .closeMessage
    else s
  { s with closed := true }

/-- `gabble_tube_stream_accept`; `listening` says whether `tube_stream_open` works. -/
def accept (s : State) (listening : Bool) : State :=
  if s.tubeState ≠ .localPending then s
  else if listening then
    { s with tubeState := .opened }.record (.tubeChannelStateChanged .opened)
  else s.streamClose true

end State

/-! ## Runs -/

/-- What can happen next. -/
inductive Event : Type where
  | accept (listening : Bool) : Event
  | localConnection (incoming : State.Incoming) (presence : Option (Option String)) : Event
  | credentials (t : Transport) (credentials : State.Credentials)
      (presence : Option (Option String)) : Event
  | siReply (t : Transport) (accepted : Option BytestreamState) : Event
  | addBytestream (contact : Handle) (outcome : TransportState) (sent : Bool)
      (param : Option AccessParam) : Event
  | stateChanged (b : Bytestream) (state : BytestreamState) : Event
  | writeBlocked (b : Bytestream) (blocked : Bool) : Event
  | dataReceived (b : Bytestream) (data : List UInt8) : Event
  | transportData (t : Transport) (data : List UInt8) : Event
  | connected (t : Transport) (param : Option AccessParam) : Event
  | disconnected (t : Transport) : Event
  | bufferEmpty (t : Transport) : Event
  | resume (result : State.SendResult) : Event
  | close (closedRemotely : Bool) : Event
deriving DecidableEq

/-- What only the main loop does, and no library from within a call. -/
def Event.fromMainLoop : Event → Bool
  | .accept _ | .localConnection .. | .credentials .. | .siReply .. | .addBytestream ..
  | .close _ => true
  | .stateChanged .. | .writeBlocked .. | .dataReceived .. | .transportData .. | .connected ..
  | .disconnected _ | .bufferEmpty _ | .resume _ => false

/-- The effect of an event, `none` when it cannot happen.  A bytestream that is closed says
nothing any more. -/
def operation (s : State) : Event → Option State
  | .accept listening => if s.config.requested then none else some (s.accept listening)
  | .localConnection incoming presence =>
    if s.config.requested ∨ s.tubeState ≠ .opened then none
    else some (s.localNewConnectionCb incoming presence)
  | .credentials t credentials presence =>
    if t ∈ s.awaitingCredentials then
      some ({ s with awaitingCredentials := s.awaitingCredentials.erase t }.credentialsReceivedCb
        t credentials presence)
    else none
  | .siReply t accepted =>
    if t ∈ s.negotiations then
      let s := { s with negotiations := s.negotiations.erase t }
      match accepted with
      | none => some (s.extraBytestreamNegotiateCb t none)
      | some state =>
        some ((s.newBytestream state).extraBytestreamNegotiateCb t (some s.nextBytestream))
    else none
  | .addBytestream contact outcome sent param => some (s.addBytestream contact outcome sent param)
  | .stateChanged b state =>
    let info := s.bytestream b
    if info.state = .closed ∨ info.state = state then none
    else
      let s := s.setBytestream b { info with state := state }
      some (if info.stateChanged then s.extraBytestreamStateChangedCb b state else s)
  | .writeBlocked b blocked =>
    if (s.bytestream b).state = .closed then none
    else some (if (s.bytestream b).dataReceived then s.bytestreamWriteBlockedCb b blocked else s)
  | .dataReceived b data =>
    if (s.bytestream b).state = .closed then none
    else some (if (s.bytestream b).dataReceived then s.dataReceivedCb b data else s)
  | .transportData t data =>
    let info := s.transport t
    if info.state ≠ .connected ∨ info.receivingBlocked then none
    else some (if info.handler then s.transportHandler t data else s)
  | .connected t param =>
    let info := s.transport t
    if info.state ≠ .connecting then none
    else
      let s := s.setTransport t { info with state := .connected }
      match info.connectedFor with
      | none => some s
      | some contact => some (s.transportConnectedCb t contact param)
  | .disconnected t =>
    if (s.transport t).state = .disconnected then none else some (s.disconnected t)
  | .bufferEmpty t =>
    let info := s.transport t
    if info.state ≠ .connected then none
    else
      let s := s.setTransport t { info with bufferEmpty := true }
      some (if info.signals then s.transportBufferEmptyCb t else s)
  | .resume result =>
    match s.frames with
    | [] => none
    | .send b t :: frames => some ({ s with frames := frames }.dataSent b t result)
    | .connected t :: frames => some ({ s with frames := frames }.remoteConnectionFired t)
  | .close closedRemotely => some (s.streamClose closedRemotely)

/-- One step. -/
def step (s : State) (e : Event) : Option State :=
  if s.fault.isSome ∨ s.closed ∨ (e.fromMainLoop ∧ s.frames ≠ []) then none else operation s e

end TubeStream
