/-
# File transfer channels

The model of `ft-channel.c`.  A channel moves bytes between a local socket and
a peer, over a bytestream or over a collection of files shared through GTalk.
Three machines call it back, each in its own time: the bytestream or the
collection, the local socket, and the user.

A callback is a function on `State`; what the channel signals, answers or asks
of the others is appended to `out`.  A callback that comes while the channel is
calling another object is an event of its own that comes next, but for those of
`close_session_and_transport` and of the local socket, which the functions run
where the code runs them.
-/
import Gabble.BytestreamIbb
import Gabble.Transition

namespace FtChannel

open Base64
open Ibb (BytestreamState)

/-! ## Data -/

/-- `TpFileTransferState` -/
inductive FileTransferState : Type where
  | pending : FileTransferState
  | accepted : FileTransferState
  | opened : FileTransferState
  | completed : FileTransferState
  | cancelled : FileTransferState
deriving DecidableEq

/-- The states above `TP_FILE_TRANSFER_STATE_OPEN`. -/
def FileTransferState.ended : FileTransferState → Bool
  | .completed | .cancelled => true
  | _ => false

/-- `TpFileTransferStateChangeReason` -/
inductive StateChangeReason : Type where
  | none : StateChangeReason
  | requested : StateChangeReason
  | localStopped : StateChangeReason
  | remoteStopped : StateChangeReason
  | localError : StateChangeReason
  | remoteError : StateChangeReason
deriving DecidableEq

/-- `GTalkFileCollectionState` -/
inductive GTalkFileCollectionState : Type where
  | pending : GTalkFileCollectionState
  | accepted : GTalkFileCollectionState
  | opened : GTalkFileCollectionState
  | terminated : GTalkFileCollectionState
  | error : GTalkFileCollectionState
  | connectionFailed : GTalkFileCollectionState
  | completed : GTalkFileCollectionState
deriving DecidableEq

/-- The `TpError` codes the channel answers with. -/
inductive TpError : Type where
  | notAvailable : TpError
  | notImplemented : TpError
  | offline : TpError
  | notCapable : TpError
deriving DecidableEq

/-- An error with its text. -/
structure GError where
  code : TpError
  message : String
deriving DecidableEq

/-- `GTimeVal` -/
structure GTimeVal where
  sec : ℤ
  usec : ℤ
deriving DecidableEq

/-- What the channel signals, answers or asks of the objects around it. -/
inductive Effect : Type where
  | stateChanged (state : FileTransferState) (reason : StateChangeReason) : Effect
  | initialOffsetDefined (offset : UInt64) : Effect
  | transferredBytesChanged (count : UInt64) : Effect
  | returned : Effect
  | failed (error : GError) : Effect
  | destroyed : Effect
  | negotiateStream : Effect
  | bytestreamAccept (offset : UInt64) : Effect
  | bytestreamBlockReading (block : Bool) : Effect
  | bytestreamSend (data : Bytes) : Effect
  | bytestreamClose : Effect
  | collectionInitiate : Effect
  | collectionAccept : Effect
  | collectionBlockReading (block : Bool) : Effect
  | collectionSendData (data : Bytes) : Effect
  | collectionCompleted : Effect
  | collectionTerminate : Effect
  | transportSend (data : Bytes) : Effect
  | transportBlockReceiving (block : Bool) : Effect
  | transportDisconnect : Effect
deriving DecidableEq

/-- The `GibberTransport` of the client that is connected to the local socket. -/
structure Transport where
  connected : Bool
  bufferEmpty : Bool
  receivingBlocked : Bool
  handlerSet : Bool
deriving DecidableEq

/-- `GabbleFileTransferChannelPrivate`, what is connected to the channel, and
`out`. -/
structure State where
  requested : Bool
  state : FileTransferState
  filename : String
  size : UInt64
  transferredBytes : UInt64
  initialOffset : UInt64
  resumeSupported : Bool
  /-- `service_name` or `metadata` is set -/
  metadata : Bool
  /-- `socket_address` is set -/
  socketAddress : Bool
  channelOpened : Bool
  /-- `bytestream` is set -/
  bytestream : Bool
  /-- `gtalk_file_collection` is set -/
  gtalkFileCollection : Bool
  /-- `listener` is set and listens -/
  listener : Bool
  transport : Option Transport
  progressTimer : Bool
  lastTransferredBytesEmitted : GTimeVal
  disposeHasRun : Bool
  /-- the file has been offered to the peer -/
  offered : Bool
  /-- the stream negotiation has not been answered yet -/
  negotiating : Bool
  /-- the signals of a bytestream are connected; they stay so when the channel
  lets go of the bytestream -/
  bytestreamSignals : Bool
  dataReceivedSignal : Bool
  /-- the connected transports of earlier clients -/
  oldTransports : ℕ
  /-- an assertion has failed -/
  aborted : Bool
  out : List Effect
deriving DecidableEq

/-- Who made the channel: a local request, a stream the peer initiates, or a
session of files the peer shares. -/
inductive Origin : Type where
  | request : Origin
  | stream : Origin
  | share : Origin
deriving DecidableEq

/-- `gabble_file_transfer_channel_new`.  Setting the `state` property is a state
change like the others. -/
def new (origin : Origin) (filename : String) (size initialOffset : UInt64)
    (resumeSupported metadata : Bool) : State where
  requested := origin = .request
  state := .pending
  filename := filename
  size := size
  transferredBytes := 0
  initialOffset := initialOffset
  resumeSupported := resumeSupported
  metadata := metadata
  socketAddress := false
  channelOpened := false
  bytestream := origin = .stream
  gtalkFileCollection := origin = .share
  listener := false
  transport := none
  progressTimer := false
  lastTransferredBytesEmitted := ⟨0, 0⟩
  disposeHasRun := false
  offered := false
  negotiating := false
  bytestreamSignals := origin = .stream
  dataReceivedSignal := false
  oldTransports := 0
  aborted := false
  out := [.stateChanged .pending .none]

/-! ## Small steps -/

def emit (e : Effect) (s : State) : State := { s with out := s.out ++ [e] }

/-- A failed assertion. -/
def abort (s : State) : State := { s with aborted := true }

/-- `gabble_file_transfer_channel_set_state` -/
def setState (state : FileTransferState) (reason : StateChangeReason) (s : State) : State :=
  if s.state = state then s
  else { s with state := state, out := s.out ++ [.stateChanged state reason] }

/-- The change to `CANCELLED` of the callbacks that check first whether the
transfer has ended. -/
def cancelUnlessEnded (reason : StateChangeReason) (s : State) : State :=
  if s.state.ended then s else setState .cancelled reason s

/-- Bytes are still missing: `transferred_bytes + initial_offset < size`, in
64 bits. -/
def short (s : State) : Bool := s.transferredBytes + s.initialOffset < s.size

/-- `gibber_transport_block_receiving` on the transport, if there is one. -/
def blockReceiving (block : Bool) (s : State) : State :=
  match s.transport with
  | none => s
  | some t =>
    emit (.transportBlockReceiving block)
      { s with transport := some { t with receivingBlocked := block } }

/-- Block or unblock what reads from the peer. -/
def blockReading (block : Bool) (s : State) : State :=
  if s.bytestream then emit (.bytestreamBlockReading block) s
  else if s.gtalkFileCollection then emit (.collectionBlockReading block) s
  else s

/-! ## Closing -/

/-- How the objects that are closed answer at once: whether the collection
reports that it is terminated, which it does unless the channel is its current
one, and whether the bytestream reports that it is closed, which it does unless
it has data to flush. -/
structure Answers where
  terminated : Bool
  closed : Bool
deriving DecidableEq

/-- `bytestream_closed` -/
def bytestreamClosed (s : State) : State :=
  cancelUnlessEnded (if s.requested then .remoteError else .localError) s

/-- The `gtalk_file_collection_terminate` of `close_session_and_transport`.  The
callback closes the session again and finds the channel gone from the
collection. -/
def terminateCollection (a : Answers) (s : State) : State :=
  if s.gtalkFileCollection then
    if a.terminated then
      emit .collectionTerminate (cancelUnlessEnded .localStopped (emit .collectionTerminate s))
    else emit .collectionTerminate s
  else s

/-- `gabble_bytestream_iface_close` -/
def bytestreamIfaceClose (a : Answers) (s : State) : State :=
  if a.closed then bytestreamClosed (emit .bytestreamClose s) else emit .bytestreamClose s

/-- `close_session_and_transport` -/
def closeSessionAndTransport (a : Answers) (s : State) : State :=
  let s := terminateCollection a s
  let s := if s.bytestream then bytestreamIfaceClose a s else s
  { s with gtalkFileCollection := false, bytestream := false, listener := false,
           transport := none }

/-- `gabble_file_transfer_channel_close` -/
def close (a : Answers) (s : State) : State :=
  emit .destroyed
    (if s.state.ended then s
     else closeSessionAndTransport a (setState .cancelled .localStopped s))

/-- `gabble_file_transfer_channel_dispose` -/
def dispose (a : Answers) (s : State) : State :=
  closeSessionAndTransport a { s with disposeHasRun := true, progressTimer := false }

/-! ## The bytestream and the collection -/

/-- `channel_open` -/
def channelOpen (s : State) : State :=
  let s := { s with channelOpened := true }
  if s.socketAddress then
    blockReceiving false (setState .opened .none (emit (.initialOffsetDefined s.initialOffset) s))
  else setState .accepted .none s

/-- `bytestream_state_changed_cb` -/
def bytestreamStateChangedCb (state : BytestreamState) (s : State) : State :=
  match state with
  | .opened => channelOpen s
  | .closed => bytestreamClosed s
  | _ => s

/-- `set_bytestream` -/
def setBytestream (s : State) : State :=
  if s.bytestream || s.gtalkFileCollection then s
  else { s with bytestream := true, bytestreamSignals := true }

/-- `bytestream_negotiate_cb`: `none` when the peer refused, and otherwise the
offset of the range it asked for, if it did. -/
def bytestreamNegotiateCb (reply : Option (Option UInt64)) (s : State) : State :=
  let s := { s with negotiating := false }
  match reply with
  | none => setState .cancelled .remoteStopped s
  | some offset => setBytestream { s with initialOffset := offset.getD s.initialOffset }

/-- `transport_disconnected_cb` -/
def transportDisconnectedCb (a : Answers) (s : State) : State :=
  if (s.requested && short s) || (!s.requested && s.state ≠ .completed) then
    closeSessionAndTransport a (setState .cancelled .localError s)
  else s

/-- The transport is disconnected; what was in its buffer is lost. -/
def transportGone (t : Transport) (s : State) : State :=
  { s with transport := some { t with connected := false, bufferEmpty := true } }

/-- `gibber_transport_disconnect` on the channel's transport. -/
def transportDisconnect (a : Answers) (s : State) : State :=
  match s.transport with
  | none => s
  | some t =>
    let s := emit .transportDisconnect s
    if t.connected then transportDisconnectedCb a (transportGone t s) else s

/-- The end of a transfer whose bytes are all there: the client may go once it
has read them. -/
def disconnectIfEmpty (a : Answers) (s : State) : State :=
  match s.transport with
  | none => s
  | some t => if t.bufferEmpty then transportDisconnect a s else s

/-- `gabble_file_transfer_channel_gtalk_file_collection_state_changed` -/
def gtalkFileCollectionStateChanged (state : GTalkFileCollectionState) (localTerminator : Bool)
    (a : Answers) (s : State) : State :=
  match state with
  | .pending => setState .pending .none s
  | .accepted => if s.state = .pending then setState .accepted .none s else s
  | .opened => channelOpen s
  | .terminated =>
    closeSessionAndTransport a
      (cancelUnlessEnded (if localTerminator then .localStopped else .remoteStopped) s)
  | .error | .connectionFailed =>
    closeSessionAndTransport a (setState .cancelled .localError s)
  | .completed => disconnectIfEmpty a (setState .completed .none s)

/-- What `gabble_file_transfer_channel_offer_file` finds out about the contact. -/
structure Contact where
  hasPresence : Bool
  capMetadata : Bool
  si : Bool
  jingleShare : Bool
  googleRelayToken : Bool
deriving DecidableEq

/-- What is told about a contact that does not know the metadata extension. -/
def metadataUnsupported : String :=
  "The specified contact does not support the Metadata extension; " ++
    "you should ensure both ServiceName and Metadata properties are not present " ++
    "in the channel request"

/-- `gabble_file_transfer_channel_offer_file` -/
def offerFile (contact : Contact) (s : State) : State :=
  let s := { s with offered := true }
  let useSi := contact.si && (!contact.jingleShare || !contact.googleRelayToken)
  -- `GABBLE_UNDEFINED_FILE_SIZE` is the largest size
  if s.filename.isEmpty || s.size = UInt64.ofNat (2 ^ 64 - 1) then abort s
  else if s.bytestream || s.gtalkFileCollection then s
  else if !contact.hasPresence then
    emit (.failed ⟨.offline, "can't find contact's presence"⟩) s
  else if s.metadata && !contact.capMetadata then
    emit (.failed ⟨.notCapable, metadataUnsupported⟩) s
  else if useSi then emit .negotiateStream { s with negotiating := true }
  else if contact.jingleShare then
    emit .collectionInitiate { s with gtalkFileCollection := true }
  else emit (.failed ⟨.notCapable, "contact doesn't have file transfer capabilities"⟩) s

/-! ## Progress -/

/-- `emit_progress_update` -/
def emitProgressUpdate (now : GTimeVal) (s : State) : State :=
  emit (.transferredBytesChanged s.transferredBytes)
    { s with lastTransferredBytesEmitted := now, progressTimer := false }

/-- The milliseconds since the last `TransferredBytesChanged`, as
`transferred_chunk` computes them. -/
def interval (now : GTimeVal) (s : State) : ℕ :=
  ((now.sec - s.lastTransferredBytesEmitted.sec) * 1000 +
    (now.usec - s.lastTransferredBytesEmitted.usec).tdiv 1000).natAbs

/-- `transferred_chunk` -/
def transferredChunk (count : UInt64) (now : GTimeVal) (s : State) : State :=
  let s := { s with transferredBytes := s.transferredBytes + count }
  if !short s then emitProgressUpdate now s
  else if s.progressTimer then s
  else if now.sec - s.lastTransferredBytesEmitted.sec > 1 || interval now s > 1000 then
    emitProgressUpdate now s
  else { s with progressTimer := true }

/-! ## Receiving -/

/-- What came of writing to the local socket: everything was written, or some of
it is in the transport's buffer, or the socket is broken. -/
inductive Sent : Type where
  | whole : Sent
  | partly : Sent
  | failed : Sent
deriving DecidableEq

/-- `transport_buffer_empty_cb` -/
def transportBufferEmptyCb (a : Answers) (s : State) : State :=
  let s := blockReading false s
  if s.state.ended then transportDisconnect a s else s

/-- `data_received_cb` after the data was sent to the transport. -/
def dataSent (len : UInt64) (now : GTimeVal) (a : Answers) (s : State) : State :=
  let s := transferredChunk len now s
  if s.bytestream && !short s then
    let s := setState .completed .none s
    if s.transport.isNone then abort s else disconnectIfEmpty a s
  else
    match s.transport with
    | none => abort s
    | some t => if t.bufferEmpty then s else blockReading true s

/-- `data_received_cb`.  The transport tells what came of the data before
`gibber_transport_send` returns, and that it is disconnected or that its buffer
is empty. -/
def dataReceivedCb (data : Bytes) (sent : Sent) (now : GTimeVal) (a : Answers) (s : State) :
    State :=
  match s.transport with
  | none => abort s
  | some t =>
    if !t.connected then abort s
    else
      let s := emit (.transportSend data) s
      let len := UInt64.ofNat data.length
      match sent with
      | .failed =>
        setState .cancelled .localError (transportDisconnectedCb a (transportGone t s))
      | .whole => dataSent len now a (transportBufferEmptyCb a s)
      | .partly =>
        dataSent len now a { s with transport := some { t with bufferEmpty := false } }

/-! ## Sending -/

/-- `transport_handler` after the data was sent to the peer. -/
def dataForwarded (len : UInt64) (now : GTimeVal) (a : Answers) (s : State) : State :=
  let s := transferredChunk len now s
  if short s then s
  else if s.bytestream then bytestreamIfaceClose a (setState .completed .none s)
  else if s.gtalkFileCollection then emit .collectionCompleted s
  else s

/-- `transport_handler`; `ok` is what the bytestream or the collection returns. -/
def transportHandler (data : Bytes) (ok : Bool) (now : GTimeVal) (a : Answers) (s : State) :
    State :=
  let len := UInt64.ofNat data.length
  if s.bytestream then
    let s := emit (.bytestreamSend data) s
    if ok then dataForwarded len now a s else closeSessionAndTransport a s
  else if s.gtalkFileCollection then
    let s := emit (.collectionSendData data) s
    if ok then dataForwarded len now a s else closeSessionAndTransport a s
  else dataForwarded len now a s

/-! ## The user -/

/-- `available_socket_types`: Unix, IPv4 and IPv6 sockets for the local host. -/
def availableSocketTypes : List (ℕ × List ℕ) := [(0, [0]), (2, [0]), (3, [0])]

/-- `check_address_and_access_control` -/
def checkAddressAndAccessControl (addressType accessControl : ℕ) : Except GError Unit :=
  match availableSocketTypes.lookup addressType with
  | none =>
    .error ⟨.notImplemented, "AddressType " ++ toString addressType ++ " is not implemented"⟩
  | some controls =>
    if accessControl ∈ controls then .ok ()
    else
      .error ⟨.notImplemented, "AccesControl " ++ toString accessControl ++
        " is not implemented with AddressType " ++ toString addressType⟩

/-- The checks of a method before it sets up the local socket, and setting it
up; `listens` tells whether the socket can be listened on. -/
def setupLocalSocket (addressType accessControl : ℕ) (listens : Bool) : Except GError Unit :=
  match checkAddressAndAccessControl addressType accessControl with
  | .error e => .error e
  | .ok () =>
    if listens then .ok ()
    else .error ⟨.notAvailable, "Could not set up local socket"⟩

/-- `gabble_file_transfer_channel_accept_file` after the local socket is set
up. -/
def accepted (offset : UInt64) (s : State) : State :=
  let s := { s with listener := true, socketAddress := true }
  let s := emit .returned (setState .accepted .requested s)
  let s := { s with initialOffset := if s.resumeSupported then offset else 0 }
  if s.bytestream then
    emit (.bytestreamAccept s.initialOffset)
      (emit (.bytestreamBlockReading true) { s with dataReceivedSignal := true })
  else if s.gtalkFileCollection then
    emit .collectionAccept (emit (.collectionBlockReading true) s)
  else abort s

/-- `gabble_file_transfer_channel_accept_file` -/
def acceptFile (addressType accessControl : ℕ) (offset : UInt64) (listens : Bool) (s : State) :
    State :=
  if s.requested then emit (.failed ⟨.notAvailable, "Channel is not an incoming transfer"⟩) s
  else if s.state ≠ .pending then
    emit (.failed ⟨.notAvailable, "State is not pending; cannot accept file"⟩) s
  else
    match setupLocalSocket addressType accessControl listens with
    | .error e => emit (.failed e) s
    | .ok () => accepted offset s

/-- `gabble_file_transfer_channel_provide_file` after the local socket is set
up. -/
def provided (s : State) : State :=
  let s := { s with listener := true, socketAddress := true }
  emit .returned
    (if s.channelOpened then
      setState .opened .requested (emit (.initialOffsetDefined s.initialOffset) s)
     else s)

/-- `gabble_file_transfer_channel_provide_file` -/
def provideFile (addressType accessControl : ℕ) (listens : Bool) (s : State) : State :=
  if !s.requested then emit (.failed ⟨.notAvailable, "Channel is not an outgoing transfer"⟩) s
  else if s.state ≠ .pending && s.state ≠ .accepted then
    emit (.failed ⟨.notAvailable, "State is not pending or accepted; cannot provide file"⟩) s
  else if s.socketAddress then
    emit (.failed
      ⟨.notAvailable, "ProvideFile has already been called for this channel"⟩) s
  else
    match setupLocalSocket addressType accessControl listens with
    | .error e => emit (.failed e) s
    | .ok () => provided s

/-- `new_connection_cb`, with `file_transfer_receive` and `file_transfer_send`. -/
def newConnectionCb (s : State) : State :=
  let left := if s.transport.any Transport.connected then 1 else 0
  let s := { s with transport := some ⟨true, true, false, false⟩,
                    oldTransports := s.oldTransports + left }
  if s.requested then
    let s := blockReceiving (s.state ≠ .opened) s
    { s with transport := s.transport.map fun t => { t with handlerSet := true },
             listener := false }
  else { blockReading false s with listener := false }

/-! ## Steps -/

/-- What can happen to a channel. -/
inductive Event : Type where
  | offerFile (contact : Contact) : Event
  | negotiated (reply : Option (Option UInt64)) : Event
  | bytestreamStateChanged (state : BytestreamState) : Event
  | bytestreamDataReceived (data : Bytes) (sent : Sent) (now : GTimeVal) (a : Answers) : Event
  | bytestreamWriteBlocked (blocked : Bool) : Event
  | collectionStateChanged (state : GTalkFileCollectionState) (localTerminator : Bool)
      (a : Answers) : Event
  | collectionDataReceived (data : Bytes) (sent : Sent) (now : GTimeVal) (a : Answers) : Event
  | collectionWriteBlocked (blocked : Bool) : Event
  | acceptFile (addressType accessControl : ℕ) (offset : UInt64) (listens : Bool) : Event
  | provideFile (addressType accessControl : ℕ) (listens : Bool) : Event
  | newConnection : Event
  | localData (data : Bytes) (ok : Bool) (now : GTimeVal) (a : Answers) : Event
  | transportDisconnected (a : Answers) : Event
  | transportBufferEmpty (a : Answers) : Event
  | oldTransportDisconnected (a : Answers) : Event
  | oldTransportBufferEmpty (a : Answers) : Event
  | presencesUpdated (available : Bool) : Event
  | progressTimeout (now : GTimeVal) : Event
  | close (a : Answers) : Event
  | dispose (a : Answers) : Event
deriving DecidableEq

/-- What can come of writing `data` to the transport: only an empty buffer lets
the transport write at once, and no data is always written whole. -/
def possible (t : Transport) (data : Bytes) (sent : Sent) : Bool :=
  match sent with
  | .whole => t.bufferEmpty || data.isEmpty
  | .partly => !data.isEmpty
  | .failed => t.bufferEmpty

/-- Whether an event can happen now. -/
def enabled (s : State) : Event → Bool
  | .offerFile _ => s.requested && !s.offered
  | .negotiated _ => s.negotiating
  | .bytestreamStateChanged _ | .bytestreamWriteBlocked _ => s.bytestreamSignals
  | .bytestreamDataReceived data sent _ _ =>
    s.dataReceivedSignal && !s.requested && s.transport.all fun t => possible t data sent
  | .collectionStateChanged _ _ _ | .collectionWriteBlocked _ => s.gtalkFileCollection
  | .collectionDataReceived data sent _ _ =>
    s.gtalkFileCollection && !s.requested && s.transport.all fun t => possible t data sent
  | .newConnection => s.listener
  | .localData _ _ _ _ =>
    s.transport.any fun t => t.connected && t.handlerSet && !t.receivingBlocked
  | .transportDisconnected _ => s.transport.any fun t => t.connected
  | .transportBufferEmpty _ => s.transport.any fun t => t.connected && !t.bufferEmpty
  | .oldTransportDisconnected _ | .oldTransportBufferEmpty _ => s.oldTransports ≠ 0
  | .progressTimeout _ => s.progressTimer
  | .acceptFile _ _ _ _ | .provideFile _ _ _ | .presencesUpdated _ | .close _ | .dispose _ => true

/-- What the code does when an event happens. -/
def handle (s : State) : Event → State
  | .offerFile contact => offerFile contact s
  | .negotiated reply => bytestreamNegotiateCb reply s
  | .bytestreamStateChanged state => bytestreamStateChangedCb state s
  | .bytestreamDataReceived data sent now a => dataReceivedCb data sent now a s
  | .bytestreamWriteBlocked blocked => blockReceiving blocked s
  | .collectionStateChanged state localTerminator a =>
    gtalkFileCollectionStateChanged state localTerminator a s
  | .collectionDataReceived data sent now a => dataReceivedCb data sent now a s
  | .collectionWriteBlocked blocked => blockReceiving blocked s
  | .acceptFile addressType accessControl offset listens =>
    acceptFile addressType accessControl offset listens s
  | .provideFile addressType accessControl listens =>
    provideFile addressType accessControl listens s
  | .newConnection => newConnectionCb s
  | .localData data ok now a => transportHandler data ok now a s
  | .transportDisconnected a =>
    transportDisconnectedCb a { s with transport := s.transport.map fun t =>
      { t with connected := false, bufferEmpty := true } }
  | .transportBufferEmpty a =>
    transportBufferEmptyCb a { s with transport := s.transport.map fun t =>
      { t with bufferEmpty := true } }
  | .oldTransportDisconnected a =>
    transportDisconnectedCb a { s with oldTransports := s.oldTransports - 1 }
  | .oldTransportBufferEmpty a =>
    let s := blockReading false s
    if s.state.ended then
      transportDisconnectedCb a { s with oldTransports := s.oldTransports - 1 }
    else s
  -- `connection_presences_updated_cb`, for the contact of the channel
  | .presencesUpdated available => if available then s else cancelUnlessEnded .remoteStopped s
  | .progressTimeout now => emitProgressUpdate now s
  | .close a => close a s
  | .dispose a => dispose a s

/-- One event; nothing happens to a channel that is gone. -/
def step (s : State) (e : Event) : Option State :=
  if s.disposeHasRun || s.aborted || !enabled s e then none else some (handle s e)

end FtChannel
