/-
# The porter (`lib/ext/wocky/wocky/wocky-c2s-porter.c`)

The model of `WockyC2SPorter`, which all of Gabble sends and receives its stanzas through.  The C
code runs the code of its users in the middle of its own functions: the callbacks of the
operations, the stanza handlers and the handlers of its signals, and each of these may call the
porter again.  So the state has an explicit call stack: the top says whether code of a user runs or
at which point a C function goes on.  The environment chooses what a user's code calls, when and
with which value it returns, and, when the stack is empty, the next event of the main loop.

Calls of functions with a callback are numbered as they are made.  A `StanzaIqHandler` has the
number of the `send_iq_async` call it was made for as its address; using one that has been freed is
a `Fault`, like a failing `g_assert`, and ends the run.

`log` is the history of what the porter does.
-/
import Gabble.ListCursor
import Gabble.Transition
import Gabble.WockyStanza
import Mathlib.Data.List.Sort

namespace Porter

open UriEscape (Bytes)
open CText (ascii)
open Wocky

/-! ## Data -/

/-- A call of a function with a callback. -/
abbrev Call := ℕ

/-- The number of an accepted `send_async`. -/
abbrev Serial := ℕ

/-- The id of a registered handler. -/
abbrev HandlerId := ℕ

/-- What an operation fails with. -/
inductive Error : Type where
  /-- `WOCKY_XMPP_CONNECTION_ERROR_CLOSED` -/
  | connectionClosed : Error
  /-- another error of the connection -/
  | connection (code : ℕ) : Error
  /-- the error of a stream error stanza -/
  | stream (stanza : Stanza) : Error
  /-- `G_IO_ERROR_CANCELLED` -/
  | cancelled : Error
  /-- `G_IO_ERROR_PENDING` -/
  | pending : Error
  /-- `WOCKY_PORTER_ERROR_CLOSING` -/
  | closing : Error
  /-- `WOCKY_PORTER_ERROR_CLOSED` -/
  | closed : Error
  /-- `WOCKY_PORTER_ERROR_NOT_STARTED` -/
  | notStarted : Error
  /-- `WOCKY_PORTER_ERROR_NOT_IQ` -/
  | notIq : Error
  /-- `WOCKY_PORTER_ERROR_FORCIBLY_CLOSED` -/
  | forciblyClosed : Error

/-- `g_error_matches (error, WOCKY_XMPP_CONNECTION_ERROR, WOCKY_XMPP_CONNECTION_ERROR_CLOSED)` -/
def Error.isConnectionClosed : Error → Bool
  | connectionClosed => true
  | _ => false

/-- What a callback is given. -/
inductive Outcome : Type where
  | ok : Outcome
  | reply (stanza : Stanza) : Outcome
  | error (e : Error) : Outcome

/-- The outcome of an operation that gives nothing back. -/
def Outcome.ofError : Option Error → Outcome
  | none => ok
  | some e => error e

/-- The callback of a `GSimpleAsyncResult`. -/
inductive Callback : Type where
  | null : Callback
  | user (c : Call) : Callback
  /-- `iq_sent_cb`, with the handler made for the call `c` -/
  | iqSent (c : Call) : Callback
  deriving DecidableEq

/-- `sending_queue_elem`.  `connected` says that `cancelled_sig_id` is not 0. -/
structure Elem where
  serial : Serial
  stanza : Stanza
  connected : Bool
  callback : Callback

/-- `StanzaIqHandler`.  `pending` says that `result` is not NULL, `connected` that
`cancelled_sig_id` is not 0. -/
structure IqHandler where
  call : Call
  id : Bytes
  recipient : Option Bytes
  pending : Bool
  connected : Bool
  sent : Bool

/-- `SenderMatch`, with the `JidTriple`. -/
inductive SenderMatch : Type where
  | anyone : SenderMatch
  | server : SenderMatch
  | jid (parts : Addressing.Parts) : SenderMatch

/-- The callback of a stanza handler. -/
inductive HandlerCallback : Type where
  | handleIqReply : HandlerCallback
  | handleStreamError : HandlerCallback
  | user : HandlerCallback
  deriving DecidableEq

/-- `StanzaHandler`. -/
structure StanzaHandler where
  id : HandlerId
  type : StanzaType
  subType : SubType
  senderMatch : SenderMatch
  priority : ℕ
  pattern : Option Node
  callback : HandlerCallback

/-- `WOCKY_PORTER_HANDLER_PRIORITY_MAX` -/
def priorityMax : ℕ := 4294967295

/-- An operation of the connection that writes. -/
inductive OutOp : Type where
  | stanza (serial : Serial) : OutOp
  | ping (c : Call) : OutOp
  | close : OutOp

/-- The signals of the porter. -/
inductive Signal : Type where
  | sending : Signal
  | closing : Signal
  | remoteClosed : Signal
  | remoteError (e : Error) : Signal

/-- Code of a user that runs. -/
inductive UserCode : Type where
  | completion (c : Call) : UserCode
  | handler (id : HandlerId) : UserCode
  | signal (signal : Signal) : UserCode

/-- The local variables of `handle_stanza`, in the call of it that has the number.  Handlers that
are registered after its beginning have `firstNewId` or more as their id. -/
structure Dispatch where
  number : ℕ
  firstNewId : HandlerId
  stanza : Stanza
  sender : Option Addressing.Parts
  fromServer : Bool

/-- What `flush_unimportant_queue` was called for. -/
inductive AfterFlush : Type where
  | handle (stanza : Stanza) : AfterFlush
  | disable : AfterFlush

/-- Where a C function goes on. -/
inductive Frame : Type where
  /-- a user's code runs -/
  | user (code : UserCode) : Frame
  /-- `send_stanza_cb` and `send_whitespace_ping_cb`, after the completion -/
  | sendNext : Frame
  | closeIfWaiting : Frame
  /-- the loop of `terminate_sending_operations` -/
  | terminate (e : Error) : Frame
  /-- `iq_sent_cb`, after the completion -/
  | iqSentCb (c : Call) : Frame
  /-- `handle_iq_reply`, after the completion -/
  | handleIqReply (c : Call) : Frame
  /-- `handle_stream_error`, after `remote_connection_closed` -/
  | handleStreamError : Frame
  /-- the loop of `handle_stanza`, at a link of the list -/
  | dispatch (d : Dispatch) (link : Option HandlerId) : Frame
  /-- the loop of `handle_stanza`, when the callback of a handler has returned -/
  | dispatched (d : Dispatch) (id : HandlerId) : Frame
  /-- the loop of `flush_unimportant_queue` -/
  | flush (after : AfterFlush) : Frame
  /-- `stanza_received_cb`, after the stanza -/
  | received : Frame
  /-- `remote_connection_closed`, after its signal -/
  | remoteClosed (e : Error) : Frame
  /-- the end of `remote_connection_closed` -/
  | stopReceiving : Frame
  /-- `close_async`, after its signal -/
  | closing : Frame
  /-- `force_close_async`, after its signal -/
  | forceClosing (c : Call) (cancellable : Bool) : Frame
  /-- `force_close_async`, after `terminate_sending_operations` -/
  | forceTerminated (c : Call) : Frame

/-- What ends a run. -/
inductive Fault : Type where
  | useAfterFree : Fault
  | assertion : Fault
  deriving DecidableEq

/-- What the porter does. -/
inductive Action : Type where
  /-- the callback of a call is called -/
  | called (c : Call) (outcome : Outcome) : Action
  /-- `send_iq_async` has an id for the IQ of a call -/
  | asked (c : Call) (id : Bytes) (recipient : Option Bytes) : Action
  /-- a stanza is put into the queue -/
  | queued (n : Serial) : Action
  /-- a stanza is taken out of the queue before it is sent -/
  | dropped (n : Serial) : Action
  /-- the connection takes a stanza -/
  | handed (n : Serial) : Action
  /-- the connection reports that a stanza is sent, and this one is at the head of the queue -/
  | sent (n : Serial) : Action
  /-- a stanza comes in -/
  | arrived (stanza : Stanza) : Action
  /-- `handle_stanza` begins with a stanza -/
  | began (d : Dispatch) : Action
  /-- a handler is given a stanza -/
  | offered (d : Dispatch) (h : StanzaHandler) : Action
  /-- a handler has taken the stanza -/
  | taken (d : Dispatch) (id : HandlerId) : Action
  /-- no handler has taken the stanza -/
  | unhandled (d : Dispatch) : Action

/-- `WockyC2SPorterPrivate`, with what the connection and the main loop still have to do.
`started` says that `receive_cancellable` is not NULL; `closeCancellable` says whether
`close_cancellable` is cancelled, when there is one.  `handlers` has what `handlers_by_id` has. -/
structure State where
  sendingQueue : List Elem
  started : Bool
  sendingWhitespacePing : Bool
  closeResult : Option Call
  closeCancellable : Option Bool
  waitingToClose : Bool
  remoteClosed : Bool
  localClosed : Bool
  forceCloseResult : Option Call
  forceCloseCancellable : Bool
  forcedShutdown : Bool
  handlers : List StanzaHandler
  nextHandlerId : ℕ
  iqReplyHandlers : List IqHandler
  powerSavingMode : Bool
  unimportantQueue : List Stanza
  /-- the write operation of the connection -/
  output : Option OutOp
  /-- write operations that the connection has refused, because of the one it has -/
  refused : List OutOp
  /-- read operations of the connection -/
  receives : ℕ
  /-- `wocky_xmpp_connection_force_close_async` operations -/
  forceCloses : ℕ
  /-- what `g_simple_async_result_complete_in_idle` will call -/
  idle : List (Callback × Option Error)
  stack : List Frame
  /-- what the last stanza handler has returned -/
  returned : Bool
  calls : ℕ
  serials : ℕ
  dispatches : ℕ
  fault : Option Fault
  log : List Action

/-- The JIDs of the porter. -/
structure Jids where
  full : Bytes
  bare : Bytes
  domain : Bytes

namespace State

variable (s : State)

/-- The handler for a call is changed. -/
def setHandler (h : IqHandler) : State :=
  { s with iqReplyHandlers := s.iqReplyHandlers.map fun h' => if h'.call = h.call then h else h' }

def addHandler (h : IqHandler) : State := { s with iqReplyHandlers := s.iqReplyHandlers ++ [h] }

def setQueue (queue : List Elem) : State := { s with sendingQueue := queue }

/-- An element is put into the queue. -/
def enqueue (elem : Elem) : State :=
  { s with
    sendingQueue := s.sendingQueue ++ [elem]
    serials := s.serials + 1
    log := s.log ++ [.queued elem.serial] }

def beginDispatch (d : Dispatch) : State :=
  { s with dispatches := s.dispatches + 1, log := s.log ++ [.began d] }

def returning (taken : Bool) : State := { s with returned := taken }

def setRemoteClosed : State := { s with remoteClosed := true }

def setLocalClosed : State := { s with localClosed := true }

def setStarted (started : Bool) : State := { s with started := started }

def setCloseResult (r : Option Call) : State := { s with closeResult := r }

def setCloseCancellable (cancelled : Option Bool) : State :=
  { s with closeCancellable := cancelled }

def setForceCloseResult (r : Option Call) : State := { s with forceCloseResult := r }

def setForceCloseCancellable (cancellable : Bool) : State :=
  { s with forceCloseCancellable := cancellable }

def abort (f : Fault) : State := { s with fault := some f }

def push (f : Frame) : State := { s with stack := f :: s.stack }

def note (a : Action) : State := { s with log := s.log ++ [a] }

/-- `g_signal_emit_by_name` -/
def emit (signal : Signal) : State := s.push (.user (.signal signal))

/-- The callback of a call is called. -/
def call (c : Call) (outcome : Outcome) : State :=
  (s.note (.called c outcome)).push (.user (.completion c))

/-- `g_simple_async_result_complete_in_idle` and `g_simple_async_report_error_in_idle` -/
def completeInIdle (callback : Callback) (e : Option Error) : State :=
  { s with idle := s.idle ++ [(callback, e)] }

/-! ## Sending -/

/-- The connection is asked to write. -/
def write (op : OutOp) : State :=
  match s.output, op with
  | none, .stanza n => State.note { s with output := some op } (.handed n)
  | none, _ => { s with output := some op }
  | some _, _ => { s with refused := s.refused ++ [op] }

/-- `sending_in_progress` -/
def sendingInProgress : Bool := !s.sendingQueue.isEmpty || s.sendingWhitespacePing

/-- `send_head_stanza` -/
def sendHeadStanza : State :=
  match s.sendingQueue with
  | [] => s
  | elem :: rest =>
    ((s.setQueue ({ elem with connected := false } :: rest)).write
      (.stanza elem.serial)).emit .sending

/-- `send_close` -/
def sendClose : State := State.write { s with waitingToClose := false } .close

/-- `close_if_waiting` -/
def closeIfWaiting : State :=
  if s.waitingToClose && !s.sendingInProgress then s.sendClose else s

/-- The end of `send_stanza_cb` and of `send_whitespace_ping_cb`. -/
def sendNext : State :=
  if s.sendingQueue.isEmpty then s.push .closeIfWaiting
  else (s.push .closeIfWaiting).sendHeadStanza

/-- `close_result` or `force_close_result` is there. -/
def isClosing : Bool := s.closeResult.isSome || s.forceCloseResult.isSome

/-- `wocky_c2s_porter_send_async` -/
def sendAsync (stanza : Stanza) (cancellable : Bool) (callback : Callback) : State :=
  if s.isClosing then s.completeInIdle callback (some .closing)
  else if s.sendingQueue.isEmpty && !s.sendingWhitespacePing then
    (s.enqueue ⟨s.serials, stanza, false, callback⟩).sendHeadStanza
  else s.enqueue ⟨s.serials, stanza, cancellable, callback⟩

/-- `stanza_iq_handler_maybe_remove` -/
def maybeRemove (c : Call) : State :=
  match s.iqReplyHandlers.find? (·.call = c) with
  | none => s.abort .useAfterFree
  | some h =>
    if h.sent && !h.pending then
      { s with iqReplyHandlers := s.iqReplyHandlers.filter (·.call ≠ c) }
    else s

/-- `iq_sent_cb` -/
def iqSentCb (c : Call) (outcome : Outcome) : State :=
  match s.iqReplyHandlers.find? (·.call = c) with
  | none => s.abort .useAfterFree
  | some h =>
    match outcome with
    | .error e =>
      if h.pending then
        ((s.setHandler { h with sent := true, pending := false, connected := false }).push
          (.iqSentCb c)).call c (.error e)
      else (s.setHandler { h with sent := true }).maybeRemove c
    | _ => (s.setHandler { h with sent := true }).maybeRemove c

/-- `g_simple_async_result_complete` -/
def complete (callback : Callback) (outcome : Outcome) : State :=
  match callback with
  | .null => s
  | .user c => s.call c outcome
  | .iqSent c => s.iqSentCb c outcome

/-- The loop of `terminate_sending_operations`. -/
def terminateSendingOperations (e : Error) : State :=
  match s.sendingQueue with
  | [] => s
  | elem :: rest =>
    (((s.note (.dropped elem.serial)).setQueue rest).push (.terminate e)).complete elem.callback
      (.error e)

/-- `send_stanza_cb` -/
def sendStanzaCb : Option Error → State
  | some e => (s.push .closeIfWaiting).push (.terminate e)
  | none =>
    match s.sendingQueue with
    | [] => s
    | elem :: rest =>
      (((s.note (.sent elem.serial)).setQueue rest).push .sendNext).complete elem.callback .ok

/-- `send_cancelled_cb`, of the element at a place of the queue -/
def sendCancelledCb (k : ℕ) : Option State :=
  match s.sendingQueue[k]? with
  | some elem =>
    if elem.connected then
      some (((s.note (.dropped elem.serial)).setQueue (s.sendingQueue.eraseIdx k)).completeInIdle
        elem.callback (some .cancelled))
    else none
  | none => none

/-- `send_whitespace_ping_cb` -/
def sendWhitespacePingCb (c : Call) : Option Error → State
  | some e =>
    ((State.push { s with sendingWhitespacePing := false } .closeIfWaiting).push
      (.terminate e)).call c (.error e)
  | none => (State.push { s with sendingWhitespacePing := false } .sendNext).call c .ok

/-! ## Closing -/

/-- `abort_pending_iqs` -/
def abortPendingIqs (e : Error) : State :=
  { s with
    idle := s.idle ++ (s.iqReplyHandlers.filter (·.pending)).map fun h => (.user h.call, some e)
    iqReplyHandlers := (s.iqReplyHandlers.filter fun h => !(h.pending && h.sent)).map fun h =>
      if h.pending then { h with pending := false, connected := false } else h }

/-- `complete_close`, of a `close_result` that may have an error already -/
def completeClose (r : Option Error) : State :=
  match s.closeResult with
  | none => s.abort .assertion
  | some c =>
    let outcome := if s.closeCancellable = some true then .error .cancelled
      else .ofError r
    (((s.setCloseCancellable none).setForceCloseCancellable false).setCloseResult none).call c
      outcome

/-- `remote_connection_closed`, up to its signal -/
def remoteConnectionClosed (e : Error) : State :=
  ((s.abortPendingIqs e).setRemoteClosed.push (.remoteClosed e)).emit
    (if e.isConnectionClosed then .remoteClosed else .remoteError e)

/-- `remote_connection_closed`, after its signal -/
def remoteClosedRest (e : Error) : State :=
  if s.closeResult.isSome && s.localClosed then
    (s.push .stopReceiving).completeClose (if e.isConnectionClosed then none else some e)
  else s.push .stopReceiving

/-- `close_sent_cb` -/
def closeSentCb (r : Option Error) : State :=
  if r.isNone && s.closeCancellable ≠ some true && !s.remoteClosed then s.setLocalClosed
  else if s.closeResult.isSome then s.setLocalClosed.completeClose r
  else s.setLocalClosed

/-- `wocky_c2s_porter_close_async`, up to its signal -/
def closeAsync (c : Call) (cancellable : Bool) : State :=
  if s.localClosed then s.completeInIdle (.user c) (some .closed)
  else if !s.started && !s.remoteClosed then s.completeInIdle (.user c) (some .notStarted)
  else if s.closeResult.isSome then s.completeInIdle (.user c) (some .pending)
  else if s.forceCloseResult.isSome then s.completeInIdle (.user c) (some .pending)
  else if s.closeCancellable.isSome then (s.setCloseResult (some c)).abort .assertion
  else
    (((s.setCloseResult (some c)).setCloseCancellable
      (if cancellable then some false else none)).push .closing).emit .closing

/-- `wocky_c2s_porter_close_async`, after its signal -/
def closeAsyncRest : State :=
  if s.sendingInProgress then { s with waitingToClose := true } else s.sendClose

/-- The connection is asked to close by force. -/
def forceShutdown : State :=
  { s with forcedShutdown := true, forceCloses := s.forceCloses + 1 }

/-- `wocky_c2s_porter_force_close_async`, up to its signal -/
def forceCloseAsync (c : Call) (cancellable : Bool) : State :=
  if s.forceCloseResult.isSome then s.completeInIdle (.user c) (some .pending)
  else if !s.started && s.localClosed then s.completeInIdle (.user c) (some .closed)
  else if !s.started && !s.remoteClosed then s.completeInIdle (.user c) (some .notStarted)
  else
    match s.closeResult with
    | some c' =>
      ((s.setCloseResult none).completeInIdle (.user c') (some .forciblyClosed)).push
        (.forceClosing c cancellable)
    | none => (s.push (.forceClosing c cancellable)).emit .closing

/-- `wocky_c2s_porter_force_close_async`, up to `terminate_sending_operations` -/
def forceClosingRest (c : Call) (cancellable : Bool) : State :=
  if s.forceCloseCancellable then (s.setForceCloseResult (some c)).abort .assertion
  else
    (((s.setForceCloseResult (some c)).setForceCloseCancellable cancellable).push
      (.forceTerminated c)).push (.terminate .forciblyClosed)

/-- The end of `wocky_c2s_porter_force_close_async`. -/
def forceTerminatedRest (c : Call) : State :=
  if s.remoteClosed then
    if s.forcedShutdown then
      (((s.abortPendingIqs .forciblyClosed).completeInIdle (.user c)
        (some .forciblyClosed)).setForceCloseResult none)
    else (s.abortPendingIqs .forciblyClosed).forceShutdown
  else s.abortPendingIqs .forciblyClosed

/-- `connection_force_close_cb` -/
def connectionForceCloseCb (r : Option Error) : State :=
  match s.forceCloseResult with
  | none => s.abort .assertion
  | some c =>
    (((s.setForceCloseResult none).setLocalClosed).setStarted false).call c (.ofError r)

end State

/-! ## Receiving -/

/-- `stanza_is_from_server` -/
def Jids.isFromServer (j : Jids) (nfrom : Option Bytes) : Bool :=
  nfrom = none || nfrom = some j.full || nfrom = some j.bare || nfrom = some j.domain

section Receiving

variable (g : Addressing.GLib) (j : Jids)

/-- `check_spoofing`: the reply is not spoofed. -/
def checkSpoofing (reply : Stanza) (shouldBeFrom : Option Bytes) : Bool :=
  let sender := getFrom reply
  let nfrom := normaliseJid g sender
  if sender = shouldBeFrom then true
  else if nfrom = shouldBeFrom then true
  else if shouldBeFrom = none && j.isFromServer nfrom then true
  else if sender = none && shouldBeFrom = some j.domain then true
  else if (sender = none || nfrom = some j.full) &&
      (shouldBeFrom = some j.full || shouldBeFrom = some j.bare) then true
  else false

/-- `stanza_iq_handler_new`, what it makes of the recipient -/
def recipientOf (stanza : Stanza) : Option Bytes :=
  (getTo stanza).map fun jid => (normaliseJid g (some jid)).getD jid

/-- What `handle_stanza` finds out before its loop. -/
def Dispatch.new (number : ℕ) (firstNewId : HandlerId) (stanza : Stanza) : Dispatch where
  number := number
  firstNewId := firstNewId
  stanza := stanza
  sender := (getFrom stanza).bind (Addressing.decodeJid g)
  fromServer :=
    match getFrom stanza with
    | none => true
    | some sender =>
      match Addressing.decodeJid g sender with
      | some parts => j.isFromServer (some (composeJid parts))
      | none => false

/-- The sender is the one that a handler is for. -/
def SenderMatch.accepts (d : Dispatch) : SenderMatch → Bool
  | .anyone => true
  | .server => d.fromServer
  | .jid (node, domain, resource) =>
    match d.sender with
    | none => false
    | some (node', domain', resource') =>
      node' = node && domain' = domain && (resource.isNone || resource' = resource)

/-- What `handle_stanza` asks before it calls a handler. -/
def StanzaHandler.accepts (h : StanzaHandler) (d : Dispatch) : Bool :=
  (h.type = .none || typeOf d.stanza = h.type) &&
    (h.subType = .none || subTypeOf d.stanza = h.subType) &&
    h.senderMatch.accepts d && h.pattern.all fun pattern => d.stanza.isSuperset pattern

/-- The nodes whose updates can be queued. -/
def nodeNames : List Bytes :=
  [ascii "http://jabber.org/protocol/geoloc", ascii "http://jabber.org/protocol/nick",
    ascii "http://laptop.org/xmpp/buddy-properties", ascii "http://laptop.org/xmpp/activities",
    ascii "http://laptop.org/xmpp/current-activity",
    ascii "http://laptop.org/xmpp/activity-properties"]

/-- `WOCKY_XMPP_NS_PUBSUB_EVENT` -/
def nsPubsubEvent : Bytes := ascii "http://jabber.org/protocol/pubsub#event"

/-- `build_queueable_stanza_patterns` -/
def queueableStanzaPatterns : List Node :=
  nodeNames.map fun nodeName =>
    .mk (ascii "message") (some nsJabberClient) none none []
      [.mk (ascii "event") (some nsPubsubEvent) none none []
        [.mk (ascii "items") (some nsPubsubEvent) none none
          [⟨ascii "node", none, nodeName⟩] []]]

/-- `is_stanza_important` -/
def isStanzaImportant (stanza : Stanza) : Bool :=
  if typeOf stanza = .presence && (subTypeOf stanza = .none || subTypeOf stanza = .unavailable) then
    false
  else !queueableStanzaPatterns.any fun pattern => stanza.isSuperset pattern

namespace State

variable (s : State)

/-- `handle_iq_reply`, up to the completion -/
def handleIqReply (reply : Stanza) : State :=
  match getId reply with
  | none => s.returning false
  | some id =>
    match s.iqReplyHandlers.find? (·.id = id) with
    | none => s.returning false
    | some h =>
      if !checkSpoofing g j reply h.recipient then s.returning false
      else if h.pending then
        ((s.setHandler { h with pending := false, connected := false }).push
          (.handleIqReply h.call)).call h.call (.reply reply)
      else (s.maybeRemove h.call).returning false

/-- `handle_stanza`, up to its loop -/
def handleStanza (stanza : Stanza) : State :=
  (s.beginDispatch (Dispatch.new g j s.dispatches s.nextHandlerId stanza)).push
    (.dispatch (Dispatch.new g j s.dispatches s.nextHandlerId stanza)
      (s.handlers.head?.map (·.id)))

/-- The callback of a handler is called. -/
def callHandler (d : Dispatch) (h : StanzaHandler) : State :=
  match h.callback with
  | .handleIqReply =>
    ((s.note (.offered d h)).push (.dispatched d h.id)).handleIqReply g j d.stanza
  | .handleStreamError =>
    (((s.note (.offered d h)).push (.dispatched d h.id)).push
      .handleStreamError).remoteConnectionClosed (.stream d.stanza)
  | .user => ((s.note (.offered d h)).push (.dispatched d h.id)).push (.user (.handler h.id))

/-- The end of `handle_stanza`, for a stanza that no handler has taken. -/
def refuse (d : Dispatch) : State :=
  if typeOf d.stanza = .iq && (subTypeOf d.stanza = .get || subTypeOf d.stanza = .set) then
    match buildIqError d.stanza serviceUnavailable with
    | none => s.note (.unhandled d)
    | some reply => (s.note (.unhandled d)).sendAsync reply false .null
  else s.note (.unhandled d)

/-- The link behind the one of a handler. -/
def nextLink (id : HandlerId) : Option HandlerId := ListCursor.next id (s.handlers.map (·.id))

/-- One round of the loop of `handle_stanza`. -/
def dispatchRound (d : Dispatch) (link : Option HandlerId) : State :=
  match link with
  | none => s.refuse d
  | some id =>
    match s.handlers.find? (·.id = id) with
    | none => s.abort .useAfterFree
    | some h =>
      if h.accepts d then s.callHandler g j d h else s.push (.dispatch d (s.nextLink id))

/-- The loop of `handle_stanza`, when the callback of a handler has returned. -/
def dispatchedRest (d : Dispatch) (id : HandlerId) : State :=
  if s.returned then s.note (.taken d id)
  else if s.handlers.any (·.id = id) then s.push (.dispatch d (s.nextLink id))
  else s.abort .useAfterFree

/-- The loop of `flush_unimportant_queue`, and what comes after it. -/
def flushUnimportantQueue (after : AfterFlush) : State :=
  match s.unimportantQueue with
  | stanza :: rest =>
    (State.push { s with unimportantQueue := rest } (.flush after)).handleStanza g j stanza
  | [] =>
    match after with
    | .handle stanza => s.handleStanza g j stanza
    | .disable => { s with powerSavingMode := false }

/-- `queue_or_handle_stanza` -/
def queueOrHandleStanza (stanza : Stanza) : State :=
  if s.powerSavingMode then
    if isStanzaImportant stanza then s.push (.flush (.handle stanza))
    else { s with unimportantQueue := s.unimportantQueue ++ [stanza] }
  else s.handleStanza g j stanza

/-- `stanza_received_cb`, without the end it has for a stanza -/
def stanzaReceivedCb : Except Error Stanza → State
  | .error e =>
    if s.forceCloseResult.isSome then if s.forcedShutdown then s else s.forceShutdown
    else s.remoteConnectionClosed e
  | .ok stanza => ((s.note (.arrived stanza)).push .received).queueOrHandleStanza g j stanza

/-- The end of `stanza_received_cb`. -/
def receivedRest : State :=
  if !s.remoteClosed then { s with receives := s.receives + 1 }
  else if s.forcedShutdown then s
  else if s.forceCloseResult.isSome then s.forceShutdown
  else s

/-- `wocky_c2s_porter_start` -/
def start : State :=
  if s.started then s else { s with started := true, receives := s.receives + 1 }

/-- `wocky_c2s_porter_register_handler_internal` -/
def registerHandlerInternal (type : StanzaType) (subType : SubType) (senderMatch : SenderMatch)
    (priority : ℕ) (pattern : Option Node) (callback : HandlerCallback) : State :=
  { s with
    handlers := s.handlers.orderedInsert (fun a b => b.priority ≤ a.priority)
      ⟨s.nextHandlerId, type, subType, senderMatch, priority, pattern, callback⟩
    nextHandlerId := s.nextHandlerId + 1 }

/-- `wocky_c2s_porter_unregister_handler` -/
def unregisterHandler (id : HandlerId) : State :=
  { s with handlers := s.handlers.eraseP (·.id = id) }

/-- `wocky_c2s_porter_enable_power_saving_mode` -/
def enablePowerSavingMode (enable : Bool) : State :=
  if s.powerSavingMode && !enable then s.push (.flush .disable)
  else { s with powerSavingMode := enable }

/-- `send_iq_cancelled_cb`.  The cancellable is cancelled once, so that the signal does not come
again although the handler stays connected to it. -/
def sendIqCancelledCb (c : Call) : Option State :=
  match s.iqReplyHandlers.find? (·.call = c) with
  | some h =>
    if h.connected then
      if h.pending then
        some (((s.setHandler { h with pending := false, connected := false }).completeInIdle
          (.user c) (some .cancelled)).maybeRemove c)
      else some (s.abort .assertion)
    else none
  | none => none

/-- `wocky_c2s_porter_send_iq_async`, with an id for the IQ that no handler in the table has -/
def sendIqAsync (c : Call) (stanza : Stanza) (id : Bytes) (cancellable : Bool) : State :=
  if s.isClosing then s.completeInIdle (.user c) (some .closing)
  else if typeOf stanza ≠ .iq || (subTypeOf stanza ≠ .get && subTypeOf stanza ≠ .set) then
    s.completeInIdle (.user c) (some .notIq)
  else
    ((s.note (.asked c id (recipientOf g stanza))).addHandler
      ⟨c, id, recipientOf g stanza, true, cancellable, false⟩).sendAsync
        (stanza.setAttribute (ascii "id") id) cancellable (.iqSent c)

/-- `wocky_c2s_porter_send_whitespace_ping_async` -/
def sendWhitespacePingAsync (c : Call) : State :=
  if s.isClosing then s.completeInIdle (.user c) (some .closing)
  else if s.sendingInProgress then s.completeInIdle (.user c) none
  else (State.write { s with sendingWhitespacePing := true } (.ping c)).emit .sending

/-- The callback of a write operation of the connection. -/
def written (op : OutOp) (r : Option Error) : State :=
  match op with
  | .stanza _ => s.sendStanzaCb r
  | .ping c => s.sendWhitespacePingCb c r
  | .close => s.closeSentCb r

/-! ## Runs -/

/-- The C code goes on at the top of the stack. -/
def resume : Frame → State
  | .user _ => s
  | .sendNext => s.sendNext
  | .closeIfWaiting => s.closeIfWaiting
  | .terminate e => s.terminateSendingOperations e
  | .iqSentCb c => s.maybeRemove c
  | .handleIqReply c => (s.maybeRemove c).returning true
  | .handleStreamError => s.returning true
  | .dispatch d link => s.dispatchRound g j d link
  | .dispatched d id => s.dispatchedRest d id
  | .flush after => s.flushUnimportantQueue g j after
  | .received => s.receivedRest
  | .remoteClosed e => s.remoteClosedRest e
  | .stopReceiving => s.setStarted false
  | .closing => s.closeAsyncRest
  | .forceClosing c cancellable => s.forceClosingRest c cancellable
  | .forceTerminated c => s.forceTerminatedRest c

/-- The stack of a porter that no one is in. -/
def atRest : Bool := s.stack.isEmpty

/-- Code of a user runs, or the main loop. -/
def userTurn : Bool :=
  match s.stack with
  | [] => true
  | .user _ :: _ => true
  | _ => false

/-- A call with a callback gets its number. -/
def nextCall : State := { s with calls := s.calls + 1 }

end State

/-- The sender that a handler is registered for. -/
inductive Sender : Type where
  | anyone : Sender
  | server : Sender
  | jid (jid : Bytes) : Sender

/-- What happens next. -/
inductive Event : Type where
  /-- the C code goes on -/
  | tau : Event
  /-- the user's code returns; a stanza handler says whether it has taken the stanza -/
  | ret (taken : Bool) : Event
  | start : Event
  | sendAsync (stanza : Stanza) (cancellable : Bool) : Event
  | sendIqAsync (stanza : Stanza) (id : Bytes) (cancellable : Bool) : Event
  | sendWhitespacePingAsync : Event
  | closeAsync (cancellable : Bool) : Event
  | forceCloseAsync (cancellable : Bool) : Event
  | registerHandler (type : StanzaType) (subType : SubType) (sender : Sender) (priority : ℕ)
      (pattern : Option Node) : Event
  | unregisterHandler (id : HandlerId) : Event
  | enablePowerSavingMode (enable : Bool) : Event
  /-- the cancellable of the element at a place of the queue is cancelled -/
  | cancelSend (k : ℕ) : Event
  | cancelIq (c : Call) : Event
  | cancelClose : Event
  /-- the connection has done its write operation, or it fails -/
  | written (r : Option Error) : Event
  /-- the connection reports an operation that it has refused -/
  | refused (k : ℕ) : Event
  | received (r : Except Error Stanza) : Event
  | forceClosed (r : Option Error) : Event
  /-- a completion in the idle queue -/
  | idle (k : ℕ) : Event

namespace State

variable (s : State)

/-- `wocky_c2s_porter_register_handler_from_by_stanza` and its siblings -/
def registerHandler (type : StanzaType) (subType : SubType) (sender : Sender) (priority : ℕ)
    (pattern : Option Node) : State :=
  match sender with
  | .anyone => s.registerHandlerInternal type subType .anyone priority pattern .user
  | .server => s.registerHandlerInternal type subType .server priority pattern .user
  | .jid jid =>
    match Addressing.decodeJid g jid with
    | none => s
    | some parts => s.registerHandlerInternal type subType (.jid parts) priority pattern .user

/-- A call of the porter by a user; `none` for the events that are none. -/
def api (e : Event) : Option State :=
  match e with
  | .start => some s.start
  | .sendAsync stanza cancellable => some (s.nextCall.sendAsync stanza cancellable (.user s.calls))
  | .sendIqAsync stanza id cancellable =>
    if s.iqReplyHandlers.any (·.id = id) then none
    else some (s.nextCall.sendIqAsync g s.calls stanza id cancellable)
  | .sendWhitespacePingAsync => some (s.nextCall.sendWhitespacePingAsync s.calls)
  | .closeAsync cancellable => some (s.nextCall.closeAsync s.calls cancellable)
  | .forceCloseAsync cancellable => some (s.nextCall.forceCloseAsync s.calls cancellable)
  | .registerHandler type subType sender priority pattern =>
    some (s.registerHandler g type subType sender priority pattern)
  | .unregisterHandler id => some (s.unregisterHandler id)
  | .enablePowerSavingMode enable => some (s.enablePowerSavingMode enable)
  | .cancelSend k => s.sendCancelledCb k
  | .cancelIq c => s.sendIqCancelledCb c
  | .cancelClose =>
    if s.closeCancellable.isSome then some (s.setCloseCancellable (some true)) else none
  | _ => none

/-- What the main loop runs. -/
def mainLoop (e : Event) : Option State :=
  match e with
  | .written r => s.output.map fun op => State.written { s with output := none } op r
  | .refused k =>
    s.refused[k]?.map fun op =>
      State.written { s with refused := s.refused.eraseIdx k } op (some .pending)
  | .received r =>
    if s.receives = 0 then none
    else some (State.stanzaReceivedCb g j { s with receives := s.receives - 1 } r)
  | .forceClosed r =>
    if s.forceCloses = 0 then none
    else some (State.connectionForceCloseCb { s with forceCloses := s.forceCloses - 1 } r)
  | .idle k =>
    s.idle[k]?.map fun entry =>
      State.complete { s with idle := s.idle.eraseIdx k } entry.1 (.ofError entry.2)
  | _ => none

/-- The user's code at the top of the stack returns. -/
def returnFrom (taken : Bool) : Option State :=
  match s.stack with
  | .user (.handler _) :: rest => some { s with stack := rest, returned := taken }
  | .user _ :: rest => some { s with stack := rest }
  | _ => none

/-- The C code at the top of the stack goes on. -/
def goOn : Option State :=
  match s.stack with
  | [] => none
  | .user _ :: _ => none
  | f :: rest => some (State.resume g j { s with stack := rest } f)

/-- One step. -/
def step (s : State) (e : Event) : Option State :=
  if s.fault.isSome then none
  else
    match e with
    | .tau => s.goOn g j
    | .ret taken => s.returnFrom taken
    | e =>
      match (if s.userTurn then s.api g e else none) with
      | some s' => some s'
      | none => if s.atRest then s.mainLoop g j e else none

end State

end Receiving

/-- A new porter, with the handlers of `wocky_c2s_porter_constructed`. -/
def State.new : State :=
  let s : State :=
    { sendingQueue := [], started := false, sendingWhitespacePing := false, closeResult := none
      closeCancellable := none, waitingToClose := false, remoteClosed := false
      localClosed := false, forceCloseResult := none, forceCloseCancellable := false
      forcedShutdown := false, handlers := [], nextHandlerId := 1, iqReplyHandlers := []
      powerSavingMode := false, unimportantQueue := [], output := none, refused := []
      receives := 0, forceCloses := 0, idle := [], stack := [], returned := false, calls := 0
      serials := 0, dispatches := 0, fault := none, log := [] }
  ((s.registerHandlerInternal .iq .result .anyone priorityMax none
    .handleIqReply).registerHandlerInternal .iq .error .anyone priorityMax none
    .handleIqReply).registerHandlerInternal .streamError .none .anyone priorityMax none
    .handleStreamError

end Porter
