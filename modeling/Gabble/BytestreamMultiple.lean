/-
# Bytestreams with fallback methods

The model of `bytestream-multiple.c`.  The peer offers several stream methods; a
multiple bytestream tries them in turn, each with a bytestream of its own, and
shows the state of the one that is active as its own state.  The factory owns
every bytestream: it has one table for each method, and drops a bytestream from
its table when it is `CLOSED` or when another one takes its place.

The underlying bytestreams are known by what they signal, in any order.
-/
import Gabble.Base64
import Gabble.BytestreamIbb
import Gabble.Transition

namespace Multiple

open Base64 (Bytes)
open Ibb (BytestreamState GError)
open Transition

/-! ## Data -/

/-- `NS_IBB` -/
def nsIbb : String := "http://jabber.org/protocol/ibb"

/-- `NS_BYTESTREAMS` -/
def nsBytestreams : String := "http://jabber.org/protocol/bytestreams"

/-- An underlying bytestream.  `connected` says that the multiple bytestream
listens to its signals, `registered` that the factory holds it. -/
structure Sub where
  id : ℕ
  method : String
  state : BytestreamState
  readBlocked : Bool
  connected : Bool
  registered : Bool
  deriving DecidableEq

/-- What is called and signalled. -/
inductive Effect where
  | stateChanged (state : BytestreamState)
  | initiate (id : ℕ)
  | acceptIq (methods : List String)
  | send (id : ℕ) (str : Bytes)
  | close (id : ℕ) (error : Option GError)
  | blockReading (id : ℕ) (block : Bool)
  | dataReceived (str : Bytes)
  | writeBlocked (blocked : Bool)
  deriving DecidableEq

/-- Who has the bytestream: the factory is still building it, its owner has it,
or nobody does. -/
inductive Phase where
  | building
  | handed
  | refused
  deriving DecidableEq

/-- `GabbleBytestreamMultiplePrivate`, with the bytestreams it has created and
the methods it was given.  `aborted` says that an assertion failed. -/
structure State where
  state : BytestreamState
  fallbackStreamMethods : List String
  activeBytestream : Option ℕ
  readBlocked : Bool
  subs : List Sub
  offered : List String
  phase : Phase
  out : List Effect
  aborted : Bool
  deriving DecidableEq

/-- A bytestream with no methods yet, of a peer (`LOCAL_PENDING`) or of our own
(`INITIATING`). -/
def new (incoming : Bool) : State where
  state := if incoming then .localPending else .initiating
  fallbackStreamMethods := []
  activeBytestream := none
  readBlocked := false
  subs := []
  offered := []
  phase := .building
  out := []
  aborted := false

/-! ## The code -/

def emit (effect : Effect) (s : State) : State := { s with out := s.out ++ [effect] }

def abort (s : State) : State := { s with aborted := true }

/-- The setter of the property `state`. -/
def setState (state : BytestreamState) (s : State) : State :=
  if s.state = state then s else emit (.stateChanged state) { s with state := state }

def updateSub (id : ℕ) (f : Sub → Sub) (s : State) : State :=
  { s with subs := s.subs.map fun sub => if sub.id = id then f sub else sub }

/-- `g_hash_table_remove` from the table of a method: the factory drops what it
has there. -/
def unregister (method : String) (s : State) : State :=
  { s with
    subs := s.subs.map fun sub =>
      if sub.method = method then { sub with registered := false } else sub }

/-- `stream_method_supported` -/
def streamMethodSupported (method : String) : Bool := method = nsIbb || method = nsBytestreams

/-- `gabble_bytestream_factory_create_from_method`, with the signals that
`bytestream_activate_next` connects. -/
def createFromMethod (method : String) (s : State) : State :=
  let s := unregister method s
  { s with
    subs := s.subs ++ [{
      id := s.subs.length
      method := method
      state := s.state
      readBlocked := s.readBlocked
      connected := true
      registered := true }]
    activeBytestream := some s.subs.length }

/-- `bytestream_activate_next` -/
def activateNext (s : State) : State :=
  if s.activeBytestream ≠ none then s
  else
    match s.fallbackStreamMethods with
    | [] => s
    | method :: rest =>
      let s := { s with fallbackStreamMethods := rest }
      if streamMethodSupported method then
        emit (.blockReading s.subs.length s.readBlocked) (createFromMethod method s)
      else abort s

/-- `gabble_bytestream_multiple_add_stream_method` -/
def addStreamMethod (method : String) (s : State) : State :=
  let s := { s with
    offered := s.offered ++ [method]
    fallbackStreamMethods := s.fallbackStreamMethods ++ [method] }
  if s.activeBytestream = none then activateNext s else s

/-- `gabble_bytestream_multiple_has_stream_method` -/
def hasStreamMethod (s : State) : Bool :=
  s.activeBytestream ≠ none || s.fallbackStreamMethods.length ≠ 0

/-- `gabble_bytestream_multiple_send` -/
def send (str : Bytes) (s : State) : State :=
  if s.state ≠ .opened then s
  else
    match s.activeBytestream with
    | none => abort s
    | some id => emit (.send id str) s

/-- A bytestream's own state, as the bytestream sets it.  The factory hears of
it first, then the multiple bytestream, if it listens. -/
def subSetState (sub : Sub) (state : BytestreamState) (s : State) : State :=
  if sub.state = state then s
  else
    let s := updateSub sub.id (fun sub => { sub with state := state }) s
    let s := if state = .closed then unregister sub.method s else s
    -- `bytestream_state_changed_cb`
    if sub.connected then setState state s else s

/-- `gabble_bytestream_multiple_accept`; `sent` says that the IQ could be sent. -/
def accept (sent : Bool) (s : State) : State :=
  if s.state ≠ .localPending then s
  else
    match s.subs.find? fun sub => s.activeBytestream = some sub.id with
    | none => s
    | some sub =>
      let s := emit (.acceptIq (sub.method :: s.fallbackStreamMethods)) s
      if sent then subSetState sub .accepted s else s

/-- `gabble_bytestream_multiple_close` -/
def close (error : Option GError) (s : State) : State :=
  if s.state = .closed then s
  else
    match s.activeBytestream with
    | some id => emit (.close id error) s
    | none => setState .closed s

/-- `gabble_bytestream_multiple_initiate`, without the result. -/
def initiate (s : State) : State :=
  if s.state ≠ .initiating then s
  else
    match s.activeBytestream with
    | none => s
    | some id => emit (.initiate id) s

/-- `gabble_bytestream_multiple_block_reading` -/
def blockReading (block : Bool) (s : State) : State :=
  if s.readBlocked = block then s
  else
    let s := { s with readBlocked := block }
    match s.activeBytestream with
    | none => abort s
    | some id =>
      emit (.blockReading id block)
        (updateSub id (fun sub => { sub with readBlocked := block }) s)

/-- Disconnect the four signals of a bytestream that failed. -/
def disconnect (id : ℕ) (s : State) : State :=
  { updateSub id (fun sub => { sub with connected := false }) s with activeBytestream := none }

/-- The other method is initiated too, when initiating is what failed. -/
def initiateNext (s : State) : State :=
  if s.state = .initiating then
    match s.activeBytestream with
    | none => abort s
    | some id => emit (.initiate id) s
  else s

/-- `bytestream_connection_error_cb` -/
def connectionErrorCb (failed : ℕ) (s : State) : State :=
  if s.activeBytestream ≠ some failed then abort s
  else if s.state ≠ .initiating ∧ s.state ≠ .accepted then abort s
  else
    let s := disconnect failed s
    if s.fallbackStreamMethods = [] then s else initiateNext (activateNext s)

/-- A bytestream emits `connection-error`, and then may set itself `CLOSED`, as
the initiator of a SOCKS5 bytestream does. -/
def connectionError (sub : Sub) (closes : Bool) (s : State) : State :=
  let s := if sub.connected then connectionErrorCb sub.id s else s
  if closes then
    unregister sub.method (updateSub sub.id (fun sub => { sub with state := .closed }) s)
  else s

/-- The factory has added all methods and passes the bytestream to its owner;
`ok` is the result of initiating the first method. -/
def handOver (ok : Bool) (s : State) : State :=
  if s.state = .initiating then
    if s.activeBytestream ≠ none ∧ ok then { initiate s with phase := .handed }
    else { initiate s with phase := .refused }
  else if hasStreamMethod s then { s with phase := .handed }
  else { close none s with phase := .refused }

/-! ## Runs -/

/-- What can happen. -/
inductive Event where
  | addStreamMethod (method : String)
  | handOver (ok : Bool)
  | accept (sent : Bool)
  | send (str : Bytes)
  | close (error : Option GError)
  | blockReading (block : Bool)
  /-- A bytestream sets its state. -/
  | subState (id : ℕ) (state : BytestreamState)
  | connectionError (id : ℕ) (closes : Bool)
  | dataReceived (id : ℕ) (str : Bytes)
  | writeBlocked (id : ℕ) (blocked : Bool)
  deriving DecidableEq

/-- A bytestream that the factory still holds. -/
def State.sub (s : State) (id : ℕ) : Option Sub :=
  s.subs.find? fun sub => sub.id = id && sub.registered

/-- One event.  Methods are added while the bytestream is built, its owner calls
it once it has it, and a bytestream signals as long as the factory holds it. -/
def step (s : State) : Event → Option State
  | .addStreamMethod method =>
    if s.phase = .building ∧ streamMethodSupported method then some (addStreamMethod method s)
    else none
  | .handOver ok => if s.phase = .building then some (handOver ok s) else none
  | .accept sent => if s.phase = .handed then some (accept sent s) else none
  | .send str => if s.phase = .handed then some (send str s) else none
  | .close error => if s.phase = .handed then some (close error s) else none
  | .blockReading block => if s.phase = .handed then some (blockReading block s) else none
  | .subState id state => (s.sub id).map fun sub => subSetState sub state s
  | .connectionError id closes => (s.sub id).map fun sub => connectionError sub closes s
  | .dataReceived id str =>
    (s.sub id).map fun sub => if sub.connected then emit (.dataReceived str) s else s
  | .writeBlocked id blocked =>
    (s.sub id).map fun sub => if sub.connected then emit (.writeBlocked blocked) s else s

end Multiple
