/-
# The sending side of a share

The sending side of a share is the collection of `gtalk-file-collection.c` together
with its file transfer channels: what a channel reads from its local socket it
passes to the collection, the collection passes it to the agent, and a channel is
blocked while the agent has not taken everything.

The two call each other.  `route` runs the callbacks the collection makes while it
does something, in their order, and a channel that closes its session in one of
them closes it at once.
-/
import Gabble.GtalkCollectionReceive

namespace Gtalk

open Base64
open FtChannel (GTalkFileCollectionState Answers GTimeVal)
open Transition

/-! ## The collection and its channels -/

/-- The sending side of a share. -/
structure Sender where
  collection : State
  /-- what `nice_data_received_cb` has not used yet -/
  unread : Bytes
  /-- the file transfer channels, by their identities -/
  files : ℕ → FtChannel.State

def setFile (id : ℕ) (f : FtChannel.State) (s : Sender) : Sender :=
  { s with files := Function.update s.files id f }

/-- How the collection answers when a channel closes its session. -/
def answers (id : ℕ) (c : State) : Answers := ⟨channelExists id c && c.currentChannel ≠ some id, false⟩

/-- A channel closes its session; when the session is over there is nothing to
close. -/
def closeSession (id : ℕ) (c : State) : State := if c.sessionOver then c else terminate id c

/-- A callback of the collection; the channel may close its session in it.  A
channel that has let go of the collection is not called: what its own closing of
the session calls is in `FtChannel`. -/
def tell (s : Sender) : Effect → Sender
  | .stateChanged id state localTerminator =>
    if (s.files id).gtalkFileCollection then
      let f := FtChannel.gtalkFileCollectionStateChanged state localTerminator
        (answers id s.collection) (s.files id)
      setFile id f
        (if f.gtalkFileCollection then s
         else { s with collection := closeSession id s.collection })
    else s
  | .writeBlocked id blocked => setFile id (FtChannel.blockReceiving blocked (s.files id)) s
  | _ => s

/-- The collection has done something, and has called its channels. -/
def route (c : State) (s : Sender) : Sender :=
  (c.out.drop s.collection.out.length).foldl tell { s with collection := c }

/-- One round of reading a request. -/
def readShare (s : Sender) (buffer : Bytes) : Sender × ℕ :=
  (route (readAgent s.collection buffer).1 s, (readAgent s.collection buffer).2)

/-- `nice_data_received_cb` on the sending side. -/
def receive (data : Bytes) (s : Sender) : Sender :=
  let read := Segments.feed readShare (s, s.unread) data
  { read.1 with unread := read.2 }

/-- A channel passes data from its local socket to the collection:
`transport_handler` with `gtalk_file_collection_send_data` and
`gtalk_file_collection_completed`. -/
def pass (id : ℕ) (data : Bytes) (ret : ℤ) (now : GTimeVal) (s : Sender) : Sender :=
  let sent := sendData id data ret s.collection
  let s := route sent.1 s
  let f := FtChannel.transportHandler data sent.2 now (answers id s.collection) (s.files id)
  let s := setFile id f s
  if sent.2 then if FtChannel.short f then s else route (completed id s.collection) s
  else route (terminate id s.collection) s

/-- What happens to a channel without the collection. -/
def clientEvent (id : ℕ) (e : FtChannel.Event) (s : Sender) : Sender :=
  let f := FtChannel.handle (s.files id) e
  let closes := (s.files id).gtalkFileCollection && !f.gtalkFileCollection
  let s := setFile id f s
  if closes then route (terminate id s.collection) s else s

/-- `jingle_session_state_changed_cb` when the peer has accepted the session. -/
def sessionActive (c : State) : State :=
  { c with status := if c.status = .initiated then .accepted else c.status,
           out := c.out ++ (c.channels.filter Channel.usable).map fun ch =>
             .stateChanged ch.id .accepted false }

/-- `content_completed` -/
def contentCompleted (c : State) : State := tellAll .completed false c

/-! ## Steps -/

/-- What can happen to the sending side of a share. -/
inductive SendEvent : Type where
  | sessionActive : SendEvent
  | contentCompleted : SendEvent
  /-- a channel reads from its local socket; `ret` is what the agent returns -/
  | localData (id : ℕ) (data : Bytes) (ret : ℤ) (now : GTimeVal) : SendEvent
  | writable (ret : ℤ) : SendEvent
  | received (data : Bytes) : SendEvent
  | client (id : ℕ) (e : FtChannel.Event) : SendEvent
deriving DecidableEq

/-- The events of a channel that do not come from its collection. -/
def ofClient (a : Answers) : FtChannel.Event → Bool
  | .provideFile _ _ _ | .newConnection | .presencesUpdated _ | .progressTimeout _ => true
  | .transportDisconnected a' | .close a' | .dispose a' => a' = a
  | _ => false

/-- The channel is there and the event can happen to it. -/
def fileEnabled (f : FtChannel.State) (e : FtChannel.Event) : Bool :=
  !f.disposeHasRun && !f.aborted && FtChannel.enabled f e

/-- The channel passes what it reads to the collection. -/
def usesCollection (f : FtChannel.State) : Bool := f.gtalkFileCollection && !f.bytestream

/-- Whether an event can happen now. -/
def sendEnabled (s : Sender) : SendEvent → Bool
  | .localData id data _ now =>
    usesCollection (s.files id) && fileEnabled (s.files id) (.localData data true now ⟨false, false⟩)
  | .client id e => ofClient (answers id s.collection) e && fileEnabled (s.files id) e
  | _ => true

/-- What the code does when an event happens. -/
def sendHandle (s : Sender) : SendEvent → Sender
  | .sessionActive => route (sessionActive s.collection) s
  | .contentCompleted => route (contentCompleted s.collection) s
  | .localData id data ret now => pass id data ret now s
  | .writable ret => route (niceComponentWritable ret s.collection) s
  | .received data => receive data s
  | .client id e => clientEvent id e s

/-- One event; nothing happens to a share that is over. -/
def sendStep (s : Sender) (e : SendEvent) : Option Sender :=
  if s.collection.sessionOver || s.collection.aborted || !sendEnabled s e then none
  else some (sendHandle s e)

/-! ## What is passed to the agent -/

/-- A byte for the agent: of a response's head, or of a file. -/
inductive WireByte : Type where
  | head (byte : UInt8) : WireByte
  | body (byte : UInt8) : WireByte
deriving DecidableEq

/-- The bytes the agent took. -/
def wire (out : List Effect) : List WireByte :=
  out.flatMap fun e =>
    match e with
    | .agentSend text => text.map .head
    | .agentTook data => data.map .body
    | _ => []

/-- What waits in `write_buffer`. -/
def tail (c : State) : List WireByte := (c.writeBuffer.getD []).map .body

/-- What an event passes on: the data that is passed to
`gtalk_file_collection_send_data`, and the heads of the responses. -/
def passed (s : Sender) : SendEvent → List WireByte
  | .localData _ data _ _ => data.map .body
  | .received data => wire ((receive data s).collection.out.drop s.collection.out.length)
  | _ => []

/-- Everything that was passed on has reached the agent, in order, but for a tail;
and while the session goes on the tail follows as soon as the agent takes it. -/
def Delivers (given : List WireByte) (s : Sender) : Prop :=
  wire s.collection.out ++ tail s.collection = given ∧
    (Live s.collection → ∀ ret : ℕ, (tail s.collection).length ≤ ret →
      wire (niceComponentWritable ret s.collection).out = given)

/-- The channel with the bytes it has passed on. -/
def counted (data : Bytes) (f : FtChannel.State) : FtChannel.State :=
  { f with transferredBytes := f.transferredBytes + UInt64.ofNat data.length }

/-- The agent takes everything. -/
def takesAll (data : Bytes) (ret : ℤ) : Bool := !(ret < 0 || ret.toNat < data.length)

/-- The agent takes at once what a channel passes on when it has reached, or with
this reaches, the end of its file. -/
def takesEnd (s : Sender) : SendEvent → Bool
  | .localData id data ret _ =>
    takesAll data ret ||
      (s.collection.httpStatus = .serverSend &&
        FtChannel.short (counted data (s.files id)))
  | _ => true

end Gtalk
