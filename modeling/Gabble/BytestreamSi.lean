/-
# Stream initiation requests

The model of `bytestream_factory_iq_si_cb`, which handles the requests of peers for a
bytestream.  A request is parsed, its sender is looked up, and a bytestream is created for
the stream methods that it offers: one that falls back from one method to the next if the
peer supports this, and one for the first method we know otherwise.  Then the bytestream is
passed to the handler of the profile, and whoever has it may accept or close it at any time.

The jids and handles are as the environment has them.
-/
import Gabble.BytestreamAnswers
import Gabble.BytestreamMultiple

namespace Si

open Base64 (Bytes)
open CText (ascii)
open Ibb (BytestreamState GError)
open Answered (View)

/-! ## Requests -/

/-- `NS_TUBES` -/
def nsTubes : String := "http://telepathy.freedesktop.org/xmpp/tubes"

/-- `NS_FILE_TRANSFER` -/
def nsFileTransfer : String := "http://jabber.org/protocol/si/profile/file-transfer"

/-- A child of the field with the stream methods: the text of its `value`, which may have
none, if it has a `value`. -/
structure OptionNode where
  value : Option (Option String)
deriving DecidableEq

/-- A field of the data form. -/
structure FieldNode where
  var : Option String
  type : Option String
  options : List OptionNode
deriving DecidableEq

/-- An IQ with an `si` node. -/
structure Request where
  id : Option Bytes
  fromJid : Option Bytes
  toJid : Option Bytes
  siId : Option Bytes
  mimeType : Option Bytes
  profile : Option String
  /-- the fields of the data form of the `feature` node, if there is such a node and form -/
  feature : Option (Option (List FieldNode))
  /-- there is a `si-multiple` node -/
  siMultiple : Bool
  tube : Bool
  stream : Bool
  mucStream : Bool
deriving DecidableEq

/-- What `streaminit_parse_request` finds in a request. -/
structure Parsed where
  profile : String
  fromJid : Bytes
  streamId : Bytes
  streamInitId : Option Bytes
  mimeType : Option Bytes
  streamMethods : List (Option String)
  multiple : Bool
deriving DecidableEq

/-- A stream method that is offered.  A `value` without a text is an offer too. -/
def OptionNode.streamMethod (option : OptionNode) : Option (Option String) :=
  match option.value with
  | none => none
  | some content => if content = some "" then none else some content

/-- The loop over the fields, which ends at the first one with stream methods. -/
def streamMethods : List FieldNode → Option (List (Option String))
  | [] => some []
  | field :: fields =>
    if field.var ≠ some "stream-method" then streamMethods fields
    else if field.type ≠ some "list-single" then none
    else some (field.options.filterMap OptionNode.streamMethod)

/-- `streaminit_parse_request` -/
def streaminitParseRequest (msg : Request) : Option Parsed := do
  let fromJid ← msg.fromJid
  let streamId ← msg.siId
  let profile ← msg.profile
  let x ← msg.feature
  let fields ← x
  let methods ← streamMethods fields
  if methods.isEmpty then none
  else
    some {
      profile := profile
      fromJid := fromJid
      streamId := streamId
      streamInitId := msg.id
      mimeType := msg.mimeType
      streamMethods := methods
      multiple := msg.siMultiple }

/-! ## Peers -/

/-- What the code asks others for. -/
structure Env where
  /-- `gabble_get_room_handle_from_jid` -/
  roomHandle : Bytes → ℕ
  /-- `wocky_decode_jid`: the resource, if there is one, of a jid that is one -/
  decodeJid : Bytes → Option (Option Bytes)
  /-- `tp_handle_ensure`, for a member of a room or not -/
  ensureHandle : Bytes → Bool → ℕ
  /-- `tp_handle_inspect` -/
  inspect : ℕ → Bytes
  /-- `gabble_muc_factory_find_text_channel`: our own jid in the room -/
  textChannel : ℕ → Option Bytes
  /-- `ENABLE_FILE_TRANSFER` -/
  fileTransfer : Bool
  /-- what comes of the writes to the transports of the streams -/
  writes : ℕ → List Socks5.Written

/-- The sender of a request. -/
structure Peer where
  handle : ℕ
  roomHandle : ℕ
  resource : Option Bytes
  selfJid : Option Bytes
deriving DecidableEq

/-- The sender, unless the request is ignored: the sender has no resource, or is in a room
in which we are not. -/
def findPeer (env : Env) (msg : Request) (p : Parsed) : Option Peer :=
  let roomHandle := env.roomHandle p.fromJid
  if roomHandle = 0 then
    match env.decodeJid p.fromJid with
    | some (some resource) =>
      some ⟨env.ensureHandle p.fromJid false, roomHandle, some resource, msg.toJid⟩
    | _ => none
  else
    match env.textChannel roomHandle with
    | some selfJid => some ⟨env.ensureHandle p.fromJid true, roomHandle, none, some selfJid⟩
    | none => none

/-- What a bytestream is created with. -/
structure Offer where
  streamId : Bytes
  peerJid : Bytes
  selfJid : Option Bytes
  mucContact : Bool
  writes : ℕ → List Socks5.Written

/-- The jid of the peer, with the resource if it is not in the handle. -/
def Peer.jid (env : Env) (peer : Peer) : Bytes :=
  match peer.resource with
  | some resource => env.inspect peer.handle ++ ascii "/" ++ resource
  | none => env.inspect peer.handle

def Peer.offer (env : Env) (p : Parsed) (peer : Peer) : Offer where
  streamId := p.streamId
  peerJid := peer.jid env
  selfJid := peer.selfJid
  mucContact := env.roomHandle (peer.jid env) ≠ 0
  writes := env.writes

/-! ## Streams of one method -/

/-- A bytestream of one method. -/
inductive Stream : Type where
  | ibb (s : Ibb.State) : Stream
  | socks5 (s : Socks5.State) : Stream

/-- What can happen to a bytestream of one method. -/
inductive StreamEvent : Type where
  | ibb (e : Ibb.Event) : StreamEvent
  | socks5 (e : Socks5.Event) : StreamEvent
deriving DecidableEq

/-- What its owner calls. -/
inductive Call : Type where
  | close (error : Option GError) : Call
  | send (str : Bytes) : Call
  | blockReading (block : Bool) : Call
deriving DecidableEq

/-- The state of a bytestream. -/
def Stream.state : Stream → BytestreamState
  | .ibb s => s.state
  | .socks5 s => s.bytestreamState

/-- An assertion has failed. -/
def Stream.aborted : Stream → Bool
  | .ibb _ => false
  | .socks5 s => s.aborted

/-- How often it has signalled an error of the connection. -/
def Stream.connectionErrors : Stream → ℕ
  | .ibb _ => 0
  | .socks5 s => s.out.countP fun e => e = .connectionError

/-- Setting the property "state". -/
def Stream.setState (state : BytestreamState) : Stream → Stream
  | .ibb s => .ibb (Ibb.setState s state)
  | .socks5 s => .socks5 (Socks5.setState state s)

/-- `gabble_bytestream_iface_block_reading` -/
def Stream.blockReading (block : Bool) : Stream → Stream
  | .ibb s => .ibb (Ibb.blockReading s block)
  | .socks5 s => .socks5 (Socks5.blockReading block s)

/-- One event. -/
def Stream.step (sha1Hex : Bytes → Bytes) : Stream → StreamEvent → Option Stream
  | .ibb s, .ibb e => (Ibb.openStep s e).map .ibb
  | .socks5 s, .socks5 e => (Socks5.step sha1Hex s e).map .socks5
  | _, _ => none

/-- The event that a call is for this bytestream. -/
def Stream.called : Stream → Call → StreamEvent
  | .ibb _, .close error => .ibb (.close error)
  | .ibb _, .send str => .ibb (.send str)
  | .ibb _, .blockReading block => .ibb (.blockReading block)
  | .socks5 _, .close error => .socks5 (.close error)
  | .socks5 _, .send str => .socks5 (.send str)
  | .socks5 _, .blockReading block => .socks5 (.blockReading block)

/-- The call builds the IQ that accepts the stream, whether it can be sent or not. -/
def Stream.buildsAccept (st : Stream) : StreamEvent → Bool
  | .ibb (.accept _) | .socks5 (.accept _) => st.state = .localPending
  | _ => false

/-- How often a bytestream has answered the request. -/
def Stream.answers : Stream → ℕ
  | .ibb s => Ibb.siAnswers s
  | .socks5 s => Socks5.siAnswers s

/-- What only the owner of a bytestream does. -/
def StreamEvent.isCall : StreamEvent → Bool
  | .ibb (.accept _) | .ibb (.close _) | .ibb (.send _) | .ibb (.blockReading _)
  | .ibb (.initiate _) => true
  | .socks5 (.accept _) | .socks5 (.close _) | .socks5 (.send _) | .socks5 (.blockReading _)
  | .socks5 (.initiate _ _ _) => true
  | _ => false

/-- What comes of creating a bytestream: `NULL`, a failed assertion, or the bytestream. -/
inductive Creation : Type where
  | null : Creation
  | failed : Creation
  | created (stream : Stream) : Creation

/-- `gabble_bytestream_factory_create_from_method`, for the `n`-th stream that a request
leads to.  A SOCKS5 bytestream needs our own jid. -/
def createFromMethod (offer : Offer) (n : ℕ) (method : Option String) (state : BytestreamState) :
    Creation :=
  if method = some Multiple.nsIbb then .created (.ibb (Ibb.State.new 4096 state))
  else if method = some Multiple.nsBytestreams then
    match offer.selfJid with
    | none => .failed
    | some selfJid =>
      .created (.socks5 (Socks5.State.new offer.streamId offer.peerJid selfJid offer.mucContact
        state (offer.writes n)))
  else .null

/-! ## Streams with fallback methods -/

/-- A multiple bytestream with the bytestreams of one method that it has created, and how
often it has accepted the stream itself. -/
structure Bundle where
  offer : Offer
  multiple : Multiple.State
  streams : List Stream
  accepts : ℕ
  disposed : Bool

namespace Bundle

/-- The bytestream that another method is tried with.  It is blocked if needed. -/
def newStream (offer : Offer) (sub : Multiple.Sub) : Option Stream :=
  match createFromMethod offer sub.id (some sub.method) sub.state with
  | .created stream => some (stream.blockReading sub.readBlocked)
  | _ => none

/-- The multiple bytestream does something, and creates bytestreams on the way. -/
def change (f : Multiple.State → Multiple.State) (b : Bundle) : Bundle :=
  { b with
    multiple := f b.multiple
    streams := b.streams ++
      ((f b.multiple).subs.drop b.multiple.subs.length).filterMap (newStream b.offer) }

/-- A bytestream signals something to the multiple bytestream. -/
def signal (id : ℕ) (f : Multiple.Sub → Multiple.State → Multiple.State) (b : Bundle) : Bundle :=
  match b.multiple.subs.find? fun sub => sub.id = id with
  | none => b
  | some sub => b.change (f sub)

/-- What the multiple bytestream hears when a bytestream goes from one state to another: an
error of the connection, and the state.  One that comes from a peer is never `INITIATING`,
so that the next bytestream is not initiated after an error.  Received data and blocked
writes are passed on. -/
def heard (id : ℕ) (st st' : Stream) (b : Bundle) : Bundle :=
  let b := { b with streams := b.streams.set id st' }
  let b :=
    if st.connectionErrors < st'.connectionErrors then
      b.signal id fun sub => Multiple.connectionError sub false
    else b
  b.signal id fun sub => Multiple.subSetState sub st'.state

/-- `gabble_bytestream_multiple_accept`; `sent` says that the IQ could be sent.  The state
of the active bytestream is set without a call of its own `accept`. -/
def accept (sent : Bool) (b : Bundle) : Bundle :=
  let b' := b.change (Multiple.accept sent)
  match b.multiple.activeBytestream with
  | none => b'
  | some id =>
    if sent && b.multiple.state = .localPending then
      { b' with
        streams := b'.streams.modify id (Stream.setState .accepted), accepts := b.accepts + 1 }
    else b'

section

variable (sha1Hex : Bytes → Bytes)

/-- Something happens to a bytestream of the bundle. -/
def happens (id : ℕ) (e : StreamEvent) (b : Bundle) : Option Bundle :=
  b.streams[id]?.bind fun st => (st.step sha1Hex e).map fun st' => b.heard id st st'

/-- A bytestream of the bundle is called. -/
def tell (id : ℕ) (call : Call) (b : Bundle) : Bundle :=
  (b.streams[id]?.bind fun st => b.happens sha1Hex id (st.called call)).getD b

/-- What the multiple bytestream has called is done. -/
def perform (b : Bundle) : Multiple.Effect → Bundle
  | .close id error => b.tell sha1Hex id (.close error)
  | .send id str => b.tell sha1Hex id (.send str)
  | .blockReading id block => b.tell sha1Hex id (.blockReading block)
  | _ => b

/-- The owner calls the multiple bytestream, which calls others. -/
def call (f : Multiple.State → Multiple.State) (b : Bundle) : Bundle :=
  ((f b.multiple).out.drop b.multiple.out.length).foldl (perform sha1Hex) (b.change f)

end

/-- A multiple bytestream that a peer has asked for, without methods. -/
def new (offer : Offer) : Bundle where
  offer := offer
  multiple := Multiple.new true
  streams := []
  accepts := 0
  disposed := false

/-- The loop over the stream methods: those we do not know are skipped. -/
def addMethods : Bundle → List (Option String) → Bundle
  | b, [] => b
  | b, none :: methods => addMethods b methods
  | b, some method :: methods =>
    addMethods
      (if Multiple.streamMethodSupported method then b.change (Multiple.addStreamMethod method)
        else b)
      methods

/-- `gabble_bytestream_multiple_dispose` -/
def dispose (sha1Hex : Bytes → Bytes) (b : Bundle) : Bundle :=
  let b := { b with disposed := true }
  if b.multiple.state ≠ .closed then b.call sha1Hex (Multiple.close none) else b

/-- An assertion has failed. -/
def aborted (b : Bundle) : Bool := b.multiple.aborted || b.streams.any Stream.aborted

/-- How often the request was answered, by the multiple bytestream or one of its own. -/
def answers (b : Bundle) : ℕ := b.accepts + (b.streams.map Stream.answers).sum

end Bundle

/-- What can happen to a multiple bytestream. -/
inductive BundleEvent : Type where
  | accept (sent : Bool) : BundleEvent
  | close (error : Option GError) : BundleEvent
  | send (str : Bytes) : BundleEvent
  | blockReading (block : Bool) : BundleEvent
  | dispose : BundleEvent
  /-- something happens to one of its bytestreams -/
  | stream (id : ℕ) (e : StreamEvent) : BundleEvent
deriving DecidableEq

/-- The call builds the IQ that accepts the stream, whether it can be sent or not. -/
def Bundle.buildsAccept (b : Bundle) : BundleEvent → Bool
  | .accept _ => b.multiple.state = .localPending && b.multiple.activeBytestream ≠ none
  | _ => false

/-- One event.  The owner calls the bytestream until it drops it. -/
def Bundle.step (sha1Hex : Bytes → Bytes) (b : Bundle) (e : BundleEvent) : Option Bundle :=
  if b.aborted then none
  else
    match e with
    | .accept sent => if b.disposed then none else some (b.accept sent)
    | .close error =>
      if b.disposed then none else some (b.call sha1Hex (Multiple.close error))
    | .send str => if b.disposed then none else some (b.call sha1Hex (Multiple.send str))
    | .blockReading block =>
      if b.disposed then none else some (b.call sha1Hex (Multiple.blockReading block))
    | .dispose => if b.disposed then none else some (b.dispose sha1Hex)
    | .stream id e => if e.isCall then none else b.happens sha1Hex id e

/-! ## The request -/

/-- What has become of a request. -/
inductive Outcome : Type where
  | ignored : Outcome
  /-- an assertion has failed -/
  | aborted : Outcome
  | replied (error : GError) : Outcome
  | single (st : Stream) : Outcome
  | multiple (b : Bundle) : Outcome

/-- What can happen after the request. -/
inductive Event : Type where
  | single (e : StreamEvent) : Event
  | multiple (e : BundleEvent) : Event
deriving DecidableEq

/-- How often the request was answered. -/
def Outcome.answers : Outcome → ℕ
  | .replied _ => 1
  | .single st => st.answers
  | .multiple b => b.answers
  | _ => 0

/-- `wocky_porter_send_iq_error` and `wocky_porter_send_iq_gerror`: there is no reply to an
IQ without an `id`. -/
def sendIqError (msg : Request) (error : GError) : Outcome :=
  if msg.id = none then .ignored else .replied error

/-- What comes of a call that may have built an answer, given the `id` of the request: the
builder asserts that the attribute has a value. -/
def Outcome.built (id : Option Bytes) (accepts : Bool) (outcome outcome' : Outcome) : Outcome :=
  if id = none ∧ (accepts = true ∨ outcome.answers < outcome'.answers) then .aborted
  else outcome'

section

variable (sha1Hex : Bytes → Bytes)

/-- One event; `id` is that of the request. -/
def Outcome.step (id : Option Bytes) : Outcome → Event → Option Outcome
  | .single st, .single e =>
    (st.step sha1Hex e).map fun st' =>
      Outcome.built id (st.buildsAccept e) (.single st) (.single st')
  | .multiple b, .multiple e =>
    (b.step sha1Hex e).map fun b' =>
      Outcome.built id (b.buildsAccept e) (.multiple b) (.multiple b')
  | _, _ => none

/-- `gabble_bytestream_iface_close` -/
def Outcome.close (id : Option Bytes) (error : Option GError) : Outcome → Outcome
  | .single st =>
    Outcome.built id false (.single st)
      (.single ((st.step sha1Hex (st.called (.close error))).getD st))
  | .multiple b =>
    Outcome.built id false (.multiple b) (.multiple (b.call sha1Hex (Multiple.close error)))
  | outcome => outcome

/-- The loop over the stream methods without fallback. -/
def createSingle (msg : Request) (offer : Offer) : List (Option String) → Outcome
  | [] => sendIqError msg ⟨.noValidStreams, some ""⟩
  | method :: methods =>
    match createFromMethod offer 0 method .localPending with
    | .null => createSingle msg offer methods
    | .failed => .aborted
    | .created st => .single st

/-- `si_tube_received`: the factories of the tubes get the bytestream. -/
def siTubeReceived (msg : Request) (peer : Peer) (bytestream : Outcome) : Outcome :=
  if msg.tube then bytestream
  else if msg.stream then bytestream
  else if msg.mucStream then
    if peer.roomHandle = 0 then
      bytestream.close sha1Hex msg.id
        (some ⟨.badRequest, some "<muc-stream> is only valid in a MUC context"⟩)
    else bytestream
  else
    bytestream.close sha1Hex msg.id
      (some ⟨.badRequest,
        some "Invalid tube SI request: expected <tube>, <stream> or <muc-stream>"⟩)

/-- The end of `bytestream_factory_iq_si_cb`: the handler of the profile gets the
bytestream. -/
def inform (env : Env) (msg : Request) (p : Parsed) (peer : Peer) (bytestream : Outcome) :
    Outcome :=
  if p.profile = nsTubes then siTubeReceived sha1Hex msg peer bytestream
  else if env.fileTransfer && p.profile = nsFileTransfer then bytestream
  else bytestream.close sha1Hex msg.id (some ⟨.badProfile, some ""⟩)

/-- `bytestream_factory_iq_si_cb` -/
def iqSiCb (env : Env) (msg : Request) : Outcome :=
  match streaminitParseRequest msg with
  | none => sendIqError msg ⟨.badRequest, some "failed to parse SI request"⟩
  | some p =>
    match findPeer env msg p with
    | none => .ignored
    | some peer =>
      if peer.handle = 0 then sendIqError msg ⟨.jidMalformed, none⟩
      else if p.multiple then
        -- the constructor asserts that our own jid is there
        if peer.selfJid = none then .aborted
        else
          let b := (Bundle.new (peer.offer env p)).addMethods p.streamMethods
          if Multiple.hasStreamMethod b.multiple then
            inform sha1Hex env msg p peer (.multiple b)
          else (Outcome.multiple b).close sha1Hex msg.id (some ⟨.noValidStreams, some ""⟩)
      else
        match createSingle msg (peer.offer env p) p.streamMethods with
        | .single st => inform sha1Hex env msg p peer (.single st)
        | outcome => outcome

end

/-! ## Answers -/

/-- The bytestream waits for its owner to accept or decline it. -/
def Outcome.Waits : Outcome → Prop
  | .single st => st.state = .localPending
  | .multiple b => b.multiple.state = .localPending
  | _ => False

instance : (outcome : Outcome) → Decidable outcome.Waits
  | .single st => inferInstanceAs (Decidable (st.state = .localPending))
  | .multiple b => inferInstanceAs (Decidable (b.multiple.state = .localPending))
  | .ignored => .isFalse id
  | .aborted => .isFalse id
  | .replied _ => .isFalse id

/-- What is seen of a request. -/
def view : View Outcome where
  waiting := Outcome.Waits
  answers := Outcome.answers
  lost _ := False

/-- The streamhost does not complete the negotiation of a stream that is pending. -/
def Stream.Patient : Stream → StreamEvent → Prop
  | .socks5 s, .socks5 e => s.bytestreamState = .localPending → Socks5.completes s e = false
  | _, _ => True

def Bundle.Patient (b : Bundle) : BundleEvent → Prop
  | .stream id e => ∀ st ∈ b.streams[id]?, st.Patient e
  | _ => True

/-- The condition on one event. -/
def Patient : Outcome → Event → Prop
  | .single st, .single e => st.Patient e
  | .multiple b, .multiple e => b.Patient e
  | _, _ => True

/-- A stream method that we know. -/
def Usable (method : Option String) : Prop := method.any Multiple.streamMethodSupported = true

/-- The request has an `id`, it is not ignored, and what is created for it can answer:
there is a method for a bytestream with fallback, and our own jid for those that need it. -/
def Heard (env : Env) (msg : Request) : Prop :=
  msg.id ≠ none ∧
    ∀ p ∈ streaminitParseRequest msg, ∃ peer ∈ findPeer env msg p,
      peer.handle = 0 ∨
        if p.multiple then peer.selfJid ≠ none ∧ ∃ method ∈ p.streamMethods, Usable method
        else
          peer.selfJid ≠ none ∨
            p.streamMethods.find? (fun method => method.any Multiple.streamMethodSupported) ≠
              some (some Multiple.nsBytestreams)

/-- The request is answered once, in every later run in which no streamhost is ahead of the
user, and with an error if no method that it offers is known. -/
def AnsweredOnce (sha1Hex : Bytes → Bytes) (env : Env) (msg : Request) : Prop :=
  (∀ outcome,
      Transition.Reachable (Outcome.step sha1Hex msg.id) Patient (iqSiCb sha1Hex env msg) outcome →
        view.Once outcome) ∧
    ∀ p ∈ streaminitParseRequest msg, (∀ method ∈ p.streamMethods, ¬ Usable method) →
      ∃ error, iqSiCb sha1Hex env msg = .replied error

end Si
