/-
# Jingle contents

A session has contents (an audio stream, a shared file), each with a transport that collects
candidates.  This module has the contents and their transports as far as the session's own logic
goes, and the state of a session: the two tables of contents, the calls that are in progress while
a signal's handlers run, and a log of what comes in and goes out.
-/
import Gabble.JingleActions

namespace Jingle

/-! ## Contents -/

/-- `WockyJingleContentState` -/
inductive ContentState : Type where
  | empty | new | sent | acknowledged | removing
  deriving DecidableEq

/-- The number of a content's state in the enumeration. -/
def ContentState.rank : ContentState → ℕ
  | empty => 0
  | new => 1
  | sent => 2
  | acknowledged => 3
  | removing => 4

/-- `WockyJingleContentSenders` -/
inductive Senders : Type where
  | none | initiator | responder | both
  deriving DecidableEq

/-- `parse_senders` -/
def parseSenders : Option String → Senders
  | some "initiator" => .initiator
  | some "responder" => .responder
  | some "both" => .both
  | _ => .none

/-- `produce_senders`; `none` is the assertion that is not reached -/
def produceSenders : Senders → Option String
  | .initiator => some "initiator"
  | .responder => some "responder"
  | .both => some "both"
  | .none => none

/-- `WockyJingleMediaType` -/
inductive MediaType : Type where
  | none | audio | video
  deriving DecidableEq

/-- The classes of contents: `WockyJingleMediaRtp` and `GabbleJingleShare`. -/
inductive ContentType : Type where
  | mediaRtp | share
  deriving DecidableEq

/-- `get_default_senders` of the class -/
def ContentType.defaultSenders : ContentType → Senders
  | mediaRtp => .both
  | share => .initiator

/-- `WOCKY_XMPP_NS_JINGLE_RTP` -/
def nsJingleRtp : String := "urn:xmpp:jingle:apps:rtp:1"

/-- `WOCKY_XMPP_NS_JINGLE_DESCRIPTION_AUDIO` -/
def nsJingleDescriptionAudio : String := "http://jabber.org/protocol/jingle/description/audio"

/-- `WOCKY_XMPP_NS_JINGLE_DESCRIPTION_VIDEO` -/
def nsJingleDescriptionVideo : String := "http://jabber.org/protocol/jingle/description/video"

/-- `wocky_jingle_factory_lookup_content_type`, with what `jingle_media_rtp_register` and
`jingle_share_register` register -/
def lookupContentType (ns : String) : Option ContentType :=
  if ns ∈ [nsJingleRtp, nsJingleDescriptionAudio, nsJingleDescriptionVideo, nsGoogleSessionPhone,
      nsGoogleSessionVideo] then some .mediaRtp
  else if ns = nsGoogleSessionShare then some .share
  else none

/-- `extract_media_type`: the type, or `none` for an error, of a description whose namespace the
class is registered for -/
def extractMediaType (node : DescriptionNode) : Option MediaType :=
  if node.ns = nsJingleRtp then
    if node.media = some "audio" then some .audio
    else if node.media = some "video" then some .video
    else none
  else if node.ns = nsJingleDescriptionAudio ∨ node.ns = nsGoogleSessionPhone then some .audio
  else some .video

/-- `produce_description_node` for RTP, and the share's: `none` is an assertion, and there is no
node of its own in the older Google dialect. -/
def produceDescription (type : ContentType) (media : MediaType) (dialect : Dialect) :
    Option (Option DescriptionNode) :=
  match type, dialect, media with
  | .share, _, _ => some (some ⟨nsGoogleSessionShare, none⟩)
  | .mediaRtp, .gtalk3, _ => some none
  | .mediaRtp, .gtalk4, .audio => some (some ⟨nsGoogleSessionPhone, none⟩)
  | .mediaRtp, .gtalk4, _ => none
  | .mediaRtp, .v015, .audio => some (some ⟨nsJingleDescriptionAudio, none⟩)
  | .mediaRtp, .v015, .video => some (some ⟨nsJingleDescriptionVideo, none⟩)
  | .mediaRtp, .v015, .none => some (some ⟨"", none⟩)
  | .mediaRtp, _, .audio => some (some ⟨nsJingleRtp, some "audio"⟩)
  | .mediaRtp, _, .video => some (some ⟨nsJingleRtp, some "video"⟩)
  | .mediaRtp, _, .none => none

/-! ## Transports -/

/-- `WockyJingleTransportType` -/
inductive TransportKind : Type where
  | googleP2p | rawUdp | iceUdp
  deriving DecidableEq

/-- `wocky_jingle_factory_lookup_transport`, with what the three transports register -/
def lookupTransport (ns : String) : Option TransportKind :=
  if ns = "" ∨ ns = nsGoogleTransportP2p then some .googleP2p
  else if ns = "urn:xmpp:jingle:transports:raw-udp:1" then some .rawUdp
  else if ns = "urn:xmpp:jingle:transports:ice-udp:1" then some .iceUdp
  else none

/-- What a local candidate is grouped by when it is sent. -/
structure Candidate where
  username : Option String
  component : ℕ
  deriving DecidableEq

/-- A transport: its local candidates, those that are not sent yet, and whether it has candidates
of the peer.  `components` are the components a Google transport has a name for. -/
structure Transport where
  kind : TransportKind
  connected : Bool
  localCandidates : List Candidate
  pendingCandidates : List Candidate
  hasRemoteCandidates : Bool
  components : List ℕ
  deriving DecidableEq

/-- What is left after one turn of the ICE transport's `inject_candidates`: it stops at the first
candidate with another user name than the first one that has a user name. -/
def restOfBatch : Option String → List Candidate → List Candidate
  | _, [] => []
  | none, c :: cs => restOfBatch c.username cs
  | some username, c :: cs =>
    if c.username = some username then restOfBatch (some username) cs else c :: cs

/-- How many more turns it takes after the present one. -/
def furtherBatches : Option String → List Candidate → ℕ
  | _, [] => 0
  | none, c :: cs => furtherBatches c.username cs
  | some username, c :: cs =>
    if c.username = some username then furtherBatches (some username) cs
    else furtherBatches c.username cs + 1

namespace Transport

/-- A new transport of a content: `transport_created` names the components of RTP. -/
def new (kind : TransportKind) (type : ContentType) : Transport where
  kind := kind
  connected := false
  localCandidates := []
  pendingCandidates := []
  hasRemoteCandidates := false
  components := if type = .mediaRtp then [1, 2] else []

/-- `wocky_jingle_transport_iface_can_accept` -/
def canAccept (t : Transport) : Bool :=
  t.connected && (t.kind ≠ .rawUdp || !t.localCandidates.isEmpty)

/-- `new_local_candidates` -/
def newLocalCandidates (cs : List Candidate) (t : Transport) : Transport :=
  match t.kind with
  | .rawUdp => if t.localCandidates.isEmpty then { t with localCandidates := cs } else t
  | _ => { t with
      localCandidates := t.localCandidates ++ cs
      pendingCandidates := t.pendingCandidates ++ cs }

/-- `inject_candidates`: how many go into the node, and the transport after it; `none` is the
assertion of the raw UDP transport. -/
def injectCandidates (t : Transport) : Option (ℕ × Transport) :=
  match t.kind with
  | .googleP2p => some (0, t)
  | .rawUdp => if t.localCandidates.isEmpty then none else some (t.localCandidates.length, t)
  | .iceUdp =>
    some (t.pendingCandidates.length - (restOfBatch none t.pendingCandidates).length,
      { t with pendingCandidates := restOfBatch none t.pendingCandidates })

/-- How many stanzas `group_and_transmit_candidates` sends: one for each component that has a
name. -/
def groups (cs : List Candidate) (t : Transport) : ℕ :=
  ((cs.map (·.component)).dedup.filter (· ∈ t.components)).length

/-- How many `transport-info` stanzas `send_candidates` sends. -/
def sends (all : Bool) (t : Transport) : ℕ :=
  match t.kind with
  | .googleP2p => if all then t.groups t.localCandidates else t.groups t.pendingCandidates
  | .rawUdp => 0
  | .iceUdp =>
    if t.pendingCandidates.isEmpty then 0 else furtherBatches none t.pendingCandidates + 1

/-- The transport after `send_candidates`. -/
def afterSend (t : Transport) : Transport := { t with pendingCandidates := [] }

/-- The transport after `parse_candidates` of a node it accepts. -/
def afterParse (node : TransportNode) (t : Transport) : Transport :=
  { t with hasRemoteCandidates := t.hasRemoteCandidates || 0 < node.candidates }

end Transport

/-- The number of a content among those a session has made. -/
abbrev ContentId := ℕ

/-- `WockyJingleContentPrivate` -/
structure Content where
  name : Option String
  createdByUs : Bool
  state : ContentState
  senders : Senders
  contentNs : Option String
  transportNs : Option String
  disposition : String
  transport : Option Transport
  mediaReady : Bool
  haveLocalCandidates : Bool
  /-- the idle source that sends Google's `transport-accept` -/
  gtalk4Event : Bool
  type : ContentType
  mediaType : MediaType
  remoteMute : Bool
  deriving DecidableEq

/-- `wocky_jingle_content_is_ready` -/
def Content.isReady (c : Content) : Bool :=
  if c.createdByUs then
    c.mediaReady && c.state = .empty && (c.type ≠ .mediaRtp || c.haveLocalCandidates)
  else
    c.mediaReady && c.state = .new &&
      (c.type ≠ .mediaRtp || (c.transport.map Transport.canAccept).getD false)

/-! ## Sessions -/

/-- What a stanza is refused with. -/
inductive StanzaError : Type where
  | unknownSession | unknownAction | malformedStanza | undefinedAction | outOfOrder
  | nameUnset | creatorMissing | creatorInvalid | noSuchContent
  | unsupportedContentType | contentExists | missingAttributes | unsupportedTransport
  | invalidSenders | invalidDescription | missingDescription | invalidCandidates
  | missingTransport | notRtp | unsupportedInfo
  deriving DecidableEq

/-- What `_foreach_content` calls for every content of a stanza. -/
inductive ContentHandler : Type where
  | add | remove | rejected (reason : Reason) | modify | replace | accept | descriptionInfo
  deriving DecidableEq

/-- A signal that code outside the session has handlers for. -/
inductive Signal : Type where
  | sessionState | terminated | newSession | aboutToInitiate | remoteStateChanged
  | newContent (c : ContentId) | contentRejected (c : ContentId)
  | contentState (c : ContentId) | contentSenders (c : ContentId) | contentRemoved (c : ContentId)
  | remoteDescription (c : ContentId) | remoteCandidates (c : ContentId) | remoteMute
  | info (c : ContentId)
  deriving DecidableEq

/-- The callback of an IQ the session sends. -/
inductive ReplyHandler : Type where
  | initiate | accept | remove (c : ContentId)
  deriving DecidableEq

/-- A call that is in progress: it waits for the handlers of a signal, or goes on after them. -/
inductive Frame : Type where
  /-- the handlers of a signal run -/
  | user (signal : Signal) : Frame
  /-- `set_state`, after the notification -/
  | enteredState (state : SessionState) (reason : Reason) (text : Option String) : Frame
  /-- `try_session_initiate_or_accept`, after `about-to-initiate` -/
  | composing (action : Action) : Frame
  /-- `_map_initial_contents` with `_fill_content`, after the notification of a content -/
  | filling (draft : Draft) (todo : List ContentId) : Frame
  /-- `try_session_initiate_or_accept`, after `set_state` -/
  | transmitCandidates : Frame
  /-- `wocky_jingle_session_send_rtp_info`, after `set_state` -/
  | sendRtpInfo (name : String) : Frame
  /-- the loop of `_foreach_content` -/
  | foreachContent (handler : ContentHandler) (nodes : List ContentNode) : Frame
  /-- `on_session_initiate`, after the first of two Google contents -/
  | gtalkAudio (node : ContentNode) : Frame
  /-- `on_session_initiate`, after the contents -/
  | sessionInitiated : Frame
  /-- the loop of `on_session_accept` over all contents -/
  | acceptAll (cs : List ContentId) (node : ContentNode) : Frame
  /-- `on_session_accept`, after the contents -/
  | sessionAccepted : Frame
  /-- `on_session_accept`, after `set_state` -/
  | notifyContents (cs : List ContentId) : Frame
  /-- `on_session_accept`, after the contents are notified -/
  | stopRinging : Frame
  /-- `_each_content_rejected`, after its signal -/
  | rejected (c : ContentId) : Frame
  /-- `_each_content_replace`, after the removal -/
  | replaceAdd (c : ContentId) (node : ContentNode) : Frame
  /-- `wocky_jingle_content_parse_accept`, after the senders -/
  | acceptDescription (c : ContentId) (node : ContentNode) : Frame
  /-- `wocky_jingle_content_parse_accept`, after the description -/
  | acceptAcknowledge (c : ContentId) (node : ContentNode) : Frame
  /-- `wocky_jingle_content_parse_accept`, after the state -/
  | acceptCandidates (c : ContentId) (node : ContentNode) : Frame
  /-- the loop of `on_session_info` -/
  | payloads (rest : List Payload) (understood hitAnError : Bool) : Frame
  /-- the loop of `on_transport_info` over the contents of the stanza -/
  | transportInfos (nodes : List ContentNode) : Frame
  /-- the loop of `on_transport_info` over the initiator's contents -/
  | transportInfoAll (cs : List ContentId) (node : TransportNode) : Frame
  /-- the loop of `on_info` -/
  | infoAll (cs : List ContentId) : Frame
  /-- `_content_remove`, after the notification -/
  | sendRemove (c : ContentId) (reason : Reason) : Frame
  /-- `_maybe_ready`, after `send_content_add_or_accept` -/
  | sendCandidates (c : ContentId) : Frame
  /-- `wocky_jingle_content_add_candidates`, after `_maybe_ready` -/
  | addedCandidates (c : ContentId) : Frame
  /-- `wocky_jingle_content_change_direction`, after the notification -/
  | sendModify (c : ContentId) : Frame
  /-- `wocky_jingle_session_add_content`, after `create_content` -/
  | addedContent (name : String) : Frame
  /-- `_on_initiate_reply`, after `set_state` -/
  | startRinging : Frame
  /-- `jingle_cb`, after `wocky_jingle_session_parse` -/
  | parsed (isNew : Bool) (iq : ℕ) : Frame
  /-- `jingle_cb`, after `new-session` -/
  | acknowledge (iq : ℕ) : Frame
  deriving DecidableEq

/-- What ends a run: an assertion that fails, or a node that is not there and is looked into. -/
inductive Fault : Type where
  | assertion | missingNode
  deriving DecidableEq

/-- What comes in, goes out or is announced. -/
inductive Entry : Type where
  /-- a set of the peer comes in for this session, or starts it -/
  | received (isNew : Bool) (iq : ℕ) (stanza : Stanza)
  /-- a set of the peer comes in while there is no such session -/
  | refused (iq : ℕ) (stanza : Stanza)
  /-- the reply to a set comes in -/
  | replied (iq : ℕ) (result : Bool)
  /-- a set is sent -/
  | sent (iq : ℕ) (stanza : Stanza)
  /-- a set of the peer is acknowledged -/
  | acknowledged (iq : ℕ)
  /-- a set of the peer is answered by an error -/
  | refusedWith (iq : ℕ) (e : StanzaError)
  /-- the property `state` changes -/
  | entered (state : SessionState)
  /-- `terminated` is emitted -/
  | terminated (locally : Bool) (reason : Reason) (text : Option String)
  deriving DecidableEq

/-- Whether a session is in the factory's table: a session the peer starts is made when its
`session-initiate` comes in, and every session is taken out of the table when it has ended. -/
inductive Registration : Type where
  | unborn | known | gone
  deriving DecidableEq

/-- `WockyJingleSessionPrivate`, with the factory's entry for the session.  `announced` says that
the application has been told about the session.  `verdicts` are what the class of a content says
of the descriptions, and a transport of the candidates, of the stanza at hand; `error` is the
error of its handler. -/
structure State where
  localInitiator : Bool
  dialect : Dialect
  state : SessionState
  locallyAccepted : Bool
  locallyTerminated : Bool
  localHold : Bool
  remoteHold : Bool
  remoteRinging : Bool
  initiatorContents : List (String × ContentId)
  responderContents : List (String × ContentId)
  contents : List Content
  registration : Registration
  announced : Bool
  /-- the peer has `WOCKY_QUIRK_OMITS_CONTENT_CREATORS` -/
  omitsCreators : Bool
  /-- the peer has `WOCKY_QUIRK_GOOGLE_WEBMAIL_CLIENT` -/
  googleWebmail : Bool
  nextIq : ℕ
  awaiting : List (ℕ × ReplyHandler)
  idleRejects : List Draft
  verdicts : List Bool
  error : Option StanzaError
  stack : List Frame
  log : List Entry
  fault : Option Fault
  deriving DecidableEq

end Jingle
