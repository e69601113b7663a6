/-
# Jingle actions

A Jingle session speaks one of four dialects: the current standard, the draft 0.15 of it, and the
two Google Talk protocols.  This module has the stanzas, the names the dialects have for the
actions, the actions a dialect has, and those a session accepts in each of its states.
-/
import Gabble.ListCursor

namespace Jingle

/-! ## Dialects, states and actions -/

/-- `WockyJingleDialect` -/
inductive Dialect : Type where
  | error | gtalk3 | gtalk4 | v015 | v032
  deriving DecidableEq

/-- `WOCKY_JINGLE_DIALECT_IS_GOOGLE` -/
def Dialect.isGoogle : Dialect → Bool
  | gtalk3 | gtalk4 => true
  | _ => false

/-- `WockyJingleState` -/
inductive SessionState : Type where
  | pendingCreated | pendingInitiateSent | pendingInitiated | pendingAcceptSent | active | ended
  deriving DecidableEq

/-- The number of a state in the enumeration, which the code compares states by. -/
def SessionState.rank : SessionState → ℕ
  | pendingCreated => 0
  | pendingInitiateSent => 1
  | pendingInitiated => 2
  | pendingAcceptSent => 3
  | active => 4
  | ended => 5

/-- `WockyJingleAction`, in the order of the header -/
inductive Action : Type where
  | unknown | contentAccept | contentAdd | contentModify | contentRemove | contentReplace
  | contentReject | sessionAccept | sessionInfo | sessionInitiate | sessionTerminate
  | transportInfo | transportAccept | descriptionInfo | info
  deriving DecidableEq

/-- `WockyJingleReason` -/
inductive Reason : Type where
  | unknown | alternativeSession | busy | cancel | connectivityError | decline | expired
  | failedApplication | failedTransport | generalError | gone | incompatibleParameters
  | mediaError | securityError | success | timeout | unsupportedApplications
  | unsupportedTransports
  deriving DecidableEq

/-- `wocky_jingle_session_get_reason_name`: the nick of the enumeration's value -/
def Reason.name : Reason → String
  | unknown => "unknown"
  | alternativeSession => "alternative-session"
  | busy => "busy"
  | cancel => "cancel"
  | connectivityError => "connectivity-error"
  | decline => "decline"
  | expired => "expired"
  | failedApplication => "failed-application"
  | failedTransport => "failed-transport"
  | generalError => "general-error"
  | gone => "gone"
  | incompatibleParameters => "incompatible-parameters"
  | mediaError => "media-error"
  | securityError => "security-error"
  | success => "success"
  | timeout => "timeout"
  | unsupportedApplications => "unsupported-applications"
  | unsupportedTransports => "unsupported-transports"

/-- The values of `WockyJingleReason`. -/
def reasons : List Reason :=
  [.unknown, .alternativeSession, .busy, .cancel, .connectivityError, .decline, .expired,
    .failedApplication, .failedTransport, .generalError, .gone, .incompatibleParameters,
    .mediaError, .securityError, .success, .timeout, .unsupportedApplications,
    .unsupportedTransports]

/-- `wocky_enum_from_nick` on the reasons -/
def reasonFromNick (nick : String) : Option Reason := reasons.find? (·.name == nick)

/-! ## Stanzas -/

/-- A `<transport/>`: its namespace, and how many `<candidate/>` children it has. -/
structure TransportNode where
  ns : String
  candidates : ℕ
  deriving DecidableEq

/-- A `<description/>`: its namespace and its attribute `media`. -/
structure DescriptionNode where
  ns : String
  media : Option String
  deriving DecidableEq

/-- A `<content/>`, or the `<session/>` of Google Talk seen as one: its attributes, its
`<description/>` and its `<transport/>`. -/
structure ContentNode where
  name : Option String
  creator : Option String
  senders : Option String
  disposition : Option String
  description : Option DescriptionNode
  transport : Option TransportNode
  deriving DecidableEq

/-- A node without attributes and children. -/
def ContentNode.empty : ContentNode := ⟨none, none, none, none, none, none⟩

/-- A child of a `session-info`. -/
structure Payload where
  ns : String
  element : String
  name : Option String
  creator : Option String
  deriving DecidableEq

/-- A `<reason/>`: the names of its children, and the text of its `<text/>`. -/
structure ReasonNode where
  elements : List String
  text : Option String
  deriving DecidableEq

/-- A `<jingle/>` or `<session/>`: the text of the attribute `action` (Google's is `type`), what
it has as a content of its own, its `<content/>` children, its `<reason/>`, and its children as a
`session-info` has them. -/
structure SessionNode where
  action : Option String
  body : ContentNode
  contents : List ContentNode
  reason : Option ReasonNode
  payloads : List Payload
  deriving DecidableEq

/-- An IQ of type `set`, by the children a session looks for. -/
structure Stanza where
  /-- `<jingle/>` of the current standard -/
  jingle : Option SessionNode
  /-- `<jingle/>` of draft 0.15 -/
  jingle015 : Option SessionNode
  /-- `<session/>` of Google Talk -/
  session : Option SessionNode
  deriving DecidableEq

/-! ## Names of actions -/

/-- `parse_action` -/
def parseAction : Option String → Action
  | none => .unknown
  | some txt =>
    if txt = "initiate" ∨ txt = "session-initiate" then .sessionInitiate
    else if txt = "terminate" ∨ txt = "session-terminate" ∨ txt = "reject" then
      .sessionTerminate
    else if txt = "accept" ∨ txt = "session-accept" then .sessionAccept
    else if txt = "candidates" ∨ txt = "transport-info" then .transportInfo
    else if txt = "content-accept" then .contentAccept
    else if txt = "content-add" then .contentAdd
    else if txt = "content-modify" then .contentModify
    else if txt = "content-replace" then .contentReplace
    else if txt = "content-reject" then .contentReject
    else if txt = "content-remove" then .contentRemove
    else if txt = "session-info" then .sessionInfo
    else if txt = "transport-accept" then .transportAccept
    else if txt = "description-info" then .descriptionInfo
    else if txt = "info" then .info
    else .unknown

/-- `produce_action`, of an action other than `unknown` -/
def produceAction (action : Action) (dialect : Dialect) : String :=
  match action with
  | .unknown => ""
  | .sessionInitiate => if dialect.isGoogle then "initiate" else "session-initiate"
  | .sessionTerminate => if dialect.isGoogle then "terminate" else "session-terminate"
  | .sessionAccept => if dialect.isGoogle then "accept" else "session-accept"
  | .transportInfo => if dialect = .gtalk3 then "candidates" else "transport-info"
  | .contentAccept => "content-accept"
  | .contentAdd => "content-add"
  | .contentModify => "content-modify"
  | .contentRemove => "content-remove"
  | .contentReplace => "content-replace"
  | .contentReject => "content-reject"
  | .sessionInfo => "session-info"
  | .transportAccept => "transport-accept"
  | .descriptionInfo => "description-info"
  | .info => "info"

/-- `wocky_jingle_session_defines_action` -/
def Dialect.definesAction (d : Dialect) (a : Action) : Bool :=
  match a, d with
  | .unknown, _ => false
  | _, .v032 => true
  | a, .v015 => a ≠ .descriptionInfo ∧ a ≠ .sessionInfo
  | .transportAccept, .gtalk4 => true
  | a, .gtalk4 | a, .gtalk3 =>
    a = .sessionAccept ∨ a = .sessionInitiate ∨ a = .sessionTerminate ∨ a = .transportInfo ∨
      a = .info
  | _, .error => false

/-- `allowed_actions` -/
def allowedActions : SessionState → List Action
  | .pendingCreated => [.sessionInitiate]
  | .pendingInitiateSent =>
    [.sessionTerminate, .sessionAccept, .transportAccept, .descriptionInfo, .sessionInfo,
      .transportInfo, .info]
  | .pendingInitiated =>
    [.sessionAccept, .sessionTerminate, .transportInfo, .contentReject, .contentModify,
      .contentAccept, .contentRemove, .descriptionInfo, .transportAccept, .sessionInfo, .info]
  | .pendingAcceptSent =>
    [.transportInfo, .descriptionInfo, .sessionTerminate, .sessionInfo, .info]
  | .active =>
    [.contentModify, .contentAdd, .contentRemove, .contentReplace, .contentAccept,
      .contentReject, .sessionInfo, .transportInfo, .descriptionInfo, .info, .sessionTerminate]
  | .ended => []

/-- `action_is_allowed` -/
def actionIsAllowed (action : Action) (state : SessionState) : Bool :=
  (allowedActions state).contains action

/-! ## Detection -/

/-- `WOCKY_XMPP_NS_GOOGLE_SESSION_PHONE` -/
def nsGoogleSessionPhone : String := "http://www.google.com/session/phone"

/-- `WOCKY_XMPP_NS_GOOGLE_SESSION_VIDEO` -/
def nsGoogleSessionVideo : String := "http://www.google.com/session/video"

/-- `WOCKY_XMPP_NS_GOOGLE_SESSION_SHARE` -/
def nsGoogleSessionShare : String := "http://www.google.com/session/share"

/-- `WOCKY_XMPP_NS_GOOGLE_TRANSPORT_P2P` -/
def nsGoogleTransportP2p : String := "http://www.google.com/transport/p2p"

/-- `WOCKY_XMPP_NS_JINGLE_RTP_INFO` -/
def nsJingleRtpInfo : String := "urn:xmpp:jingle:apps:rtp:info:1"

/-- `detect_google_dialect` -/
def detectGoogleDialect (node : SessionNode) : Dialect :=
  if node.body.description.map (·.ns) = some nsGoogleSessionVideo then .gtalk3
  else if node.body.transport.map (·.ns) = some nsGoogleTransportP2p then .gtalk4
  else .gtalk3

/-- `wocky_jingle_session_detect_internal`, of a set that has a sender and a session id -/
def detect (stanza : Stanza) : Option (Action × Dialect × SessionNode) :=
  match stanza.jingle with
  | some node => some (parseAction node.action, .v032, node)
  | none =>
    match stanza.jingle015 with
    | some node => some (parseAction node.action, .v015, node)
    | none => stanza.session.map fun node =>
      (parseAction node.action, detectGoogleDialect node, node)

/-- The child of a stanza that `wocky_jingle_session_parse` takes, by the session's dialect. -/
def Stanza.nodeFor (stanza : Stanza) : Dialect → Option SessionNode
  | .v032 => stanza.jingle
  | .v015 => stanza.jingle015
  | .gtalk3 | .gtalk4 => stanza.session
  | .error => none

/-- `extract_reason`, with `unknown` where it leaves the caller's value -/
def extractReason (node : ReasonNode) : Reason × Option String :=
  ((node.elements.findSome? reasonFromNick).getD .unknown, node.text)

/-- The `<jingle/>` or `<session/>` of `wocky_jingle_session_new_message`, without children. -/
def newNode (action : Action) (dialect : Dialect) : SessionNode where
  action := some (produceAction action dialect)
  body := .empty
  contents := []
  reason := none
  payloads := []

/-- The stanza around a node, in a dialect. -/
def wrap (node : SessionNode) : Dialect → Stanza
  | .v032 => ⟨some node, none, none⟩
  | .v015 => ⟨none, some node, none⟩
  | .gtalk3 | .gtalk4 => ⟨none, none, some node⟩
  | .error => ⟨none, none, none⟩

/-- A message that is not sent yet: there is one only in a dialect that has messages. -/
structure Draft where
  action : Action
  dialect : Dialect
  body : ContentNode
  contents : List ContentNode
  spoken : dialect ≠ .error
  deriving DecidableEq

/-- The node of a draft. -/
def Draft.node (d : Draft) : SessionNode :=
  { newNode d.action d.dialect with body := d.body, contents := d.contents }

/-- The stanza of a draft. -/
def Draft.stanza (d : Draft) : Stanza := wrap d.node d.dialect

/-- The draft with what has been put into its node. -/
def Draft.filled (d : Draft) (node : SessionNode) : Draft :=
  { d with body := node.body, contents := node.contents }

end Jingle
