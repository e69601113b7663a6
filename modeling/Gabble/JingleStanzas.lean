/-
# Jingle stanzas

What a session does with the stanzas of its peer and with the replies to its own, and the events
of its life: calls of the application, stanzas, replies, idle sources, and signal handlers that
return.
-/
import Gabble.JingleSession

namespace Jingle

namespace State

/-! ## Contents that the peer offers -/

section Offered

variable (s : State)

/-- `parse_description` of the content's class: it finds out the media type and says whether it
takes the description. -/
def parseDescription (content : Content) (node : DescriptionNode) : State × Option Content :=
  match content.type with
  | .share => (s, some { content with mediaReady := true })
  | .mediaRtp =>
    match (if content.mediaType = .none then extractMediaType node
      else some content.mediaType) with
    | none => (s.fail .invalidDescription, none)
    | some mediaType =>
      if s.verdict then (s.dropVerdict, some { content with mediaType := mediaType })
      else (State.fail s.dropVerdict .invalidDescription, none)

/-- The end of `wocky_jingle_content_parse_add`, once the transport is known. -/
def parseAddRest (content : Content) (node : ContentNode) (description : DescriptionNode)
    (kind : TransportKind) : State × Option Content :=
  let senders :=
    if node.senders = none then content.type.defaultSenders else parseSenders node.senders
  if senders = .none then (s.fail .invalidSenders, none)
  else
    match s.parseDescription { content with senders := senders } description with
    | (s, none) => (s, none)
    | (s, some content) =>
      let transport := Transport.new kind content.type
      let content := { content with
        disposition := node.disposition.getD "session"
        state := .new
        gtalk4Event := decide (s.dialect = Dialect.gtalk4) }
      match node.transport with
      | none => (s, some { content with transport := some transport })
      | some t =>
        if s.verdict then
          (s.dropVerdict, some { content with transport := some (transport.afterParse t) })
        else (State.fail s.dropVerdict .invalidCandidates, none)

/-- `wocky_jingle_content_parse_add` -/
def parseAdd (content : Content) (node : ContentNode) (description : DescriptionNode) :
    State × Option Content :=
  let content := { content with createdByUs := false }
  if s.dialect.isGoogle then
    let content := { content with name := content.name.or (some "gtalk") }
    match node.transport with
    | none =>
      State.parseAddRest (s.setDialect .gtalk3) { content with transportNs := some "" } node
        description .googleP2p
    | some t =>
      match lookupTransport t.ns with
      | none => (s.fail .unsupportedTransport, none)
      | some kind =>
        s.parseAddRest { content with transportNs := some t.ns } node description kind
  else
    match node.transport, node.name with
    | some t, some name =>
      if node.creator = none ∧ !s.googleWebmail then (s.fail .missingAttributes, none)
      else
        match lookupTransport t.ns with
        | none => (s.fail .unsupportedTransport, none)
        | some kind =>
          s.parseAddRest { content with name := some name, transportNs := some t.ns } node
            description kind
    | _, _ => (s.fail .missingAttributes, none)

/-- `create_content`, called by a parser -/
def createOffered (type : ContentType) (mediaType : MediaType) (contentNs : String)
    (name : Option String) (node : ContentNode) (description : DescriptionNode) : State :=
  match freshContent type mediaType .both contentNs none name with
  | none => s
  | some content =>
    match s.parseAdd content node description with
    | (s, none) => s
    | (s, some content) =>
      if s.error = none then s.insertContent content ((name.or content.name).getD "") else s

/-- `fire_idle_content_reject` -/
def fireIdleContentReject (name creator : Option String) : State :=
  if h : s.dialect = .error then s.abort .assertion
  else if s.canMessage .contentReject then
    let content := { ContentNode.empty with name := name, creator := some (creator.getD "") }
    { s with idleRejects :=
        s.idleRejects ++ [⟨.contentReject, s.dialect, .empty, [content], h⟩] }
  else s.abort .assertion

/-- `_each_content_add` -/
def eachContentAdd (c : Option ContentId) (node : ContentNode) : State :=
  match node.description with
  | none =>
    if s.state.rank < SessionState.pendingInitiated.rank then s.fail .unsupportedContentType
    else s.fireIdleContentReject node.name node.creator
  | some description =>
    match lookupContentType description.ns with
    | none =>
      if s.state.rank < SessionState.pendingInitiated.rank then s.fail .unsupportedContentType
      else s.fireIdleContentReject node.name node.creator
    | some type =>
      if c.isSome then s.fail .contentExists
      else s.createOffered type .none description.ns none node description

end Offered

/-! ## Contents that the peer speaks of -/

section Spoken

variable (s : State)

/-- `lookup_content` -/
def lookupContent (name creator : Option String) (failIfMissing : Bool) :
    Except StanzaError (Option ContentId) :=
  match name with
  | none => .error .nameUnset
  | some name =>
    let found : Except StanzaError (Option ContentId) :=
      if s.dialect.isGoogle then .ok (s.initiatorContents.lookup name)
      else if creator = none ∧ s.omitsCreators then
        .ok ((s.initiatorContents.lookup name).or (s.responderContents.lookup name))
      else if creator = some "initiator" then .ok (s.initiatorContents.lookup name)
      else if creator = some "responder" then .ok (s.responderContents.lookup name)
      else if creator = none then .error .creatorMissing
      else .error .creatorInvalid
    match found with
    | .ok none => if failIfMissing then .error .noSuchContent else .ok none
    | found => found

/-- `wocky_jingle_content_parse_accept`, after the state has been notified. -/
def acceptCandidates (c : ContentId) (node : ContentNode) : State :=
  match node.transport with
  | none => s
  | some t =>
    if s.verdict then
      State.emit
        (State.modify s.dropVerdict c fun content =>
          { content with transport := content.transport.map (·.afterParse t) })
        (.remoteCandidates c)
    else s.dropVerdict

/-- `wocky_jingle_content_parse_accept`, after the description. -/
def acceptAcknowledge (c : ContentId) (node : ContentNode) : State :=
  State.emit
    (State.push (s.setContentState c .acknowledged) (.acceptCandidates c node)) (.contentState c)

/-- `parse_description` of a content of the session, with what comes after it. -/
def describe (c : ContentId) (node : Option DescriptionNode) (after : Option Frame) : State :=
  match s.content? c, node with
  | none, _ => s
  | some _, none => s.abort .missingNode
  | some content, some node =>
    match s.parseDescription content node with
    | (s, none) => s
    | (s, some content) =>
      if s.error = none then
        State.emit
          (after.toList.foldl State.push (s.modify c fun _ => content)) (.remoteDescription c)
      else s.modify c fun _ => content

/-- `wocky_jingle_content_parse_accept`, after the senders. -/
def acceptDescription (c : ContentId) (node : ContentNode) : State :=
  s.describe c node.description (some (.acceptAcknowledge c node))

/-- `wocky_jingle_content_parse_accept` -/
def parseAccept (c : ContentId) (content : Content) (node : ContentNode) : State :=
  let s :=
    if content.type = .mediaRtp ∧ s.dialect.isGoogle ∧ node.transport = none then
      s.setDialect .gtalk3
    else s
  let senders :=
    if node.senders = none then content.type.defaultSenders else parseSenders node.senders
  if senders = .none then s.fail .invalidSenders
  else if senders ≠ content.senders then
    State.emit
      (State.push (s.modify c fun content => { content with senders := senders })
        (.acceptDescription c node))
      (.contentSenders c)
  else s.acceptDescription c node

/-- `_each_content_accept` -/
def eachContentAccept (c : ContentId) (node : ContentNode) : State :=
  match s.content? c with
  | none => s
  | some content => if content.state ≠ .sent then s else s.parseAccept c content node

/-- `wocky_jingle_content_update_senders` -/
def updateSenders (c : ContentId) (node : ContentNode) : State :=
  if parseSenders node.senders = .none then s.fail .invalidSenders
  else
    State.emit
      (s.modify c fun content => { content with senders := parseSenders node.senders })
      (.contentSenders c)

/-- `wocky_jingle_content_parse_description_info` -/
def parseDescriptionInfo (c : ContentId) (node : ContentNode) : State :=
  match node.description with
  | none => s.fail .missingDescription
  | some description =>
    if (s.content? c).any fun content =>
        content.createdByUs && content.state.rank < ContentState.acknowledged.rank then s
    else s.describe c (some description) none

/-- What `_foreach_content` calls for a content. -/
def callHandler (handler : ContentHandler) (c : Option ContentId) (node : ContentNode) : State :=
  match handler, c with
  | .add, c => s.eachContentAdd c node
  | _, none => s.abort .assertion
  | .remove, some c => s.contentRemove c false .unknown
  | .rejected _, some c => State.emit (s.push (.rejected c)) (.contentRejected c)
  | .modify, some c => s.updateSenders c node
  | .replace, some c => State.contentRemove (s.push (.replaceAdd c node)) c false .unknown
  | .accept, some c => s.eachContentAccept c node
  | .descriptionInfo, some c => s.parseDescriptionInfo c node

/-- `_foreach_content`: one turn of the loop. -/
def foreachContent (handler : ContentHandler) : List ContentNode → State
  | [] => s
  | node :: nodes =>
    match s.lookupContent node.name node.creator (handler ≠ .add) with
    | .error e => s.fail e
    | .ok c => State.callHandler (s.push (.foreachContent handler nodes)) handler c node

/-- The loop goes on unless there is an error. -/
def foreachRest (handler : ContentHandler) (nodes : List ContentNode) : State :=
  if s.error = none then s.foreachContent handler nodes else s

/-- `mute_all` -/
def muteAll (mute : Bool) : State :=
  s.getContents.foldl (fun s c => s.modify c fun content =>
    if content.type = .mediaRtp then { content with remoteMute := mute } else content) s

/-- `set_mute`; the flag says whether it succeeds. -/
def setMute (name creator : Option String) (mute : Bool) : State × Bool :=
  match name with
  | none => (State.emit (s.muteAll mute) .remoteMute, true)
  | some _ =>
    match s.lookupContent name creator true with
    | .error e => (s.fail e, false)
    | .ok none => (s, false)
    | .ok (some c) =>
      if (s.content? c).any (·.type = .mediaRtp) then
        (State.emit (s.modify c fun content => { content with remoteMute := mute })
          .remoteMute, true)
      else (s.fail .notRtp, false)

/-- `handle_payload`: whether it succeeds, and whether the payload is one of the namespace. -/
def handlePayload (p : Payload) : State × Bool × Bool :=
  if p.ns ≠ nsJingleRtpInfo then (s, true, false)
  else if p.element = "active" then
    (State.emit (State.setHold (State.setRinging (s.muteAll false) false) false) .remoteMute,
      true, true)
  else if p.element = "ringing" then (s.setRinging true, true, true)
  else if p.element = "hold" then (s.setHold true, true, true)
  else if p.element = "unhold" then (s.setHold false, true, true)
  else if p.element = "mute" then
    ((s.setMute p.name p.creator true).1, (s.setMute p.name p.creator true).2, true)
  else if p.element = "unmute" then
    ((s.setMute p.name p.creator false).1, (s.setMute p.name p.creator false).2, true)
  else (s.fail .unsupportedInfo, false, true)

/-- `on_session_info`: one turn of the loop, and its end. -/
def onPayloads (understood hitAnError : Bool) : List Payload → State
  | [] =>
    if understood then s.emit .remoteStateChanged
    else if hitAnError then s
    else s.fail .unsupportedInfo
  | p :: rest =>
    (State.handlePayload
      (s.push (.payloads rest
        (understood || ((s.handlePayload p).2.1 && (s.handlePayload p).2.2))
        (hitAnError || !(s.handlePayload p).2.1))) p).1

/-- `wocky_jingle_content_parse_transport_info`, of a content's transport -/
def parseTransportInfo (c : ContentId) (node : TransportNode) : State :=
  if s.verdict then
    State.emit
      (State.modify s.dropVerdict c fun content =>
        { content with transport := content.transport.map (·.afterParse node) })
      (.remoteCandidates c)
  else State.fail s.dropVerdict .invalidCandidates

/-- The raw UDP transport looks at no node once it has candidates of the peer. -/
def ignoresTransport (c : ContentId) : Bool :=
  ((s.content? c).bind (·.transport)).any fun t => t.kind = .rawUdp && t.hasRemoteCandidates

/-- `on_transport_info` over the contents of the stanza: one turn of the loop. -/
def transportInfos : List ContentNode → State
  | [] => s
  | node :: nodes =>
    match s.lookupContent node.name node.creator true with
    | .error e => State.fail (s.push (.transportInfos nodes)) e
    | .ok none => s.push (.transportInfos nodes)
    | .ok (some c) =>
      if s.ignoresTransport c then s.push (.transportInfos nodes)
      else
        match node.transport with
        | none => s.abort .missingNode
        | some t => State.parseTransportInfo (s.push (.transportInfos nodes)) c t

/-- `on_transport_info` over the initiator's contents: one turn of the loop. -/
def transportInfoAll (node : TransportNode) : List ContentId → State
  | [] => s
  | c :: cs =>
    if s.error = none then
      State.parseTransportInfo (s.push (.transportInfoAll cs node)) c node
    else s

/-- `on_info`: one turn of the loop. -/
def infoAll : List ContentId → State
  | [] => s
  | c :: cs => State.emit (s.push (.infoAll cs)) (.info c)

/-- `on_session_accept` in the Google dialects: one turn of the loop. -/
def acceptAll (node : ContentNode) : List ContentId → State
  | [] => s
  | c :: cs => State.eachContentAccept (s.push (.acceptAll cs node)) c node

/-- `on_session_accept`: the contents are notified one after the other. -/
def notifyContents : List ContentId → State
  | [] => s
  | c :: cs => State.emit (s.push (.notifyContents cs)) (.contentState c)

end Spoken

/-! ## Actions -/

section Actions

variable (s : State)

/-- `on_session_initiate` -/
def onSessionInitiate (node : SessionNode) : State :=
  if s.localInitiator then s.terminate .busy none
  else
    match s.dialect, node.body.description with
    | .gtalk3, none => s.abort .missingNode
    | .gtalk3, some description =>
      if description.ns = nsGoogleSessionVideo then
        State.createOffered (State.push (s.push .sessionInitiated) (.gtalkAudio node.body))
          .mediaRtp .video nsGoogleSessionVideo (some "video") node.body description
      else State.eachContentAdd (s.push .sessionInitiated) none node.body
    | .gtalk4, _ => State.eachContentAdd (s.push .sessionInitiated) none node.body
    | _, _ => State.foreachContent (s.push .sessionInitiated) .add node.contents

/-- `on_session_initiate`, after the first of two Google contents. -/
def gtalkAudioRest (node : ContentNode) : State :=
  match node.description with
  | none => s
  | some description =>
    s.createOffered .mediaRtp .audio nsGoogleSessionPhone (some "audio") node description

/-- The end of `on_session_initiate`. -/
def sessionInitiatedRest : State :=
  if s.error = none then
    State.setState (s.push (.sendRtpInfo "ringing")) .pendingInitiated .unknown none
  else s

/-- `on_session_accept` -/
def onSessionAccept (node : SessionNode) : State :=
  if s.dialect.isGoogle then
    State.acceptAll (s.push .sessionAccepted) node.body s.getContents
  else State.foreachContent (s.push .sessionAccepted) .accept node.contents

/-- `on_session_accept`, after the contents. -/
def sessionAcceptedRest : State :=
  if s.error = none then
    State.setState (State.push (s.push .stopRinging) (.notifyContents s.getContents)) .active
      .unknown none
  else s

/-- The end of `on_session_accept`. -/
def stopRingingRest : State :=
  if s.dialect ≠ .v032 then State.emit (s.setRinging false) .remoteStateChanged else s

/-- `on_content_reject` -/
def onContentReject (node : SessionNode) : State :=
  let reason := match node.reason with
    | none => .unknown
    | some r => (extractReason r).1
  s.foreachContent (.rejected (if reason = .unknown then .generalError else reason)) node.contents

/-- `on_session_terminate` -/
def onSessionTerminate (node : SessionNode) : State :=
  match node.reason with
  | none => s.setState .ended .unknown none
  | some r => s.setState .ended (extractReason r).1 (extractReason r).2

/-- `on_transport_info` -/
def onTransportInfo (node : SessionNode) : State :=
  if s.dialect.isGoogle then
    if s.dialect = .gtalk4 ∧ node.action = some "candidates" then
      let switched := s.getContents.foldl (fun s c => s.sendCandidates c true)
        (s.setDialect .gtalk3)
      switched.transportInfoAll ⟨"", 0⟩ (switched.initiatorContents.map (·.2))
    else if s.dialect = .gtalk4 then
      match node.body.transport with
      | none => s.fail .missingTransport
      | some t => s.transportInfoAll t (s.initiatorContents.map (·.2))
    else s.transportInfoAll ⟨"", 0⟩ (s.initiatorContents.map (·.2))
  else s.transportInfos node.contents

/-- `handlers` -/
def handle (action : Action) (node : SessionNode) : State :=
  match action with
  | .unknown => s.abort .assertion
  | .contentAccept => s.foreachContent .accept node.contents
  | .contentAdd => s.foreachContent .add node.contents
  | .contentModify => s.foreachContent .modify node.contents
  | .contentRemove => s.foreachContent .remove node.contents
  | .contentReplace => s.foreachContent .replace node.contents
  | .contentReject => s.onContentReject node
  | .sessionAccept => s.onSessionAccept node
  | .sessionInfo => if node.payloads = [] then s else s.onPayloads false false node.payloads
  | .sessionInitiate => s.onSessionInitiate node
  | .sessionTerminate => s.onSessionTerminate node
  | .transportInfo => s.onTransportInfo node
  | .transportAccept => s
  | .descriptionInfo => s.foreachContent .descriptionInfo node.contents
  | .info => if s.dialect.isGoogle then s.infoAll (s.initiatorContents.map (·.2)) else s

/-- `wocky_jingle_session_parse` -/
def parse (action : Action) (stanza : Stanza) : State :=
  if action = .unknown then s.fail .unknownAction
  else
    match stanza.nodeFor s.dialect with
    | none => s.fail .malformedStanza
    | some node =>
      if !s.dialect.definesAction action then s.fail .undefinedAction
      else if !actionIsAllowed action s.state then s.fail .outOfOrder
      else s.handle action node

/-- `jingle_cb`, of a stanza for this session.  A session that is gone is another one. -/
def jingleCb (iq : ℕ) (stanza : Stanza) (verdicts : List Bool) : Option State :=
  match detect stanza with
  | none => none
  | some (action, dialect, _) =>
    match s.registration, action with
    | .known, _ =>
      let s := State.note { s with verdicts := verdicts, error := none }
        (.received false iq stanza)
      some (State.parse (s.push (.parsed false iq)) action stanza)
    | .unborn, .sessionInitiate =>
      let s := State.note
        { s with
          verdicts := verdicts, error := none, registration := .known, dialect := dialect }
        (.received true iq stanza)
      some (State.parse (s.push (.parsed true iq)) action stanza)
    | .gone, .sessionInitiate => none
    | _, _ =>
      some (State.note (s.note (.refused iq stanza)) (.refusedWith iq .unknownSession))

/-- `jingle_cb`, after `wocky_jingle_session_parse`. -/
def parsedRest (isNew : Bool) (iq : ℕ) : State :=
  match s.error with
  | none =>
    if isNew then
      State.emit { s.push (.acknowledge iq) with announced := true } .newSession
    else s.note (.acknowledged iq)
  | some e =>
    if isNew then State.terminate (s.note (.refusedWith iq e)) .unknown none
    else s.note (.refusedWith iq e)

/-- `_on_initiate_reply` -/
def onInitiateReply (result : Bool) : State :=
  if s.state ≠ .pendingInitiateSent then s
  else if result then State.setState (s.push .startRinging) .pendingInitiated .unknown none
  else s.setState .ended .unknown none

/-- The end of `_on_initiate_reply`. -/
def startRingingRest : State :=
  if s.dialect ≠ .v032 then State.emit (s.setRinging true) .remoteStateChanged else s

/-- `_on_accept_reply` -/
def onAcceptReply (result : Bool) : State :=
  if s.state ≠ .pendingAcceptSent then s
  else if result then State.setState (s.push (.sendRtpInfo "active")) .active .unknown none
  else s.setState .ended .unknown none

/-- `_on_remove_reply` -/
def onRemoveReply (c : ContentId) : State :=
  if (s.content? c).any (·.state = .removing) then s.emitRemoved c else s.abort .assertion

/-- The callback of an IQ. -/
def callReplyHandler (result : Bool) : ReplyHandler → State
  | .initiate => s.onInitiateReply result
  | .accept => s.onAcceptReply result
  | .remove c => s.onRemoveReply c

/-- The reply to a set comes in. -/
def replied (iq : ℕ) (result : Bool) : State :=
  let s' := State.note { s with awaiting := s.awaiting.filter (·.1 ≠ iq) } (.replied iq result)
  match s.awaiting.lookup iq with
  | some handler => s'.callReplyHandler result handler
  | none => s'

/-- `idle_content_reject` of the first stanza that waits. -/
def idleContentReject : Option State :=
  match s.idleRejects with
  | [] => none
  | draft :: rest => some (State.sendIq { s with idleRejects := rest } draft.stanza none)

/-- `send_gtalk4_transport_accept` -/
def sendGtalk4TransportAccept (c : ContentId) : Option State :=
  match s.content? c with
  | none => none
  | some content =>
    if content.gtalk4Event then
      some (State.modify
        (s.message .transportAccept
          (fun node => { node with body := { node.body with
            transport := some ⟨content.transportNs.getD "", 0⟩ } }) none)
        c fun content => { content with gtalk4Event := false })
    else none

/-- The property `local-hold` is set. -/
def setLocalHold (hold : Bool) : State :=
  if s.localHold = hold then s
  else if SessionState.pendingInitiated.rank ≤ s.state.rank ∧ s.state ≠ .ended then
    State.sendHeld { s with localHold := hold }
  else { s with localHold := hold }

end Actions

/-! ## Events -/

/-- An interrupted call goes on. -/
def resume (s : State) : Frame → State
  | .user _ => s
  | .enteredState state reason text => s.enteredRest state reason text
  | .composing action => s.compose action
  | .filling draft todo => s.fillContents draft todo
  | .transmitCandidates => s.transmitInitial
  | .sendRtpInfo name => s.sendRtpInfo name
  | .foreachContent handler nodes => s.foreachRest handler nodes
  | .gtalkAudio node => s.gtalkAudioRest node
  | .sessionInitiated => s.sessionInitiatedRest
  | .acceptAll cs node => s.acceptAll node cs
  | .sessionAccepted => s.sessionAcceptedRest
  | .notifyContents cs => s.notifyContents cs
  | .stopRinging => s.stopRingingRest
  | .rejected c => s.contentRemove c false .unknown
  | .replaceAdd c node => if s.error = none then s.eachContentAdd (some c) node else s
  | .acceptDescription c node => s.acceptDescription c node
  | .acceptAcknowledge c node => s.acceptAcknowledge c node
  | .acceptCandidates c node => s.acceptCandidates c node
  | .payloads rest understood hitAnError => s.onPayloads understood hitAnError rest
  | .transportInfos nodes => s.transportInfos nodes
  | .transportInfoAll cs node => s.transportInfoAll node cs
  | .infoAll cs => s.infoAll cs
  | .sendRemove c reason => s.sendRemoveRest c reason
  | .sendCandidates c => s.sendCandidates c false
  | .addedCandidates c => s.addedCandidatesRest c
  | .sendModify c => s.sendModifyRest c
  | .addedContent name => s.addedContentRest name
  | .startRinging => s.startRingingRest
  | .parsed isNew iq => s.parsedRest isNew iq
  | .acknowledge iq => s.note (.acknowledged iq)

end State

/-- A call of the session by the application. -/
inductive Call : Type where
  | accept
  | terminate (reason : Reason) (text : Option String)
  | setLocalHold (hold : Bool)
  | addContent (mediaType : MediaType) (senders : Senders) (name contentNs transportNs : String)
  | removeContent (c : ContentId)
  | rejectContent (c : ContentId) (reason : Reason)
  | addCandidates (c : ContentId) (cs : List Candidate)
  | setMediaReady (c : ContentId)
  | setTransportState (c : ContentId) (connected : Bool)
  | changeDirection (c : ContentId) (senders : Senders)
  | setSending (c : ContentId) (send : Bool)
  | requestReceiving (c : ContentId) (receive : Bool)
  | maybeSendDescription (c : ContentId)
  /-- `wocky_jingle_content_create_share_channel` and `wocky_jingle_content_send_complete` -/
  | sendInfo
  deriving DecidableEq

/-- What happens to a session. -/
inductive Event : Type where
  /-- the application calls -/
  | call (c : Call)
  /-- a signal's handlers return -/
  | returned
  /-- the interrupted call goes on -/
  | goOn
  /-- a set of the peer comes in -/
  | stanza (iq : ℕ) (stanza : Stanza) (verdicts : List Bool)
  /-- the reply to a set comes in -/
  | reply (iq : ℕ) (result : Bool)
  /-- an idle source is run -/
  | idleContentReject
  | gtalk4TransportAccept (c : ContentId)
  /-- what is known of the peer's client changes -/
  | capsChanged (omitsCreators googleWebmail : Bool)
  deriving DecidableEq

namespace State

/-- The function that is called. -/
def call (s : State) : Call → State
  | .accept => s.accept
  | .terminate reason text => s.terminate reason text
  | .setLocalHold hold => s.setLocalHold hold
  | .addContent mediaType senders name contentNs transportNs =>
    s.addContent mediaType senders name contentNs transportNs
  | .removeContent c => s.removeContent c
  | .rejectContent c reason => s.contentRemove c true reason
  | .addCandidates c cs => s.addCandidates c cs
  | .setMediaReady c => s.setMediaReady c
  | .setTransportState c connected => s.setTransportState c connected
  | .changeDirection c senders => s.changeDirection c senders
  | .setSending c send => s.setSending c send
  | .requestReceiving c receive => s.requestReceiving c receive
  | .maybeSendDescription c => s.maybeSendDescription c
  | .sendInfo => s.message .info id none

/-- The application has its turn: nothing is going on, or it handles a signal. -/
def userTurn (s : State) : Bool :=
  match s.stack with
  | [] | .user _ :: _ => true
  | _ => false

/-- What the main loop does, when no call is in progress. -/
def mainLoop (s : State) : Event → Option State
  | .stanza iq stanza verdicts => s.jingleCb iq stanza verdicts
  | .reply iq result => some (s.replied iq result)
  | .idleContentReject => s.idleContentReject
  | .gtalk4TransportAccept c => s.sendGtalk4TransportAccept c
  | .capsChanged omitsCreators googleWebmail =>
    some { s with omitsCreators := omitsCreators, googleWebmail := googleWebmail }
  | _ => none

/-- One event; nothing happens any more after a fault. -/
def step (s : State) (e : Event) : Option State :=
  if s.fault.isSome then none
  else
    match e, s.stack with
    | .call c, _ => if s.announced && s.userTurn then some (s.call c) else none
    | .returned, .user _ :: rest => some { s with stack := rest }
    | .goOn, .user _ :: _ => none
    | .goOn, f :: rest => some (State.resume { s with stack := rest } f)
    | e, [] => s.mainLoop e
    | _, _ => none

/-- The state of a session that is created by `wocky_jingle_factory_create_session`. -/
def outgoing (dialect : Dialect) (localHold : Bool) : State where
  localInitiator := true
  dialect := dialect
  state := .pendingCreated
  locallyAccepted := false
  locallyTerminated := false
  localHold := localHold
  remoteHold := false
  remoteRinging := false
  initiatorContents := []
  responderContents := []
  contents := []
  registration := .known
  announced := true
  omitsCreators := false
  googleWebmail := false
  nextIq := 0
  awaiting := []
  idleRejects := []
  verdicts := []
  error := none
  stack := []
  log := []
  fault := none

/-- The state of a session that the peer will create. -/
def incoming : State :=
  { outgoing .error false with
    localInitiator := false, registration := .unborn, announced := false }

end State

end Jingle
