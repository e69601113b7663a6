/-
# Jingle sessions

The session's own logic: when it offers and accepts, what it sends about its contents, how it
handles what the peer sends, and how it ends.  Every signal gives the application's handlers a
turn, in which they may call the session again; what the interrupted call still has to do waits
on a stack.
-/
import Gabble.JingleContent

namespace Jingle

namespace State

/-! ## Small steps -/

section Small

variable (s : State)

def push (f : Frame) : State := { s with stack := f :: s.stack }

def note (e : Entry) : State := { s with log := s.log ++ [e] }

/-- The handlers of a signal get their turn. -/
def emit (signal : Signal) : State := s.push (.user signal)

def abort (f : Fault) : State := { s with fault := some f }

/-- `g_set_error`; a second error is ignored. -/
def fail (e : StanzaError) : State := { s with error := some (s.error.getD e) }

def setDialect (d : Dialect) : State := { s with dialect := d }

def accepted : State := { s with locallyAccepted := true }

def ownTermination : State := { s with locallyTerminated := true }

def setHold (hold : Bool) : State := { s with remoteHold := hold }

def setRinging (ringing : Bool) : State := { s with remoteRinging := ringing }

def unregister : State := { s with registration := .gone }

/-- The next verdict of a content's class or of a transport. -/
def verdict : Bool := s.verdicts.headD true

def dropVerdict : State := { s with verdicts := s.verdicts.tail }

def setContents (cs : List Content) : State := { s with contents := cs }

/-- A content of the session, by its number. -/
def modify (c : ContentId) (f : Content → Content) : State :=
  s.setContents (s.contents.modify c f)

def setContentState (c : ContentId) (state : ContentState) : State :=
  s.modify c fun content => { content with state := state }

def setTables (initiator responder : List (String × ContentId)) : State :=
  { s with initiatorContents := initiator, responderContents := responder }

/-- `wocky_porter_send_iq_async`, with the callback that waits for the reply -/
def sendIq (stanza : Stanza) (handler : Option ReplyHandler) : State :=
  State.note
    { s with
      nextIq := s.nextIq + 1
      awaiting := s.awaiting ++ handler.toList.map fun h => (s.nextIq, h) }
    (.sent s.nextIq stanza)

/-- What `wocky_jingle_session_new_message` asserts. -/
def canMessage (action : Action) : Bool :=
  (action = .sessionInitiate || s.state ≠ .pendingCreated) && s.dialect ≠ .error

/-- `wocky_jingle_session_new_message` and `wocky_jingle_session_send` -/
def message (action : Action) (fill : SessionNode → SessionNode)
    (handler : Option ReplyHandler) : State :=
  if s.canMessage action then
    s.sendIq (wrap (fill (newNode action s.dialect)) s.dialect) handler
  else s.abort .assertion

/-- `wocky_jingle_session_get_contents` -/
def getContents : List ContentId :=
  s.initiatorContents.map (·.2) ++ s.responderContents.map (·.2)

def content? (c : ContentId) : Option Content := s.contents[c]?

/-- `wocky_jingle_content_creator_is_initiator` -/
def creatorIsInitiator (content : Content) : Bool := content.createdByUs == s.localInitiator

/-- The contents of disposition `session`, which `_map_initial_contents` goes over. -/
def initialContents : List ContentId :=
  s.getContents.filter fun c => (s.content? c).any (·.disposition = "session")

/-- `wocky_jingle_content_produce_node`; `none` where it asserts -/
def produceNode (c : Content) (description : Bool) (candidates : Option ℕ) (dialect : Dialect)
    (node : SessionNode) : Option SessionNode := do
  let described ←
    if description then produceDescription c.type c.mediaType dialect else some none
  let transport :=
    candidates.map fun n => TransportNode.mk (c.transportNs.getD "") n
  if dialect.isGoogle then
    some { node with body := { node.body with
      description := described.or node.body.description
      transport := if dialect = .gtalk3 then none else transport.or node.body.transport } }
  else
    let senders ← produceSenders c.senders
    some { node with contents := node.contents ++ [{
      name := c.name
      senders := some senders
      creator := some (if s.creatorIsInitiator c then "initiator" else "responder")
      disposition := none
      description := described
      transport := transport }] }

/-- A message about one content. -/
def contentMessage (action : Action) (c : ContentId) (description : Bool)
    (candidates : Option ℕ) (reason : Option ReasonNode) (handler : Option ReplyHandler) : State :=
  match (s.content? c).bind fun content =>
      s.produceNode content description candidates s.dialect (newNode action s.dialect) with
  | some node => s.message action (fun _ => { node with reason := reason }) handler
  | none => s.abort .assertion

end Small

/-! ## Sending -/

section Sending

variable (s : State)

/-- `wocky_jingle_session_send_rtp_info` -/
def sendRtpInfo (name : String) : State :=
  if s.dialect.definesAction .sessionInfo then
    s.message .sessionInfo
      (fun node => { node with payloads := [⟨nsJingleRtpInfo, name, none, none⟩] }) none
  else s

/-- `wocky_jingle_session_send_held` -/
def sendHeld : State := s.sendRtpInfo (if s.localHold then "hold" else "unhold")

/-- `send_candidates` of the content's transport: one `transport-info` after the other. -/
def transmit (c : ContentId) : ℕ → State → State
  | 0, s => s
  | n + 1, s => transmit c n (s.contentMessage .transportInfo c false (some 1) none none)

/-- `wocky_jingle_transport_iface_send_candidates` -/
def sendCandidates (c : ContentId) (all : Bool) : State :=
  match (s.content? c).bind (·.transport) with
  | none => s
  | some t =>
    State.modify (transmit c (t.sends all) s) c fun content =>
      { content with transport := content.transport.map Transport.afterSend }

/-- `_map_initial_contents` with `_transmit_candidates` -/
def transmitInitial : State :=
  s.initialContents.foldl (fun s c => s.sendCandidates c false) s

/-- `set_state` -/
def setState (state : SessionState) (reason : Reason) (text : Option String) : State :=
  if state.rank ≤ s.state.rank then s
  else if state ≠ .ended ∧ reason ≠ .unknown then s.abort .assertion
  else
    State.emit (State.push (State.note { s with state := state } (.entered state))
      (.enteredState state reason text)) .sessionState

/-- The rest of `set_state`, after the notification; the factory's handler of `terminated` is the
first one. -/
def enteredRest (state : SessionState) (reason : Reason) (text : Option String) : State :=
  let held :=
    if s.localHold ∧ SessionState.pendingInitiated.rank ≤ state.rank ∧ state ≠ .ended then
      s.sendHeld
    else s
  if state = .ended then
    State.emit
      (State.unregister (held.note (.terminated held.locallyTerminated reason text))) .terminated
  else held

/-- `wocky_jingle_session_terminate` -/
def terminate (reason : Reason) (text : Option String) : State :=
  if s.state = .ended then s
  else
    let reason :=
      if reason = .unknown then (if s.state = .active then .success else .cancel) else reason
    let told :=
      if s.state = .pendingCreated then s
      else s.message .sessionTerminate
        (fun node => { node with
          reason := if s.dialect = .v032 then
              some ⟨reason.name :: (if text.all (· = "") then [] else ["text"]),
                text.filter (· ≠ "")⟩
            else none })
        none
    State.setState told.ownTermination .ended reason text

/-- `_foreach_count_active_contents` -/
def countActiveContents : ℕ :=
  s.getContents.countP fun c => (s.content? c).any fun content =>
    ContentState.new.rank ≤ content.state.rank && content.state.rank < ContentState.removing.rank

/-- What `_fill_content` adds to the message, and the state it puts the content into; `none` where
it asserts. -/
def fillContent (c : ContentId) (draft : Draft) : Option (Draft × Content) := do
  let content ← s.content? c
  let (n, transport) ← match content.transport with
    | some t => t.injectCandidates.map fun (n, t) => (n, some t)
    | none => some (0, none)
  let node ← s.produceNode content true (some n) draft.dialect draft.node
  match content.state with
  | .empty => some (draft.filled node, { content with state := .sent, transport := transport })
  | .new =>
    some (draft.filled node, { content with state := .acknowledged, transport := transport })
  | _ => none

/-- The state a session is in after it has sent its `session-initiate` or `session-accept`. -/
def stateAfter (action : Action) : SessionState :=
  if action = .sessionInitiate then .pendingInitiateSent else .pendingAcceptSent

/-- The callback of a `session-initiate` or `session-accept`. -/
def offerHandler (action : Action) : ReplyHandler :=
  if action = .sessionInitiate then .initiate else .accept

/-- The end of `try_session_initiate_or_accept`: the message is complete. -/
def offer (draft : Draft) : State :=
  State.setState
    (State.push (s.sendIq draft.stanza (some (offerHandler draft.action))) .transmitCandidates)
    (stateAfter draft.action) .unknown none

/-- `_map_initial_contents` with `_fill_content` -/
def fillContents (draft : Draft) : List ContentId → State
  | [] => s.offer draft
  | c :: cs =>
    if (s.content? c).any (·.disposition = "session") then
      match s.fillContent c draft with
      | some (draft, content) =>
        State.emit (State.push (s.modify c fun _ => content) (.filling draft cs))
          (.contentState c)
      | none => s.abort .assertion
    else fillContents draft cs

/-- The description of a Google message with video or audio contents. -/
def googleDescription : Option DescriptionNode :=
  let types := s.initiatorContents.filterMap fun e => (s.content? e.2).map (·.mediaType)
  if .video ∈ types then some ⟨nsGoogleSessionVideo, none⟩
  else if .audio ∈ types then some ⟨nsGoogleSessionPhone, none⟩
  else none

/-- `try_session_initiate_or_accept`, after `about-to-initiate` -/
def compose (action : Action) : State :=
  if h : s.dialect = .error then s.abort .assertion
  else if s.canMessage action then
    let body :=
      if s.dialect = .gtalk3 then { ContentNode.empty with description := s.googleDescription }
      else .empty
    s.fillContents ⟨action, s.dialect, body, [], h⟩ s.getContents
  else s.abort .assertion

/-- `try_session_initiate_or_accept` -/
def tryInitiateOrAccept : State :=
  if s.getContents = [] then s.abort .assertion
  else if s.state ≠ (if s.localInitiator then .pendingCreated else .pendingInitiated) then s
  else if !s.locallyAccepted then s
  else if !s.initialContents.all fun c => (s.content? c).any Content.isReady then s
  else if s.localInitiator then State.emit (s.push (.composing .sessionInitiate)) .aboutToInitiate
  else s.compose .sessionAccept

/-- `wocky_jingle_session_accept` -/
def accept : State := State.tryInitiateOrAccept s.accepted

end Sending

/-! ## Contents -/

section Contents

variable (s : State)

/-- The session takes a content out of its table. -/
def dropContent (c : ContentId) : State :=
  match s.content? c with
  | none => s
  | some content =>
    if s.creatorIsInitiator content then
      s.setTables (s.initiatorContents.filter fun e => some e.1 ≠ content.name)
        s.responderContents
    else
      s.setTables s.initiatorContents
        (s.responderContents.filter fun e => some e.1 ≠ content.name)

/-- `content_removed_cb` -/
def contentRemovedCb (c : ContentId) : State :=
  let dropped := s.dropContent c
  if dropped.state = .ended then dropped
  else if dropped.countActiveContents = 0 then dropped.terminate .unknown none
  else dropped.tryInitiateOrAccept

/-- The signal `removed`: the session's own handler is the first one. -/
def emitRemoved (c : ContentId) : State :=
  State.contentRemovedCb (s.emit (.contentRemoved c)) c

/-- `_content_remove` -/
def contentRemove (c : ContentId) (signalPeer : Bool) (reason : Reason) : State :=
  match s.content? c with
  | none => s
  | some content =>
    if signalPeer && content.state ≠ .empty then
      if content.state = .removing then s
      else
        State.emit (State.push (s.setContentState c .removing) (.sendRemove c reason))
          (.contentState c)
    else s.emitRemoved c

/-- The rest of `_content_remove`, after the notification. -/
def sendRemoveRest (c : ContentId) (reason : Reason) : State :=
  s.contentMessage (if reason = .unknown then .contentRemove else .contentReject) c false none
    (if reason = .unknown then none else some ⟨[reason.name], none⟩) (some (.remove c))

/-- `wocky_jingle_session_remove_content` -/
def removeContent (c : ContentId) : State :=
  s.contentRemove c (decide (1 < s.countActiveContents)) .unknown

/-- `send_content_add_or_accept` -/
def sendContentAddOrAccept (c : ContentId) (content : Content) : State :=
  match (match content.transport with
      | some t => t.injectCandidates.map fun (n, t) => (n, some t)
      | none => some (0, none)) with
  | none => s.abort .assertion
  | some (n, transport) =>
    let sent := s.contentMessage (if content.createdByUs then .contentAdd else .contentAccept) c
      true (some n) none none
    State.emit
      (sent.modify c fun _ =>
        { content with
          state := if content.createdByUs then .sent else .acknowledged
          transport := transport })
      (.contentState c)

/-- `_maybe_ready`; the session's handler of `ready` is `content_ready_cb`. -/
def maybeReady (c : ContentId) : State :=
  match s.content? c with
  | none => s
  | some content =>
    if !content.isReady then s
    else if content.disposition = "session" ∧
        s.state.rank < SessionState.pendingAcceptSent.rank then s.tryInitiateOrAccept
    else if SessionState.pendingInitiateSent.rank ≤ s.state.rank then
      State.sendContentAddOrAccept (s.push (.sendCandidates c)) c content
    else s

/-- `wocky_jingle_content_add_candidates` -/
def addCandidates (c : ContentId) (cs : List Candidate) : State :=
  match s.content? c with
  | none => s
  | some content =>
    if cs = [] then s
    else
      let added := s.modify c fun content =>
        { content with
          transport := content.transport.map (·.newLocalCandidates cs)
          haveLocalCandidates := true }
      if content.haveLocalCandidates then added.push (.addedCandidates c)
      else State.maybeReady (added.push (.addedCandidates c)) c

/-- The rest of `wocky_jingle_content_add_candidates`. -/
def addedCandidatesRest (c : ContentId) : State :=
  if (s.content? c).any (·.state ≠ .empty) then s.sendCandidates c false else s

/-- `_wocky_jingle_content_set_media_ready` -/
def setMediaReady (c : ContentId) : State :=
  State.maybeReady (s.modify c fun content => { content with mediaReady := true }) c

/-- `wocky_jingle_content_set_transport_state` -/
def setTransportState (c : ContentId) (connected : Bool) : State :=
  State.maybeReady
    (s.modify c fun content =>
      { content with
        transport := content.transport.map fun t => { t with connected := connected } }) c

/-- `wocky_jingle_content_change_direction` -/
def changeDirection (c : ContentId) (senders : Senders) : State :=
  match s.content? c with
  | none => s
  | some content =>
    if senders = content.senders then s
    else
      State.emit
        (State.push (s.modify c fun content => { content with senders := senders })
          (.sendModify c))
        (.contentSenders c)

/-- The rest of `wocky_jingle_content_change_direction`. -/
def sendModifyRest (c : ContentId) : State :=
  if s.dialect.isGoogle then s
  else if (s.content? c).any fun content => ContentState.sent.rank ≤ content.state.rank then
    s.contentMessage .contentModify c false none none none
  else s

/-- The senders on our side. -/
def ownSenders : Senders := if s.localInitiator then .initiator else .responder

/-- The senders on the peer's side. -/
def peerSenders : Senders := if s.localInitiator then .responder else .initiator

/-- `jingle_content_has_direction` of the side that `side` stands for -/
def hasDirection (content : Content) (side : Senders) : Bool :=
  content.senders = .both || content.senders = side

/-- `wocky_jingle_content_set_sending` and `wocky_jingle_content_request_receiving`: the side
`side` is to send or not, `other` is the other side. -/
def requestDirection (c : ContentId) (side other : Senders) (wanted : Bool) : State :=
  match s.content? c with
  | none => s
  | some content =>
    if wanted = hasDirection content side then s
    else if wanted then
      s.changeDirection c (if content.senders = .none then side else .both)
    else if content.senders = .both then s.changeDirection c other
    else s.contentRemove c true .unknown

/-- `wocky_jingle_content_set_sending` -/
def setSending (c : ContentId) (send : Bool) : State :=
  s.requestDirection c s.ownSenders s.peerSenders send

/-- `wocky_jingle_content_request_receiving` -/
def requestReceiving (c : ContentId) (receive : Bool) : State :=
  s.requestDirection c s.peerSenders s.ownSenders receive

/-- `wocky_jingle_content_maybe_send_description` -/
def maybeSendDescription (c : ContentId) : State :=
  match s.content? c with
  | none => s
  | some content =>
    if content.state.rank < ContentState.sent.rank then s
    else if s.dialect.definesAction .descriptionInfo then
      s.contentMessage .descriptionInfo c true none none none
    else s

/-- The name `wocky_jingle_session_add_content` ends up with: the first free one. -/
def freeName (taken : List String) (name : String) (id : ℕ) : String :=
  ((name :: (List.range taken.length).map fun i => name ++ "_" ++ toString (id + i)).find?
    (· ∉ taken)).getD name

/-- The content of `create_content` before anything is parsed; `none` where its transport
asserts. -/
def freshContent (type : ContentType) (mediaType : MediaType) (senders : Senders)
    (contentNs : String) (transportNs : Option String) (name : Option String) : Option Content := do
  let transport ← match transportNs with
    | none => some none
    | some ns => (lookupTransport ns).map fun kind => some (Transport.new kind type)
  some {
    name := name
    createdByUs := true
    state := .empty
    senders := senders
    contentNs := some contentNs
    transportNs := transportNs
    disposition := "session"
    transport := transport
    mediaReady := false
    haveLocalCandidates := false
    gtalk4Event := false
    type := type
    mediaType := mediaType
    remoteMute := false }

/-- The end of `create_content`: the content goes into a table, where its name must be free. -/
def insertContent (content : Content) (name : String) : State :=
  let id := s.contents.length
  let made := s.setContents (s.contents ++ [content])
  if s.creatorIsInitiator content then
    if (s.initiatorContents.lookup name).isSome then s.abort .assertion
    else State.emit
      (made.setTables (s.initiatorContents ++ [(name, id)]) s.responderContents) (.newContent id)
  else
    if (s.responderContents.lookup name).isSome then s.abort .assertion
    else State.emit
      (made.setTables s.initiatorContents (s.responderContents ++ [(name, id)])) (.newContent id)

/-- `wocky_jingle_session_add_content` -/
def addContent (mediaType : MediaType) (senders : Senders) (name : String) (contentNs : String)
    (transportNs : String) : State :=
  let name := if name = "" then (if mediaType = .audio then "Audio" else "Video") else name
  let own := if s.localInitiator then s.initiatorContents else s.responderContents
  let cname := freeName ((s.initiatorContents ++ s.responderContents).map (·.1)) name
    (own.length + 1)
  match (lookupContentType contentNs).bind fun type =>
      freshContent type mediaType senders contentNs (some transportNs) (some cname) with
  | none => s.abort .assertion
  | some content => State.insertContent (s.push (.addedContent cname)) content cname

/-- The rest of `wocky_jingle_session_add_content`: the content must still be there. -/
def addedContentRest (name : String) : State :=
  if ((if s.localInitiator then s.initiatorContents else s.responderContents).lookup name).isSome
  then s
  else s.abort .assertion

end Contents

end State

end Jingle
