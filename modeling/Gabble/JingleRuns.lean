/-
# Runs of a Jingle session

Stanzas, replies and interrupted calls; then what holds of every run of a session.
-/
import Gabble.JingleLife
import Gabble.Transition

namespace Jingle

namespace State

variable {s s' p : State}

/-! ## Contents that the peer offers -/

theorem keeps_parseDescription (content : Content) (node : DescriptionNode) :
    Keeps s (s.parseDescription content node).1 := by
  unfold parseDescription
  split
  · exact Keeps.refl s
  · split
    · exact keeps_fail _
    · split
      · exact keeps_dropVerdict
      · exact keeps_dropVerdict.trans (keeps_fail _)

theorem keeps_parseAddRest (content : Content) (node : ContentNode)
    (description : DescriptionNode) (kind : TransportKind) :
    Keeps s (s.parseAddRest content node description kind).1 := by
  unfold parseAddRest
  simp only
  generalize (if node.senders = none then content.type.defaultSenders
    else parseSenders node.senders) = senders
  split
  · exact keeps_fail _
  · have hdescription := keeps_parseDescription (s := s) { content with senders := senders }
      description
    split
    · next s' heq =>
        rw [heq] at hdescription
        exact hdescription
    · next s' content' heq =>
        rw [heq] at hdescription
        split
        · exact hdescription
        · split
          · exact hdescription.trans keeps_dropVerdict
          · exact (hdescription.trans keeps_dropVerdict).trans (keeps_fail _)

theorem keeps_parseAdd (content : Content) (node : ContentNode) (description : DescriptionNode) :
    Keeps s (s.parseAdd content node description).1 := by
  unfold parseAdd
  simp only
  split
  · split
    · exact (keeps_setDialect _).trans (keeps_parseAddRest _ _ _ _)
    · split
      · exact keeps_fail _
      · exact keeps_parseAddRest _ _ _ _
  · split
    · split
      · exact keeps_fail _
      · split
        · exact keeps_fail _
        · exact keeps_parseAddRest _ _ _ _
    · exact keeps_fail _

theorem keeps_createOffered (type : ContentType) (mediaType : MediaType) (contentNs : String)
    (name : Option String) (node : ContentNode) (description : DescriptionNode) :
    Keeps s (s.createOffered type mediaType contentNs name node description) := by
  unfold createOffered
  split
  · exact Keeps.refl s
  · next content hfresh =>
      have hparse := keeps_parseAdd (s := s) content node description
      split
      · next s' heq =>
          rw [heq] at hparse
          exact hparse
      · next s' content' heq =>
          rw [heq] at hparse
          split
          · exact hparse.trans (keeps_insertContent _ _)
          · exact hparse

theorem keeps_fireIdleContentReject (name creator : Option String) :
    Keeps s (s.fireIdleContentReject name creator) := by
  unfold fireIdleContentReject
  split
  · exact keeps_abort _
  · split
    · exact Same.keeps ⟨rfl, rfl, rfl, rfl, rfl⟩
    · exact keeps_abort _

theorem keeps_eachContentAdd (c : Option ContentId) (node : ContentNode) :
    Keeps s (s.eachContentAdd c node) := by
  unfold eachContentAdd
  split
  · split
    · exact keeps_fail _
    · exact keeps_fireIdleContentReject _ _
  · split
    · split
      · exact keeps_fail _
      · exact keeps_fireIdleContentReject _ _
    · split
      · exact keeps_fail _
      · exact keeps_createOffered _ _ _ _ _ _

/-! ## Contents that the peer speaks of -/

section

variable (c : ContentId)

/-- A candidate or a description is taken, and handlers are told. -/
theorem keeps_taken (f : Content → Content) (signal : Signal) :
    Keeps s (State.emit (s.modify c f) signal) := (keeps_modify c f).trans (keeps_emit signal)

theorem keeps_acceptCandidates (node : ContentNode) :
    Keeps s (s.acceptCandidates c node) := by
  unfold acceptCandidates
  split
  · exact Keeps.refl s
  · split
    · exact keeps_dropVerdict.trans (keeps_taken c _ _)
    · exact keeps_dropVerdict

theorem keeps_acceptAcknowledge (node : ContentNode) :
    Keeps s (s.acceptAcknowledge c node) :=
  ((keeps_modify c _).trans (keeps_push rfl rfl (by trivial))).trans (keeps_emit _)

theorem keeps_describe (node : Option DescriptionNode) (after : Option ContentNode) :
    Keeps s (s.describe c node (after.map (.acceptAcknowledge c))) := by
  unfold describe
  split
  · exact Keeps.refl s
  · exact keeps_abort _
  · next content node hcontent =>
      have hdescription := keeps_parseDescription (s := s) content node
      split
      · next s' heq =>
          rw [heq] at hdescription
          exact hdescription
      · next s' content' heq =>
          rw [heq] at hdescription
          split
          · refine hdescription.trans (Keeps.trans ?_ (keeps_emit _))
            cases after with
            | none => exact keeps_modify c _
            | some node => exact (keeps_modify c _).trans (keeps_push rfl rfl (by trivial))
          · exact hdescription.trans (keeps_modify c _)

theorem keeps_parseAccept (content : Content) (node : ContentNode) :
    Keeps s (s.parseAccept c content node) := by
  unfold parseAccept
  simp only
  generalize (if node.senders = none then content.type.defaultSenders
    else parseSenders node.senders) = senders
  have hdialect : Keeps s (if content.type = .mediaRtp ∧ s.dialect.isGoogle = true ∧
      node.transport = none then s.setDialect .gtalk3 else s) := by
    split
    · exact keeps_setDialect _
    · exact Keeps.refl s
  generalize (if content.type = .mediaRtp ∧ s.dialect.isGoogle = true ∧
      node.transport = none then s.setDialect .gtalk3 else s) = s' at hdialect ⊢
  split
  · exact hdialect.trans (keeps_fail _)
  · split
    · exact ((hdialect.trans (keeps_modify c _)).trans
        (keeps_push rfl rfl (by trivial))).trans (keeps_emit _)
    · exact hdialect.trans (keeps_describe c _ (some node))

theorem keeps_eachContentAccept (node : ContentNode) :
    Keeps s (s.eachContentAccept c node) := by
  unfold eachContentAccept
  split
  · exact Keeps.refl s
  · split
    · exact Keeps.refl s
    · exact keeps_parseAccept c _ node

theorem keeps_updateSenders (node : ContentNode) :
    Keeps s (s.updateSenders c node) := by
  unfold updateSenders
  split
  · exact keeps_fail _
  · exact keeps_taken c _ _

theorem keeps_parseDescriptionInfo (node : ContentNode) :
    Keeps s (s.parseDescriptionInfo c node) := by
  unfold parseDescriptionInfo
  split
  · exact keeps_fail _
  · split
    · exact Keeps.refl s
    · exact keeps_describe c _ none

end

theorem keeps_callHandler (handler : ContentHandler) (c : Option ContentId)
    (node : ContentNode) : Keeps s (s.callHandler handler c node) := by
  unfold callHandler
  split
  · exact keeps_eachContentAdd _ _
  · exact keeps_abort _
  · exact keeps_contentRemove _ _ _
  · exact (keeps_push rfl rfl (by trivial)).trans (keeps_emit _)
  · exact keeps_updateSenders _ _
  · exact (keeps_push rfl rfl (by trivial)).trans (keeps_contentRemove _ _ _)
  · exact keeps_eachContentAccept _ _
  · exact keeps_parseDescriptionInfo _ _

theorem keeps_foreachContent (handler : ContentHandler) (nodes : List ContentNode) :
    Keeps s (s.foreachContent handler nodes) := by
  unfold foreachContent
  split
  · exact Keeps.refl s
  · split
    · exact keeps_fail _
    · exact (keeps_push rfl rfl (by trivial)).trans (keeps_callHandler _ _ _)

theorem keeps_muteAll (mute : Bool) : Keeps s (s.muteAll mute) :=
  keeps_foldl (fun _ c => keeps_modify c _) _ s

theorem keeps_setMute (name creator : Option String) (mute : Bool) :
    Keeps s (s.setMute name creator mute).1 := by
  unfold setMute
  split
  · exact (keeps_muteAll mute).trans (keeps_emit _)
  · split
    · exact keeps_fail _
    · exact Keeps.refl s
    · split
      · exact keeps_taken _ _ _
      · exact keeps_fail _

theorem keeps_handlePayload (p : Payload) : Keeps s (s.handlePayload p).1 := by
  unfold handlePayload
  split
  · exact Keeps.refl s
  split
  · have hmuted := (keeps_muteAll (s := s) false).trans (keeps_setRinging false)
    exact (hmuted.trans (keeps_setHold false)).trans (keeps_emit _)
  split
  · exact keeps_setRinging true
  split
  · exact keeps_setHold true
  split
  · exact keeps_setHold false
  split
  · exact keeps_setMute _ _ _
  split
  · exact keeps_setMute _ _ _
  · exact keeps_fail _

theorem keeps_onPayloads (understood hitAnError : Bool) (payloads : List Payload) :
    Keeps s (s.onPayloads understood hitAnError payloads) := by
  unfold onPayloads
  split
  · split
    · exact keeps_emit _
    · split
      · exact Keeps.refl s
      · exact keeps_fail _
  · exact (keeps_push rfl rfl (by trivial)).trans (keeps_handlePayload _)

theorem keeps_parseTransportInfo (c : ContentId) (node : TransportNode) :
    Keeps s (s.parseTransportInfo c node) := by
  unfold parseTransportInfo
  split
  · exact keeps_dropVerdict.trans (keeps_taken c _ _)
  · exact keeps_dropVerdict.trans (keeps_fail _)

theorem keeps_transportInfos (nodes : List ContentNode) : Keeps s (s.transportInfos nodes) := by
  unfold transportInfos
  split
  · exact Keeps.refl s
  · split
    · exact (keeps_push rfl rfl (by trivial)).trans (keeps_fail _)
    · exact keeps_push rfl rfl (by trivial)
    · split
      · exact keeps_push rfl rfl (by trivial)
      · split
        · exact keeps_abort _
        · exact (keeps_push rfl rfl (by trivial)).trans (keeps_parseTransportInfo _ _)

theorem keeps_transportInfoAll (node : TransportNode) (cs : List ContentId) :
    Keeps s (s.transportInfoAll node cs) := by
  unfold transportInfoAll
  split
  · exact Keeps.refl s
  · split
    · exact (keeps_push rfl rfl (by trivial)).trans (keeps_parseTransportInfo _ _)
    · exact Keeps.refl s

theorem keeps_infoAll (cs : List ContentId) : Keeps s (s.infoAll cs) := by
  unfold infoAll
  split
  · exact Keeps.refl s
  · exact (keeps_push rfl rfl (by trivial)).trans (keeps_emit _)

theorem keeps_acceptAll (node : ContentNode) (cs : List ContentId) :
    Keeps s (s.acceptAll node cs) := by
  unfold acceptAll
  split
  · exact Keeps.refl s
  · exact (keeps_push rfl rfl (by trivial)).trans (keeps_eachContentAccept _ _)

/-! ## Actions -/

section

variable (node : SessionNode)

theorem keeps_onSessionInitiate : Keeps s (s.onSessionInitiate node) := by
  have hpush : Keeps s (s.push .sessionInitiated) := keeps_push rfl rfl trivial
  unfold onSessionInitiate
  split
  · exact keeps_terminate _ _
  · split
    · exact keeps_abort _
    · split
      · exact (hpush.trans (keeps_push rfl rfl (by trivial))).trans
          (keeps_createOffered _ _ _ _ _ _)
      · exact hpush.trans (keeps_eachContentAdd _ _)
    · exact hpush.trans (keeps_eachContentAdd _ _)
    · exact hpush.trans (keeps_foreachContent _ _)

theorem keeps_onSessionAccept : Keeps s (s.onSessionAccept node) := by
  have hpush : Keeps s (s.push .sessionAccepted) := keeps_push rfl rfl trivial
  unfold onSessionAccept
  split
  · exact hpush.trans (keeps_acceptAll _ _)
  · exact hpush.trans (keeps_foreachContent _ _)

theorem keeps_onSessionTerminate : Keeps s (s.onSessionTerminate node) := by
  unfold onSessionTerminate
  split <;> exact keeps_ended _ _

theorem keeps_onTransportInfo : Keeps s (s.onTransportInfo node) := by
  unfold onTransportInfo
  split
  · split
    · exact ((keeps_setDialect _).trans
        (keeps_foldl (fun _ c => keeps_sendCandidates c true) _ _)).trans
          (keeps_transportInfoAll _ _)
    · split
      · split
        · exact keeps_fail _
        · exact keeps_transportInfoAll _ _
      · exact keeps_transportInfoAll _ _
  · exact keeps_transportInfos _

end

theorem keeps_handle (action : Action) (node : SessionNode) : Keeps s (s.handle action node) := by
  cases action with
  | unknown => exact keeps_abort _
  | sessionAccept => exact keeps_onSessionAccept node
  | sessionInfo =>
    unfold handle
    simp only
    split
    · exact Keeps.refl s
    · exact keeps_onPayloads _ _ _
  | sessionInitiate => exact keeps_onSessionInitiate node
  | sessionTerminate => exact keeps_onSessionTerminate node
  | transportInfo => exact keeps_onTransportInfo node
  | transportAccept => exact Keeps.refl s
  | info =>
    unfold handle
    simp only
    split
    · exact keeps_infoAll _
    · exact Keeps.refl s
  | _ => exact keeps_foreachContent _ _

theorem keeps_parse (action : Action) (stanza : Stanza) : Keeps s (s.parse action stanza) := by
  unfold parse
  split
  · exact keeps_fail _
  · split
    · exact keeps_fail _
    · split
      · exact keeps_fail _
      · split
        · exact keeps_fail _
        · exact keeps_handle _ _

/-- A state that a stanza or a reply puts the session into. -/
theorem keeps_common {state : SessionState} (h : state ∈ [.pendingInitiated, .active, .ended])
    (reason : Reason) (text : Option String) : Keeps s (s.setState state reason text) :=
  keeps_setState reason text (.inl h)

theorem keeps_callReplyHandler (result : Bool) (handler : ReplyHandler) :
    Keeps s (s.callReplyHandler result handler) := by
  cases handler with
  | initiate =>
    unfold callReplyHandler onInitiateReply
    simp only
    split
    · exact Keeps.refl s
    · split
      · exact (keeps_push rfl rfl (by trivial)).trans (keeps_common (by decide) _ _)
      · exact keeps_ended _ _
  | accept =>
    unfold callReplyHandler onAcceptReply
    simp only
    split
    · exact Keeps.refl s
    · split
      · exact (keeps_push rfl rfl (by trivial)).trans (keeps_common (by decide) _ _)
      · exact keeps_ended _ _
  | remove c =>
    unfold callReplyHandler onRemoveReply
    simp only
    split
    · exact keeps_emitRemoved c
    · exact keeps_abort _

theorem keeps_replied (iq : ℕ) (result : Bool) : Keeps s (s.replied iq result) := by
  have htaken : Keeps s (State.note { s with awaiting := s.awaiting.filter (·.1 ≠ iq) }
      (.replied iq result)) := by
    refine Keeps.trans ?_ (keeps_note rfl rfl rfl rfl)
    exact Same.keeps ⟨rfl, rfl, rfl, rfl, rfl⟩
  unfold replied
  simp only
  split
  · exact htaken.trans (keeps_callReplyHandler _ _)
  · exact htaken

theorem keeps_idleContentReject (h : s.idleContentReject = some s') : Keeps s s' := by
  unfold idleContentReject at h
  split at h
  · cases h
  · cases h
    refine Keeps.trans ?_ (keeps_sendIq _ _)
    exact Same.keeps ⟨rfl, rfl, rfl, rfl, rfl⟩

theorem keeps_sendGtalk4TransportAccept {c : ContentId}
    (h : s.sendGtalk4TransportAccept c = some s') : Keeps s s' := by
  unfold sendGtalk4TransportAccept at h
  split at h
  · cases h
  · split at h
    · cases h
      exact (keeps_message _ _ _).trans (keeps_modify c _)
    · cases h

/-! ## Interrupted calls -/

/-- Every stanza that has come in is answered or being answered, in order. -/
structure Sound (s : State) : Prop where
  orderly : s.Orderly
  answered : s.heard = s.answers ++ s.pending
  single : s.pending.length ≤ 1

theorem Sound.keeps (h : s.Sound) (hk : Keeps s s') : s'.Sound := by
  have hkept := hk h.orderly
  refine ⟨hkept.orderly, ?_, ?_⟩
  · rw [hkept.heard, hkept.answers, hkept.pending]
    exact h.answered
  · rw [hkept.pending]
    exact h.single

/-- A call goes on that does not announce the end. -/
theorem Orderly.pop {f : Frame} (h : (p.push f).Orderly) (hend : f.isEnd = false) : p.Orderly := by
  refine h.of_entered rfl rfl rfl rfl (fun f' hf' => h.drafts f' (List.mem_cons_of_mem _ hf')) ?_
  simp [ends_push, hend]

/-- A call that answers nothing goes on. -/
theorem Sound.resume {f : Frame} (h : (p.push f).Sound) (hpending : f.pending = none)
    (hend : f.isEnd = false) (hk : Keeps p s') : s'.Sound := by
  have heq : (p.push f).pending = p.pending := by simp [hpending]
  refine Sound.keeps ⟨h.orderly.pop hend, ?_, ?_⟩ hk
  · rw [← heq]
    exact h.answered
  · rw [← heq]
    exact h.single

/-- A stanza is answered by the call that waits to answer it. -/
theorem Sound.answer {f : Frame} {iq : ℕ} {e : Entry} (h : (p.push f).Sound)
    (hpending : f.pending = some iq) (hend : f.isEnd = false) (hanswer : e.answer = some iq)
    (hincoming : e.incoming = none) (hstate : e.state = none) (he : e.isEnd = false) :
    (p.note e).Sound := by
  have hcons : (p.push f).pending = iq :: p.pending := by simp [hpending]
  have hnil : p.pending = [] := by
    have hsingle := h.single
    rw [hcons] at hsingle
    exact List.length_eq_zero_iff.mp (Nat.le_zero.mp (Nat.le_of_succ_le_succ hsingle))
  have ho := h.orderly.pop hend
  refine ⟨ho.of_entered ?_ rfl rfl rfl ho.drafts ?_, ?_, ?_⟩
  · simp [hstate]
  · simp [ends_note, he]
  · have hbefore : p.heard = p.answers ++ (p.push f).pending := h.answered
    rw [hcons, hnil] at hbefore
    simp [hincoming, hanswer, hnil, hbefore]
  · simp [hnil]

/-- The end is announced by the call that waits to announce it. -/
theorem Sound.enteredRest {state : SessionState} {reason : Reason} {text : Option String}
    (h : (p.push (.enteredState state reason text)).Sound) :
    (p.enteredRest state reason text).Sound := by
  by_cases hended : state = .ended
  · subst hended
    have heq : p.enteredRest .ended reason text =
        State.emit (State.unregister
          (p.note (.terminated p.locallyTerminated reason text))) .terminated := by
      unfold State.enteredRest
      simp
    have hannounced : (p.note (.terminated p.locallyTerminated reason text)).Sound := by
      refine ⟨h.orderly.of_entered ?_ rfl rfl rfl ?_ ?_, ?_, h.single⟩
      · simp [Entry.state]
      · exact fun f hf => h.orderly.drafts f (List.mem_cons_of_mem _ hf)
      · simp [ends_push, ends_note, Frame.isEnd, Entry.isEnd]
      · simpa [Entry.incoming, Entry.answer, Frame.pending] using h.answered
    have hgone : Keeps (p.note (.terminated p.locallyTerminated reason text))
        (State.unregister (p.note (.terminated p.locallyTerminated reason text))) :=
      Same.keeps ⟨rfl, rfl, rfl, rfl, rfl⟩
    rw [heq]
    exact hannounced.keeps (hgone.trans (keeps_emit _))
  · have hend : (Frame.enteredState state reason text).isEnd = false := by
      cases state <;> first | rfl | exact absurd rfl hended
    refine h.resume rfl hend ?_
    unfold State.enteredRest
    simp only [hended, if_false]
    split
    · exact keeps_sendRtpInfo _
    · exact Keeps.refl p

/-- A stanza is answered, or the application is told about the session first. -/
theorem Sound.parsedRest {isNew : Bool} {iq : ℕ} (h : (p.push (.parsed isNew iq)).Sound) :
    (p.parsedRest isNew iq).Sound := by
  unfold State.parsedRest
  split
  · split
    · refine Sound.keeps ?_ (keeps_emit _)
      refine ⟨h.orderly.of_entered rfl rfl rfl rfl ?_ rfl, h.answered, h.single⟩
      exact (h.orderly.pop rfl).drafts_push trivial
    · exact h.answer rfl rfl rfl rfl rfl rfl
  · next e herror =>
      have hanswered : (p.note (.refusedWith iq e)).Sound := h.answer rfl rfl rfl rfl rfl rfl
      split
      · exact hanswered.keeps (keeps_terminate _ _)
      · exact hanswered

/-- **An interrupted call goes on.** -/
theorem Sound.goOn {f : Frame} (h : (p.push f).Sound) : (p.resume f).Sound := by
  -- a frame composes only what this side may send
  have hdraft := h.orderly.drafts f List.mem_cons_self
  cases f with
  | user signal => exact h.resume rfl rfl (Keeps.refl p)
  | enteredState state reason text => exact h.enteredRest
  | composing action => exact h.resume rfl rfl (keeps_compose hdraft.1 hdraft.2)
  | filling draft todo =>
    exact h.resume rfl rfl (keeps_fillContents (s := p) hdraft.2 todo draft hdraft.1)
  | transmitCandidates =>
    exact h.resume rfl rfl (keeps_foldl (fun _ c => keeps_sendCandidates c false) _ p)
  | sendRtpInfo name => exact h.resume rfl rfl (keeps_sendRtpInfo name)
  | foreachContent handler nodes =>
    refine h.resume rfl rfl ?_
    unfold State.resume foreachRest
    simp only
    split
    · exact keeps_foreachContent handler nodes
    · exact Keeps.refl p
  | gtalkAudio node =>
    refine h.resume rfl rfl ?_
    unfold State.resume gtalkAudioRest
    simp only
    split
    · exact Keeps.refl p
    · exact keeps_createOffered _ _ _ _ _ _
  | sessionInitiated =>
    refine h.resume rfl rfl ?_
    unfold State.resume sessionInitiatedRest
    simp only
    split
    · exact (keeps_push rfl rfl (by trivial)).trans (keeps_common (by decide) _ _)
    · exact Keeps.refl p
  | acceptAll cs node => exact h.resume rfl rfl (keeps_acceptAll node cs)
  | sessionAccepted =>
    refine h.resume rfl rfl ?_
    unfold State.resume sessionAcceptedRest
    simp only
    split
    · exact ((keeps_push rfl rfl (by trivial)).trans (keeps_push rfl rfl (by trivial))).trans
        (keeps_common (by decide) _ _)
    · exact Keeps.refl p
  | notifyContents cs =>
    refine h.resume rfl rfl ?_
    unfold State.resume State.notifyContents
    simp only
    split
    · exact Keeps.refl p
    · exact (keeps_push rfl rfl (by trivial)).trans (keeps_emit _)
  | stopRinging =>
    refine h.resume rfl rfl ?_
    unfold State.resume stopRingingRest
    simp only
    split
    · exact (keeps_setRinging false).trans (keeps_emit _)
    · exact Keeps.refl p
  | rejected c => exact h.resume rfl rfl (keeps_contentRemove c _ _)
  | replaceAdd c node =>
    refine h.resume rfl rfl ?_
    unfold State.resume
    simp only
    split
    · exact keeps_eachContentAdd _ _
    · exact Keeps.refl p
  | acceptDescription c node => exact h.resume rfl rfl (keeps_describe c _ (some node))
  | acceptAcknowledge c node => exact h.resume rfl rfl (keeps_acceptAcknowledge c node)
  | acceptCandidates c node => exact h.resume rfl rfl (keeps_acceptCandidates c node)
  | payloads rest understood hitAnError =>
    exact h.resume rfl rfl (keeps_onPayloads understood hitAnError rest)
  | transportInfos nodes => exact h.resume rfl rfl (keeps_transportInfos nodes)
  | transportInfoAll cs node => exact h.resume rfl rfl (keeps_transportInfoAll node cs)
  | infoAll cs => exact h.resume rfl rfl (keeps_infoAll cs)
  | sendRemove c reason => exact h.resume rfl rfl (keeps_contentMessage _ _ _ _ _ _)
  | sendCandidates c => exact h.resume rfl rfl (keeps_sendCandidates c false)
  | addedCandidates c =>
    refine h.resume rfl rfl ?_
    unfold State.resume addedCandidatesRest
    simp only
    split
    · exact keeps_sendCandidates c false
    · exact Keeps.refl p
  | sendModify c =>
    refine h.resume rfl rfl ?_
    unfold State.resume sendModifyRest
    simp only
    split
    · exact Keeps.refl p
    · split
      · exact keeps_contentMessage _ _ _ _ _ _
      · exact Keeps.refl p
  | addedContent name =>
    have hrest : p.addedContentRest name = p ∨
        p.addedContentRest name = p.abort .assertion := by
      unfold addedContentRest
      split
      all_goals split <;> first | exact .inl rfl | exact .inr rfl
    refine h.resume rfl rfl ?_
    unfold State.resume
    simp only
    rcases hrest with heq | heq <;> rw [heq]
    · exact Keeps.refl p
    · exact keeps_abort _
  | startRinging =>
    refine h.resume rfl rfl ?_
    unfold State.resume startRingingRest
    simp only
    split
    · exact (keeps_setRinging true).trans (keeps_emit _)
    · exact Keeps.refl p
  | parsed isNew iq => exact h.parsedRest
  | acknowledge iq => exact h.answer rfl rfl rfl rfl rfl rfl

/-! ## Events -/

theorem push_tail {f : Frame} {rest : List Frame} (h : s.stack = f :: rest) :
    State.push { s with stack := rest } f = s := by
  cases s
  cases h
  rfl

theorem pending_eq_nil (hstack : s.stack = []) : s.pending = [] := by
  unfold pending
  rw [hstack]
  rfl

/-- A stanza that comes in is being answered. -/
theorem Sound.received {isNew : Bool} {iq : ℕ} {stanza : Stanza} (h : s.Sound)
    (hstack : s.stack = []) (hsame : Same s s') :
    (State.push (s'.note (.received isNew iq stanza)) (.parsed isNew iq)).Sound := by
  have hs := h.keeps hsame.keeps
  have ho := hs.orderly
  have hnil : s'.pending = [] := pending_eq_nil (hsame.stack.trans hstack)
  refine ⟨ho.of_entered ?_ rfl rfl rfl (ho.drafts_push trivial) ?_, ?_, ?_⟩
  · simp [Entry.state]
  · simp [ends_push, ends_note, Frame.isEnd, Entry.isEnd]
  · have hbefore := hs.answered
    rw [hnil, List.append_nil] at hbefore
    simp [Entry.incoming, Entry.answer, Frame.pending, hnil, hbefore]
  · simp [Frame.pending, hnil]

/-- A stanza that is for no session is refused. -/
theorem Sound.refused {iq : ℕ} {stanza : Stanza} {e : StanzaError} (h : s.Sound)
    (hstack : s.stack = []) :
    (State.note (s.note (.refused iq stanza)) (.refusedWith iq e)).Sound := by
  have hnil := pending_eq_nil hstack
  refine ⟨h.orderly.of_entered ?_ rfl rfl rfl h.orderly.drafts ?_, ?_, h.single⟩
  · simp [Entry.state]
  · simp [ends_note, Entry.isEnd]
  · have hbefore := h.answered
    rw [hnil, List.append_nil] at hbefore
    simp [Entry.incoming, Entry.answer, hnil, hbefore]

theorem Sound.jingleCb {iq : ℕ} {stanza : Stanza} {verdicts : List Bool} (h : s.Sound)
    (hstack : s.stack = []) (hstep : s.jingleCb iq stanza verdicts = some s') : s'.Sound := by
  unfold State.jingleCb at hstep
  split at hstep
  · cases hstep
  · split at hstep
    · cases hstep
      refine Sound.keeps (h.received hstack ?_) (keeps_parse _ _)
      exact ⟨rfl, rfl, rfl, rfl, rfl⟩
    · cases hstep
      refine Sound.keeps (h.received hstack ?_) (keeps_parse _ _)
      exact ⟨rfl, rfl, rfl, rfl, rfl⟩
    · cases hstep
    · cases hstep
      exact h.refused hstack

/-- **Every event** keeps the account of the session. -/
theorem Sound.step {e : Event} (h : s.Sound) (hstep : s.step e = some s') : s'.Sound := by
  unfold State.step at hstep
  split at hstep
  · cases hstep
  split at hstep
  · next c =>
      split at hstep
      · cases hstep
        exact h.keeps (keeps_call c)
      · cases hstep
  · next signal rest hstack =>
      cases hstep
      rw [← push_tail hstack] at h
      exact h.goOn
  · cases hstep
  · next f rest hnot hstack =>
      cases hstep
      rw [← push_tail hstack] at h
      exact h.goOn
  · next hstack =>
      unfold mainLoop at hstep
      split at hstep
      · exact h.jingleCb hstack hstep
      · cases hstep
        exact h.keeps (keeps_replied _ _)
      · exact h.keeps (keeps_idleContentReject hstep)
      · exact h.keeps (keeps_sendGtalk4TransportAccept hstep)
      · cases hstep
        exact h.keeps (Same.keeps ⟨rfl, rfl, rfl, rfl, rfl⟩)
      · cases hstep
  · cases hstep

/-! ## Runs -/

/-- A session at its beginning: one that our side creates, or one that the peer will create. -/
def IsNew (s : State) : Prop := (∃ dialect hold, s = outgoing dialect hold) ∨ s = incoming

variable {s₀ : State}

theorem IsNew.sound (h : s₀.IsNew) : s₀.Sound := by
  have hnew : ∀ {s : State}, s.log = [] → s.stack = [] → s.state = .pendingCreated → s.Sound := by
    intro s hlog hstack hstate
    have hentered : s.entered = [] := by simp [entered, hlog]
    refine ⟨⟨?_, ?_, ?_, ?_, ?_, ?_⟩, ?_, ?_⟩
    · rw [hentered]
      exact List.pairwise_singleton _ _
    · rw [hentered, hstate]
      rfl
    · rw [hentered]
      exact List.not_mem_nil
    · rw [hentered]
      exact fun hmem => absurd hmem List.not_mem_nil
    · rw [hstack]
      exact List.forall_mem_nil _
    · simp [ends, hlog, hstack, hstate]
    · simp [heard, answers, pending, hlog, hstack]
    · rw [pending_eq_nil hstack]
      exact Nat.zero_le _
  rcases h with ⟨dialect, hold, rfl⟩ | rfl
  · exact hnew rfl rfl rfl
  · exact hnew rfl rfl rfl

theorem sound_run {es : List Event} (hnew : s₀.IsNew)
    (hrun : Transition.run State.step s₀ es = some s) : s.Sound :=
  (Transition.reachable_of_run es (Transition.admits_anyEvent es) hrun).invariant hnew.sound
    fun _ _ _ h _ hstep => h.step hstep

/-- **The states of a session only go up.**  It enters each state at most once and in the order of
the enumeration, whatever signal handlers call in between; it never enters the state that stands
for the other side's message, and its own only after its side has accepted.  Its end is announced
once when it has ended and the call that ends it is over, and never before. -/
theorem states_increase {es : List Event} (hnew : s₀.IsNew)
    (hrun : Transition.run State.step s₀ es = some s) :
    (SessionState.pendingCreated :: s.entered).Pairwise (·.rank < ·.rank) ∧
      (SessionState.pendingCreated :: s.entered).getLast? = some s.state ∧
      offeredState (!s.localInitiator) ∉ s.entered ∧
      (offeredState s.localInitiator ∈ s.entered → s.locallyAccepted = true) ∧
      s.log.countP Entry.isEnd ≤ (if s.state = .ended then 1 else 0) ∧
      (s.stack = [] → s.log.countP Entry.isEnd = if s.state = .ended then 1 else 0) := by
  have ho := (sound_run hnew hrun).orderly
  have hends := ho.ends
  refine ⟨ho.sorted, ho.last, ho.others, ho.accepted, ?_, fun hstack => ?_⟩
  · rw [← hends]
    exact Nat.le_add_right _ _
  · rw [← hends, ends, hstack]
    rfl

/-- A call that rings and is then hung up. -/
def calling : List Event :=
  [.call (.addContent .audio .both "" nsJingleRtp "urn:xmpp:jingle:transports:ice-udp:1"),
    .returned, .goOn, .call .accept, .call (.addCandidates 0 [⟨some "u", 1⟩]), .goOn,
    .call (.setMediaReady 0), .returned, .goOn, .returned, .goOn, .returned, .goOn, .goOn,
    .reply 0 true, .returned, .goOn, .goOn, .call (.terminate .unknown none), .returned, .goOn,
    .returned]

/-- The caller's session after it. -/
def called : State := (Transition.run State.step (outgoing .v032 false) calling).getD incoming

theorem states_increase_called :
    (SessionState.pendingCreated :: called.entered).Pairwise (·.rank < ·.rank) ∧
      (SessionState.pendingCreated :: called.entered).getLast? = some called.state ∧
      offeredState (!called.localInitiator) ∉ called.entered ∧
      (offeredState called.localInitiator ∈ called.entered → called.locallyAccepted = true) ∧
      called.log.countP Entry.isEnd ≤ (if called.state = .ended then 1 else 0) ∧
      (called.stack = [] →
        called.log.countP Entry.isEnd = if called.state = .ended then 1 else 0) := by
  have hnew : (outgoing .v032 false).IsNew := .inl ⟨.v032, false, rfl⟩
  have hrun : Transition.run State.step (outgoing .v032 false) calling = some called := by
    decide +kernel
  exact states_increase hnew hrun

/-- **Every stanza is answered once, and in the order in which it has come in.**  At most the last
one is waiting for its answer, and none is when no call is in progress.  Every stanza carries an id,
without which nothing is answered. -/
theorem stanzas_answered {es : List Event} (hnew : s₀.IsNew)
    (hrun : Transition.run State.step s₀ es = some s) :
    ∃ waiting, s.heard = s.answers ++ waiting ∧ waiting.length ≤ 1 ∧
      (s.stack = [] → waiting = []) := by
  have h := sound_run hnew hrun
  exact ⟨s.pending, h.answered, h.single, pending_eq_nil⟩

/-- A `session-initiate` with an audio content. -/
def ring : Stanza :=
  ⟨some { newNode .sessionInitiate .v032 with
    contents := [⟨some "Audio", some "initiator", some "both", none,
      some ⟨nsJingleRtp, some "audio"⟩,
      some ⟨"urn:xmpp:jingle:transports:ice-udp:1", 1⟩⟩] }, none, none⟩

/-- The stanza comes in, and handlers run until it is acknowledged. -/
def ringing : List Event :=
  [.stanza 7 ring [], .returned, .goOn, .goOn, .returned, .goOn, .goOn, .goOn, .returned, .goOn]

/-- The callee's session after it. -/
def rung : State := (Transition.run State.step incoming ringing).getD incoming

theorem stanzas_answered_rung :
    ∃ waiting, rung.heard = rung.answers ++ waiting ∧ waiting.length ≤ 1 ∧
      (rung.stack = [] → waiting = []) := by
  have hrun : Transition.run State.step incoming ringing = some rung := by decide +kernel
  exact stanzas_answered (.inr rfl) hrun

end State

end Jingle
