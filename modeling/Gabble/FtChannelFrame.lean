/-
# What a file transfer channel leaves alone

Most callbacks of the channel neither count bytes nor change the offset or what the
channel has of a stream, and do not report `COMPLETED`.  This module says so of each of
them, for the proofs about those that do.
-/
import Gabble.FtChannelEnded

namespace FtChannel

/-! ## Frames -/

/-- `COMPLETED` has been reported. -/
def Reported (s : State) : Prop := FileTransferState.completed ∈ states s.out

instance (s : State) : Decidable (Reported s) := inferInstanceAs (Decidable (_ ∈ _))

/-- A transport hands what it reads to the channel. -/
def handled (s : State) : Bool := s.transport.any Transport.handlerSet

/-- Nothing is counted and the offset is as it was, and the channel has got no other
stream. -/
structure Frame (s s' : State) : Prop where
  requested : s'.requested = s.requested
  offered : s'.offered = s.offered
  size : s'.size = s.size
  transferredBytes : s'.transferredBytes = s.transferredBytes
  initialOffset : s'.initialOffset = s.initialOffset
  negotiating : s'.negotiating = s.negotiating
  bytestreamSignals : s'.bytestreamSignals = s.bytestreamSignals
  dataReceivedSignal : s'.dataReceivedSignal = s.dataReceivedSignal
  bytestream : s'.bytestream = true → s.bytestream = true
  collection : s'.gtalkFileCollection = true → s.gtalkFileCollection = true
  handled : handled s' = true → handled s = true ∨ s.requested = true

/-- A frame in which `COMPLETED` is not reported, and the channel is not pending
again. -/
structure Keeps (s s' : State) : Prop extends Frame s s' where
  reported : Reported s' ↔ Reported s
  pending : s'.state = .pending → s.state = .pending

variable {s s' s'' : State}

/-- What the frame does not mention may be anything. -/
theorem frame_set {state : FileTransferState} {channelOpened listener socketAddress : Bool}
    {progressTimer disposed aborted : Bool} {time : GTimeVal} {old : ℕ}
    {out : List Effect} :
    Frame s { s with
      state, channelOpened, listener, socketAddress, progressTimer, aborted, out
      lastTransferredBytesEmitted := time, oldTransports := old, disposeHasRun := disposed } :=
  ⟨rfl, rfl, rfl, rfl, rfl, rfl, rfl, rfl, id, id, .inl⟩

theorem Frame.refl (s : State) : Frame s s := frame_set

theorem Frame.trans (h : Frame s s') (h' : Frame s' s'') : Frame s s'' where
  requested := h'.requested.trans h.requested
  offered := h'.offered.trans h.offered
  size := h'.size.trans h.size
  transferredBytes := h'.transferredBytes.trans h.transferredBytes
  initialOffset := h'.initialOffset.trans h.initialOffset
  negotiating := h'.negotiating.trans h.negotiating
  bytestreamSignals := h'.bytestreamSignals.trans h.bytestreamSignals
  dataReceivedSignal := h'.dataReceivedSignal.trans h.dataReceivedSignal
  bytestream := fun hb => h.bytestream (h'.bytestream hb)
  collection := fun hc => h.collection (h'.collection hc)
  handled := fun hh => by
    rcases h'.handled hh with hh | hr
    · exact h.handled hh
    · exact .inr (h.requested ▸ hr)

/-- A frame that is quiet keeps. -/
theorem Frame.keeps (h : Frame s s') (hq : Quiet s s') : Keeps s s' where
  toFrame := h
  reported := by rw [Reported, hq.2, Reported]
  pending := fun hp => hq.1 ▸ hp

/-- What neither the frame nor a report is about may be anything. -/
theorem keeps_set {channelOpened listener socketAddress progressTimer disposed aborted : Bool}
    {time : GTimeVal} {old : ℕ} :
    Keeps s { s with
      channelOpened, listener, socketAddress, progressTimer, aborted
      lastTransferredBytesEmitted := time, oldTransports := old, disposeHasRun := disposed } :=
  frame_set.keeps ⟨rfl, rfl⟩

theorem Keeps.refl (s : State) : Keeps s s := keeps_set

theorem Keeps.trans (h : Keeps s s') (h' : Keeps s' s'') : Keeps s s'' where
  toFrame := h.toFrame.trans h'.toFrame
  reported := h'.reported.trans h.reported
  pending := fun hp => h.pending (h'.pending hp)

theorem keeps_abort (s : State) : Keeps s (abort s) := keeps_set

theorem keeps_emit {e : Effect} (he : e.silent = true) (s : State) : Keeps s (emit e s) :=
  frame_set.keeps (quiet_emit he s)

theorem Keeps.emit {e : Effect} (h : Keeps s s') (he : e.silent = true) : Keeps s (emit e s') :=
  h.trans (keeps_emit he s')

/-! ## State changes -/

theorem frame_setState (state : FileTransferState) (reason : StateChangeReason) (s : State) :
    Frame s (setState state reason s) := by
  rw [setState]
  split
  · exact Frame.refl s
  · exact frame_set

/-- A state that is neither completed nor pending. -/
theorem keeps_setState {state : FileTransferState} (hcompleted : state ≠ .completed)
    (hpending : state ≠ .pending) (reason : StateChangeReason) (s : State) :
    Keeps s (setState state reason s) := by
  refine ⟨frame_setState state reason s, ?_, fun hp => ?_⟩
  · rw [setState]
    split
    · exact Iff.rfl
    · rw [Reported, states_append, List.mem_append]
      exact or_iff_left fun hmem => hcompleted (List.mem_singleton.mp hmem).symm
  · rw [setState_state] at hp
    exact absurd hp hpending

section

variable (reason : StateChangeReason)

theorem keeps_cancel (s : State) :
    Keeps s (setState .cancelled reason s) :=
  keeps_setState (by decide) (by decide) reason s

/-- `COMPLETED` is reported. -/
theorem reported_setState (hc : Current s) :
    Reported (setState .completed reason s) := by
  rw [setState]
  split
  case isTrue hstate =>
    obtain ⟨before, hbefore⟩ := List.getLast?_eq_some_iff.mp hc
    rw [Reported, hbefore, hstate]
    exact List.mem_append_right _ List.mem_cons_self
  case isFalse =>
    rw [Reported, states_append]
    exact List.mem_append_right _ List.mem_cons_self

theorem keeps_cancelUnlessEnded (s : State) :
    Keeps s (cancelUnlessEnded reason s) := by
  rw [cancelUnlessEnded]
  split
  · exact Keeps.refl s
  · exact keeps_cancel reason s

end

/-- The user is slower than the peer, or not any more. -/
theorem keeps_blockReceiving (block : Bool) (s : State) : Keeps s (blockReceiving block s) := by
  refine Frame.keeps ?_ (quiet_blockReceiving block s)
  rw [blockReceiving]
  split
  · exact Frame.refl s
  case h_2 t ht =>
    refine ⟨rfl, rfl, rfl, rfl, rfl, rfl, rfl, rfl, id, id, fun hh => .inl ?_⟩
    rw [handled, ht]
    exact hh

theorem keeps_blockReading (block : Bool) (s : State) : Keeps s (blockReading block s) := by
  rw [blockReading]
  split
  · exact keeps_emit rfl s
  · split
    · exact keeps_emit rfl s
    · exact Keeps.refl s

/-! ## Closing -/

theorem keeps_terminateCollection (a : Answers) (s : State) :
    Keeps s (terminateCollection a s) := by
  have hterminate : Keeps s (emit .collectionTerminate s) := keeps_emit rfl s
  rw [terminateCollection]
  split
  · split
    · exact (hterminate.trans (keeps_cancelUnlessEnded .localStopped _)).emit rfl
    · exact hterminate
  · exact Keeps.refl s

theorem keeps_bytestreamIfaceClose (a : Answers) (s : State) :
    Keeps s (bytestreamIfaceClose a s) := by
  have hclose : Keeps s (emit .bytestreamClose s) := keeps_emit rfl s
  rw [bytestreamIfaceClose]
  split
  · exact hclose.trans (keeps_cancelUnlessEnded _ _)
  · exact hclose

/-- The channel lets go of its streams and of the local socket. -/
theorem keeps_drop (s : State) :
    Keeps s { s with
      gtalkFileCollection := false, bytestream := false, listener := false,
      transport := none } :=
  Frame.keeps ⟨rfl, rfl, rfl, rfl, rfl, rfl, rfl, rfl, fun h => Bool.noConfusion h,
    fun h => Bool.noConfusion h, fun h => Bool.noConfusion h⟩ ⟨rfl, rfl⟩

/-- The stream and the connection of the user are closed. -/
theorem keeps_closeSessionAndTransport (a : Answers) (s : State) :
    Keeps s (closeSessionAndTransport a s) := by
  have hterminate := keeps_terminateCollection a s
  rw [closeSessionAndTransport]
  split
  · exact (hterminate.trans (keeps_bytestreamIfaceClose a _)).trans (keeps_drop _)
  · exact hterminate.trans (keeps_drop _)

theorem keeps_close (a : Answers) (s : State) : Keeps s (close a s) := by
  rw [close]
  refine Keeps.emit ?_ rfl
  split
  · exact Keeps.refl s
  · exact (keeps_cancel _ s).trans (keeps_closeSessionAndTransport a _)

theorem keeps_dispose (a : Answers) (s : State) : Keeps s (dispose a s) := by
  have hgone : Keeps s { s with disposeHasRun := true, progressTimer := false } := keeps_set
  exact hgone.trans (keeps_closeSessionAndTransport a _)

/-! ## The stream and the local socket -/

theorem keeps_channelOpen (s : State) : Keeps s (channelOpen s) := by
  have hopened : Keeps s { s with channelOpened := true } := keeps_set
  rw [channelOpen]
  dsimp only
  split
  · have hemit : Keeps s (emit (.initialOffsetDefined s.initialOffset)
        { s with channelOpened := true }) := hopened.emit rfl
    exact (hemit.trans (keeps_setState (by decide) (by decide) .none _)).trans
      (keeps_blockReceiving false _)
  · exact hopened.trans (keeps_setState (by decide) (by decide) .none _)

theorem keeps_bytestreamStateChangedCb (state : Ibb.BytestreamState) (s : State) :
    Keeps s (bytestreamStateChangedCb state s) := by
  cases state with
  | opened => exact keeps_channelOpen s
  | closed => exact keeps_cancelUnlessEnded _ s
  | _ => exact Keeps.refl s

/-- The user has closed the connection. -/
theorem keeps_transportDisconnectedCb (a : Answers) (s : State) :
    Keeps s (transportDisconnectedCb a s) := by
  rw [transportDisconnectedCb]
  split
  · exact (keeps_cancel _ s).trans (keeps_closeSessionAndTransport a _)
  · exact Keeps.refl s

/-- The transport is another one, or in another state. -/
theorem keeps_setTransport {transport : Option Transport}
    (h : transport.any Transport.handlerSet = true → handled s = true) :
    Keeps s { s with transport := transport } :=
  Frame.keeps ⟨rfl, rfl, rfl, rfl, rfl, rfl, rfl, rfl, id, id, fun hh => .inl (h hh)⟩ ⟨rfl, rfl⟩

theorem keeps_transportDisconnect (a : Answers) (s : State) :
    Keeps s (transportDisconnect a s) := by
  rw [transportDisconnect]
  split
  · exact Keeps.refl s
  case h_2 t ht =>
    have hemit : Keeps s (emit .transportDisconnect s) := keeps_emit rfl s
    have hgone : Keeps (emit .transportDisconnect s)
        (transportGone t (emit .transportDisconnect s)) := by
      refine keeps_setTransport fun hh => ?_
      rw [handled, show (emit .transportDisconnect s).transport = some t from ht]
      exact hh
    dsimp only
    split
    · exact (hemit.trans hgone).trans (keeps_transportDisconnectedCb a _)
    · exact hemit

theorem keeps_disconnectIfEmpty (a : Answers) (s : State) : Keeps s (disconnectIfEmpty a s) := by
  rw [disconnectIfEmpty]
  split
  · exact Keeps.refl s
  · split
    · exact keeps_transportDisconnect a s
    · exact Keeps.refl s

theorem keeps_transportBufferEmptyCb (a : Answers) (s : State) :
    Keeps s (transportBufferEmptyCb a s) := by
  have hblock := keeps_blockReading false s
  rw [transportBufferEmptyCb]
  split
  · exact hblock.trans (keeps_transportDisconnect a _)
  · exact hblock

/-- The collection changes the state of the transfer, and nothing else. -/
theorem frame_gtalkFileCollectionStateChanged (state : GTalkFileCollectionState)
    (localTerminator : Bool) (a : Answers) (s : State) :
    Frame s (gtalkFileCollectionStateChanged state localTerminator a s) := by
  cases state with
  | pending => exact frame_setState _ _ s
  | accepted =>
    rw [gtalkFileCollectionStateChanged]
    split
    · exact frame_setState _ _ s
    · exact Frame.refl s
  | opened => exact (keeps_channelOpen s).toFrame
  | terminated =>
    exact ((keeps_cancelUnlessEnded _ s).trans (keeps_closeSessionAndTransport a _)).toFrame
  | error => exact ((keeps_cancel _ s).trans (keeps_closeSessionAndTransport a _)).toFrame
  | connectionFailed =>
    exact ((keeps_cancel _ s).trans (keeps_closeSessionAndTransport a _)).toFrame
  | completed => exact (frame_setState _ _ s).trans (keeps_disconnectIfEmpty a _).toFrame

/-! ## The user -/

theorem keeps_provideFile (addressType accessControl : ℕ) (listens : Bool) (s : State) :
    Keeps s (provideFile addressType accessControl listens s) := by
  have hfailed : ∀ e, Keeps s (emit (.failed e) s) := fun e => keeps_emit rfl s
  have hlistens : Keeps s { s with listener := true, socketAddress := true } := keeps_set
  rw [provideFile]
  split
  · exact hfailed _
  split
  · exact hfailed _
  split
  · exact hfailed _
  split
  · exact hfailed _
  · rw [provided]
    dsimp only
    refine Keeps.emit ?_ rfl
    split
    · exact (hlistens.emit rfl).trans (keeps_setState (by decide) (by decide) _ _)
    · exact hlistens

/-- The user connects. -/
theorem keeps_newConnectionCb (s : State) : Keeps s (newConnectionCb s) := by
  have hset : ∀ n, Frame s { s with transport := some ⟨true, true, false, false⟩,
                                    oldTransports := n } := fun n =>
    ⟨rfl, rfl, rfl, rfl, rfl, rfl, rfl, rfl, id, id, fun hh => Bool.noConfusion hh⟩
  refine Frame.keeps ?_ (quiet_newConnectionCb s)
  rw [newConnectionCb]
  dsimp only
  split
  case isTrue hrequested =>
    have hblock := (hset (s.oldTransports +
      if (s.transport.any Transport.connected) = true then 1 else 0)).trans
        (keeps_blockReceiving (s.state ≠ .opened) _).toFrame
    exact ⟨hblock.requested, hblock.offered, hblock.size, hblock.transferredBytes,
      hblock.initialOffset, hblock.negotiating, hblock.bytestreamSignals,
      hblock.dataReceivedSignal, hblock.bytestream, hblock.collection,
      fun _ => .inr hrequested⟩
  case isFalse =>
    have hblock := (hset (s.oldTransports +
      if (s.transport.any Transport.connected) = true then 1 else 0)).trans
        (keeps_blockReading false _).toFrame
    exact ⟨hblock.requested, hblock.offered, hblock.size, hblock.transferredBytes,
      hblock.initialOffset, hblock.negotiating, hblock.bytestreamSignals,
      hblock.dataReceivedSignal, hblock.bytestream, hblock.collection, hblock.handled⟩

end FtChannel
