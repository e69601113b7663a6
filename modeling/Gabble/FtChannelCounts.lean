/-
# The bytes of a file transfer

The offset, the size and the count of a transfer are 64-bit numbers that come from the
peer, the user and the data.  `Counts` says how they belong together and when an SI
transfer is reported as completed, and `Fits` is the condition on one event under which
they do: the offset is not the size, and the data does not go beyond it.
-/
import Gabble.FtChannelFrame

namespace FtChannel

open Base64 Transition

variable {streams : Prop} {now : GTimeVal}

/-! ## The numbers -/

/-- How far the transfer is in the file, without wrapping. -/
def position (s : State) : ℕ := s.initialOffset.toNat + s.transferredBytes.toNat

/-- The offset of an SI transfer is known: the peer has answered, or the user has
accepted the file. -/
def settled (s : State) : Bool := s.bytestreamSignals && (s.requested || s.dataReceivedSignal)

/-- The count is within the file, its sum with the offset does not wrap, and an SI
transfer is reported as completed exactly when all the bytes from the offset on are
transferred. -/
def Counts (s : State) : Prop :=
  s.transferredBytes ≤ s.size ∧ position s < 2 ^ 64 ∧
    (s.bytestreamSignals = true →
      (Reported s ↔ settled s = true ∧ position s = s.size.toNat))

instance (s : State) : Decidable (Counts s) := inferInstanceAs (Decidable (_ ∧ _ ∧ (_ → _)))

/-- `n` more bytes are within the file. -/
def Room (s : State) (n : ℕ) : Prop :=
  s.transferredBytes.toNat + n ≤ s.size.toNat ∧ position s + n < 2 ^ 64 ∧
    (s.bytestreamSignals = true → position s + n ≤ s.size.toNat)

instance (s : State) (n : ℕ) : Decidable (Room s n) :=
  inferInstanceAs (Decidable (_ ∧ _ ∧ (_ → _)))

/-- `n` more bytes are the last ones of an SI transfer. -/
def Finishes (s : State) (n : ℕ) : Prop :=
  s.bytestreamSignals = true ∧ n ≠ 0 ∧ position s + n = s.size.toNat

instance (s : State) (n : ℕ) : Decidable (Finishes s n) :=
  inferInstanceAs (Decidable (_ ∧ _ ∧ _))

/-- An offset from which something is left to transfer over a stream. -/
def OffsetFits (stream : Bool) (offset : UInt64) (s : State) : Prop :=
  offset.toNat + s.transferredBytes.toNat < 2 ^ 64 ∧
    (stream = true → offset.toNat + s.transferredBytes.toNat ≠ s.size.toNat)

instance (stream : Bool) (offset : UInt64) (s : State) : Decidable (OffsetFits stream offset s) :=
  inferInstanceAs (Decidable (_ ∧ (_ → _)))

/-- The condition on one event.  Data is counted unless it could not be passed on, and
the last bytes of an SI transfer must find the channel with its stream. -/
def Fits (s : State) : Event → Prop
  | .negotiated (some offset) => OffsetFits true (offset.getD s.initialOffset) s
  | .acceptFile addressType accessControl offset listens =>
    s.requested = false → s.state = .pending →
      (setupLocalSocket addressType accessControl listens).isOk = true →
        OffsetFits s.bytestreamSignals (if s.resumeSupported then offset else 0) s
  | .localData data ok _ _ =>
    (ok = true ∨ s.bytestream = false ∧ s.gtalkFileCollection = false) →
      Room s data.length ∧ (Finishes s data.length → s.bytestream = true)
  | .bytestreamDataReceived data sent _ _ | .collectionDataReceived data sent _ _ =>
    sent ≠ .failed → s.transport.any Transport.connected = true →
      Room s data.length ∧ (Finishes s data.length →
        s.bytestream = true ∧ ¬ (sent = .whole ∧ s.state = .cancelled))
  | _ => True

instance (s : State) : (e : Event) → Decidable (Fits s e)
  | .negotiated (some _) => inferInstanceAs (Decidable (OffsetFits _ _ _))
  | .acceptFile _ _ _ _ => inferInstanceAs (Decidable (_ → _ → _ → _))
  | .localData _ _ _ _ => inferInstanceAs (Decidable (_ → _ ∧ (_ → _)))
  | .bytestreamDataReceived _ _ _ _ | .collectionDataReceived _ _ _ _ =>
    inferInstanceAs (Decidable (_ → _ → _ ∧ (_ → _ ∧ _)))
  | .negotiated none | .offerFile _ | .bytestreamStateChanged _ | .bytestreamWriteBlocked _
  | .collectionStateChanged _ _ _ | .collectionWriteBlocked _ | .provideFile _ _ _
  | .newConnection | .transportDisconnected _ | .transportBufferEmpty _
  | .oldTransportDisconnected _ | .oldTransportBufferEmpty _ | .presencesUpdated _
  | .progressTimeout _ | .close _ | .dispose _ => .isTrue trivial

/-! ## The invariant -/

/-- The file was not offered yet, or the peer has not answered. -/
def Waits (s : State) : Prop :=
  s.requested = true ∧ s.offered = false ∨ s.negotiating = true

structure Inv (s : State) : Prop where
  counts : Counts s
  current : Current s
  waits : Waits s → s.requested = true ∧ s.bytestream = false ∧ s.gtalkFileCollection = false ∧
    s.bytestreamSignals = false ∧ ¬ Reported s
  offered : s.negotiating = true → s.offered = true
  stream : s.bytestream = true → s.bytestreamSignals = true
  collection : s.gtalkFileCollection = true → s.bytestreamSignals = false
  accepted : s.requested = false → s.bytestreamSignals = true → s.dataReceivedSignal = true →
    s.state ≠ .pending
  handled : handled s = true → s.requested = true

variable {s s' s'' : State}

theorem Frame.position_eq (h : Frame s s') : position s' = position s := by
  rw [position, position, h.initialOffset, h.transferredBytes]

theorem Frame.settled_eq (h : Frame s s') : settled s' = settled s := by
  rw [settled, settled, h.bytestreamSignals, h.requested, h.dataReceivedSignal]

theorem Frame.waits_iff (h : Frame s s') : Waits s' ↔ Waits s := by
  rw [Waits, Waits, h.requested, h.offered, h.negotiating]

theorem Frame.handled_requested (h : Frame s s')
    (hs : FtChannel.handled s = true → s.requested = true) :
    FtChannel.handled s' = true → s'.requested = true := fun hh => by
  rw [h.requested]
  exact (h.handled hh).elim hs id

theorem Keeps.counts (h : Keeps s s') (hs : Counts s) : Counts s' := by
  rw [Counts, h.transferredBytes, h.size, h.position_eq, h.bytestreamSignals, h.reported,
    h.settled_eq]
  exact hs

/-- An event that does not count. -/
theorem Inv.keep (hs : Inv s) (h : Keeps s s') (hc : Current s') : Inv s' where
  counts := h.counts hs.counts
  current := hc
  waits := fun hw => by
    obtain ⟨hrequested, hbytestream, hcollection, hsignals, hreported⟩ :=
      hs.waits (h.waits_iff.mp hw)
    refine ⟨h.requested.trans hrequested, ?_, ?_, h.bytestreamSignals.trans hsignals,
      mt h.reported.mp hreported⟩
    · exact Bool.eq_false_iff.mpr fun hb => Bool.eq_false_iff.mp hbytestream (h.bytestream hb)
    · exact Bool.eq_false_iff.mpr fun hb => Bool.eq_false_iff.mp hcollection (h.collection hb)
  offered := by
    rw [h.negotiating, h.offered]
    exact hs.offered
  stream := fun hb => h.bytestreamSignals.trans (hs.stream (h.bytestream hb))
  collection := fun hb => h.bytestreamSignals.trans (hs.collection (h.collection hb))
  accepted := by
    rw [h.requested, h.bytestreamSignals, h.dataReceivedSignal]
    exact fun hincoming hsignals hdata hpending =>
      hs.accepted hincoming hsignals hdata (h.pending hpending)
  handled := h.handled_requested hs.handled

/-- An event of the collection: the transfer is not one over SI. -/
theorem Inv.frame (hs : Inv s) (hcollection : s.gtalkFileCollection = true) (h : Frame s s')
    (hc : Current s') : Inv s' := by
  have hsignals : s'.bytestreamSignals = false :=
    h.bytestreamSignals.trans (hs.collection hcollection)
  have hnever : ∀ {P : Prop}, s'.bytestreamSignals = true → P := fun ht => by
    rw [hsignals] at ht
    cases ht
  refine ⟨⟨?_, ?_, hnever⟩, hc, fun hw => ?_, ?_, fun hb => ?_, fun _ => hsignals,
    fun _ => hnever, h.handled_requested hs.handled⟩
  · rw [h.transferredBytes, h.size]
    exact hs.counts.1
  · rw [h.position_eq]
    exact hs.counts.2.1
  · have hnone := (hs.waits (h.waits_iff.mp hw)).2.2.1
    rw [hcollection] at hnone
    cases hnone
  · rw [h.negotiating, h.offered]
    exact hs.offered
  · have hstream := hs.stream (h.bytestream hb)
    rw [hs.collection hcollection] at hstream
    cases hstream

/-! ## A chunk -/

/-- A chunk is counted, and `COMPLETED` is reported with it if the channel has its stream
and nothing is missing then. -/
structure Chunk (len : UInt64) (streams : Prop) (s s' : State) : Prop where
  frame : Frame { s with transferredBytes := s.transferredBytes + len } s'
  reported : Reported s' ↔ Reported s ∨ streams ∧ shortAfter len s = false
  pending : s'.state = .pending → s.state = .pending

theorem Chunk.keep {len : UInt64} (h : Chunk len streams s s')
    (h' : Keeps s' s'') : Chunk len streams s s'' :=
  ⟨h.frame.trans h'.toFrame, h'.reported.trans h.reported, fun hp => h.pending (h'.pending hp)⟩

theorem Keeps.chunk {len : UInt64} (h : Keeps s s')
    (h' : Chunk len streams s' s'') : Chunk len streams s s'' := by
  have hadd : Frame { s with transferredBytes := s.transferredBytes + len }
      { s' with transferredBytes := s'.transferredBytes + len } :=
    ⟨h.requested, h.offered, h.size, congrArg (· + len) h.transferredBytes, h.initialOffset,
      h.negotiating, h.bytestreamSignals, h.dataReceivedSignal, h.bytestream, h.collection,
      h.handled⟩
  refine ⟨hadd.trans h'.frame, ?_, fun hp => h.pending (h'.pending hp)⟩
  have hshort : shortAfter len s' = shortAfter len s := by
    rw [shortAfter, shortAfter, short, short]
    dsimp only
    rw [h.transferredBytes, h.initialOffset, h.size]
  rw [h'.reported, h.reported, hshort]

/-- The count, before anything is made of it. -/
theorem chunk_transferredChunk (len : UInt64) (now : GTimeVal) (s : State) :
    Frame { s with transferredBytes := s.transferredBytes + len } (transferredChunk len now s) ∧
      Quiet s (transferredChunk len now s) := by
  refine ⟨?_, quiet_transferredChunk len now s⟩
  obtain ⟨emitted, timer, out, h⟩ := transferredChunk_eq len now s
  rw [h]
  exact frame_set

theorem transferredChunk_bytestream (len : UInt64) (now : GTimeVal) (s : State) :
    (transferredChunk len now s).bytestream = s.bytestream := by
  obtain ⟨emitted, timer, out, h⟩ := transferredChunk_eq len now s
  rw [h]

/-- A chunk after which nothing is reported. -/
theorem chunk_unreported {len : UInt64}
    (h : streams → shortAfter len s = true) : Chunk len streams s (transferredChunk len now s) := by
  obtain ⟨hframe, hquiet⟩ := chunk_transferredChunk len now s
  refine ⟨hframe, ?_, fun hp => hquiet.1 ▸ hp⟩
  rw [Reported, hquiet.2, Reported]
  refine (or_iff_left fun hdone => ?_).symm
  rw [h hdone.1] at hdone
  cases hdone.2

/-- A chunk after which `COMPLETED` is reported. -/
theorem chunk_reported {len : UInt64} (hc : Current s)
    (hstreams : streams) (hshort : shortAfter len s = false) :
    Chunk len streams s (setState .completed .none (transferredChunk len now s)) := by
  obtain ⟨hframe, hquiet⟩ := chunk_transferredChunk len now s
  refine ⟨hframe.trans (frame_setState _ _ _), ?_, fun hp => ?_⟩
  · exact iff_of_true (reported_setState .none (hquiet.current hc)) (.inr ⟨hstreams, hshort⟩)
  · rw [setState_state] at hp
    cases hp

/-- `data_received_cb` after the data was sent. -/
theorem chunk_dataSent (len : UInt64) (now : GTimeVal) (a : Answers) (hc : Current s) :
    Chunk len (s.bytestream = true) s (dataSent len now a s) := by
  rw [dataSent]
  dsimp only
  rw [short_transferredChunk, transferredChunk_bytestream]
  split
  case isTrue hdone =>
    obtain ⟨hb, hshort⟩ := Bool.and_eq_true_iff.mp hdone
    have hreported : Chunk len (s.bytestream = true) s
        (setState .completed .none (transferredChunk len now s)) :=
      chunk_reported hc hb (by simpa using hshort)
    split
    · exact hreported.keep (keeps_abort _)
    · exact hreported.keep (keeps_disconnectIfEmpty a _)
  case isFalse hmissing =>
    have hchunk : Chunk len (s.bytestream = true) s (transferredChunk len now s) :=
      chunk_unreported fun hb => by simpa [hb] using hmissing
    split
    · exact hchunk.keep (keeps_abort _)
    · split
      · exact hchunk
      · exact hchunk.keep (keeps_blockReading true _)

/-- `transport_handler` after the data was sent. -/
theorem chunk_dataForwarded (len : UInt64) (now : GTimeVal) (a : Answers) (hc : Current s) :
    Chunk len (s.bytestream = true) s (dataForwarded len now a s) := by
  rw [dataForwarded, short_transferredChunk, transferredChunk_bytestream]
  split
  case isTrue hshort => exact chunk_unreported fun _ => hshort
  case isFalse hshort =>
    split
    case isTrue hb =>
      exact (chunk_reported hc hb (by simpa using hshort)).keep (keeps_bytestreamIfaceClose a _)
    case isFalse hb =>
      have hchunk : Chunk len (s.bytestream = true) s (transferredChunk len now s) :=
        chunk_unreported fun h => absurd h hb
      split
      · exact hchunk.keep (keeps_emit rfl _)
      · exact hchunk

/-- The numbers after a chunk for which there is room. -/
theorem Room.toNat_add {n : ℕ} (h : Room s n) :
    (s.transferredBytes + UInt64.ofNat n).toNat = s.transferredBytes.toNat + n := by
  have hsize := s.size.toNat_lt
  have hroom := h.1
  rw [UInt64.toNat_add, UInt64.toNat_ofNat', Nat.mod_eq_of_lt (show n < 2 ^ 64 by omega),
    Nat.mod_eq_of_lt (by omega)]

/-- Nothing is missing after a chunk exactly when it ends at the size. -/
theorem Room.shortAfter_iff {n : ℕ} (h : Room s n) (hstream : s.bytestreamSignals = true) :
    shortAfter (UInt64.ofNat n) s = false ↔ position s + n = s.size.toNat := by
  have hwraps := h.2.1
  have hroom := h.2.2 hstream
  rw [position] at hwraps hroom ⊢
  rw [shortAfter, short]
  dsimp only
  rw [decide_eq_false_iff_not, UInt64.lt_iff_toNat_lt, UInt64.toNat_add, h.toNat_add,
    Nat.mod_eq_of_lt (by omega)]
  omega

/-- **A chunk for which there is room.** -/
theorem Inv.chunk (hs : Inv s) {n : ℕ} (hroom : Room s n)
    (hchunk : Chunk (UInt64.ofNat n) streams s s') (hc : Current s')
    (hstreams : streams → s.bytestream = true) (hfinish : Finishes s n → streams)
    (hsettled : s.bytestreamSignals = true → settled s = true) : Inv s' := by
  have h := hchunk.frame
  have hposition : position s' = position s + n := by
    rw [position, h.initialOffset, h.transferredBytes]
    dsimp only
    rw [hroom.toNat_add, position, Nat.add_assoc]
  refine ⟨⟨?_, ?_, fun hsignals => ?_⟩, hc, fun hw => ?_, ?_, fun hb => ?_, fun hb => ?_, ?_, ?_⟩
  · rw [h.transferredBytes, h.size, UInt64.le_iff_toNat_le]
    dsimp only
    rw [hroom.toNat_add]
    exact hroom.1
  · rw [hposition]
    exact hroom.2.1
  · have hsignals' : s.bytestreamSignals = true := h.bytestreamSignals ▸ hsignals
    have hset : settled s = true := hsettled hsignals'
    have hset' : settled s' = true := by
      rw [settled, h.bytestreamSignals, h.requested, h.dataReceivedSignal]
      exact hset
    have hbefore := hs.counts.2.2 hsignals'
    have hafter := hroom.2.2 hsignals'
    rw [hchunk.reported, hbefore, hroom.shortAfter_iff hsignals', hposition, h.size]
    dsimp only
    constructor
    · rintro (⟨-, hwhole⟩ | ⟨-, hwhole⟩)
      · -- the transfer was complete, and the chunk is empty
        exact ⟨hset', by omega⟩
      · exact ⟨hset', hwhole⟩
    · rintro ⟨-, hwhole⟩
      by_cases hzero : n = 0
      · exact .inl ⟨hset, by omega⟩
      · exact .inr ⟨hfinish ⟨hsignals', hzero, hwhole⟩, hwhole⟩
  · obtain ⟨hrequested, hbytestream, hcollection, hsignals, hreported⟩ := hs.waits (by
      rw [Waits, h.requested, h.offered, h.negotiating] at hw
      exact hw)
    refine ⟨h.requested.trans hrequested, ?_, ?_, h.bytestreamSignals.trans hsignals, ?_⟩
    · exact Bool.eq_false_iff.mpr fun hb => Bool.eq_false_iff.mp hbytestream (h.bytestream hb)
    · exact Bool.eq_false_iff.mpr fun hb => Bool.eq_false_iff.mp hcollection (h.collection hb)
    · rw [hchunk.reported]
      rintro (hbefore | ⟨hstreaming, -⟩)
      · exact hreported hbefore
      · exact Bool.eq_false_iff.mp hbytestream (hstreams hstreaming)
  · rw [h.negotiating, h.offered]
    exact hs.offered
  · exact h.bytestreamSignals.trans (hs.stream (h.bytestream hb))
  · exact h.bytestreamSignals.trans (hs.collection (h.collection hb))
  · rw [h.requested, h.bytestreamSignals, h.dataReceivedSignal]
    exact fun hincoming hsignals hdata hpending =>
      hs.accepted hincoming hsignals hdata (hchunk.pending hpending)
  · exact h.handled_requested hs.handled

/-! ## The events that count -/

/-- A bytestream or a transfer that is not cancelled keeps its bytestream when the buffer
of the local socket is empty. -/
theorem transportBufferEmptyCb_bytestream (a : Answers) (hincoming : s.requested = false)
    (hstate : s.state ≠ .cancelled) : (transportBufferEmptyCb a s).bytestream = s.bytestream := by
  obtain ⟨out, hblock⟩ := blockReading_eq false s
  rw [transportBufferEmptyCb, hblock]
  split
  case isFalse => rfl
  case isTrue hended =>
    have hcompleted : s.state = .completed :=
      ((ended_iff s).mp hended).resolve_right hstate
    rw [transportDisconnect]
    split
    · rfl
    · dsimp only
      split
      · rw [transportDisconnectedCb, if_neg]
        · rfl
        · simp [transportGone, emit, hincoming, hcompleted]
      · rfl

section

variable (hs : Inv s)

include hs

theorem Inv.dataReceivedCb {data : Bytes} {sent : Sent}
    {a : Answers} (hincoming : s.requested = false)
    (hfits : sent ≠ .failed → s.transport.any Transport.connected = true →
      Room s data.length ∧ (Finishes s data.length →
        s.bytestream = true ∧ ¬ (sent = .whole ∧ s.state = .cancelled)))
    (hsettled : s.bytestreamSignals = true → settled s = true)
    (hc : Current (dataReceivedCb data sent now a s)) :
    Inv (FtChannel.dataReceivedCb data sent now a s) := by
  rw [FtChannel.dataReceivedCb] at hc ⊢
  cases ht : s.transport with
  | none =>
    rw [ht] at hc
    exact hs.keep (keeps_abort s) hc
  | some t =>
    rw [ht] at hc hfits
    dsimp only at hc ⊢
    split
    case isTrue hgone =>
      rw [if_pos hgone] at hc
      exact hs.keep (keeps_abort s) hc
    case isFalse hconnected =>
      rw [if_neg hconnected] at hc
      have hconnected : t.connected = true := by simpa using hconnected
      have hsend : Keeps s (emit (.transportSend data) s) := keeps_emit rfl s
      have hset : ∀ t' : Transport, t'.handlerSet = t.handlerSet →
          Keeps s { emit (.transportSend data) s with transport := some t' } := fun t' heq => by
        refine hsend.trans (keeps_setTransport fun hh => ?_)
        rw [FtChannel.handled, show (emit (.transportSend data) s).transport = some t from ht]
        exact heq.symm.trans hh
      cases sent with
      | failed =>
        have hgone : Keeps s (transportGone t (emit (.transportSend data) s)) := hset _ rfl
        exact hs.keep ((hgone.trans (keeps_transportDisconnectedCb a _)).trans
          (keeps_cancel _ _)) hc
      | whole =>
        obtain ⟨hroom, hfinish⟩ := hfits (by decide) hconnected
        have hany : (emit (.transportSend data) s).transport.any Transport.connected = true := by
          rw [show (emit (.transportSend data) s).transport = some t from ht]
          exact hconnected
        have hcurrent := (ends_transportBufferEmptyCb a hany
          ((quiet_emit rfl s).current hs.current)).current
        have hkeeps := hsend.trans (keeps_transportBufferEmptyCb a (emit (.transportSend data) s))
        refine hs.chunk hroom (hkeeps.chunk (chunk_dataSent _ now a hcurrent)) hc
          hkeeps.bytestream (fun hf => ?_) hsettled
        obtain ⟨hb, hne⟩ := hfinish hf
        have hsame := transportBufferEmptyCb_bytestream (s := emit (.transportSend data) s) a
          hincoming fun h => hne ⟨rfl, h⟩
        exact hsame.trans hb
      | partly =>
        obtain ⟨hroom, hfinish⟩ := hfits (by decide) hconnected
        have hcurrent : Current { emit (.transportSend data) s with
            transport := some { t with bufferEmpty := false } } :=
          (quiet_emit rfl s).current hs.current
        exact hs.chunk hroom ((hset { t with bufferEmpty := false } rfl).chunk
          (chunk_dataSent _ now a hcurrent)) hc id (fun hf => (hfinish hf).1) hsettled

theorem Inv.transportHandler {data : Bytes} {ok : Bool} {a : Answers}
    (hfits : (ok = true ∨ s.bytestream = false ∧ s.gtalkFileCollection = false) →
      Room s data.length ∧ (Finishes s data.length → s.bytestream = true))
    (hsettled : s.bytestreamSignals = true → settled s = true)
    (hc : Current (transportHandler data ok now a s)) :
    Inv (FtChannel.transportHandler data ok now a s) := by
  have hforward : ∀ {s₁ : State}, Keeps s s₁ → Current s₁ → s₁.bytestream = s.bytestream →
      (ok = true ∨ s.bytestream = false ∧ s.gtalkFileCollection = false) →
      Current (dataForwarded (UInt64.ofNat data.length) now a s₁) →
      Inv (dataForwarded (UInt64.ofNat data.length) now a s₁) := by
    intro s₁ hkeeps hcurrent hb hcounted hc
    obtain ⟨hroom, hfinish⟩ := hfits hcounted
    refine hs.chunk hroom (hkeeps.chunk (chunk_dataForwarded _ now a hcurrent)) hc
      hkeeps.bytestream (fun hf => hb.trans (hfinish hf)) hsettled
  rw [FtChannel.transportHandler] at hc ⊢
  dsimp only at hc ⊢
  split
  case isTrue hb =>
    rw [if_pos hb] at hc
    have hsend : Keeps s (emit (.bytestreamSend data) s) := keeps_emit rfl s
    cases ok with
    | true => exact hforward hsend ((quiet_emit rfl s).current hs.current) rfl (.inl rfl) hc
    | false => exact hs.keep (hsend.trans (keeps_closeSessionAndTransport a _)) hc
  case isFalse hb =>
    rw [if_neg hb] at hc
    split
    case isTrue hcollection =>
      rw [if_pos hcollection] at hc
      have hsend : Keeps s (emit (.collectionSendData data) s) := keeps_emit rfl s
      cases ok with
      | true => exact hforward hsend ((quiet_emit rfl s).current hs.current) rfl (.inl rfl) hc
      | false => exact hs.keep (hsend.trans (keeps_closeSessionAndTransport a _)) hc
    case isFalse hcollection =>
      rw [if_neg hcollection] at hc
      exact hforward (Keeps.refl s) hs.current rfl
        (.inr ⟨by simpa using hb, by simpa using hcollection⟩) hc

/-! ## The offer, the answer and the acceptance -/

/-- The file is offered over a stream or over a collection. -/
theorem Inv.offer (hw : Waits s) {negotiating collection aborted : Bool}
    {out : List Effect} (hone : collection = true → negotiating = false)
    (hstates : states out = states s.out) :
    Inv { s with
      offered := true, negotiating := negotiating, gtalkFileCollection := collection,
      aborted := aborted, out := out } := by
  obtain ⟨hrequested, hbytestream, -, hsignals, hreported⟩ := hs.waits hw
  refine ⟨⟨hs.counts.1, hs.counts.2.1, fun ht => ?_⟩, ?_, fun hw' => ?_, fun _ => rfl, hs.stream,
    fun _ => hsignals, hs.accepted, hs.handled⟩
  · cases hsignals.symm.trans ht
  · rw [Current, hstates]
    exact hs.current
  · refine ⟨hrequested, hbytestream, ?_, hsignals, ?_⟩
    · rcases hw' with ⟨-, hoffered⟩ | hnegotiating
      · cases hoffered
      · exact Bool.eq_false_iff.mpr fun hc => by cases (hone hc).symm.trans hnegotiating
    · rw [Reported, hstates]
      exact hreported

theorem Inv.offerFile (hrequested : s.requested = true) (hoffered : s.offered = false)
    (contact : Contact) : Inv (offerFile contact s) := by
  have hw : Waits s := .inl ⟨hrequested, hoffered⟩
  have hnegotiating : s.negotiating = false :=
    Bool.eq_false_iff.mpr fun h => by cases hoffered.symm.trans (hs.offered h)
  have hcollection := (hs.waits hw).2.2.1
  have hquiet : ∀ e : Effect, e.silent = true → states (s.out ++ [e]) = states s.out :=
    fun e he => (quiet_emit he s).2
  have hone : s.gtalkFileCollection = true → s.negotiating = false := fun _ => hnegotiating
  rw [FtChannel.offerFile]
  split
  · exact hs.offer hw hone rfl
  split
  · exact hs.offer hw hone rfl
  split
  · exact hs.offer hw hone (hquiet _ rfl)
  split
  · exact hs.offer hw hone (hquiet _ rfl)
  split
  · exact hs.offer hw (fun h => by cases hcollection.symm.trans h) (hquiet _ rfl)
  split
  · exact hs.offer hw (fun _ => hnegotiating) (hquiet _ rfl)
  · exact hs.offer hw hone (hquiet _ rfl)

/-- The peer has answered the offer. -/
theorem Inv.bytestreamNegotiateCb (hnegotiating : s.negotiating = true)
    {reply : Option (Option UInt64)}
    (hfits : ∀ offset, reply = some offset → OffsetFits true (offset.getD s.initialOffset) s) :
    Inv (bytestreamNegotiateCb reply s) := by
  obtain ⟨hrequested, hbytestream, hcollection, hsignals, hreported⟩ := hs.waits (.inr hnegotiating)
  have hoffered := hs.offered hnegotiating
  have hsettled : ¬ (s.requested = true ∧ s.offered = false) := fun h => by
    cases hoffered.symm.trans h.2
  cases reply with
  | none =>
    rw [FtChannel.bytestreamNegotiateCb]
    have hrefused : Inv { s with negotiating := false } :=
      ⟨hs.counts, hs.current, fun hw => absurd (hw.resolve_right (by rintro ⟨⟩)) hsettled,
        by rintro ⟨⟩, hs.stream, hs.collection, hs.accepted, hs.handled⟩
    have hquiet := (ends_cancel .remoteStopped hrefused.current).current
    exact hrefused.keep (keeps_cancel _ _) hquiet
  | some offset =>
    obtain ⟨hwraps, hne⟩ := hfits offset rfl
    rw [FtChannel.bytestreamNegotiateCb, setBytestream]
    dsimp only
    rw [hbytestream, hcollection, if_neg (by decide)]
    refine ⟨⟨hs.counts.1, hwraps, fun _ => iff_of_false hreported fun h => hne rfl h.2⟩,
      hs.current, fun hw => absurd (hw.resolve_right (by rintro ⟨⟩)) hsettled, by rintro ⟨⟩,
      fun _ => rfl, fun hc => ?_, fun hincoming => ?_, hs.handled⟩
    · cases hc
    · cases hrequested.symm.trans hincoming

/-- The user has accepted the file. -/
theorem Inv.acceptedFile (hincoming : s.requested = false) (hpending : s.state = .pending)
    {offset : UInt64}
    (hfits : OffsetFits s.bytestreamSignals (if s.resumeSupported then offset else 0) s) :
    Inv (FtChannel.accepted offset s) := by
  have hunreported : s.bytestreamSignals = true → ¬ Reported s := fun hsignals hreported => by
    have hsettled := ((hs.counts.2.2 hsignals).mp hreported).1
    rw [settled, hincoming, Bool.false_or, Bool.and_eq_true] at hsettled
    exact hs.accepted hincoming hsignals hsettled.2 hpending
  have haccepted : ∀ (s₁ : State) (offset : UInt64), OffsetFits s.bytestreamSignals offset s →
      Keeps s s₁ → Current s₁ → s₁.state = .accepted → ∀ received : Bool,
        Inv { s₁ with initialOffset := offset, dataReceivedSignal := received } := by
    intro s₁ offset hfits h hc hstate received
    refine ⟨⟨?_, ?_, fun hsignals => ?_⟩, hc, fun hw => ?_, ?_, ?_, ?_, fun _ _ _ => ?_, ?_⟩
    · rw [h.transferredBytes, h.size]
      exact hs.counts.1
    · rw [position]
      dsimp only
      rw [h.transferredBytes]
      exact hfits.1
    · have hsignals' : s.bytestreamSignals = true := h.bytestreamSignals ▸ hsignals
      refine iff_of_false (mt h.reported.mp (hunreported hsignals')) fun hwhole => ?_
      refine hfits.2 hsignals' ?_
      have hposition := hwhole.2
      rw [position] at hposition
      dsimp only at hposition
      rw [h.transferredBytes, h.size] at hposition
      exact hposition
    · have hrequested := (hs.waits (h.waits_iff.mp hw)).1
      cases hincoming.symm.trans hrequested
    · rw [h.negotiating, h.offered]
      exact hs.offered
    · exact fun hb => h.bytestreamSignals.trans (hs.stream (h.bytestream hb))
    · exact fun hb => h.bytestreamSignals.trans (hs.collection (h.collection hb))
    · rw [hstate]
      decide
    · exact h.handled_requested hs.handled
  have hlistens : Keeps s { s with listener := true, socketAddress := true } := keeps_set
  rw [FtChannel.accepted]
  set s₁ := emit .returned
    (setState .accepted .requested { s with listener := true, socketAddress := true }) with hs₁
  have hkeeps : Keeps s s₁ :=
    (hlistens.trans (keeps_setState (by decide) (by decide) .requested _)).emit rfl
  have hcurrent : Current s₁ := by
    refine (quiet_emit rfl _).current (ends_setState .accepted .requested ?_).current
    exact hs.current
  have hstate : s₁.state = .accepted := setState_state _ _ _
  have hresume : s₁.resumeSupported = s.resumeSupported := by
    rw [hs₁, setState]
    split <;> rfl
  rw [← hresume] at hfits
  have hafter := haccepted s₁ _ hfits hkeeps hcurrent hstate
  dsimp only
  split
  · exact (hafter true).keep ((keeps_emit rfl _).emit rfl)
      ((quiet_emit rfl _).emit rfl |>.current (hafter true).current)
  · have hsame := hafter s₁.dataReceivedSignal
    split
    · exact hsame.keep ((keeps_emit rfl _).emit rfl)
        ((quiet_emit rfl _).emit rfl |>.current hsame.current)
    · exact hsame.keep (keeps_abort _) hsame.current

theorem Inv.acceptFile {addressType accessControl : ℕ} {offset : UInt64} {listens : Bool}
    (hfits : Fits s (.acceptFile addressType accessControl offset listens)) :
    Inv (acceptFile addressType accessControl offset listens s) := by
  have hfailed : ∀ e, Inv (emit (.failed e) s) := fun e =>
    hs.keep (keeps_emit rfl s) ((quiet_emit rfl s).current hs.current)
  rw [FtChannel.acceptFile]
  split
  · exact hfailed _
  case isFalse hincoming =>
    split
    · exact hfailed _
    case isFalse hpending =>
      have hfits' := hfits (by simpa using hincoming) (not_not.mp hpending)
      cases hsetup : setupLocalSocket addressType accessControl listens with
      | error e => exact hfailed e
      | ok u =>
        rw [hsetup] at hfits'
        exact hs.acceptedFile (by simpa using hincoming) (not_not.mp hpending) (hfits' rfl)

/-! ## Every run -/

/-- **The step lemma.** -/
theorem Inv.step {e : Event} (hfits : Fits s e)
    (hstep : FtChannel.step s e = some s') : Inv s' := by
  rw [FtChannel.step] at hstep
  split at hstep
  case isTrue => cases hstep
  case isFalse hready =>
  simp only [Bool.or_eq_true, Bool.not_eq_true', not_or, Bool.not_eq_false] at hready
  obtain ⟨-, henabled⟩ := hready
  cases hstep
  have hc := (ends_handle henabled hs.current).current
  have hset : ∀ f : Transport → Transport, (∀ t, (f t).handlerSet = t.handlerSet) →
      Keeps s { s with transport := s.transport.map f } := fun f hf => by
    refine keeps_setTransport fun hh => ?_
    rw [Option.any_map] at hh
    rw [FtChannel.handled]
    cases ht : s.transport with
    | none =>
      rw [ht] at hh
      cases hh
    | some t =>
      rw [ht] at hh
      exact (hf t).symm.trans hh
  have hold : ∀ {s₁ : State} (n : ℕ), Keeps s₁ { s₁ with oldTransports := n } := fun _ => keeps_set
  cases e with
  | offerFile contact =>
    rw [enabled, Bool.and_eq_true, Bool.not_eq_true'] at henabled
    exact hs.offerFile henabled.1 henabled.2 contact
  | negotiated reply =>
    refine hs.bytestreamNegotiateCb henabled fun offset hreply => ?_
    subst hreply
    exact hfits
  | bytestreamStateChanged state => exact hs.keep (keeps_bytestreamStateChangedCb state s) hc
  | bytestreamDataReceived data sent now a =>
    simp only [enabled, Bool.and_eq_true, Bool.not_eq_true'] at henabled
    refine hs.dataReceivedCb henabled.1.2 hfits (fun hsignals => ?_) hc
    rw [settled, hsignals, henabled.1.1, Bool.or_true, Bool.and_true]
  | bytestreamWriteBlocked blocked => exact hs.keep (keeps_blockReceiving blocked s) hc
  | collectionStateChanged state localTerminator a =>
    exact hs.frame henabled (frame_gtalkFileCollectionStateChanged state localTerminator a s) hc
  | collectionDataReceived data sent now a =>
    simp only [enabled, Bool.and_eq_true, Bool.not_eq_true'] at henabled
    refine hs.dataReceivedCb henabled.1.2 hfits (fun hsignals => ?_) hc
    cases (hs.collection henabled.1.1).symm.trans hsignals
  | collectionWriteBlocked blocked => exact hs.keep (keeps_blockReceiving blocked s) hc
  | acceptFile addressType accessControl offset listens => exact hs.acceptFile hfits
  | provideFile addressType accessControl listens =>
    exact hs.keep (keeps_provideFile addressType accessControl listens s) hc
  | newConnection => exact hs.keep (keeps_newConnectionCb s) hc
  | localData data ok now a =>
    refine hs.transportHandler hfits (fun hsignals => ?_) hc
    have hhandled : FtChannel.handled s = true := by
      obtain ⟨t, ht, hreads⟩ := (Option.any_eq_true _ _).mp henabled
      rw [Bool.and_eq_true, Bool.and_eq_true] at hreads
      rw [FtChannel.handled, ht]
      exact hreads.1.2
    rw [settled, hsignals, hs.handled hhandled, Bool.true_or, Bool.and_true]
  | transportDisconnected a =>
    exact hs.keep ((hset (fun t => { t with connected := false, bufferEmpty := true })
      fun _ => rfl).trans (keeps_transportDisconnectedCb a _)) hc
  | transportBufferEmpty a =>
    exact hs.keep ((hset (fun t => { t with bufferEmpty := true }) fun _ => rfl).trans
      (keeps_transportBufferEmptyCb a _)) hc
  | oldTransportDisconnected a =>
    exact hs.keep ((hold _).trans (keeps_transportDisconnectedCb a _)) hc
  | oldTransportBufferEmpty a =>
    have hblock := keeps_blockReading false s
    refine hs.keep ?_ hc
    dsimp only [handle]
    split
    · exact (hblock.trans (hold _)).trans (keeps_transportDisconnectedCb a _)
    · exact hblock
  | presencesUpdated available =>
    refine hs.keep ?_ hc
    rw [handle]
    split
    · exact Keeps.refl s
    · exact keeps_cancelUnlessEnded _ s
  | progressTimeout now =>
    have hprogress : Keeps s { s with
        lastTransferredBytesEmitted := now, progressTimer := false } := keeps_set
    exact hs.keep (hprogress.emit rfl) hc
  | close a => exact hs.keep (keeps_close a s) hc
  | dispose a => exact hs.keep (keeps_dispose a s) hc

end

theorem inv_new (origin : Origin) (filename : String) (size initialOffset : UInt64)
    (resumeSupported metadata : Bool) :
    Inv (new origin filename size initialOffset resumeSupported metadata) := by
  have hunreported : ¬ Reported (new origin filename size initialOffset resumeSupported metadata) := by
    change FileTransferState.completed ∉ [FileTransferState.pending]
    decide
  refine ⟨⟨UInt64.zero_le, initialOffset.toNat_lt, fun hsignals => ?_⟩, rfl, fun hw => ?_, nofun, id,
    fun hshare => ?_, nofun, nofun⟩
  · -- the user has not accepted the file yet
    refine iff_of_false hunreported fun hwhole => ?_
    have hstream : origin = .stream := of_decide_eq_true hsignals
    rw [hstream] at hwhole
    cases hwhole.1
  · have hrequest : origin = .request := of_decide_eq_true (hw.resolve_right nofun).1
    rw [hrequest] at hunreported ⊢
    exact ⟨rfl, rfl, rfl, rfl, hunreported⟩
  · have hshare' : origin = .share := of_decide_eq_true hshare
    rw [hshare']
    rfl

/-- **The numbers of a transfer.**  Whoever made the channel, whatever its size and
offset are and whatever happens to it, the count and the offset are in order, and an SI
transfer is reported as completed when it is complete, as long as the events meet the
condition. -/
theorem counts_of_fits (origin : Origin) (filename : String) (size initialOffset : UInt64)
    (resumeSupported metadata : Bool) (es : List Event) (s : State)
    (hrun : run step (new origin filename size initialOffset resumeSupported metadata) es = some s)
    (hadm : Admits Fits step (new origin filename size initialOffset resumeSupported metadata) es) :
    Counts s :=
  ((reachable_of_run es hadm hrun).invariant (I := Inv) (inv_new ..)
    fun _ _ _ hs hfits hstep => hs.step hfits hstep).counts

theorem counts_of_fits_receivedRun :
    ∃ s, run step (new .stream "file" 4 0 false false) receivedRun = some s ∧ Counts s ∧
      s.transferredBytes = 4 ∧ Reported s := by
  refine ⟨_, rfl, ?_, rfl, by decide +kernel⟩
  exact counts_of_fits .stream "file" 4 0 false false receivedRun _ rfl (by decide +kernel)

/-- The file is offered, the peer asks for it from `offset` on, and the client is
connected. -/
def offeredFrom (offset : UInt64) : List Event :=
  [.offerFile ⟨true, false, true, false, false⟩,
   .negotiated (some (some offset)),
   .bytestreamStateChanged .opened,
   .provideFile 0 0 true,
   .newConnection]

/-- A peer that sends more than the file; a peer that asks for the file from an offset
behind its end, so that the sum wraps with the first byte; and one that asks for it from
its end, so that nothing is left and nothing is reported. -/
theorem numbers_out_of_order :
    (∃ s, run step (new .stream "file" 2 0 false false)
        [.acceptFile 0 0 0 true, .bytestreamStateChanged .opened, .newConnection,
          .bytestreamDataReceived [1, 2, 3] .whole ⟨10, 0⟩ ⟨false, false⟩] = some s ∧
      s.size < s.transferredBytes ∧ ¬ Counts s) ∧
    (∃ s, run step (new .request "file" 2 0 true false)
        (offeredFrom 18446744073709551615 ++ [.localData [1] true ⟨10, 0⟩ ⟨false, true⟩]) =
          some s ∧
      position s = 2 ^ 64 ∧ ¬ Counts s) ∧
    ∃ s, run step (new .request "file" 2 0 true false) (offeredFrom 2) = some s ∧
      settled s = true ∧ position s = 2 ∧ ¬ Reported s ∧ ¬ Counts s := by
  refine ⟨⟨_, rfl, ?_⟩, ⟨_, rfl, ?_⟩, ⟨_, rfl, ?_⟩⟩
  · decide +kernel
  · decide +kernel
  · decide +kernel

end FtChannel
