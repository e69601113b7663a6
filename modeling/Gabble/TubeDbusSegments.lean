/-
# Chunk boundaries do not matter to a D-Bus tube

The loop of `data_received_cb` finds in its buffer what the last call has left there and
goes on.  This module compares the loop on a buffer with the loop on the same buffer and
more bytes behind it: every round is the same until the tube is closed, an assertion fails,
or the loop waits for the bytes that are now there.  It follows that what a one to one tube
makes of a stream of bytes does not depend on how the stream is cut, whatever the bytes are.
The tube of a room is different by design: each chunk is a message there.
-/
import Gabble.TubeDbusReassembly

namespace TubeDbus

open Base64 (Bytes)

/-! ## Rounds with more bytes -/

/-- The tube was closed, or an assertion has failed. -/
def Tube.Over (t : Tube) : Prop := t.closed = true ∨ t.aborted = true

instance (t : Tube) : Decidable t.Over := inferInstanceAs (Decidable (_ ∨ _))

/-- What a round does, with more bytes in the buffer. -/
def Round.append : Round → Bytes → Round
  | .again t, data => .again (appendData t data)
  | .leave t, data => .leave (appendData t data)

section

variable {sender : ℕ} {t t' s r : Tube} {data : Bytes}

/-- The lengths are in the first bytes. -/
theorem collectLengths_append {buf : Bytes} (more : Bytes) (hlen : 16 ≤ buf.length) :
    collectLengths (buf ++ more) = collectLengths buf := by
  have hbyte : ∀ i, i < 16 → byteAt (buf ++ more) i = byteAt buf i := fun i hi =>
    byteAt_append more (by omega)
  have hle : ∀ k, k + 4 ≤ 16 → collectLe32 ((buf ++ more).drop k) = collectLe32 (buf.drop k) := by
    intro k hk
    simp only [collectLe32, byteAt_drop]
    rw [hbyte _ (by omega), hbyte _ (by omega), hbyte _ (by omega), hbyte _ (by omega)]
  have hbe : ∀ k, k + 4 ≤ 16 → collectBe32 ((buf ++ more).drop k) = collectBe32 (buf.drop k) := by
    intro k hk
    simp only [collectBe32, byteAt_drop]
    rw [hbyte _ (by omega), hbyte _ (by omega), hbyte _ (by omega), hbyte _ (by omega)]
  rw [collectLengths, collectLengths, getD_append more (show 0 < buf.length by omega),
    hbe 4 (by omega), hbe 12 (by omega), hle 4 (by omega), hle 12 (by omega)]

/-- A header that is there is read in the same way with more bytes behind it. -/
theorem nextHeader_append (hlen : 16 ≤ t.reassemblyBuffer.length) (data : Bytes) :
    nextHeader (appendData t data) = (nextHeader t).append data := by
  have hmore : ¬ (appendData t data).reassemblyBuffer.length < 16 := by
    rw [appendData, List.length_append]
    omega
  rw [nextHeader, nextHeader, if_neg hmore, if_neg (by omega),
    show (appendData t data).reassemblyBuffer = t.reassemblyBuffer ++ data from rfl,
    collectLengths_append data hlen]
  cases collectLengths t.reassemblyBuffer with
  | none => rfl
  | some lengths =>
    obtain ⟨bodyLength, m⟩ := lengths
    dsimp only
    split
    · rfl
    split
    · rfl
    split
    · rfl
    · rfl

/-- Looking at a header ends the loop only if the tube is over. -/
theorem over_of_nextHeader (hlen : 16 ≤ t.reassemblyBuffer.length) (h : nextHeader t = .leave s) :
    s.Over := by
  rw [nextHeader, if_neg (by omega)] at h
  split at h
  · cases h
    exact .inl rfl
  split at h
  · cases h
    exact .inr rfl
  split at h
  · cases h
    exact .inl rfl
  split at h
  · cases h
    exact .inr rfl
  · cases h

/-- The first message of the buffer is the same with more bytes behind it. -/
theorem messageReceived_append (h : t.reassemblyBytesNeeded ≤ t.reassemblyBuffer.length) :
    messageReceived sender (appendData t data) = appendData (messageReceived sender t) data := by
  dsimp only [messageReceived, appendData]
  rw [List.take_append_of_le_length h, List.drop_append_of_le_length h]

/-- **One round.**  With more bytes the loop goes on in the same way, or is over in the same way;
or it was going to wait, and goes on from there. -/
theorem round_append (sender : ℕ) (t : Tube) (data : Bytes) :
    round sender (appendData t data) = (round sender t).append data ∧
        (∀ s, round sender t = .leave s → s.Over) ∨
      ∃ s, round sender t = .leave s ∧
        round sender (appendData t data) = round sender (appendData s data) ∧
        (s.closed = t.closed ∧ s.aborted = t.aborted) := by
  by_cases hlen : t.reassemblyBuffer.length < 16
  · exact .inr ⟨t, by rw [round, if_pos hlen], rfl, rfl, rfl⟩
  have hmore : ¬ (appendData t data).reassemblyBuffer.length < 16 := by
    rw [appendData, List.length_append]
    omega
  by_cases hneeded : t.reassemblyBytesNeeded = 0
  · left
    have hneeded' : (appendData t data).reassemblyBytesNeeded = 0 := hneeded
    rw [round_eq_nextHeader sender hneeded, round_eq_nextHeader sender hneeded']
    exact ⟨nextHeader_append (by omega) data, fun s => over_of_nextHeader (by omega)⟩
  by_cases hwhole : t.reassemblyBytesNeeded ≤ t.reassemblyBuffer.length
  · -- a message is there, and what comes behind it may be a header
    have hround : round sender t = nextHeader (messageReceived sender t) := by
      rw [round, if_neg hlen, if_pos hneeded, if_pos hwhole]
    have hneeded' : (appendData t data).reassemblyBytesNeeded ≠ 0 := hneeded
    have hwhole' : (appendData t data).reassemblyBytesNeeded ≤
        (appendData t data).reassemblyBuffer.length := by
      rw [appendData, List.length_append]
      exact Nat.le_add_right_of_le hwhole
    have hround' : round sender (appendData t data) =
        nextHeader (appendData (messageReceived sender t) data) := by
      rw [round, if_neg hmore, if_pos hneeded', if_pos hwhole', messageReceived_append hwhole]
    rw [hround, hround']
    by_cases hrest : (messageReceived sender t).reassemblyBuffer.length < 16
    · exact .inr ⟨messageReceived sender t, nextHeader_short hrest,
        (round_eq_nextHeader sender rfl).symm, rfl, rfl⟩
    · exact .inl ⟨nextHeader_append (by omega) data, fun s => over_of_nextHeader (by omega)⟩
  · exact .inr ⟨t, by rw [round, if_neg hlen, if_pos hneeded, if_neg hwhole], rfl, rfl, rfl⟩

/-- A round after which another one follows does not end anything. -/
theorem round_again (h : round sender t = .again s) :
    s.closed = t.closed ∧ s.aborted = t.aborted := by
  rw [round] at h
  split at h
  · cases h
  split at h
  · split at h
    · obtain ⟨-, heq⟩ := nextHeader_again h
      rw [heq]
      exact ⟨rfl, rfl⟩
    · cases h
  · obtain ⟨-, heq⟩ := nextHeader_again h
    rw [heq]
    exact ⟨rfl, rfl⟩

theorem nextHeader_type (t : Tube) :
    (nextHeader t).tube.targetHandleType = t.targetHandleType := by
  obtain ⟨_, _, _, h⟩ := nextHeader_frame t
  rw [h]

theorem round_type (sender : ℕ) (t : Tube) :
    (round sender t).tube.targetHandleType = t.targetHandleType := by
  rw [round]
  split
  · rfl
  split
  · split
    · exact nextHeader_type _
    · rfl
  · exact nextHeader_type t

theorem leaves_congr (hround : round sender t = round sender t') (h : Leaves sender t' r) :
    Leaves sender t r := by
  obtain ⟨fuel, h⟩ := h
  cases fuel with
  | zero => cases h
  | succ fuel =>
    refine ⟨fuel + 1, ?_⟩
    rw [loop] at h ⊢
    rwa [hround]

/-- **The loop.**  With more bytes it is over in the same way, or goes on from where it waits. -/
theorem Leaves.append (h : Leaves sender t s) (hrunning : ¬ t.Over) (data : Bytes) :
    s.Over ∧ Leaves sender (appendData t data) (appendData s data) ∨
      ¬ s.Over ∧ ∀ r, Leaves sender (appendData s data) r → Leaves sender (appendData t data) r := by
  obtain ⟨fuel, h⟩ := h
  induction fuel generalizing t with
  | zero => cases h
  | succ fuel ih =>
    rw [loop] at h
    rcases round_append sender t data with ⟨hsame, hover⟩ | ⟨s', hleave, hround, hclosed, haborted⟩
    · rcases hcase : round sender t with t₁ | s'
      · rw [hcase] at h hsame
        obtain ⟨hclosed, haborted⟩ := round_again hcase
        have hrunning₁ : ¬ t₁.Over := by
          rwa [Tube.Over, hclosed, haborted]
        rcases ih hrunning₁ h with ⟨hs, hleaves⟩ | ⟨hs, hgoes⟩
        · exact .inl ⟨hs, leaves_of_again hsame hleaves⟩
        · exact .inr ⟨hs, fun r hr => leaves_of_again hsame (hgoes r hr)⟩
      · rw [hcase] at h hsame
        cases h
        exact .inl ⟨hover _ hcase, leaves_of_leave hsame⟩
    · rw [hleave] at h
      cases h
      right
      refine ⟨?_, fun r hr => leaves_congr hround hr⟩
      rwa [Tube.Over, hclosed, haborted]

/-- What the loop leaves is a tube of the same type, and waits if the tube is not over. -/
theorem Leaves.rests (h : Leaves sender t s) :
    s.targetHandleType = t.targetHandleType ∧ (¬ s.Over → Leaves sender s s) := by
  obtain ⟨fuel, h⟩ := h
  induction fuel generalizing t with
  | zero => cases h
  | succ fuel ih =>
    have htype := round_type sender t
    rw [loop] at h
    rcases hcase : round sender t with t₁ | s'
    · rw [hcase] at h htype
      obtain ⟨hs, hrests⟩ := ih h
      exact ⟨hs.trans htype, hrests⟩
    · rw [hcase] at h htype
      cases h
      refine ⟨htype, fun hrunning => ?_⟩
      have hsame : ∀ t : Tube, appendData t [] = t := fun t => by
        rw [appendData, List.append_nil]
      rcases round_append sender t [] with ⟨-, hover⟩ | ⟨s', hleave, hround, -⟩
      · exact absurd (hover s hcase) hrunning
      · rw [hcase] at hleave
        cases hleave
        rw [hsame, hsame, hcase] at hround
        exact leaves_of_leave hround.symm

/-! ## Chunks -/

/-- What a tube has received, and whether it was closed or an assertion has failed. -/
def Tube.outcome (t : Tube) : List (ℕ × Bytes) × Bool × Bool := (t.received, t.closed, t.aborted)

/-- **The chunks come to what their bytes come to.** -/
theorem receiveAll_flatten (chunks : List Bytes) (htype : t.targetHandleType = .contact)
    (hrunning : ¬ t.Over) (hrests : Leaves sender t t) :
    ∃ t' r, receiveAll sender t chunks = some t' ∧
      Leaves sender (appendData t chunks.flatten) r ∧ t'.outcome = r.outcome := by
  induction chunks generalizing t with
  | nil =>
    refine ⟨t, t, rfl, ?_, rfl⟩
    rwa [List.flatten_nil, appendData, List.append_nil]
  | cons data chunks ih =>
    obtain ⟨s, hs⟩ := exists_leaves sender (appendData t data)
    have hcall : receiveAll sender t (data :: chunks) = receiveAll sender s chunks := by
      rw [receiveAll]
      refine (if_neg hrunning).trans ?_
      rw [dataReceivedCb_eq htype hs]
      rfl
    have hassoc : appendData t (data :: chunks).flatten =
        appendData (appendData t data) chunks.flatten := by
      rw [List.flatten_cons, appendData, appendData, appendData, List.append_assoc]
    have hstart : ¬ (appendData t data).Over := hrunning
    rw [hcall, hassoc]
    rcases hs.append hstart chunks.flatten with ⟨hover, hleaves⟩ | ⟨hgoing, hgoes⟩
    · -- the tube gets no more chunks, and would not use more bytes
      refine ⟨s, _, ?_, hleaves, rfl⟩
      cases chunks with
      | nil => rfl
      | cons data' chunks => exact if_pos hover
    · obtain ⟨hsame, hwaits⟩ := hs.rests
      obtain ⟨t', r, hrun, hleaves, houtcome⟩ := ih (hsame.trans htype) hgoing (hwaits hgoing)
      exact ⟨t', r, hrun, hgoes r hleaves, houtcome⟩

end

/-- **Chunk boundaries do not matter** to a one to one tube: the messages it receives, whether it
is closed and whether an assertion fails are told by the bytes alone. -/
theorem outcome_of_bytes (sender : ℕ) :
    ∃ outcome : Bytes → List (ℕ × Bytes) × Bool × Bool, ∀ chunks : List Bytes,
      (receiveAll sender (Tube.new .contact) chunks).map Tube.outcome =
        some (outcome chunks.flatten) := by
  have hrests : Leaves sender (Tube.new .contact) (Tube.new .contact) :=
    leaves_of_leave (if_pos (show (0 : ℕ) < 16 by decide))
  choose r hr using fun stream => exists_leaves sender (appendData (Tube.new .contact) stream)
  refine ⟨fun stream => (r stream).outcome, fun chunks => ?_⟩
  obtain ⟨t', r', hrun, hleaves, houtcome⟩ :=
    receiveAll_flatten chunks rfl (by decide) hrests
  rw [hrun, Option.map_some, houtcome, hleaves.unique (hr chunks.flatten)]

/-- In a room every chunk is a message. -/
theorem chunks_matter_in_rooms :
    ([[1], [2]] : List Bytes).flatten = [1, 2] ∧
      (receiveAll 1 (Tube.new .room) [[1], [2]]).map Tube.outcome =
        some ([(1, [1]), (1, [2])], false, false) ∧
      (receiveAll 1 (Tube.new .room) [[1, 2]]).map Tube.outcome =
        some ([(1, [1, 2])], false, false) := by
  decide

end TubeDbus
