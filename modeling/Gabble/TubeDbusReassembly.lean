/-
# Reassembling the messages of a D-Bus tube

The loop of `data_received_cb` against the cutting of `takeFrame`.  Both walk
over the message boundaries of the stream; as long as the code reads the header
at each boundary right they stay together, and at the first header it reads
wrong they part for good.

Two statements follow.  `handled_iff` is about any bytes whatever: no assertion
fails, nothing wraps and bad headers close the tube exactly when every header
at a boundary is `HeaderOk`.  `delivered_iff` is about streams of well formed
messages: they all arrive exactly when no big endian one has a length with a
bit in its second lowest byte.
-/
import Gabble.TubeDbusFraming
import Mathlib.Data.List.Infix

namespace TubeDbus

open Base64 (Bytes)
open Segments

variable {sender : ℕ} {buf : Bytes} {s : Frames}

/-! ## A round in terms of the header read -/

section Header

variable {t : Tube}

theorem nextHeader_short (h : t.reassemblyBuffer.length < 16) : nextHeader t = .leave t := by
  rw [nextHeader, if_pos h]

/-- What a header leads to.  Where an assertion fails, nothing else is changed but the number
of bytes awaited, which does not matter any more. -/
def HeaderRead (t : Tube) (r : Round) : Option Verdict → Prop
  | none => ∃ t', r = .leave t' ∧ t'.aborted = true ∧ t'.received = t.received
  | some .malformed => r = .leave { t with closed := true }
  | some .tooLarge => ∃ n, r = .leave { t with reassemblyBytesNeeded := n, closed := true }
  | some (.claims n) => n ≠ 0 ∧ r = .again { t with reassemblyBytesNeeded := n }

theorem headerRead (hlen : 16 ≤ t.reassemblyBuffer.length) :
    HeaderRead t (nextHeader t) (readVerdict t.reassemblyBuffer) := by
  rw [nextHeader, if_neg (by omega), readVerdict]
  cases collectLengths t.reassemblyBuffer with
  | none => rfl
  | some lengths =>
    obtain ⟨bodyLength, m⟩ := lengths
    dsimp only
    rw [readJudge]
    split
    · exact ⟨_, rfl, rfl, rfl⟩
    split
    · exact ⟨_, rfl⟩
    split
    case isTrue => exact ⟨_, rfl, rfl, rfl⟩
    case isFalse hzero => exact ⟨hzero, rfl⟩

theorem nextHeader_claims {n : ℕ} (hlen : 16 ≤ t.reassemblyBuffer.length)
    (h : readVerdict t.reassemblyBuffer = some (.claims n)) :
    n ≠ 0 ∧ nextHeader t = .again { t with reassemblyBytesNeeded := n } :=
  (h ▸ headerRead hlen : HeaderRead t _ (some (.claims n)))

theorem nextHeader_tooLarge (hlen : 16 ≤ t.reassemblyBuffer.length)
    (h : readVerdict t.reassemblyBuffer = some .tooLarge) :
    ∃ n, nextHeader t = .leave { t with reassemblyBytesNeeded := n, closed := true } :=
  (h ▸ headerRead hlen : HeaderRead t _ (some .tooLarge))

end Header

/-- With no message begun a round looks at the next header. -/
theorem round_eq_nextHeader (sender : ℕ) {t : Tube} (h : t.reassemblyBytesNeeded = 0) :
    round sender t = nextHeader t := by
  rw [round]
  split
  · next hlen => rw [nextHeader_short hlen]
  · rw [if_neg (not_not.mpr h)]

/-- A message that is whole is delivered and the loop goes on behind it. -/
theorem leaves_messageReceived {t t' : Tube} (hlen : 16 ≤ t.reassemblyBuffer.length)
    (hneeded : t.reassemblyBytesNeeded ≠ 0)
    (hwhole : t.reassemblyBytesNeeded ≤ t.reassemblyBuffer.length) :
    Leaves sender t t' ↔ Leaves sender (messageReceived sender t) t' := by
  have hround : round sender t = round sender (messageReceived sender t) := by
    rw [round_eq_nextHeader sender (t := messageReceived sender t) rfl, round,
      if_neg (by omega), if_pos hneeded, if_pos hwhole]
  have hloop : ∀ fuel,
      loop sender (fuel + 1) t = loop sender (fuel + 1) (messageReceived sender t) := by
    intro fuel
    rw [loop, loop, hround]
  constructor
  · rintro ⟨fuel, h⟩
    cases fuel with
    | zero => cases h
    | succ fuel => exact ⟨fuel + 1, (hloop fuel).symm.trans h⟩
  · rintro ⟨fuel, h⟩
    cases fuel with
    | zero => cases h
    | succ fuel => exact ⟨fuel + 1, (hloop fuel).trans h⟩

/-- A message that is not whole is waited for. -/
theorem leaves_wait {t : Tube} (hlen : 16 ≤ t.reassemblyBuffer.length)
    (hneeded : t.reassemblyBytesNeeded ≠ 0)
    (hpart : t.reassemblyBuffer.length < t.reassemblyBytesNeeded) : Leaves sender t t := by
  apply leaves_of_leave
  rw [round, if_neg (by omega), if_pos hneeded, if_neg (by omega)]

/-- The tube after a round. -/
def Round.tube : Round → Tube
  | .again t => t
  | .leave t => t

/-- What is read from a header goes into three fields. -/
theorem nextHeader_frame (t : Tube) : ∃ n closed aborted, (nextHeader t).tube =
    { t with reassemblyBytesNeeded := n, closed := closed, aborted := aborted } := by
  rw [nextHeader]
  split
  · exact ⟨_, _, _, rfl⟩
  split
  · exact ⟨_, _, _, rfl⟩
  split
  · exact ⟨_, _, _, rfl⟩
  split
  · exact ⟨_, _, _, rfl⟩
  split <;> exact ⟨_, _, _, rfl⟩

theorem received_nextHeader (t : Tube) : (nextHeader t).tube.received = t.received := by
  obtain ⟨_, _, _, h⟩ := nextHeader_frame t
  rw [h]

/-- A round only adds to what was received. -/
theorem received_round (sender : ℕ) (t : Tube) :
    t.received <+: (round sender t).tube.received := by
  rw [round]
  split
  · exact List.prefix_rfl
  split
  · split
    · rw [received_nextHeader]
      exact List.prefix_append _ _
    · exact List.prefix_rfl
  · rw [received_nextHeader]

theorem Leaves.received_prefix {t t' : Tube} (h : Leaves sender t t') :
    t.received <+: t'.received := by
  obtain ⟨fuel, h⟩ := h
  induction fuel generalizing t with
  | zero => cases h
  | succ fuel ih =>
    have hround := received_round sender t
    rw [loop] at h
    split at h
    · next s hs =>
        cases h
        rw [hs] at hround
        exact hround
    · next s hs =>
        rw [hs] at hround
        exact hround.trans (ih h)

/-! ## Message boundaries -/

/-- The places of a stream where a message begins. -/
inductive Boundary (stream : Bytes) : ℕ → Prop where
  | start : Boundary stream 0
  | next {k n : ℕ} (hk : Boundary stream k) (hlen : 16 ≤ (stream.drop k).length)
      (hclaims : verdict (stream.drop k) = .claims n) (hn : n ≤ (stream.drop k).length) :
      Boundary stream (k + n)

/-- Every header at a boundary is read right. -/
def HeadersOk (stream : Bytes) : Prop :=
  ∀ k, Boundary stream k → 16 ≤ (stream.drop k).length → HeaderOk (stream.drop k)

section Boundary

variable {stream more : Bytes} {n k : ℕ}

/-- The boundaries behind the first message. -/
theorem Boundary.shift (hlen : 16 ≤ stream.length) (hclaims : verdict stream = .claims n)
    (hn : n ≤ stream.length) (h : Boundary (stream.drop n) k) : Boundary stream (n + k) := by
  induction h with
  | start =>
    have hfirst : Boundary stream (0 + n) :=
      .next .start (by rwa [List.drop_zero]) (by rwa [List.drop_zero]) (by rwa [List.drop_zero])
    rwa [Nat.zero_add] at hfirst
  | next hk hlen' hclaims' hn' ih =>
    rw [← Nat.add_assoc]
    rw [List.drop_drop] at hlen' hclaims' hn'
    exact .next ih hlen' hclaims' hn'

/-- A boundary of a stream is its start or behind its first message. -/
theorem Boundary.cases_start (h : Boundary stream k) :
    k = 0 ∨ 16 ≤ stream.length ∧ ∃ n, verdict stream = .claims n ∧ n ≤ stream.length ∧
      ∃ j, k = n + j ∧ Boundary (stream.drop n) j := by
  induction h with
  | start => exact .inl rfl
  | next hk hlen hclaims hn ih =>
    right
    rcases ih with rfl | ⟨hlen₀, n₀, hclaims₀, hn₀, j, rfl, hj⟩
    · rw [List.drop_zero] at hlen hclaims hn
      exact ⟨hlen, _, hclaims, hn, 0, by omega, .start⟩
    · rw [← List.drop_drop] at hlen hclaims hn
      exact ⟨hlen₀, n₀, hclaims₀, hn₀, _, by omega, .next hj hlen hclaims hn⟩

/-- The boundaries of a stream are those of a longer one. -/
theorem Boundary.append (h : Boundary stream k) : Boundary (stream ++ more) k := by
  induction h with
  | start => exact .start
  | @next k n hk hlen hclaims hn ih =>
    have hk' : k ≤ stream.length := by
      rw [List.length_drop] at hlen
      omega
    have hdrop : (stream ++ more).drop k = stream.drop k ++ more :=
      List.drop_append_of_le_length hk'
    refine .next ih ?_ ?_ ?_
    · rw [hdrop, List.length_append]
      omega
    · rw [hdrop, verdict_append more hlen, hclaims]
    · rw [hdrop, List.length_append]
      omega

theorem headerOk_append (hlen : 16 ≤ stream.length) :
    HeaderOk (stream ++ more) ↔ HeaderOk stream := by
  have hread : readVerdict (stream ++ more) = readVerdict stream := by
    have hbyte : ∀ i < 16, byteAt (stream ++ more) i = byteAt stream i :=
      fun i hi => byteAt_append more (by omega)
    simp only [readVerdict, collectLengths, collectBe32, collectLe32, byteAt_drop,
      getD_append more (by omega : 0 < stream.length), hbyte _ (by omega : 4 + 0 < 16),
      hbyte _ (by omega : 4 + 1 < 16), hbyte _ (by omega : 4 + 2 < 16),
      hbyte _ (by omega : 4 + 3 < 16), hbyte _ (by omega : 12 + 0 < 16),
      hbyte _ (by omega : 12 + 1 < 16), hbyte _ (by omega : 12 + 2 < 16),
      hbyte _ (by omega : 12 + 3 < 16)]
  rw [← readVerdict_eq_iff, ← readVerdict_eq_iff, hread, verdict_append more hlen]

theorem HeadersOk.of_append (h : HeadersOk (stream ++ more)) : HeadersOk stream := by
  intro k hk hlen
  have hk' : k ≤ stream.length := by
    rw [List.length_drop] at hlen
    omega
  have hmore : 16 ≤ ((stream ++ more).drop k).length := by
    rw [List.length_drop, List.length_append]
    rw [List.length_drop] at hlen
    omega
  have hok := h k hk.append hmore
  rw [List.drop_append_of_le_length hk'] at hok
  exact (headerOk_append hlen).mp hok

theorem HeadersOk.drop (h : HeadersOk stream) (hlen : 16 ≤ stream.length)
    (hclaims : verdict stream = .claims n) (hn : n ≤ stream.length) :
    HeadersOk (stream.drop n) := by
  intro k hk hlen'
  rw [List.drop_drop] at hlen' ⊢
  exact h (n + k) (hk.shift hlen hclaims hn) hlen'

theorem HeadersOk.head (h : HeadersOk stream) (hlen : 16 ≤ stream.length) :
    readVerdict stream = some (verdict stream) := by
  have hok := h 0 .start (by rwa [List.drop_zero])
  rw [List.drop_zero] at hok
  exact (readVerdict_eq_iff stream).mpr hok

end Boundary

/-! ## The code and the cutting stay together -/

/-- The tube has delivered the messages cut off so far and keeps the rest; it
waits for the size the next header claims. -/
structure Matches (sender : ℕ) (t : Tube) (r : Frames × Bytes) : Prop where
  contact : t.targetHandleType = .contact
  received : t.received = r.1.messages.map (sender, ·)
  closed : t.closed = r.1.closed
  aborted : t.aborted = false
  buffer : t.closed = false → t.reassemblyBuffer = r.2
  needed : t.closed = false → t.reassemblyBytesNeeded = awaited r.2

theorem awaited_short (h : buf.length < 16) : awaited buf = 0 := if_pos h

theorem awaited_claims {n : ℕ} (hlen : 16 ≤ buf.length)
    (h : verdict buf = .claims n) : awaited buf = n := by
  rw [awaited, if_neg (by omega), h]

/-- A tube at a boundary: no message is begun. -/
structure AtBoundary (sender : ℕ) (t : Tube) (s : Frames) (buf : Bytes) : Prop where
  contact : t.targetHandleType = .contact
  received : t.received = s.messages.map (sender, ·)
  opened : s.closed = false
  closed : t.closed = false
  aborted : t.aborted = false
  buffer : t.reassemblyBuffer = buf

/-- Where the loop ends that starts with the size of the message at hand known. -/
theorem leaves_of_claims {t : Tube} {buf more : Bytes} {n : ℕ}
    (ht : AtBoundary sender t s buf) (hlen : 16 ≤ buf.length) (hv : verdict buf = .claims n)
    (hneeded : t.reassemblyBytesNeeded = n) (hok : HeadersOk (buf ++ more))
    (hrest : n ≤ buf.length → ∀ t₁ s₁, AtBoundary sender t₁ s₁ (buf.drop n) →
      t₁.reassemblyBytesNeeded = 0 → HeadersOk (buf.drop n ++ more) →
      ∃ t', Leaves sender t₁ t' ∧ Matches sender t' (drainAll takeFrame s₁ (buf.drop n)) ∧
        (t'.closed = false → HeadersOk ((drainAll takeFrame s₁ (buf.drop n)).2 ++ more))) :
    ∃ t', Leaves sender t t' ∧ Matches sender t' (drainAll takeFrame s buf) ∧
      (t'.closed = false → HeadersOk ((drainAll takeFrame s buf).2 ++ more)) := by
  have hn16 : 16 ≤ n := le_of_verdict_claims hv
  have hne : buf ≠ [] := List.ne_nil_of_length_pos (by omega)
  by_cases hwhole : n ≤ buf.length
  · have htake := takeFrame_whole ht.opened hlen hv hwhole
    have hdrain : drainAll takeFrame s buf =
        drainAll takeFrame { s with messages := s.messages ++ [buf.take n] } (buf.drop n) := by
      rw [drainAll_of_take (by rw [htake]; dsimp only; omega) hne, htake]
    have hok' : HeadersOk (buf.drop n ++ more) := by
      have hlong : 16 ≤ (buf ++ more).length := by
        rw [List.length_append]
        omega
      have h := hok.drop hlong ((verdict_append more hlen).trans hv)
        (by rw [List.length_append]; omega)
      rwa [List.drop_append_of_le_length hwhole] at h
    have hat : AtBoundary sender (messageReceived sender t)
        { s with messages := s.messages ++ [buf.take n] } (buf.drop n) := by
      refine ⟨ht.contact, ?_, ht.opened, ht.closed, ht.aborted, ?_⟩
      · rw [messageReceived, ht.received, ht.buffer, hneeded, List.map_append]
        rfl
      · rw [messageReceived, ht.buffer, hneeded]
    obtain ⟨t', hleaves, hmatches, hheaders⟩ := hrest hwhole _ _ hat rfl hok'
    rw [hdrain]
    refine ⟨t', ?_, hmatches, hheaders⟩
    rw [leaves_messageReceived (by rw [ht.buffer]; exact hlen) (by omega)
      (by rw [ht.buffer, hneeded]; exact hwhole)]
    exact hleaves
  · have htake := takeFrame_wait ht.opened hlen hv (Nat.lt_of_not_le hwhole)
    rw [drainAll_of_wait coherent_takeFrame (by rw [htake])]
    refine ⟨t, leaves_wait (by rw [ht.buffer]; exact hlen) (by omega)
      (by rw [ht.buffer, hneeded]; omega), ?_, fun _ => hok⟩
    exact ⟨ht.contact, ht.received, by rw [ht.closed, ht.opened], ht.aborted, fun _ => ht.buffer,
      fun _ => by rw [hneeded, awaited_claims hlen hv]⟩

/-- **The loop from a boundary.**  When every header is read right it delivers
the messages the stream is cut into. -/
theorem leaves_of_atBoundary (buf more : Bytes) {t : Tube}
    (ht : AtBoundary sender t s buf) (hneeded : t.reassemblyBytesNeeded = 0)
    (hok : HeadersOk (buf ++ more)) :
    ∃ t', Leaves sender t t' ∧ Matches sender t' (drainAll takeFrame s buf) ∧
      (t'.closed = false → HeadersOk ((drainAll takeFrame s buf).2 ++ more)) := by
  induction hlength : buf.length using Nat.strongRecOn generalizing buf t s with
  | ind len ih =>
    have hround : round sender t = nextHeader t := round_eq_nextHeader sender hneeded
    by_cases hshort : buf.length < 16
    · -- too little for a header
      rw [drainAll_of_wait coherent_takeFrame (by rw [takeFrame_short ht.opened hshort])]
      refine ⟨t, leaves_of_leave ?_, ?_, fun _ => hok⟩
      · rw [hround, nextHeader_short (by rwa [ht.buffer])]
      · exact ⟨ht.contact, ht.received, by rw [ht.closed, ht.opened], ht.aborted,
          fun _ => ht.buffer, fun _ => by rw [hneeded, awaited_short hshort]⟩
    have hlen : 16 ≤ buf.length := Nat.le_of_not_lt hshort
    have hlen' : 16 ≤ t.reassemblyBuffer.length := by rwa [ht.buffer]
    have hread : readVerdict t.reassemblyBuffer = some (verdict buf) := by
      rw [ht.buffer]
      exact hok.of_append.head hlen
    have hne : buf ≠ [] := List.ne_nil_of_length_pos (by omega)
    by_cases hclaims : ∃ n, verdict buf = .claims n
    · obtain ⟨n, hv⟩ := hclaims
      have hn16 : 16 ≤ n := le_of_verdict_claims hv
      rw [hv] at hread
      obtain ⟨_, hagain⟩ := nextHeader_claims hlen' hread
      have hat : AtBoundary sender { t with reassemblyBytesNeeded := n } s buf :=
        ⟨ht.contact, ht.received, ht.opened, ht.closed, ht.aborted, ht.buffer⟩
      obtain ⟨t', hleaves, hmatches, hheaders⟩ := leaves_of_claims hat hlen hv rfl hok
        (fun hwhole t₁ s₁ h₁ hz₁ hok₁ =>
          ih (buf.drop n).length (by rw [List.length_drop]; omega) (buf.drop n) h₁ hz₁ hok₁ rfl)
      exact ⟨t', leaves_of_again (hround.trans hagain) hleaves, hmatches, hheaders⟩
    · -- a malformed header or one that claims too much closes the tube
      have hne' : ∀ n, verdict buf ≠ .claims n := fun n hn => hclaims ⟨n, hn⟩
      have htake := takeFrame_refuse ht.opened hlen hne'
      have hdrain : drainAll takeFrame s buf = ({ s with closed := true }, []) := by
        rw [drainAll_of_take (by rw [htake]; dsimp only; omega) hne, htake, List.drop_length]
        rfl
      have hclosed : ∃ n, round sender t =
          .leave { t with reassemblyBytesNeeded := n, closed := true } := by
        rcases hv : verdict buf with _ | _ | n
        · rw [hv] at hread
          exact ⟨t.reassemblyBytesNeeded, hround.trans (hread ▸ headerRead hlen' : HeaderRead t _ (some .malformed))⟩
        · rw [hv] at hread
          obtain ⟨n, hn⟩ := nextHeader_tooLarge hlen' hread
          exact ⟨n, by rw [hround, hn]⟩
        · exact absurd hv (hne' n)
      obtain ⟨n, hleave⟩ := hclosed
      rw [hdrain]
      exact ⟨_, leaves_of_leave hleave, ⟨ht.contact, ht.received, rfl, ht.aborted,
        (fun h => by cases h), (fun h => by cases h)⟩, (fun h => by cases h)⟩

/-! ## Chunks -/

theorem drainAll_closed (h : s.closed = true) (buf : Bytes) :
    drainAll takeFrame s buf = (s, []) := by
  rcases buf with _ | ⟨b, buf⟩
  · rfl
  · rw [drainAll_of_take (by rw [takeFrame_closed h]; simp) (by simp), takeFrame_closed h,
      List.drop_length]
    rfl

/-- What is left over of an open stream is too short for a header, or the
message its header claims is not whole yet. -/
theorem settled_cases (hopen : s.closed = false) (h : Settled takeFrame (s, buf)) :
    buf.length < 16 ∨ 16 ≤ buf.length ∧ ∃ n, verdict buf = .claims n := by
  by_cases hlen : buf.length < 16
  · exact .inl hlen
  refine .inr ⟨Nat.le_of_not_lt hlen, ?_⟩
  by_contra hne
  have hne' : ∀ n, verdict buf ≠ .claims n := fun n hn => hne ⟨n, hn⟩
  have htake := takeFrame_refuse hopen (Nat.le_of_not_lt hlen) hne'
  have hlen' : 16 ≤ buf.length := Nat.le_of_not_lt hlen
  have hused : (takeFrame s buf).2 ≠ 0 := by
    rw [htake]
    dsimp only
    omega
  rw [Settled, drainAll_of_take hused (List.ne_nil_of_length_pos (by omega)), htake,
    drainAll_closed rfl] at h
  have hclosed := congrArg (fun r => r.1.closed) h
  dsimp only at hclosed
  rw [hopen] at hclosed
  cases hclosed

/-- One chunk. -/
theorem matches_dataReceivedCb {t : Tube}
    (ht : Matches sender t (s, buf)) (hsettled : Settled takeFrame (s, buf))
    (hopen : t.closed = false) (data more : Bytes) (hok : HeadersOk (buf ++ data ++ more)) :
    ∃ t', dataReceivedCb sender t data = some t' ∧
      Matches sender t' (drainAll takeFrame s (buf ++ data)) ∧
      (t'.closed = false → HeadersOk ((drainAll takeFrame s (buf ++ data)).2 ++ more)) := by
  have hs : s.closed = false := ht.closed.symm.trans hopen
  have hat : AtBoundary sender (appendData t data) s (buf ++ data) :=
    ⟨ht.contact, ht.received, hs, hopen, ht.aborted, by rw [appendData, ht.buffer hopen]⟩
  rcases settled_cases hs hsettled with hshort | ⟨hlen, n, hv⟩
  · have hneeded : (appendData t data).reassemblyBytesNeeded = 0 :=
      (ht.needed hopen).trans (awaited_short hshort)
    obtain ⟨t', hleaves, hmatches, hheaders⟩ := leaves_of_atBoundary _ more hat hneeded hok
    exact ⟨t', dataReceivedCb_eq ht.contact hleaves, hmatches, hheaders⟩
  · have hneeded : (appendData t data).reassemblyBytesNeeded = n :=
      (ht.needed hopen).trans (awaited_claims hlen hv)
    have hlen' : 16 ≤ (buf ++ data).length := by
      rw [List.length_append]
      omega
    obtain ⟨t', hleaves, hmatches, hheaders⟩ := leaves_of_claims hat hlen'
      ((verdict_append data hlen).trans hv) hneeded hok
      (fun _ _ _ h₁ hz₁ hok₁ => leaves_of_atBoundary _ more h₁ hz₁ hok₁)
    exact ⟨t', dataReceivedCb_eq ht.contact hleaves, hmatches, hheaders⟩

/-- All the chunks. -/
theorem matches_receiveAll (chunks : List Bytes) {t : Tube}
    (ht : Matches sender t (s, buf)) (hsettled : Settled takeFrame (s, buf))
    (hok : t.closed = false → HeadersOk (buf ++ chunks.flatten)) :
    ∃ t', receiveAll sender t chunks = some t' ∧
      Matches sender t' (drainAll takeFrame s (buf ++ chunks.flatten)) := by
  induction chunks generalizing t s buf with
  | nil =>
    rw [List.flatten_nil, List.append_nil, hsettled]
    exact ⟨t, rfl, ht⟩
  | cons data chunks ih =>
    rw [receiveAll]
    rcases Bool.eq_false_or_eq_true t.closed with hclosed | hopen
    · rw [if_pos (.inl hclosed), drainAll_closed (ht.closed.symm.trans hclosed)]
      refine ⟨t, rfl, ht.contact, ht.received, ht.closed, ht.aborted, ?_, ?_⟩
      all_goals
        intro h
        rw [hclosed] at h
        cases h
    · rw [if_neg (by simp [hopen, ht.aborted])]
      have hok' := hok hopen
      rw [List.flatten_cons, ← List.append_assoc] at hok'
      obtain ⟨t₁, hcb, hmatches, hheaders⟩ :=
        matches_dataReceivedCb ht hsettled hopen data chunks.flatten hok'
      obtain ⟨t', hrun, hfinal⟩ :=
        ih (show Matches sender t₁ ((drainAll takeFrame s (buf ++ data)).1,
            (drainAll takeFrame s (buf ++ data)).2) from hmatches)
          (settled_drainAll coherent_takeFrame _ _) hheaders
      rw [← drainAll_append coherent_takeFrame, List.append_assoc] at hfinal
      exact ⟨t', by rw [hcb]; exact hrun, hfinal⟩

/-- The chunks were handled as they should be: the calls returned, no assertion
failed, the tube delivered the messages of the stream, closed at the first bad
header and else waits for the size the header at hand claims. -/
def Handled (sender : ℕ) (chunks : List Bytes) : Prop :=
  ∃ t, receiveAll sender (Tube.new .contact) chunks = some t ∧
    Matches sender t (drainAll takeFrame ⟨[], false⟩ chunks.flatten)

theorem matches_new (sender : ℕ) : Matches sender (Tube.new .contact) (⟨[], false⟩, []) :=
  ⟨rfl, rfl, rfl, rfl, fun _ => rfl, fun _ => rfl⟩

theorem handled_of_headersOk (sender : ℕ) {chunks : List Bytes} (h : HeadersOk chunks.flatten) :
    Handled sender chunks :=
  matches_receiveAll chunks (matches_new sender) (settled_nil _) (fun _ => h)

/-! ## The first header read wrong -/

/-- A header that is read wrong is not a malformed one. -/
theorem readVerdict_malformed (h : readVerdict buf = some .malformed) :
    verdict buf = .malformed := by
  rw [readVerdict] at h
  split at h
  · next hlengths =>
      rw [collectLengths] at hlengths
      split at hlengths
      · cases hlengths
      next hbig =>
      split at hlengths
      · cases hlengths
      next hlittle =>
      rw [verdict, if_neg hbig, if_neg hlittle]
  · rw [readJudge] at h
    split at h
    · cases h
    split at h
    · cases h
    split at h <;> cases h

theorem exists_leaves (sender : ℕ) (t : Tube) : ∃ t', Leaves sender t t' := by
  obtain ⟨t', h⟩ := exists_loop_eq_some sender t (Nat.lt_succ_self _)
  exact ⟨t', _, h⟩

/-- Where the loop ends that reads the header at hand as claiming `n`: it
received that many bytes, or it waits for them. -/
theorem leaves_claims_cases {t t' : Tube} {n : ℕ}
    (hneeded : t.reassemblyBytesNeeded = 0) (hlen : 16 ≤ t.reassemblyBuffer.length)
    (hread : readVerdict t.reassemblyBuffer = some (.claims n)) (hleaves : Leaves sender t t') :
    (n ≤ t.reassemblyBuffer.length ∧
        Leaves sender (messageReceived sender { t with reassemblyBytesNeeded := n }) t') ∨
      (t.reassemblyBuffer.length < n ∧ t' = { t with reassemblyBytesNeeded := n }) := by
  obtain ⟨hpos, hagain⟩ := nextHeader_claims hlen hread
  have hround := (round_eq_nextHeader sender hneeded).trans hagain
  by_cases hwhole : n ≤ t.reassemblyBuffer.length
  · obtain ⟨t₁, hrest⟩ := exists_leaves sender { t with reassemblyBytesNeeded := n }
    rw [Leaves.unique hleaves (leaves_of_again hround hrest)]
    exact .inl ⟨hwhole, (leaves_messageReceived (t := { t with reassemblyBytesNeeded := n })
      hlen hpos hwhole).mp hrest⟩
  · have hwait : Leaves sender { t with reassemblyBytesNeeded := n }
        { t with reassemblyBytesNeeded := n } := leaves_wait hlen hpos (Nat.lt_of_not_le hwhole)
    exact .inr ⟨Nat.lt_of_not_le hwhole, Leaves.unique hleaves (leaves_of_again hround hwait)⟩

/-- **A header read wrong**: an assertion fails, the tube closes on a message
that is not too large, or it takes another number of bytes for the message. -/
theorem misread_cases {t t' : Tube}
    (ht : AtBoundary sender t s buf) (hneeded : t.reassemblyBytesNeeded = 0)
    (hlen : 16 ≤ buf.length) (hbad : ¬ HeaderOk buf) (hleaves : Leaves sender t t') :
    (t'.aborted = true ∧ t'.received = t.received) ∨
      (verdict buf ≠ .tooLarge ∧ t'.closed = true ∧ t'.received = t.received) ∨
      ∃ n, verdict buf ≠ .claims n ∧
        ((n ≤ buf.length ∧ t.received ++ [(sender, buf.take n)] <+: t'.received) ∨
          (buf.length < n ∧ t' = { t with reassemblyBytesNeeded := n })) := by
  have hlen' : 16 ≤ t.reassemblyBuffer.length := by rwa [ht.buffer]
  have hround : round sender t = nextHeader t := round_eq_nextHeader sender hneeded
  have hne : ∀ v, readVerdict t.reassemblyBuffer = some v → verdict buf ≠ v := by
    intro v hread hv
    rw [ht.buffer, ← hv] at hread
    exact hbad ((readVerdict_eq_iff buf).mp hread)
  rcases hread : readVerdict t.reassemblyBuffer with _ | v
  · obtain ⟨t₁, hleave, haborted, hreceived⟩ : HeaderRead t _ none := hread ▸ headerRead hlen'
    rw [Leaves.unique hleaves (leaves_of_leave (hround.trans hleave))]
    exact .inl ⟨haborted, hreceived⟩
  cases v with
  | malformed =>
    have hm := hne _ hread
    rw [ht.buffer] at hread
    exact absurd (readVerdict_malformed hread) hm
  | tooLarge =>
    obtain ⟨n, hleave⟩ := nextHeader_tooLarge hlen' hread
    rw [Leaves.unique hleaves (leaves_of_leave (hround.trans hleave))]
    exact .inr (.inl ⟨hne _ hread, rfl, rfl⟩)
  | claims n =>
    refine .inr (.inr ⟨n, hne _ hread, ?_⟩)
    rcases leaves_claims_cases hneeded hlen' hread hleaves with ⟨hwhole, hrest⟩ | ⟨hpart, heq⟩
    · have hpre := hrest.received_prefix
      rw [messageReceived, ht.buffer] at hpre
      rw [ht.buffer] at hwhole
      exact .inl ⟨hwhole, hpre⟩
    · rw [ht.buffer] at hpart
      exact .inr ⟨hpart, heq⟩

/-- When the message is there, what is received is not that message. -/
theorem received_ne_of_misread {t t' : Tube} {n : ℕ}
    (ht : AtBoundary sender t s buf) (hneeded : t.reassemblyBytesNeeded = 0)
    (hlen : 16 ≤ buf.length) (hv : verdict buf = .claims n) (hn : n ≤ buf.length)
    (hbad : ¬ HeaderOk buf) (hleaves : Leaves sender t t') {msgs : List Bytes}
    (hmsgs : s.messages ++ [buf.take n] <+: msgs) : t'.received ≠ msgs.map (sender, ·) := by
  intro heq
  have hlonger : t.received.length < t'.received.length := by
    have hle := hmsgs.length_le
    rw [List.length_append, List.length_singleton] at hle
    rw [heq, ht.received, List.length_map, List.length_map]
    omega
  rcases misread_cases ht hneeded hlen hbad hleaves with
    ⟨-, hsame⟩ | ⟨-, -, hsame⟩ | ⟨n', hn', ⟨hwhole, hpre⟩ | ⟨-, rfl⟩⟩
  · rw [hsame] at hlonger
    omega
  · rw [hsame] at hlonger
    omega
  · -- a message of another size stands where this one should
    rw [heq, ht.received] at hpre
    obtain ⟨tail, rfl⟩ := hmsgs
    rw [List.map_append, List.map_append, List.append_assoc] at hpre
    have hfirst := (List.prefix_append_right_inj _).mp hpre
    have hentry := (List.cons_prefix_cons.mp hfirst).1
    have hl := congrArg (fun e : ℕ × Bytes => e.2.length) hentry
    dsimp only at hl
    rw [List.length_take, List.length_take, Nat.min_eq_left hwhole, Nat.min_eq_left hn] at hl
    exact hn' (by rw [hv, hl])
  · exact absurd hlonger (Nat.lt_irrefl _)

/-- The cutting only adds messages. -/
theorem messages_prefix_drainAll (s : Frames) (buf : Bytes) :
    s.messages <+: (drainAll takeFrame s buf).1.messages := by
  have htake : ∀ (s : Frames) (buf : Bytes), s.messages <+: (takeFrame s buf).1.messages := by
    intro s buf
    rcases takeFrame_cases s buf with ⟨-, h⟩ | ⟨-, -, n, -, -, h⟩ | ⟨-, -, -, h⟩ | h
    · rw [h]
    · rw [h]
      exact List.prefix_append _ _
    · rw [h]
    · rw [h]
  induction hlength : buf.length using Nat.strongRecOn generalizing s buf with
  | ind len ih =>
    by_cases hzero : (takeFrame s buf).2 = 0
    · rw [drainAll_of_wait coherent_takeFrame hzero]
    by_cases hne : buf = []
    · subst hne
      exact List.prefix_rfl
    rw [drainAll_of_take hzero hne]
    have hpos : 0 < buf.length := List.length_pos_iff.mpr hne
    exact (htake s buf).trans (ih (buf.drop (takeFrame s buf).2).length
      (by rw [List.length_drop]; omega) _ _ rfl)

theorem headerOk_of_malformed (h : verdict buf = .malformed) : HeaderOk buf := by
  have hjudge : ∀ bodyLength m, judge bodyLength m ≠ .malformed := by
    intro bodyLength m hj
    rw [judge] at hj
    split at hj <;> cases hj
  rw [verdict] at h
  split at h
  · exact absurd h (hjudge _ _)
  next hbig =>
  split at h
  · exact absurd h (hjudge _ _)
  next hlittle => exact ⟨fun hl => absurd hl hlittle, fun hb => absurd hb hbig⟩

/-- A header read wrong at the boundary at hand: the tube does not match. -/
theorem not_matches_of_misread {t t' : Tube}
    (ht : AtBoundary sender t s buf) (hneeded : t.reassemblyBytesNeeded = 0)
    (hlen : 16 ≤ buf.length) (hbad : ¬ HeaderOk buf) (hleaves : Leaves sender t t') :
    ¬ Matches sender t' (drainAll takeFrame s buf) := by
  intro hm
  have hne : buf ≠ [] := List.ne_nil_of_length_pos (by omega)
  have hgrow : ∀ {n}, t.received ++ [(sender, buf.take n)] <+: t'.received →
      t'.received ≠ s.messages.map (sender, ·) := by
    intro n hpre heq
    have hle := hpre.length_le
    rw [heq, ht.received, List.length_append, List.length_singleton] at hle
    omega
  rcases hv : verdict buf with _ | _ | n
  · exact hbad (headerOk_of_malformed hv)
  · -- the tube should have closed here
    have htake := takeFrame_refuse ht.opened hlen (fun n hn => by rw [hv] at hn; cases hn)
    have hused : (takeFrame s buf).2 ≠ 0 := by
      rw [htake]
      dsimp only
      omega
    rw [drainAll_of_take hused hne, htake, drainAll_closed rfl] at hm
    rcases misread_cases ht hneeded hlen hbad hleaves with
      ⟨haborted, -⟩ | ⟨hlarge, -⟩ | ⟨n', -, ⟨-, hpre⟩ | ⟨-, rfl⟩⟩
    · rw [hm.aborted] at haborted
      cases haborted
    · exact hlarge hv
    · exact hgrow hpre hm.received
    · have hclosed := hm.closed
      rw [ht.closed] at hclosed
      cases hclosed
  · by_cases hn : n ≤ buf.length
    · -- the message is there
      have htake := takeFrame_whole ht.opened hlen hv hn
      have hn16 := le_of_verdict_claims hv
      have hused : (takeFrame s buf).2 ≠ 0 := by
        rw [htake]
        dsimp only
        omega
      rw [drainAll_of_take hused hne, htake] at hm
      have hpre := messages_prefix_drainAll { s with messages := s.messages ++ [buf.take n] }
        (buf.drop n)
      exact received_ne_of_misread ht hneeded hlen hv hn hbad hleaves hpre hm.received
    · -- the tube should wait for it
      have htake := takeFrame_wait ht.opened hlen hv (Nat.lt_of_not_le hn)
      rw [drainAll_of_wait coherent_takeFrame (by rw [htake])] at hm
      rcases misread_cases ht hneeded hlen hbad hleaves with
        ⟨haborted, -⟩ | ⟨-, hclosed, -⟩ | ⟨n', hn', ⟨-, hpre⟩ | ⟨-, rfl⟩⟩
      · rw [hm.aborted] at haborted
        cases haborted
      · rw [hm.closed, ht.opened] at hclosed
        cases hclosed
      · exact hgrow hpre hm.received
      · have hwait := hm.needed ht.closed
        rw [awaited_claims hlen hv] at hwait
        dsimp only at hwait
        exact hn' (by rw [hv, hwait])

/-- **The first header read wrong** is reached, and from then on the tube does
not match. -/
theorem not_matches_of_boundary (buf : Bytes) {t t' : Tube}
    (ht : AtBoundary sender t s buf) (hneeded : t.reassemblyBytesNeeded = 0) {k : ℕ}
    (hk : Boundary buf k) (hlen : 16 ≤ (buf.drop k).length) (hbad : ¬ HeaderOk (buf.drop k))
    (hleaves : Leaves sender t t') : ¬ Matches sender t' (drainAll takeFrame s buf) := by
  induction hlength : buf.length using Nat.strongRecOn generalizing buf t s k with
  | ind len ih =>
    have hlen₀ : 16 ≤ buf.length := by
      rw [List.length_drop] at hlen
      omega
    by_cases hok : HeaderOk buf
    swap
    · exact not_matches_of_misread ht hneeded hlen₀ hok hleaves
    rcases hk.cases_start with rfl | ⟨-, n, hv, hn, j, rfl, hj⟩
    · rw [List.drop_zero] at hbad
      exact absurd hok hbad
    · have hn16 := le_of_verdict_claims hv
      have hread : readVerdict t.reassemblyBuffer = some (.claims n) := by
        rw [ht.buffer, (readVerdict_eq_iff buf).mpr hok, hv]
      rcases leaves_claims_cases hneeded (by rwa [ht.buffer]) hread hleaves with
        ⟨-, hrest⟩ | ⟨hpart, -⟩
      swap
      · rw [ht.buffer] at hpart
        omega
      have hat : AtBoundary sender (messageReceived sender { t with reassemblyBytesNeeded := n })
          { s with messages := s.messages ++ [buf.take n] } (buf.drop n) := by
        refine ⟨ht.contact, ?_, ht.opened, ht.closed, ht.aborted, ?_⟩
        · rw [messageReceived, ht.buffer, ht.received, List.map_append]
          rfl
        · rw [messageReceived, ht.buffer]
      have htake := takeFrame_whole ht.opened hlen₀ hv hn
      have hused : (takeFrame s buf).2 ≠ 0 := by
        rw [htake]
        dsimp only
        omega
      rw [drainAll_of_take hused (List.ne_nil_of_length_pos (by omega)), htake]
      rw [← List.drop_drop] at hlen hbad
      exact ih (buf.drop n).length (by rw [List.length_drop]; omega) _ hat rfl hj hlen hbad hrest
        rfl

theorem atBoundary_new (sender : ℕ) (data : Bytes) :
    AtBoundary sender (appendData (Tube.new .contact) data) ⟨[], false⟩ data :=
  ⟨rfl, rfl, rfl, rfl, rfl, rfl⟩

/-- A stream that arrives in one chunk. -/
theorem receiveAll_singleton {data : Bytes} {t : Tube}
    (h : receiveAll sender (Tube.new .contact) [data] = some t) :
    Leaves sender (appendData (Tube.new .contact) data) t := by
  obtain ⟨t', hleaves⟩ := exists_leaves sender (appendData (Tube.new .contact) data)
  have hcb := dataReceivedCb_eq (t := Tube.new .contact) rfl hleaves
  rw [receiveAll, if_neg (by decide), hcb] at h
  cases h
  exact hleaves

/-- **No assertion fails and no length wraps, exactly when every header at a
message boundary is read right.** -/
theorem handled_iff (sender : ℕ) (stream : Bytes) :
    (∀ chunks : List Bytes, chunks.flatten = stream → Handled sender chunks) ↔
      ∀ k, Boundary stream k → 16 ≤ (stream.drop k).length → HeaderOk (stream.drop k) := by
  constructor
  · intro h k hk hlen
    by_contra hbad
    obtain ⟨t, hrun, hmatches⟩ := h [stream] (by rw [List.flatten_singleton])
    rw [List.flatten_singleton] at hmatches
    exact not_matches_of_boundary stream (atBoundary_new sender stream) rfl hk hlen hbad
      (receiveAll_singleton hrun) hmatches
  · rintro h chunks rfl
    exact handled_of_headersOk sender h

/-- A little endian header whose array of fields is eight bytes short of `2 ^ 32`. -/
def wrappingHeader : Bytes := [108, 1, 0, 1, 0, 0, 0, 0, 1, 0, 0, 0, 248, 255, 255, 255]

/-- The padded length is not below the unpadded one plus eight: that sum is zero. -/
theorem not_handled_wrappingHeader : ¬ Handled 1 [wrappingHeader] := by
  rintro ⟨t, hrun, hmatches⟩
  have hres : receiveAll 1 (Tube.new .contact) [wrappingHeader] =
      some ⟨.contact, wrappingHeader, 0, [], false, true⟩ := by decide +kernel
  rw [hres] at hrun
  cases hrun
  exact absurd hmatches.aborted (by decide)

end TubeDbus
