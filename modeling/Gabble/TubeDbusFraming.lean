/-
# The messages of a D-Bus tube

What a stream of D-Bus messages means, with true integers, and how the tube
compares with it.  `verdict` says what the header at the start of a buffer
claims; `takeFrame` cuts a stream into messages by it.  `readVerdict` is what
the code makes of the same header.  The two agree on a header exactly when
`HeaderOk` holds, and a stream is reassembled as it should be exactly when this
is so for every header at a message boundary.
-/
import Gabble.TubeDbus
import Mathlib.Order.Nat

namespace TubeDbus

open Base64 (Bytes)
open Segments

/-! ## What a header claims -/

/-- A 32-bit number, lowest byte first. -/
def le32 (str : Bytes) : ℕ :=
  byteAt str 0 + byteAt str 1 * 2 ^ 8 + byteAt str 2 * 2 ^ 16 + byteAt str 3 * 2 ^ 24

/-- A 32-bit number, highest byte first. -/
def be32 (str : Bytes) : ℕ :=
  byteAt str 0 * 2 ^ 24 + byteAt str 1 * 2 ^ 16 + byteAt str 2 * 2 ^ 8 + byteAt str 3

/-- The length of the header fields, padded to eight bytes. -/
def paddedLength (m : ℕ) : ℕ := m + (8 - m % 8) % 8

/-- The size of a message with these lengths. -/
def claimedLength (bodyLength m : ℕ) : ℕ := paddedLength m + bodyLength + 16

/-- A message larger than the protocol allows. -/
def TooLarge (bodyLength m : ℕ) : Prop :=
  bodyLength > dbusMaximumMessageLength ∨ paddedLength m > dbusMaximumArrayLength ∨
    claimedLength bodyLength m > dbusMaximumMessageLength

instance (bodyLength m : ℕ) : Decidable (TooLarge bodyLength m) :=
  inferInstanceAs (Decidable (_ ∨ _))

/-- What there is to say of a header. -/
inductive Verdict : Type where
  | malformed : Verdict
  | tooLarge : Verdict
  | claims (n : ℕ) : Verdict
deriving DecidableEq

def judge (bodyLength m : ℕ) : Verdict :=
  if TooLarge bodyLength m then .tooLarge else .claims (claimedLength bodyLength m)

/-- What the header at the start of a buffer says. -/
def verdict (buf : Bytes) : Verdict :=
  if buf.getD 0 0 = dbusBigEndian then judge (be32 (buf.drop 4)) (be32 (buf.drop 12))
  else if buf.getD 0 0 = dbusLittleEndian then judge (le32 (buf.drop 4)) (le32 (buf.drop 12))
  else .malformed

/-- What the code makes of two lengths; `none` when an assertion fails. -/
def readJudge (bodyLength m : ℕ) : Option Verdict :=
  if ¬ assertParams m then none
  else if refused bodyLength m then some .tooLarge
  else if bytesNeeded bodyLength m = 0 then none
  else some (.claims (bytesNeeded bodyLength m))

/-- What the code makes of the header at the start of a buffer. -/
def readVerdict (buf : Bytes) : Option Verdict :=
  match collectLengths buf with
  | none => some .malformed
  | some (bodyLength, m) => readJudge bodyLength m

/-- The headers the code reads right: a little endian one whose array length is
not within eight of `2 ^ 32`, and a big endian one without a bit in the second
lowest byte of a length, or too large read either way. -/
def HeaderOk (buf : Bytes) : Prop :=
  (buf.getD 0 0 = dbusLittleEndian → le32 (buf.drop 12) + 8 < guint32Size) ∧
    (buf.getD 0 0 = dbusBigEndian →
      (byteAt buf 6 = 0 ∧ byteAt buf 14 = 0) ∨
        (TooLarge (be32 (buf.drop 4)) (be32 (buf.drop 12)) ∧
          TooLarge (collectBe32 (buf.drop 4)) (collectBe32 (buf.drop 12))))

/-! ## Collecting the lengths -/

section

variable (str : Bytes)

theorem byteAt_lt (i : ℕ) : byteAt str i < 256 := (str.getD i 0).toNat_lt

theorem byteAt_drop (k i : ℕ) : byteAt (str.drop k) i = byteAt str (k + i) := by
  rw [byteAt, byteAt, List.getD_eq_getElem?_getD, List.getD_eq_getElem?_getD, List.getElem?_drop]

theorem collectLe32_eq : collectLe32 str = le32 str := by
  have h0 := byteAt_lt str 0
  have h1 := byteAt_lt str 1
  have h2 := byteAt_lt str 2
  have e1 : byteAt str 0 ||| byteAt str 1 <<< 8 = byteAt str 1 <<< 8 + byteAt str 0 := by
    rw [Nat.or_comm, Nat.shiftLeft_add_eq_or_of_lt (by omega)]
  have l1 : byteAt str 1 <<< 8 + byteAt str 0 < 2 ^ 16 := by
    rw [Nat.shiftLeft_eq]
    omega
  have e2 : (byteAt str 1 <<< 8 + byteAt str 0) ||| byteAt str 2 <<< 16 =
      byteAt str 2 <<< 16 + (byteAt str 1 <<< 8 + byteAt str 0) := by
    rw [Nat.or_comm, Nat.shiftLeft_add_eq_or_of_lt l1]
  have l2 : byteAt str 2 <<< 16 + (byteAt str 1 <<< 8 + byteAt str 0) < 2 ^ 24 := by
    rw [Nat.shiftLeft_eq, Nat.shiftLeft_eq]
    omega
  rw [collectLe32, e1, e2, Nat.or_comm, ← Nat.shiftLeft_add_eq_or_of_lt l2, le32,
    Nat.shiftLeft_eq, Nat.shiftLeft_eq, Nat.shiftLeft_eq]
  omega

/-- The third byte goes where the first one is. -/
theorem collectBe32_eq :
    collectBe32 str = (byteAt str 0 ||| byteAt str 2) * 2 ^ 24 + byteAt str 1 * 2 ^ 16 +
      byteAt str 3 := by
  have h1 := byteAt_lt str 1
  have h3 := byteAt_lt str 3
  have e1 : byteAt str 0 <<< 24 ||| byteAt str 1 <<< 16 ||| byteAt str 2 <<< 24 =
      (byteAt str 0 ||| byteAt str 2) <<< 24 ||| byteAt str 1 <<< 16 := by
    rw [Nat.shiftLeft_or_distrib, Nat.or_assoc, Nat.or_assoc, Nat.or_comm (byteAt str 1 <<< 16)]
  have l1 : byteAt str 1 <<< 16 < 2 ^ 24 := by
    rw [Nat.shiftLeft_eq]
    omega
  have e2 : (byteAt str 0 ||| byteAt str 2) <<< 24 ||| byteAt str 1 <<< 16 =
      ((byteAt str 0 ||| byteAt str 2) * 2 ^ 8 + byteAt str 1) <<< 16 := by
    rw [← Nat.shiftLeft_add_eq_or_of_lt l1, Nat.shiftLeft_eq, Nat.shiftLeft_eq, Nat.shiftLeft_eq]
    omega
  rw [collectBe32, e1, e2, ← Nat.shiftLeft_add_eq_or_of_lt (by omega), Nat.shiftLeft_eq]
  omega

theorem le32_lt : le32 str < guint32Size := by
  have h0 := byteAt_lt str 0
  have h1 := byteAt_lt str 1
  have h2 := byteAt_lt str 2
  have h3 := byteAt_lt str 3
  rw [le32, guint32Size]
  omega

/-- A number collected from a big endian header is not close to `2 ^ 32`. -/
theorem collectBe32_add_eight_lt : collectBe32 str + 8 < guint32Size := by
  have h1 := byteAt_lt str 1
  have h3 := byteAt_lt str 3
  have hor : byteAt str 0 ||| byteAt str 2 < 2 ^ 8 :=
    Nat.or_lt_two_pow (byteAt_lt str 0) (byteAt_lt str 2)
  rw [collectBe32_eq, guint32Size]
  omega

end

/-! ## The arithmetic of the header -/

/-- The assertions hold exactly when eight can be added. -/
theorem assertParams_iff {m : ℕ} (hm : m < guint32Size) :
    assertParams m ↔ m + 8 < guint32Size := by
  rw [guint32Size] at hm ⊢
  constructor
  · rintro ⟨_, hle, hlt⟩
    by_contra hbig
    have hmod : (m + 8) % guint32Size = m + 8 - 2 ^ 32 := by
      rw [guint32Size]
      omega
    rw [hmod] at hlt
    omega
  · intro hsmall
    have hparams : paramsLength m = m + (8 - m % 8) % 8 := by
      rw [paramsLength, guint32Size]
      omega
    have hmod : (m + 8) % guint32Size = m + 8 := by
      rw [guint32Size]
      omega
    rw [assertParams, hparams, hmod]
    omega

theorem paramsLength_eq {m : ℕ} (hm : m + 8 < guint32Size) : paramsLength m = paddedLength m := by
  rw [guint32Size] at hm
  rw [paramsLength, paddedLength, guint32Size]
  omega

/-- **No length wraps unnoticed**: where the assertions hold the three tests
find exactly the messages that are too large, and the size kept is the true
one. -/
theorem readJudge_eq {bodyLength m : ℕ} (hm : m + 8 < guint32Size) :
    readJudge bodyLength m = some (judge bodyLength m) := by
  have hparams := paramsLength_eq hm
  have hassert : assertParams m := (assertParams_iff (by omega)).mpr hm
  have hpad : paddedLength m < m + 8 := by
    rw [paddedLength]
    omega
  have hneeded : bodyLength ≤ dbusMaximumMessageLength → paddedLength m ≤ dbusMaximumArrayLength →
      bytesNeeded bodyLength m = claimedLength bodyLength m := by
    intro h₁ h₂
    have hmax : dbusMaximumMessageLength = 134217728 := rfl
    have harr : dbusMaximumArrayLength = 67108864 := rfl
    rw [bytesNeeded, hparams, claimedLength, guint32Size]
    omega
  rw [readJudge, if_neg (not_not.mpr hassert), judge]
  by_cases hlarge : TooLarge bodyLength m
  · have hrefused : refused bodyLength m := by
      rw [refused, hparams]
      rcases hlarge with h | h | h
      · exact .inl h
      · exact .inr (.inl h)
      · by_cases h₁ : bodyLength > dbusMaximumMessageLength
        · exact .inl h₁
        by_cases h₂ : paddedLength m > dbusMaximumArrayLength
        · exact .inr (.inl h₂)
        · rw [hneeded (Nat.le_of_not_lt h₁) (Nat.le_of_not_lt h₂)]
          exact .inr (.inr h)
    rw [if_pos hrefused, if_pos hlarge]
  · rw [TooLarge, not_or, not_or] at hlarge
    obtain ⟨h₁, h₂, h₃⟩ := hlarge
    have hn := hneeded (Nat.le_of_not_lt h₁) (Nat.le_of_not_lt h₂)
    have hkept : ¬ refused bodyLength m := by
      rw [refused, hparams, hn, not_or, not_or]
      exact ⟨h₁, h₂, h₃⟩
    have hpos : claimedLength bodyLength m ≠ 0 := by
      rw [claimedLength]
      omega
    rw [if_neg hkept, hn, if_neg hpos, if_neg (by rw [TooLarge, not_or, not_or]; exact ⟨h₁, h₂, h₃⟩)]

/-- Two big endian lengths that are read with the same sum are read right. -/
theorem bytes_zero_of_claimed_eq {body m : Bytes}
    (h : claimedLength (collectBe32 body) (collectBe32 m) = claimedLength (be32 body) (be32 m)) :
    byteAt body 2 = 0 ∧ byteAt m 2 = 0 := by
  have hb := byteAt_lt body 2
  have hm := byteAt_lt m 2
  have hor : byteAt body 0 ≤ byteAt body 0 ||| byteAt body 2 := Nat.left_le_or
  have hor' : byteAt m 0 ≤ byteAt m 0 ||| byteAt m 2 := Nat.left_le_or
  rw [claimedLength, claimedLength, paddedLength, paddedLength, collectBe32_eq, collectBe32_eq,
    be32, be32] at h
  generalize byteAt body 0 ||| byteAt body 2 = q at h hor
  generalize byteAt m 0 ||| byteAt m 2 = q' at h hor'
  omega

theorem collectBe32_eq_be32 {str : Bytes} (h : byteAt str 2 = 0) : collectBe32 str = be32 str := by
  rw [collectBe32_eq, be32, h, Nat.or_zero]
  omega

theorem dbusBigEndian_ne : dbusLittleEndian ≠ dbusBigEndian := by decide

/-- **Which headers are read right.** -/
theorem readVerdict_eq_iff (buf : Bytes) : readVerdict buf = some (verdict buf) ↔ HeaderOk buf := by
  rw [readVerdict, verdict, collectLengths, HeaderOk]
  by_cases hbig : buf.getD 0 0 = dbusBigEndian
  · have hnl : buf.getD 0 0 ≠ dbusLittleEndian := by
      rw [hbig]
      exact dbusBigEndian_ne.symm
    have h6 : byteAt buf 6 = byteAt (buf.drop 4) 2 := (byteAt_drop buf 4 2).symm
    have h14 : byteAt buf 14 = byteAt (buf.drop 12) 2 := (byteAt_drop buf 12 2).symm
    rw [if_pos hbig, if_pos hbig]
    dsimp only
    rw [readJudge_eq (collectBe32_add_eight_lt _), Option.some_inj, h6, h14]
    constructor
    · intro h
      refine ⟨fun hl => absurd hl hnl, fun _ => ?_⟩
      rw [judge, judge] at h
      by_cases hread : TooLarge (collectBe32 (buf.drop 4)) (collectBe32 (buf.drop 12))
      · by_cases htrue : TooLarge (be32 (buf.drop 4)) (be32 (buf.drop 12))
        · exact .inr ⟨htrue, hread⟩
        · rw [if_pos hread, if_neg htrue] at h
          cases h
      · by_cases htrue : TooLarge (be32 (buf.drop 4)) (be32 (buf.drop 12))
        · rw [if_neg hread, if_pos htrue] at h
          cases h
        · rw [if_neg hread, if_neg htrue] at h
          exact .inl (bytes_zero_of_claimed_eq (Verdict.claims.inj h))
    · rintro ⟨-, h⟩
      rcases h hbig with ⟨hz, hz'⟩ | ⟨htrue, hread⟩
      · rw [collectBe32_eq_be32 hz, collectBe32_eq_be32 hz']
      · rw [judge, judge, if_pos hread, if_pos htrue]
  by_cases hlittle : buf.getD 0 0 = dbusLittleEndian
  · rw [if_neg hbig, if_pos hlittle, if_neg hbig, if_pos hlittle]
    dsimp only
    rw [collectLe32_eq, collectLe32_eq]
    constructor
    · intro h
      refine ⟨fun _ => ?_, fun hb => absurd hb hbig⟩
      rw [← assertParams_iff (le32_lt _)]
      by_contra hassert
      rw [readJudge, if_pos hassert] at h
      cases h
    · rintro ⟨h, -⟩
      exact readJudge_eq (h hlittle)
  · rw [if_neg hbig, if_neg hlittle, if_neg hbig, if_neg hlittle]
    exact ⟨fun _ => ⟨fun h => absurd h hlittle, fun h => absurd h hbig⟩, fun _ => rfl⟩

/-! ## Cutting a stream into messages -/

/-- What has been cut off a stream so far. -/
structure Frames where
  messages : List Bytes
  closed : Bool
deriving DecidableEq

/-- The next message of a stream.  A header that is malformed or claims too
much closes the tube, and a closed tube throws the rest away. -/
def takeFrame (s : Frames) (buf : Bytes) : Frames × ℕ :=
  if s.closed then (s, buf.length)
  else if buf.length < 16 then (s, 0)
  else
    match verdict buf with
    | .claims n =>
      if n ≤ buf.length then ({ s with messages := s.messages ++ [buf.take n] }, n) else (s, 0)
    | _ => ({ s with closed := true }, buf.length)

/-- The number of bytes a tube has to wait for. -/
def awaited (buf : Bytes) : ℕ :=
  if buf.length < 16 then 0
  else
    match verdict buf with
    | .claims n => n
    | _ => 0

theorem getD_append {buf : Bytes} {i : ℕ} (more : Bytes) (h : i < buf.length) :
    (buf ++ more).getD i 0 = buf.getD i 0 := by
  rw [List.getD_eq_getElem?_getD, List.getD_eq_getElem?_getD, List.getElem?_append_left h]

theorem byteAt_append {buf : Bytes} {i : ℕ} (more : Bytes) (h : i < buf.length) :
    byteAt (buf ++ more) i = byteAt buf i := by
  rw [byteAt, byteAt, getD_append more h]

/-- Only the first sixteen bytes count. -/
theorem verdict_append {buf : Bytes} (more : Bytes) (h : 16 ≤ buf.length) :
    verdict (buf ++ more) = verdict buf := by
  have hbyte : ∀ i < 16, byteAt (buf ++ more) i = byteAt buf i :=
    fun i hi => byteAt_append more (by omega)
  simp only [verdict, be32, le32, byteAt_drop, getD_append more (by omega : 0 < buf.length)]
  simp only [hbyte _ (by omega : 4 + 0 < 16), hbyte _ (by omega : 4 + 1 < 16),
    hbyte _ (by omega : 4 + 2 < 16), hbyte _ (by omega : 4 + 3 < 16),
    hbyte _ (by omega : 12 + 0 < 16), hbyte _ (by omega : 12 + 1 < 16),
    hbyte _ (by omega : 12 + 2 < 16), hbyte _ (by omega : 12 + 3 < 16)]

/-- A claimed message has at least a header. -/
theorem le_of_verdict_claims {buf : Bytes} {n : ℕ} (h : verdict buf = .claims n) : 16 ≤ n := by
  have hjudge : ∀ bodyLength m, judge bodyLength m = .claims n → 16 ≤ n := by
    intro bodyLength m hj
    rw [judge] at hj
    split at hj
    · cases hj
    · cases hj
      rw [claimedLength]
      omega
  rw [verdict] at h
  split at h
  · exact hjudge _ _ h
  · split at h
    · exact hjudge _ _ h
    · cases h

section TakeFrame

variable {s : Frames} {buf : Bytes} {n : ℕ}

theorem takeFrame_closed (h : s.closed = true) : takeFrame s buf = (s, buf.length) := by
  rw [takeFrame, if_pos h]

theorem takeFrame_short (hopen : s.closed = false) (h : buf.length < 16) :
    takeFrame s buf = (s, 0) := by
  rw [takeFrame, if_neg (by simp [hopen]), if_pos h]

theorem takeFrame_whole (hopen : s.closed = false) (hlen : 16 ≤ buf.length)
    (h : verdict buf = .claims n) (hn : n ≤ buf.length) :
    takeFrame s buf = ({ s with messages := s.messages ++ [buf.take n] }, n) := by
  rw [takeFrame, if_neg (by simp [hopen]), if_neg (by omega), h]
  exact if_pos hn

theorem takeFrame_wait (hopen : s.closed = false) (hlen : 16 ≤ buf.length)
    (h : verdict buf = .claims n) (hn : buf.length < n) : takeFrame s buf = (s, 0) := by
  rw [takeFrame, if_neg (by simp [hopen]), if_neg (by omega), h]
  exact if_neg (by omega)

theorem takeFrame_refuse (hopen : s.closed = false) (hlen : 16 ≤ buf.length)
    (h : ∀ n, verdict buf ≠ .claims n) :
    takeFrame s buf = ({ s with closed := true }, buf.length) := by
  rw [takeFrame, if_neg (by simp [hopen]), if_neg (by omega)]
  split
  · next n hn => exact absurd hn (h n)
  · rfl

end TakeFrame

/-- What a call can do: a closed tube throws everything away, a whole message
is cut off, a bad header closes the tube, or nothing happens. -/
theorem takeFrame_cases (s : Frames) (buf : Bytes) :
    (s.closed = true ∧ takeFrame s buf = (s, buf.length)) ∨
      (s.closed = false ∧ 16 ≤ buf.length ∧ ∃ n, verdict buf = .claims n ∧ n ≤ buf.length ∧
        takeFrame s buf = ({ s with messages := s.messages ++ [buf.take n] }, n)) ∨
      (s.closed = false ∧ 16 ≤ buf.length ∧ (∀ n, verdict buf ≠ .claims n) ∧
        takeFrame s buf = ({ s with closed := true }, buf.length)) ∨
      takeFrame s buf = (s, 0) := by
  rcases Bool.eq_false_or_eq_true s.closed with hclosed | hclosed
  · exact .inl ⟨hclosed, takeFrame_closed hclosed⟩
  by_cases hlen : buf.length < 16
  · exact .inr (.inr (.inr (takeFrame_short hclosed hlen)))
  have hlen' : 16 ≤ buf.length := Nat.le_of_not_lt hlen
  by_cases hclaims : ∃ n, verdict buf = .claims n
  · obtain ⟨n, hn⟩ := hclaims
    by_cases hle : n ≤ buf.length
    · exact .inr (.inl ⟨hclosed, hlen', n, hn, hle, takeFrame_whole hclosed hlen' hn hle⟩)
    · exact .inr (.inr (.inr (takeFrame_wait hclosed hlen' hn (Nat.lt_of_not_le hle))))
  · have hne : ∀ n, verdict buf ≠ .claims n := fun n hn => hclaims ⟨n, hn⟩
    exact .inr (.inr (.inl ⟨hclosed, hlen', hne, takeFrame_refuse hclosed hlen' hne⟩))

/-- The cuts of the stream do not depend on how it arrives. -/
theorem coherent_takeFrame : Coherent takeFrame := by
  refine ⟨fun s buf => ?_, fun s buf hzero => ?_, fun s buf more hmore hused => ?_⟩
  · rcases takeFrame_cases s buf with ⟨-, h⟩ | ⟨-, -, n, -, hn, h⟩ | ⟨-, -, -, h⟩ | h
    · exact (congrArg Prod.snd h).le
    · exact (congrArg Prod.snd h).trans_le hn
    · exact (congrArg Prod.snd h).le
    · exact (congrArg Prod.snd h).trans_le (Nat.zero_le _)
  · rcases takeFrame_cases s buf with ⟨-, h⟩ | ⟨-, -, n, hv, -, h⟩ | ⟨-, hlen, -, h⟩ | h
    · rw [h]
    · have hn := le_of_verdict_claims hv
      rw [h] at hzero
      dsimp only at hzero
      omega
    · rw [h] at hzero
      dsimp only at hzero
      omega
    · rw [h]
  · have hpos : 0 < more.length := List.length_pos_iff.mpr hmore
    have hlong : buf.length ≤ (buf ++ more).length := by
      rw [List.length_append]
      omega
    rcases takeFrame_cases s buf with ⟨hc, h⟩ | ⟨hc, hlen, n, hv, hn, h⟩ | ⟨hc, hlen, hv, h⟩ | h
    · refine .inr ⟨congrArg Prod.snd h, ?_, ?_⟩
      · rw [h, takeFrame_closed hc]
        exact Nat.ne_of_gt hpos
      · rw [h, takeFrame_closed hc, takeFrame_closed hc, resume, List.length_append]
    · left
      rw [h, takeFrame_whole hc (hlen.trans hlong) ((verdict_append more hlen).trans hv)
        (hn.trans hlong), List.take_append_of_le_length hn]
    · have hgone : ∀ rest, takeFrame { s with closed := true } rest =
          ({ s with closed := true }, rest.length) := fun rest => takeFrame_closed rfl
      refine .inr ⟨congrArg Prod.snd h, ?_, ?_⟩
      · rw [h, hgone]
        exact Nat.ne_of_gt hpos
      · rw [h, hgone, takeFrame_refuse hc (hlen.trans hlong)
          (fun n => by rw [verdict_append more hlen]; exact hv n), resume, List.length_append]
    · rw [h] at hused
      exact absurd rfl hused

end TubeDbus
