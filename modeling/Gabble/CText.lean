/-
# Text as C programs read it

Strings that end at a zero byte, the conversions of `<stdlib.h>`, comparisons
that ignore case, and lines.  A line ends with a line feed; a carriage return
before it belongs to the line end.

`strtoul_append` says what `strtoul` reads from digits that are followed by
something else, and `readLine_line` what a line reader finds in front of a
stream that starts with a line.
-/
import Mathlib.Algebra.Group.Int.Defs
import Mathlib.Algebra.Group.Nat.Defs
import Mathlib.Data.List.TakeWhile
import Mathlib.Tactic.Common
import Gabble.DecimalText

namespace CText

open DecimalText (toLong toULong)

/-- The bytes of an ASCII text. -/
def ascii (s : String) : List UInt8 := s.toList.map fun c => UInt8.ofNat c.toNat

/-- A C string ends at the first zero byte. -/
def cString (l : List UInt8) : List UInt8 := l.takeWhile (· ≠ 0)

theorem cString_of_forall_ne {l : List UInt8} (h : ∀ b ∈ l, b ≠ 0) : cString l = l :=
  List.takeWhile_eq_self_iff.mpr fun b hb => by simpa using h b hb

/-! ## Case -/

/-- `g_ascii_tolower` -/
def toLower (b : UInt8) : UInt8 := if 65 ≤ b && b ≤ 90 then b + 32 else b

/-- The two texts are the same but for the case of ASCII letters. -/
def sameLetters (l l' : List UInt8) : Bool := l.map toLower = l'.map toLower

/-- `g_ascii_strncasecmp (l, text, strlen (text)) == 0` -/
def hasPrefixIgnoringCase (text l : List UInt8) : Bool := sameLetters (l.take text.length) text

/-! ## Numbers -/

/-- The value of a digit in a base up to sixteen. -/
def digitValue (b : UInt8) : ℕ :=
  if 48 ≤ b && b ≤ 57 then b.toNat - 48
  else if 97 ≤ b && b ≤ 102 then b.toNat - 87
  else if 65 ≤ b && b ≤ 70 then b.toNat - 55
  else 255

/-- The byte is a digit in this base. -/
def isDigit (base : ℕ) (b : UInt8) : Bool := digitValue b < base

/-- The number some digits stand for. -/
def value (base : ℕ) (digits : List UInt8) : ℕ :=
  digits.foldl (fun n b => n * base + digitValue b) 0

/-- `isspace` -/
def isSpace (b : UInt8) : Bool := DecimalText.isSpace b.toNat

/-- The sign in front of a number, behind the blanks. -/
def unsigned (l : List UInt8) : Bool × List UInt8 :=
  DecimalText.sign UInt8.toNat ((cString l).dropWhile isSpace)

/-- The `0x` in front of a hexadecimal number. -/
def dropHexMark : List UInt8 → List UInt8
  | 48 :: x :: d :: rest => if toLower x = 120 && isDigit 16 d then d :: rest else 48 :: x :: d :: rest
  | l => l

/-- `strtoul`, for an `unsigned long` of 64 bits. -/
def strtoul (base : ℕ) (l : List UInt8) : ℕ :=
  let (negative, rest) := unsigned l
  let digits := (if base = 16 then dropHexMark rest else rest).takeWhile (isDigit base)
  toULong 64 negative (value base digits)

/-- `g_ascii_strtoll` in base ten, which keeps to 64 bits. -/
def strtoll (l : List UInt8) : ℤ :=
  let (negative, rest) := unsigned l
  toLong 64 negative (value 10 (rest.takeWhile (isDigit 10)))

/-- A property of bytes that holds of every number below 256. -/
theorem forall_byte {P : UInt8 → Prop} (h : ∀ n < 256, P (UInt8.ofNat n)) : ∀ b, P b := by
  intro b
  have hb := h b.toNat b.toNat_lt
  rwa [UInt8.ofNat_toNat] at hb

/-- Digits in base ten, or in base sixteen. -/
theorem digit_cases {b : UInt8} (h : isDigit 16 b = true) :
    (48 ≤ b.toNat ∧ b.toNat ≤ 57) ∨ (97 ≤ b.toNat ∧ b.toNat ≤ 102) ∨
      (65 ≤ b.toNat ∧ b.toNat ≤ 70) := by
  simp only [isDigit, digitValue, decide_eq_true_eq, Bool.and_eq_true, UInt8.le_iff_toNat_le] at h
  simp only [UInt8.toNat_ofNat] at h
  split at h
  · omega
  · split at h
    · omega
    · split at h <;> omega

theorem isDigit_mono {base base' : ℕ} (hle : base ≤ base') {b : UInt8}
    (h : isDigit base b = true) : isDigit base' b = true := by
  rw [isDigit, decide_eq_true_iff] at h ⊢
  omega

theorem isSpace_of_isDigit {b : UInt8} (h : isDigit 16 b = true) : isSpace b = false := by
  have hcases := digit_cases h
  rw [isSpace, DecimalText.isSpace, Bool.or_eq_false_iff, Bool.and_eq_false_iff,
    decide_eq_false_iff_not, decide_eq_false_iff_not, decide_eq_false_iff_not]
  omega

theorem ne_of_isDigit {b : UInt8} (h : isDigit 16 b = true) {n : ℕ} (hn : n < 48) :
    b ≠ UInt8.ofNat n := by
  have hcases := digit_cases h
  intro heq
  have hnat := congrArg UInt8.toNat heq
  rw [UInt8.toNat_ofNat_of_lt' (hn.trans (by decide))] at hnat
  omega

/-- **Digits are read.**  `strtoul` reads the digits a text begins with, when they
stand for a number of 64 bits and neither another digit nor an `x` follows. -/
theorem strtoul_append {base : ℕ} (hbase : base ≤ 16) {digits rest : List UInt8}
    (hdigits : ∀ b ∈ digits, isDigit base b = true) (hne : digits ≠ [])
    (hrest : ∀ b ∈ rest.head?, isDigit base b = false ∧ toLower b ≠ 120)
    (hzero : ∀ b ∈ rest, b ≠ 0) (hlt : value base digits < 2 ^ 64) :
    strtoul base (digits ++ rest) = value base digits := by
  obtain ⟨d, ds, rfl⟩ := List.exists_cons_of_ne_nil hne
  have h16 : ∀ b ∈ d :: ds, isDigit 16 b = true := fun b hb => isDigit_mono hbase (hdigits b hb)
  have hd := h16 d List.mem_cons_self
  have hstring : cString (d :: ds ++ rest) = d :: ds ++ rest := by
    refine cString_of_forall_ne fun b hb => ?_
    rcases List.mem_append.mp hb with hb | hb
    · exact ne_of_isDigit (h16 b hb) (n := 0) (by omega)
    · exact hzero b hb
  have hspace : (d :: ds ++ rest).dropWhile isSpace = d :: ds ++ rest :=
    List.dropWhile_cons_of_neg (by rw [isSpace_of_isDigit hd]; exact Bool.false_ne_true)
  have hsign : unsigned (d :: ds ++ rest) = (false, d :: ds ++ rest) := by
    have hcases := digit_cases hd
    rw [unsigned, hstring, hspace, List.cons_append, DecimalText.sign, if_neg (by omega),
      if_neg (by omega)]
  have hmark : dropHexMark (d :: ds ++ rest) = d :: ds ++ rest := by
    rw [List.cons_append, dropHexMark.eq_def]
    split
    case h_2 => rfl
    case h_1 x e tail heq =>
      -- the byte after the zero is a digit or what follows the digits
      rw [if_neg]
      · exact heq.symm
      have hx : toLower x ≠ 120 := by
        rcases ds with _ | ⟨d', ds⟩
        · have hhead : rest.head? = some x := by
            rw [List.nil_append] at heq
            rw [(List.cons_eq_cons.mp heq).2]
            rfl
          exact (hrest x hhead).2
        · have hxd : d' = x := by
            simp only [List.cons_append, List.cons.injEq] at heq
            exact heq.2.1
          rw [← hxd]
          have hcases := digit_cases (h16 d' (List.mem_cons_of_mem _ List.mem_cons_self))
          intro hlower
          have hnat := congrArg UInt8.toNat hlower
          rw [toLower] at hnat
          split at hnat
          · rw [UInt8.toNat_add] at hnat
            simp only [UInt8.toNat_ofNat] at hnat
            omega
          · simp only [UInt8.toNat_ofNat] at hnat
            omega
      rw [Bool.and_eq_true, decide_eq_true_iff]
      exact fun h => hx h.1
  have htake : (d :: ds ++ rest).takeWhile (isDigit base) = d :: ds := by
    rw [List.takeWhile_append_of_pos hdigits]
    rcases rest with _ | ⟨r, rest⟩
    · rw [List.takeWhile_nil, List.append_nil]
    · rw [List.takeWhile_cons_of_neg, List.append_nil]
      rw [(hrest r rfl).1]
      exact Bool.false_ne_true
  rw [strtoul, hsign]
  dsimp only
  rw [hmark, ite_self, htake, toULong, if_neg (by omega), if_neg Bool.false_ne_true]

/-! ## Lines -/

/-- The first line of a buffer, without its line end, and how many bytes it takes
with its line end; `none` when the buffer has no line end. -/
def readLine (buffer : List UInt8) : Option (List UInt8 × ℕ) :=
  if 10 ∈ buffer then
    let line := buffer.takeWhile (· ≠ 10)
    some (if line.getLast? = some 13 then line.dropLast else line, line.length + 1)
  else none

/-- The line end of network protocols. -/
def lineEnd : List UInt8 := [13, 10]

/-- A text that can stand in a line. -/
def IsLine (text : List UInt8) : Prop := ∀ b ∈ text, b ≠ 10 ∧ b ≠ 13 ∧ b ≠ 0

instance (text : List UInt8) : Decidable (IsLine text) :=
  inferInstanceAs (Decidable (∀ b ∈ text, b ≠ 10 ∧ b ≠ 13 ∧ b ≠ 0))

theorem IsLine.append {text text' : List UInt8} (h : IsLine text) (h' : IsLine text') :
    IsLine (text ++ text') := by
  intro b hb
  rcases List.mem_append.mp hb with hb | hb
  · exact h b hb
  · exact h' b hb

theorem IsLine.cString {text : List UInt8} (h : IsLine text) : cString text = text :=
  cString_of_forall_ne fun b hb => (h b hb).2.2

/-- **A line is read.** -/
theorem readLine_text {text : List UInt8} (h : 10 ∉ text) (rest : List UInt8) :
    readLine (text ++ lineEnd ++ rest) = some (text, text.length + 2) := by
  have htake : (text ++ lineEnd ++ rest).takeWhile (· ≠ 10) = text ++ [13] := by
    have htext : ∀ b ∈ text ++ [13], decide (b ≠ (10 : UInt8)) = true := by
      intro b hb
      rw [decide_eq_true_iff]
      rcases List.mem_append.mp hb with hb | hb
      · rintro rfl
        exact h hb
      · rw [List.mem_singleton.mp hb]
        decide
    rw [show text ++ lineEnd ++ rest = text ++ [13] ++ 10 :: rest by simp [lineEnd],
      List.takeWhile_append_of_pos htext, List.takeWhile_cons_of_neg (by decide), List.append_nil]
  rw [readLine, if_pos (by simp [lineEnd])]
  dsimp only
  rw [htake, List.getLast?_concat, if_pos rfl, List.dropLast_concat, List.length_append]
  rfl

theorem readLine_line {text : List UInt8} (h : IsLine text) (rest : List UInt8) :
    readLine (text ++ lineEnd ++ rest) = some (text, text.length + 2) :=
  readLine_text (fun hmem => (h 10 hmem).1 rfl) rest

/-- Whether there is a line, and which, does not depend on what follows it. -/
theorem readLine_append {buffer : List UInt8} {r : List UInt8 × ℕ}
    (h : readLine buffer = some r) (more : List UInt8) : readLine (buffer ++ more) = some r := by
  rw [readLine] at h
  split at h
  case isFalse => cases h
  case isTrue hmem =>
    have htake : (buffer ++ more).takeWhile (· ≠ 10) = buffer.takeWhile (· ≠ 10) := by
      rw [List.takeWhile_append, if_neg]
      intro hlen
      have hall := List.takeWhile_eq_self_iff.mp
        ((List.takeWhile_prefix (· ≠ (10 : UInt8))).eq_of_length hlen)
      simpa using hall 10 hmem
    rw [readLine, if_pos (List.mem_append_left _ hmem), htake]
    exact h

theorem readLine_le {buffer : List UInt8} {r : List UInt8 × ℕ} (h : readLine buffer = some r) :
    r.2 ≤ buffer.length := by
  rw [readLine] at h
  split at h
  case isFalse => cases h
  case isTrue hmem =>
    obtain rfl := Option.some.inj h
    have hprefix_ := List.takeWhile_prefix (l := buffer) (· ≠ (10 : UInt8))
    have hlt : (buffer.takeWhile (· ≠ 10)).length ≠ buffer.length := by
      intro hlen
      have hall := List.takeWhile_eq_self_iff.mp (hprefix_.eq_of_length hlen)
      simpa using hall 10 hmem
    have hle := hprefix_.length_le
    dsimp only
    omega

theorem readLine_pos {buffer : List UInt8} {r : List UInt8 × ℕ} (h : readLine buffer = some r) :
    r.2 ≠ 0 := by
  rw [readLine] at h
  split at h
  case isFalse => cases h
  case isTrue => obtain rfl := Option.some.inj h; exact Nat.succ_ne_zero _

end CText
