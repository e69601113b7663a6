/-
# Decimal numbers as text

What `printf` makes of a number for `%d` and `%u`, and what `strtol` and `strtoul` read
from a text in base ten: blanks, a sign, digits, and then anything.  A `long` has as
many bits as the machine gives it; a number that does not fit becomes the bound.

The numbers that are printed come back: `strtol_printInt` and `strtoul_printNat`.
-/
import Mathlib.Algebra.Group.Int.Defs
import Mathlib.Algebra.Group.Nat.Defs
import Mathlib.Data.Char
import Mathlib.Data.List.TakeWhile
import Mathlib.Tactic.Common

namespace DecimalText

/-! ## Printing -/

/-- `%u`. -/
def printNat (n : ℕ) : List Char := Nat.toDigits 10 n

/-- `%d`. -/
def printInt (i : ℤ) : List Char :=
  if i < 0 then '-' :: printNat i.natAbs else printNat i.natAbs

/-! ## Reading -/

/-- `isspace`, of a character code. -/
def isSpace (code : ℕ) : Bool := code = 32 || (9 ≤ code && code ≤ 13)

/-- The sign in front of a number, and what follows it. -/
def sign {α : Type} (code : α → ℕ) : List α → Bool × List α
  | [] => (false, [])
  | c :: rest =>
    if code c = 43 then (false, rest)
    else if code c = 45 then (true, rest)
    else (false, c :: rest)

/-- A number with its sign, as a `long` of so many bits. -/
def toLong (bits : ℕ) (negative : Bool) (n : ℕ) : ℤ :=
  max (-2 ^ (bits - 1)) (min (2 ^ (bits - 1) - 1) (if negative then -(n : ℤ) else n))

/-- A number with its sign, as an `unsigned long` of so many bits. -/
def toULong (bits : ℕ) (negative : Bool) (n : ℕ) : ℕ :=
  if 2 ^ bits ≤ n then 2 ^ bits - 1
  else if negative then (2 ^ bits - n) % 2 ^ bits
  else n

/-- What follows the blanks and the sign in front of a number, and the sign. -/
def unsigned (text : List Char) : Bool × List Char :=
  sign Char.toNat (text.dropWhile fun c => isSpace c.toNat)

/-- The number that a text begins with: whether it is negative, and its digits. -/
def number (text : List Char) : Bool × ℕ :=
  ((unsigned text).1, Nat.ofDigitChars 10 ((unsigned text).2.takeWhile Char.isDigit) 0)

/-- What follows the number; the whole text if there is none. -/
def numberEnd (text : List Char) : List Char :=
  if (unsigned text).2.takeWhile Char.isDigit = [] then text
  else (unsigned text).2.dropWhile Char.isDigit

/-- `strtol`, for a `long` of so many bits. -/
def strtol (bits : ℕ) (text : List Char) : ℤ := toLong bits (number text).1 (number text).2

/-- `strtoul`, for an `unsigned long` of so many bits. -/
def strtoul (bits : ℕ) (text : List Char) : ℕ := toULong bits (number text).1 (number text).2

/-! ## The round trips -/

theorem isDigit_of_mem_printNat {n : ℕ} {c : Char} (hc : c ∈ printNat n) : c.isDigit = true :=
  Nat.isDigit_of_mem_toDigits (by omega) (by omega) hc

theorem takeWhile_printNat (n : ℕ) : (printNat n).takeWhile Char.isDigit = printNat n :=
  List.takeWhile_eq_self_iff.mpr fun _ hc => isDigit_of_mem_printNat hc

/-- A digit is no blank and no sign. -/
theorem isDigit_frame {c : Char} (hc : c.isDigit = true) :
    isSpace c.toNat = false ∧ c.toNat ≠ 43 ∧ c.toNat ≠ 45 := by
  have hle : 48 ≤ c.toNat := by
    simp only [Char.isDigit, Bool.and_eq_true, decide_eq_true_eq] at hc
    exact hc.1
  refine ⟨?_, by omega, by omega⟩
  rw [isSpace, Bool.or_eq_false_iff, Bool.and_eq_false_iff, decide_eq_false_iff_not,
    decide_eq_false_iff_not, decide_eq_false_iff_not]
  omega

theorem number_printNat (n : ℕ) : number (printNat n) = (false, n) := by
  obtain ⟨c, cs, hcons⟩ := List.exists_cons_of_ne_nil (Nat.toDigits_ne_nil (n := n) (b := 10))
  have hprint : printNat n = c :: cs := hcons
  obtain ⟨hblank, hplus, hminus⟩ := isDigit_frame
    (isDigit_of_mem_printNat (n := n) (c := c) (hprint ▸ List.mem_cons_self))
  have hunsigned : unsigned (printNat n) = (false, printNat n) := by
    rw [unsigned, hprint, List.dropWhile_cons_of_neg (by simp [hblank]), sign, if_neg hplus,
      if_neg hminus]
  rw [number, hunsigned, takeWhile_printNat]
  exact congrArg (Prod.mk false) Nat.ofDigitChars_ten_toDigits

theorem number_minus (n : ℕ) : number ('-' :: printNat n) = (true, n) := by
  have hunsigned : unsigned ('-' :: printNat n) = (true, printNat n) := by
    rw [unsigned, List.dropWhile_cons_of_neg (by decide)]
    rfl
  rw [number, hunsigned, takeWhile_printNat]
  exact congrArg (Prod.mk true) Nat.ofDigitChars_ten_toDigits

/-- **A printed number is read back**, when a `long` can hold it. -/
theorem strtol_printInt {bits : ℕ} {i : ℤ} (hlow : -2 ^ (bits - 1) ≤ i)
    (hhigh : i < 2 ^ (bits - 1)) : strtol bits (printInt i) = i := by
  have hsigned : (if (number (printInt i)).1 then -((number (printInt i)).2 : ℤ)
      else (number (printInt i)).2) = i := by
    unfold printInt
    split
    · rw [number_minus]
      simp only [if_true]
      omega
    · rw [number_printNat]
      simp only [Bool.false_eq_true, if_false]
      omega
  rw [strtol, toLong, hsigned]
  omega

/-- **A printed number is read back**, when an `unsigned long` can hold it. -/
theorem strtoul_printNat {bits n : ℕ} (hlt : n < 2 ^ bits) : strtoul bits (printNat n) = n := by
  rw [strtoul, number_printNat, toULong, if_neg (by omega), if_neg Bool.false_ne_true]

end DecimalText
