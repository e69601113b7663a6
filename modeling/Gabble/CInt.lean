/-
# The integers of C

A `guint` and a `gint` have 32 bits; a value that does not fit is reduced modulo `2 ^ 32`.
-/
import Mathlib.Algebra.Group.Int.Defs
import Mathlib.Algebra.Group.Nat.Defs
import Mathlib.Tactic.Common

namespace CInt

/-- One more than the largest `guint`. -/
def guintSize : ℕ := 2 ^ 32

/-- The conversion to `gint`. -/
def gint (z : ℤ) : ℤ := z.bmod (2 ^ 32)

/-- The conversion to `guint`. -/
def guint (z : ℤ) : ℕ := (z % 2 ^ 32).toNat

theorem gint_of_lt {z : ℤ} (hlow : -2 ^ 31 ≤ z) (hhigh : z < 2 ^ 31) : gint z = z := by
  unfold gint
  exact Int.bmod_eq_of_le (by omega) (by omega)

theorem gint_bounds (z : ℤ) : -2 ^ 31 ≤ gint z ∧ gint z < 2 ^ 31 := by
  have hlow := Int.le_bmod (x := z) (m := 2 ^ 32) (by decide)
  have hhigh := Int.bmod_lt (x := z) (m := 2 ^ 32) (by decide)
  unfold gint
  omega

theorem gint_emod (z : ℤ) : gint z % 2 ^ 32 = z % 2 ^ 32 :=
  Int.bmod_emod ..

theorem gint_gint_add (y z : ℤ) : gint (gint y + z) = gint (y + z) :=
  Int.bmod_add_bmod

end CInt
