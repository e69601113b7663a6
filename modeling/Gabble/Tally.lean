/-
# Sums over finite maps

The total weight of the entries of an `AList`, and how it changes when an entry
is added, replaced or erased.
-/
import Mathlib.Algebra.BigOperators.Group.List.Basic
import Mathlib.Algebra.GroupWithZero.Nat
import Mathlib.Data.List.AList

namespace Tally

variable {α : Type*} {β : α → Type*}

/-- The total weight of a finite map. -/
def total (f : Sigma β → ℕ) (m : AList β) : ℕ := (m.entries.map f).sum

variable [DecidableEq α] {f : Sigma β → ℕ} {m : AList β} {a : α} {b b' : β a}

theorem sum_kerase (f : Sigma β → ℕ) {l : List (Sigma β)} (h : l.dlookup a = some b) :
    ((l.kerase a).map f).sum + f ⟨a, b⟩ = (l.map f).sum := by
  induction l with
  | nil => cases h
  | cons x l ih =>
    obtain ⟨a', b'⟩ := x
    by_cases ha : a = a'
    · subst ha
      rw [List.dlookup_cons_eq] at h
      cases h
      have hk : List.kerase a (⟨a, b⟩ :: l) = l := List.kerase_cons_eq rfl
      rw [hk, List.map_cons, List.sum_cons, Nat.add_comm]
    · rw [List.dlookup_cons_ne l ⟨a', b'⟩ ha] at h
      have hrest := ih h
      rw [List.kerase_cons_ne ha, List.map_cons, List.map_cons, List.sum_cons, List.sum_cons]
      omega

theorem total_erase (h : m.lookup a = some b) :
    total f (m.erase a) + f ⟨a, b⟩ = total f m := sum_kerase f h

theorem total_replace (h : m.lookup a = some b) :
    total f (m.insert a b') + f ⟨a, b⟩ = total f m + f ⟨a, b'⟩ := by
  have hk := sum_kerase f h
  have hins : total f (m.insert a b') = f ⟨a, b'⟩ + ((m.entries.kerase a).map f).sum := by
    simp only [total, AList.entries_insert, List.map_cons, List.sum_cons]
  have htot : total f m = (m.entries.map f).sum := rfl
  omega

theorem total_insert (h : m.lookup a = none) :
    total f (m.insert a b) = total f m + f ⟨a, b⟩ := by
  simp only [total, AList.entries_insert_of_notMem (AList.lookup_eq_none.mp h), List.map_cons,
    List.sum_cons]
  exact Nat.add_comm _ _

/-- The total is positive when some entry has a weight. -/
theorem total_pos_iff : 0 < total f m ↔ ∃ a b, m.lookup a = some b ∧ 0 < f ⟨a, b⟩ := by
  unfold total
  rw [List.sum_pos_iff_exists_pos_nat]
  constructor
  · rintro ⟨x, hx, hpos⟩
    obtain ⟨⟨a, b⟩, hmem, rfl⟩ := List.mem_map.mp hx
    exact ⟨a, b, AList.mem_lookup_iff.mpr hmem, hpos⟩
  · rintro ⟨a, b, hlookup, hpos⟩
    exact ⟨_, List.mem_map_of_mem (AList.mem_lookup_iff.mp hlookup), hpos⟩

end Tally
