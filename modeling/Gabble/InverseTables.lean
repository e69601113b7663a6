/-
# Two tables that are inverse to each other

A program that must find an entry by either of two keys often keeps two tables,
one for each direction, and updates them together.  This module has what it
means for two association lists to be inverse, that inserting and erasing in
both keeps them so, and that inverse tables have the same size.
-/
import Mathlib.Data.List.AList

namespace InverseTables

variable {α β : Type*} [DecidableEq α] [DecidableEq β]

/-- Each key has the other as its value. -/
def Inverse (f : AList fun _ : α => β) (g : AList fun _ : β => α) : Prop :=
  ∀ a b, f.lookup a = some b ↔ g.lookup b = some a

variable {f : AList fun _ : α => β} {g : AList fun _ : β => α} {a a' : α} {b b' : β}

theorem inverse_empty : Inverse (∅ : AList fun _ : α => β) (∅ : AList fun _ : β => α) := by
  intro a b
  rw [AList.lookup_empty, AList.lookup_empty]
  exact iff_of_false (fun h => nomatch h) fun h => nomatch h

/-- Insert a new pair in both tables. -/
theorem Inverse.insert (h : Inverse f g) (ha : f.lookup a = none) (hb : g.lookup b = none) :
    Inverse (f.insert a b) (g.insert b a) := by
  intro x y
  by_cases hx : x = a
  · by_cases hy : y = b
    · rw [hx, hy, AList.lookup_insert, AList.lookup_insert]
      exact iff_of_true rfl rfl
    · rw [hx, AList.lookup_insert, AList.lookup_insert_ne hy, ← h a y, ha]
      exact iff_of_false (fun heq => hy (Option.some.inj heq).symm) fun hno => nomatch hno
  · by_cases hy : y = b
    · rw [hy, AList.lookup_insert, AList.lookup_insert_ne hx, h x b, hb]
      exact iff_of_false (fun hno => nomatch hno) fun heq => hx (Option.some.inj heq).symm
    · rw [AList.lookup_insert_ne hx, AList.lookup_insert_ne hy]
      exact h x y

/-- Erase a pair from both tables. -/
theorem Inverse.erase (h : Inverse f g) (hab : f.lookup a = some b) :
    Inverse (f.erase a) (g.erase b) := by
  have hba := (h a b).mp hab
  intro x y
  by_cases hx : x = a
  · by_cases hy : y = b
    · rw [hx, hy, AList.lookup_erase, AList.lookup_erase]
      exact iff_of_false (fun hno => nomatch hno) fun hno => nomatch hno
    · rw [hx, AList.lookup_erase, AList.lookup_erase_ne hy, ← h a y, hab]
      exact iff_of_false (fun hno => nomatch hno) fun heq => hy (Option.some.inj heq).symm
  · by_cases hy : y = b
    · rw [hy, AList.lookup_erase, AList.lookup_erase_ne hx, h x b, hba]
      exact iff_of_false (fun heq => hx (Option.some.inj heq).symm) fun hno => nomatch hno
    · rw [AList.lookup_erase_ne hx, AList.lookup_erase_ne hy]
      exact h x y

/-- The number of keys. -/
def size (f : AList fun _ : α => β) : ℕ := f.entries.length

/-- **Inverse tables have the same size.**  Turned around, the entries of one
are those of the other. -/
theorem Inverse.size_eq (h : Inverse f g) : size f = size g := by
  have hf : f.entries.Nodup := f.nodupKeys.nodup
  have hg : g.entries.Nodup := g.nodupKeys.nodup
  have hinj : Function.Injective fun e : Σ _ : α, β => (⟨e.2, e.1⟩ : Σ _ : β, α) := by
    rintro ⟨a, b⟩ ⟨a', b'⟩ heq
    cases heq
    rfl
  have hperm : (f.entries.map fun e => (⟨e.2, e.1⟩ : Σ _ : β, α)).Perm g.entries := by
    refine (List.perm_ext_iff_of_nodup (hf.map hinj) hg).mpr ?_
    rintro ⟨b, a⟩
    rw [← AList.mem_lookup_iff, Option.mem_def, ← h a b, ← Option.mem_def, AList.mem_lookup_iff,
      List.mem_map]
    constructor
    · rintro ⟨⟨a', b'⟩, hmem, heq⟩
      cases heq
      exact hmem
    · exact fun hmem => ⟨⟨a, b⟩, hmem, rfl⟩
  rw [size, size, ← hperm.length_eq, List.length_map]

end InverseTables
