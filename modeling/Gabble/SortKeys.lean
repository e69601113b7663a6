/-
# Sorting with comparison functions

`strcmp` and what C programs build from it are comparisons, not orders: two records that compare
as equal may differ.  A stable sort of a list then depends on the order of the list, but only
within such records.  `filter_sortBy_eq_of_perm` says that the records that do differ from
all others in the eyes of the comparison end up in the same order, whichever order they came in.
-/
import Mathlib.Data.List.Sort
import Mathlib.Tactic.Common

namespace SortKeys

variable {α β : Type*}

/-! ## Comparisons -/

/-- A comparison of lists by one of their elements, like `strcmp`. -/
def listLe (lt : α → α → Bool) : List α → List α → Bool
  | [], _ => true
  | _ :: _, [] => false
  | a :: l, b :: l' => lt a b || (!lt b a && listLe lt l l')

/-- Nothing comes before something, as with `g_strcmp0`. -/
def optionLe (le : α → α → Bool) : Option α → Option α → Bool
  | none, _ => true
  | some _, none => false
  | some a, some b => le a b

/-- By one comparison, and by another one where it says that two are the same. -/
def thenLe (le : α → α → Bool) (le' : β → β → Bool) (a b : α × β) : Bool :=
  le a.1 b.1 && (!le b.1 a.1 || le' a.2 b.2)

/-- A comparison that tells apart what is different. -/
structure Orders (le : α → α → Bool) : Prop where
  total : ∀ a b, le a b = true ∨ le b a = true
  trans : ∀ a b c, le a b = true → le b c = true → le a c = true
  antisymm : ∀ a b, le a b = true → le b a = true → a = b

theorem orders_listLe {lt : α → α → Bool} (hirrefl : ∀ a, lt a a = false)
    (htrans : ∀ a b c, lt a b = true → lt b c = true → lt a c = true)
    (htotal : ∀ a b, lt a b = false → lt b a = false → a = b) : Orders (listLe lt) where
  total l l' := by
    induction l generalizing l' with
    | nil => exact .inl rfl
    | cons a l ih =>
      cases l' with
      | nil => exact .inr rfl
      | cons b l' =>
        cases hab : lt a b with
        | true => exact .inl (by simp [listLe, hab])
        | false =>
          cases hba : lt b a with
          | true => exact .inr (by simp [listLe, hba])
          | false => simpa [listLe, hab, hba] using ih l'
  trans l l' l'' h h' := by
    induction l generalizing l' l'' with
    | nil => rfl
    | cons a l ih =>
      cases l' with
      | nil => cases h
      | cons b l' =>
        cases l'' with
        | nil => cases h'
        | cons c l'' =>
          simp only [listLe, Bool.or_eq_true, Bool.and_eq_true, Bool.not_eq_true'] at h h' ⊢
          rcases h with hab | ⟨hba, h⟩
          · rcases h' with hbc | ⟨hcb, h'⟩
            · exact .inl (htrans a b c hab hbc)
            · cases hbc : lt b c with
              | true => exact .inl (htrans a b c hab hbc)
              | false => exact .inl (htotal b c hbc hcb ▸ hab)
          · rcases h' with hbc | ⟨hcb, h'⟩
            · cases hab : lt a b with
              | true => exact .inl (htrans a b c hab hbc)
              | false => exact .inl (htotal a b hab hba ▸ hbc)
            · cases hac : lt a c with
              | true => exact .inl rfl
              | false =>
                refine .inr ⟨?_, ih l' l'' h h'⟩
                cases hca : lt c a with
                | false => rfl
                | true =>
                  cases hab : lt a b with
                  | true => exact absurd (htrans c a b hca hab) (by simp [hcb])
                  | false => exact absurd (htotal a b hab hba ▸ hca) (by simp [hcb])
  antisymm l l' h h' := by
    induction l generalizing l' with
    | nil =>
      cases l' with
      | nil => rfl
      | cons b l' => cases h'
    | cons a l ih =>
      cases l' with
      | nil => cases h
      | cons b l' =>
        simp only [listLe, Bool.or_eq_true, Bool.and_eq_true, Bool.not_eq_true'] at h h'
        cases hab : lt a b with
        | true =>
          rcases h' with hba | ⟨hnab, -⟩
          · exact absurd (htrans a b a hab hba) (by simp [hirrefl])
          · exact absurd hab (by simp [hnab])
        | false =>
          rcases h with hab' | ⟨hba, h⟩
          · exact absurd hab' (by simp [hab])
          · rcases h' with hba' | ⟨-, h'⟩
            · exact absurd hba' (by simp [hba])
            · rw [htotal a b hab hba, ih l' h h']

theorem Orders.optionLe {le : α → α → Bool} (h : Orders le) : Orders (optionLe le) where
  total a b := by
    cases a with
    | none => exact .inl rfl
    | some a =>
      cases b with
      | none => exact .inr rfl
      | some b => exact h.total a b
  trans a b c hab hbc := by
    cases a with
    | none => rfl
    | some a =>
      cases b with
      | none => cases hab
      | some b =>
        cases c with
        | none => cases hbc
        | some c => exact h.trans a b c hab hbc
  antisymm a b hab hba := by
    cases a with
    | none =>
      cases b with
      | none => rfl
      | some b => cases hba
    | some a =>
      cases b with
      | none => cases hab
      | some b => rw [h.antisymm a b hab hba]

theorem Orders.thenLe {le : α → α → Bool} {le' : β → β → Bool} (h : Orders le)
    (h' : Orders le') : Orders (thenLe le le') where
  total a b := by
    have hfirst := h.total a.1 b.1
    have hsecond := h'.total a.2 b.2
    cases hab : le a.1 b.1 <;> cases hba : le b.1 a.1 <;> simp_all [SortKeys.thenLe]
  trans a b c hab hbc := by
    simp only [SortKeys.thenLe, Bool.and_eq_true, Bool.or_eq_true, Bool.not_eq_true'] at *
    refine ⟨h.trans _ _ _ hab.1 hbc.1, ?_⟩
    cases hca : le c.1 a.1 with
    | false => exact .inl rfl
    | true =>
      have hba : le b.1 a.1 = true := h.trans _ _ _ hbc.1 hca
      have hcb : le c.1 b.1 = true := h.trans _ _ _ hca hab.1
      have hab' := hab.2.resolve_left (by simp [hba])
      have hbc' := hbc.2.resolve_left (by simp [hcb])
      exact .inr (h'.trans _ _ _ hab' hbc')
  antisymm a b hab hba := by
    simp only [SortKeys.thenLe, Bool.and_eq_true, Bool.or_eq_true, Bool.not_eq_true'] at *
    have hab' := hab.2.resolve_left (by simp [hba.1])
    have hba' := hba.2.resolve_left (by simp [hab.1])
    exact Prod.ext (h.antisymm _ _ hab.1 hba.1) (h'.antisymm _ _ hab' hba')

/-! ## Sorting -/

/-- A stable sort by a key. -/
def sortBy (le : β → β → Bool) (key : α → β) (l : List α) : List α :=
  l.insertionSort fun a b => le (key a) (key b) = true

variable {le : β → β → Bool} {key : α → β} {l l' : List α}

theorem perm_sortBy (le : β → β → Bool) (key : α → β) (l : List α) : (sortBy le key l).Perm l :=
  List.perm_insertionSort _ l

theorem mem_sortBy {a : α} : a ∈ sortBy le key l ↔ a ∈ l := (perm_sortBy le key l).mem_iff

theorem pairwise_sortBy (h : Orders le) (key : α → β) (l : List α) :
    (sortBy le key l).Pairwise fun a b => le (key a) (key b) = true := by
  have htotal : Std.Total fun a b : α => le (key a) (key b) = true :=
    ⟨fun a b => h.total (key a) (key b)⟩
  have htrans : IsTrans α fun a b => le (key a) (key b) = true :=
    ⟨fun a b c hab hbc => h.trans _ _ _ hab hbc⟩
  exact List.pairwise_insertionSort _ l

/-- Records with different keys come in the same order, whichever order the list had. -/
theorem filter_sortBy_eq_of_perm (h : Orders le) (hl : l.Perm l') {p : α → Bool}
    (hkey : ∀ a ∈ l, ∀ b ∈ l, p a = true → p b = true → key a = key b → a = b) :
    (sortBy le key l).filter p = (sortBy le key l').filter p := by
  have hsorted := (pairwise_sortBy h key l).filter p
  refine List.Perm.eq_of_pairwise ?_ hsorted ((pairwise_sortBy h key l').filter p) ?_
  · intro a b ha hb hab hba
    obtain ⟨ha, hpa⟩ := List.mem_filter.mp ha
    obtain ⟨hb, hpb⟩ := List.mem_filter.mp hb
    exact hkey a (mem_sortBy.mp ha) b (hl.mem_iff.mpr (mem_sortBy.mp hb)) hpa hpb
      (h.antisymm _ _ hab hba)
  · exact (((perm_sortBy le key l).trans hl).trans (perm_sortBy le key l').symm).filter p

theorem sortBy_eq_of_perm (h : Orders le) (key : α → β) (hl : l.Perm l')
    (hkey : ∀ a ∈ l, ∀ b ∈ l, key a = key b → a = b) : sortBy le key l = sortBy le key l' := by
  have hfilter := filter_sortBy_eq_of_perm h hl (p := fun _ => true)
    fun a ha b hb _ _ => hkey a ha b hb
  simpa using hfilter

end SortKeys
