/-
# Running choices

A loop over a list keeps the best element so far and goes on with the next one
when that trumps it.  For a relation that compares a key this is the first
maximum.  A relation that is written by hand need not be transitive or
asymmetric: the module says exactly when the choice does not depend on the order
of the list, and when two relations make the same choices all along it.
-/
import Mathlib.Data.List.MinMax
import Mathlib.Tactic.Common

namespace RunningChoice

variable {α β : Type*}

/-- The choice of the loop; `trumps a b` says that `a` takes the place of `b`. -/
def choice (trumps : α → α → Prop) [DecidableRel trumps] (l : List α) : Option α :=
  l.foldl (List.argAux trumps) none

section Relation

variable {trumps : α → α → Prop} [DecidableRel trumps] {l : List α} {a b m : α}

theorem argAux_of_trumps (h : trumps a b) : List.argAux trumps (some b) a = some a :=
  if_pos h

theorem argAux_of_not (h : ¬ trumps a b) : List.argAux trumps (some b) a = some b :=
  if_neg h

theorem choice_append (l₁ l₂ : List α) :
    choice trumps (l₁ ++ l₂) = l₂.foldl (List.argAux trumps) (choice trumps l₁) :=
  List.foldl_append

theorem choice_append_singleton (l : List α) (a : α) :
    choice trumps (l ++ [a]) = List.argAux trumps (choice trumps l) a :=
  choice_append l [a]

theorem choice_eq_none_iff : choice trumps l = none ↔ l = [] := by
  rw [choice, List.foldl_argAux_eq_none]
  exact and_iff_left rfl

variable (trumps) in
theorem foldl_some (l : List α) (a : α) :
    ∃ b, l.foldl (List.argAux trumps) (some a) = some b ∧ b ∈ a :: l := by
  induction l generalizing a with
  | nil => exact ⟨a, rfl, List.mem_singleton_self a⟩
  | cons x l ih =>
    by_cases h : trumps x a
    · obtain ⟨b, hb, hmem⟩ := ih x
      refine ⟨b, ?_, List.mem_cons_of_mem a hmem⟩
      rw [List.foldl_cons, argAux_of_trumps h, hb]
    · obtain ⟨b, hb, hmem⟩ := ih a
      refine ⟨b, ?_, ?_⟩
      · rw [List.foldl_cons, argAux_of_not h, hb]
      · rcases List.mem_cons.mp hmem with rfl | hmem
        · exact List.mem_cons_self
        · exact List.mem_cons_of_mem _ (List.mem_cons_of_mem _ hmem)

theorem choice_mem (h : choice trumps l = some m) : m ∈ l := by
  cases l with
  | nil => cases h
  | cons a l =>
    obtain ⟨b, hb, hmem⟩ := foldl_some trumps l a
    have hchoice : choice trumps (a :: l) = some b := hb
    rw [h] at hchoice
    cases hchoice
    exact hmem

/-! ## Winners -/

/-- An element that nothing trumps stays once it is chosen. -/
theorem foldl_stays (h : ∀ x ∈ l, x ≠ m → ¬ trumps x m) :
    l.foldl (List.argAux trumps) (some m) = some m := by
  induction l with
  | nil => rfl
  | cons x l ih =>
    have hone : List.argAux trumps (some m) x = some m := by
      by_cases hx : x = m
      · rw [hx]
        exact ite_self _
      · exact argAux_of_not (h x List.mem_cons_self hx)
    rw [List.foldl_cons, hone]
    exact ih fun y hy => h y (List.mem_cons_of_mem x hy)

/-- Who trumps all others, and is trumped by none of them, is chosen. -/
theorem choice_of_winner (hm : m ∈ l) (h : ∀ x ∈ l, x ≠ m → trumps m x ∧ ¬ trumps x m) :
    choice trumps l = some m := by
  obtain ⟨l₁, l₂, rfl⟩ := List.append_of_mem hm
  have htaken : List.argAux trumps (choice trumps l₁) m = some m := by
    cases hb : choice trumps l₁ with
    | none => rfl
    | some b =>
      by_cases hbm : b = m
      · rw [hbm]
        exact ite_self _
      · exact argAux_of_trumps (h b (List.mem_append_left _ (choice_mem hb)) hbm).1
  rw [choice_append, List.foldl_cons, htaken]
  exact foldl_stays fun x hx hne =>
    (h x (List.mem_append_right _ (List.mem_cons_of_mem m hx)) hne).2

/-- Two elements can be brought to the front. -/
theorem exists_perm_cons_cons (ha : a ∈ l) (hb : b ∈ l) (hab : b ≠ a) :
    ∃ rest, (a :: b :: rest).Perm l := by
  obtain ⟨l₁, l₂, rfl⟩ := List.append_of_mem ha
  have hb' : b ∈ l₁ ++ l₂ :=
    List.mem_of_ne_of_mem hab (List.perm_middle.mem_iff.mp hb)
  obtain ⟨l₃, l₄, heq⟩ := List.append_of_mem hb'
  refine ⟨l₃ ++ l₄, .trans (.cons a ?_) List.perm_middle.symm⟩
  rw [heq]
  exact List.perm_middle.symm

/-- Whoever trumps the choice so far keeps it from being the choice of a list it is
not in any more. -/
theorem foldl_ne (hm : m ∉ l) (ham : a ≠ m) : l.foldl (List.argAux trumps) (some a) ≠ some m := by
  intro heq
  obtain ⟨b, hb, hmem⟩ := foldl_some trumps l a
  rw [hb] at heq
  cases heq
  exact hm (List.mem_of_ne_of_mem ham.symm hmem)

/-- **Order.**  All orders of a list give the same choice exactly if one element
wins against every other. -/
theorem choice_perm_iff (hnodup : l.Nodup) :
    (∀ l', l'.Perm l → choice trumps l' = choice trumps l) ↔
      (l ≠ [] → ∃ m ∈ l, ∀ x ∈ l, x ≠ m → trumps m x ∧ ¬ trumps x m) := by
  constructor
  · intro hall hne
    have hsome : choice trumps l ≠ none := mt choice_eq_none_iff.mp hne
    obtain ⟨m, hm⟩ := Option.ne_none_iff_exists'.mp hsome
    refine ⟨m, choice_mem hm, fun x hx hxm => ?_⟩
    obtain ⟨rest, hperm⟩ := exists_perm_cons_cons (choice_mem hm) hx hxm
    have hrest : m ∉ rest := fun hmem =>
      (List.nodup_cons.mp (hperm.nodup_iff.mpr hnodup)).1 (List.mem_cons_of_mem x hmem)
    have hfirst := hall _ hperm
    have hsecond := hall _ ((List.Perm.swap m x rest).trans hperm)
    rw [hm, choice, List.foldl_cons, List.foldl_cons] at hfirst hsecond
    constructor
    · by_contra hnot
      rw [show List.argAux trumps (List.argAux trumps none x) m = some x from
        argAux_of_not hnot] at hsecond
      exact foldl_ne hrest hxm hsecond
    · intro hover
      rw [show List.argAux trumps (List.argAux trumps none m) x = some x from
        argAux_of_trumps hover] at hfirst
      exact foldl_ne hrest hxm hfirst
  · intro hwinner l' hperm
    by_cases hne : l = []
    · subst hne
      rw [hperm.eq_nil]
    · obtain ⟨m, hm, h⟩ := hwinner hne
      rw [choice_of_winner hm h]
      exact choice_of_winner (hperm.mem_iff.mpr hm) fun x hx => h x (hperm.mem_iff.mp hx)

end Relation

/-! ## Comparing a key -/

section Key

variable [LinearOrder β] {f : α → β} {trumps : α → α → Prop} [DecidableRel trumps] {l : List α}
  {m : α}

/-- A choice that is made by a key alone is the first maximum. -/
theorem choice_split (hkey : ∀ a b, trumps a b ↔ f b < f a) (h : choice trumps l = some m) :
    ∃ l₁ l₂, l = l₁ ++ m :: l₂ ∧ (∀ x ∈ l₁, f x < f m) ∧ ∀ x ∈ l₂, f x ≤ f m := by
  induction l using List.reverseRecOn generalizing m with
  | nil => cases h
  | append_singleton l a ih =>
    rw [choice_append_singleton] at h
    cases hb : choice trumps l with
    | none =>
      rw [hb] at h
      cases h
      rw [choice_eq_none_iff.mp hb]
      exact ⟨[], [], rfl, by simp, by simp⟩
    | some b =>
      rw [hb] at h
      obtain ⟨l₁, l₂, rfl, hbefore, hafter⟩ := ih hb
      by_cases hab : trumps a b
      · rw [argAux_of_trumps hab] at h
        cases h
        have hlt := (hkey _ _).mp hab
        refine ⟨l₁ ++ b :: l₂, [], rfl, fun x hx => ?_, by simp⟩
        rcases List.mem_append.mp hx with hx | hx
        · exact (hbefore x hx).trans hlt
        · rcases List.mem_cons.mp hx with rfl | hx
          · exact hlt
          · exact (hafter x hx).trans_lt hlt
      · rw [argAux_of_not hab] at h
        cases h
        refine ⟨l₁, l₂ ++ [a], by simp, hbefore, fun x hx => ?_⟩
        rcases List.mem_append.mp hx with hx | hx
        · exact hafter x hx
        · rw [List.mem_singleton.mp hx]
          exact not_lt.mp (mt (hkey _ _).mpr hab)

/-- A choice that a larger key always wins, and never a smaller one, has the largest
key. -/
theorem le_of_choice (hup : ∀ a b, f b < f a → trumps a b) (hdown : ∀ a b, trumps a b → f b ≤ f a)
    (h : choice trumps l = some m) : ∀ x ∈ l, f x ≤ f m := by
  induction l using List.reverseRecOn generalizing m with
  | nil => cases h
  | append_singleton l a ih =>
    rw [choice_append_singleton] at h
    intro x hx
    cases hb : choice trumps l with
    | none =>
      rw [hb] at h
      cases h
      rw [choice_eq_none_iff.mp hb, List.nil_append, List.mem_singleton] at hx
      rw [hx]
    | some b =>
      rw [hb] at h
      rcases List.mem_append.mp hx with hx | hx
      · have hxb := ih hb x hx
        by_cases hab : trumps a b
        · rw [argAux_of_trumps hab] at h
          cases h
          exact hxb.trans (hdown _ _ hab)
        · rw [argAux_of_not hab] at h
          cases h
          exact hxb
      · obtain rfl := List.mem_singleton.mp hx
        by_cases hab : trumps x b
        · rw [argAux_of_trumps hab] at h
          cases h
          exact le_rfl
        · rw [argAux_of_not hab] at h
          cases h
          exact not_lt.mp (mt (hup _ _) hab)

end Key

/-! ## Two relations -/

section Two

variable {coarse fine : α → α → Prop} [DecidableRel coarse] [DecidableRel fine] {l : List α}

/-- **Refinement.**  A loop that replaces its choice at least whenever another one does
makes the same choices all along a list exactly if it never replaces the choice of the
other where that would not. -/
theorem choice_congr_iff (hirrefl : ∀ a, ¬ coarse a a) (hle : ∀ a b, fine a b → coarse a b) :
    (∀ l₁ l₂, l = l₁ ++ l₂ → choice coarse l₁ = choice fine l₁) ↔
      ∀ l₁ a l₂ b, l = l₁ ++ a :: l₂ → choice fine l₁ = some b → coarse a b → fine a b := by
  constructor
  · intro hall l₁ a l₂ b hsplit hb hab
    have hbefore := hall l₁ (a :: l₂) hsplit
    have hafter := hall (l₁ ++ [a]) l₂ (by rw [hsplit]; simp)
    rw [choice_append_singleton, choice_append_singleton, hbefore, hb, argAux_of_trumps hab]
      at hafter
    by_contra hnot
    rw [argAux_of_not hnot] at hafter
    cases hafter
    exact hirrefl a hab
  · intro hsteps l₁
    induction l₁ using List.reverseRecOn with
    | nil => exact fun _ _ => rfl
    | append_singleton l₁ a ih =>
      intro l₂ hsplit
      rw [List.append_assoc] at hsplit
      have hbefore := ih ([a] ++ l₂) hsplit
      rw [choice_append_singleton, choice_append_singleton, hbefore]
      cases hb : choice fine l₁ with
      | none => rfl
      | some b =>
        by_cases hab : coarse a b
        · rw [argAux_of_trumps hab, argAux_of_trumps (hsteps l₁ a l₂ b hsplit hb hab)]
        · rw [argAux_of_not hab, argAux_of_not (mt (hle a b) hab)]

end Two

end RunningChoice
