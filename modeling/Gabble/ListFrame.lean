/-
# What a change to a list leaves alone

An update that drops some elements of a list and appends others does not touch the
elements with a property `p`: they are still there, as often as before and in the same
order.  The relation says so by filtering, so that such facts compose.
-/
import Mathlib.Data.List.Basic
import Mathlib.Tactic.Common

namespace ListFrame

variable {α : Type*} {p q : α → Bool} {l l' l'' : List α} {a : α}

/-- The lists have the same elements with `p`, in the same order. -/
def SameOn (p : α → Bool) (l l' : List α) : Prop := l'.filter p = l.filter p

theorem SameOn.refl (p : α → Bool) (l : List α) : SameOn p l l := rfl

theorem SameOn.trans (h : SameOn p l l') (h' : SameOn p l' l'') : SameOn p l l'' :=
  Eq.trans h' h

/-- Dropping elements without `p`. -/
theorem sameOn_filter (h : ∀ a, p a = true → q a = true) (l : List α) :
    SameOn p l (l.filter q) := by
  rw [SameOn, List.filter_filter]
  refine List.filter_congr fun a _ => ?_
  cases hp : p a with
  | false => rfl
  | true => exact h a hp

/-- Appending an element without `p`. -/
theorem sameOn_append (ha : p a = false) (l : List α) : SameOn p l (l ++ [a]) := by
  rw [SameOn, List.filter_append, List.filter_cons_of_neg (by simp [ha]), List.filter_nil,
    List.append_nil]

/-! ## Replacing -/

/-- Drop the elements with `q`, and append another one. -/
def replaceAll (q : α → Bool) (a : α) (l : List α) : List α := l.filter (fun b => !q b) ++ [a]

/-- The new element is the only one with `q`. -/
theorem filter_replaceAll (ha : q a = true) (l : List α) :
    (replaceAll q a l).filter q = [a] := by
  have hdropped : (l.filter fun b => !q b).filter q = [] := by
    rw [List.filter_filter, List.filter_eq_nil_iff]
    simp
  rw [replaceAll, List.filter_append, hdropped, List.filter_cons_of_pos ha]
  rfl

theorem sameOn_replaceAll (h : ∀ b, p b = true → q b = false) (ha : q a = true) (l : List α) :
    SameOn p l (replaceAll q a l) := by
  have hpa : p a = false := by
    by_contra hp
    rw [h a (eq_true_of_ne_false hp)] at ha
    cases ha
  exact (sameOn_filter (fun b hb => by rw [h b hb]; rfl) l).trans (sameOn_append hpa _)

end ListFrame
