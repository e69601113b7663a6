/-
# Text with delimiters

Parts that are each followed by a delimiter, and parts with a delimiter between them.  Parts that
do not contain the delimiter can be told from the text.
-/
import Mathlib.Data.List.Basic
import Mathlib.Tactic.Common

namespace Delimited

variable {α : Type*} {d : α}

/-- The parts, each followed by the delimiter. -/
def terminated (d : α) (parts : List (List α)) : List α := parts.flatMap (· ++ [d])

theorem terminated_cons (part : List α) (parts : List (List α)) :
    terminated d (part :: parts) = part ++ d :: terminated d parts := by
  rw [terminated, List.flatMap_cons, List.append_assoc]
  rfl

/-- What stands before the first delimiter. -/
theorem append_inj {part part' rest rest' : List α} (h : d ∉ part) (h' : d ∉ part')
    (heq : part ++ d :: rest = part' ++ d :: rest') : part = part' ∧ rest = rest' := by
  induction part generalizing part' with
  | nil =>
    cases part' with
    | nil => exact ⟨rfl, (List.cons.inj heq).2⟩
    | cons a part' => exact absurd ((List.cons.inj heq).1 ▸ List.mem_cons_self) h'
  | cons a part ih =>
    cases part' with
    | nil => exact absurd ((List.cons.inj heq).1 ▸ List.mem_cons_self) h
    | cons b part' =>
      obtain ⟨rfl, htail⟩ := List.cons.inj heq
      have hparts := ih (fun hmem => h (List.mem_cons_of_mem _ hmem))
        (fun hmem => h' (List.mem_cons_of_mem _ hmem)) htail
      exact ⟨by rw [hparts.1], hparts.2⟩

/-- The parts can be told from the text. -/
theorem terminated_inj {parts parts' : List (List α)} (h : ∀ p ∈ parts, d ∉ p)
    (h' : ∀ p ∈ parts', d ∉ p) (heq : terminated d parts = terminated d parts') :
    parts = parts' := by
  induction parts generalizing parts' with
  | nil =>
    cases parts' with
    | nil => rfl
    | cons part parts' =>
      rw [terminated_cons] at heq
      exact absurd heq.symm (List.append_ne_nil_of_right_ne_nil _ (List.cons_ne_nil _ _))
  | cons part parts ih =>
    cases parts' with
    | nil =>
      rw [terminated_cons] at heq
      exact absurd heq (List.append_ne_nil_of_right_ne_nil _ (List.cons_ne_nil _ _))
    | cons part' parts' =>
      rw [terminated_cons, terminated_cons] at heq
      obtain ⟨hhead, hhead'⟩ := List.forall_mem_cons.mp h
      obtain ⟨hrest, hrest'⟩ := List.forall_mem_cons.mp h'
      obtain ⟨rfl, hparts⟩ := append_inj hhead hrest heq
      rw [ih hhead' hrest' hparts]

end Delimited
