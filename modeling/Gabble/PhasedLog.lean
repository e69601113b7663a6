/-
# Logs with phases

Some entries of a log start a phase, and an entry may be out of place in some phases.
A log is proper when every entry stands in a phase that allows it.
-/
import Mathlib.Data.List.Basic

namespace PhasedLog

variable {α φ : Type*} (starts : α → Option φ) (allows : φ → α → Prop)

/-- The phase after the entries. -/
def after : φ → List α → φ
  | p, [] => p
  | p, a :: log => after ((starts a).getD p) log

/-- Every entry stands in a phase that allows it. -/
def Proper : φ → List α → Prop
  | _, [] => True
  | p, a :: log => allows p a ∧ Proper ((starts a).getD p) log

instance decidableProper [∀ p a, Decidable (allows p a)] :
    ∀ (p : φ) (log : List α), Decidable (Proper starts allows p log)
  | _, [] => .isTrue trivial
  | p, a :: log =>
    have := decidableProper ((starts a).getD p) log
    inferInstanceAs (Decidable (allows p a ∧ Proper starts allows ((starts a).getD p) log))

variable {starts allows} {p : φ} {log : List α}

theorem after_append (log' : List α) :
    after starts p (log ++ log') = after starts (after starts p log) log' := by
  induction log generalizing p with
  | nil => rfl
  | cons a log ih => exact ih

/-- **Proper logs compose**, the second in the phase the first ends in. -/
theorem proper_append (log' : List α) :
    Proper starts allows p (log ++ log') ↔
      Proper starts allows p log ∧ Proper starts allows (after starts p log) log' := by
  induction log generalizing p with
  | nil => exact (iff_of_eq (true_and _)).symm
  | cons a log ih =>
    rw [List.cons_append, Proper, Proper, after, ih, and_assoc]

/-- Entries that are never out of place. -/
theorem proper_of_always (h : ∀ a ∈ log, ∀ p, allows p a) : Proper starts allows p log := by
  induction log generalizing p with
  | nil => trivial
  | cons a log ih =>
    exact ⟨h a List.mem_cons_self p, ih fun b hb => h b (List.mem_cons_of_mem a hb)⟩

/-- Entries that start no phase. -/
theorem after_of_none (h : ∀ a ∈ log, starts a = none) : after starts p log = p := by
  induction log with
  | nil => rfl
  | cons a log ih =>
    rw [after, h a List.mem_cons_self]
    exact ih fun b hb => h b (List.mem_cons_of_mem a hb)

/-- Entries that start no phase are all made in the one there is. -/
theorem proper_iff_of_none (h : ∀ a ∈ log, starts a = none) :
    Proper starts allows p log ↔ ∀ a ∈ log, allows p a := by
  induction log with
  | nil => exact iff_of_true trivial nofun
  | cons a log ih =>
    rw [Proper, h a List.mem_cons_self, List.forall_mem_cons]
    exact and_congr_right fun _ => ih fun b hb => h b (List.mem_cons_of_mem a hb)

end PhasedLog
