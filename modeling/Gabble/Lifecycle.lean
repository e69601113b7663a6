/-
# Things that are opened and closed in a log

Some entries of a log open a thing and some close one, and each thing has a key.  The log
is orderly when a thing is only closed after it has been opened, and only once.
-/
import Mathlib.Data.List.Induction
import Mathlib.Data.List.Nodup
import Mathlib.Tactic.Common

namespace Lifecycle

variable {α κ : Type*} {opens closes : α → Option κ} {log : List α} {a : α} {k : κ}

/-- What is closed has been opened before, and has not been closed before. -/
def Orderly (opens closes : α → Option κ) (log : List α) : Prop :=
  ∀ l₁ a l₂ k, log = l₁ ++ a :: l₂ → closes a = some k →
    k ∈ l₁.filterMap opens ∧ k ∉ l₁.filterMap closes

theorem orderly_nil : Orderly opens closes [] := by
  intro l₁ a l₂ k hsplit
  simp at hsplit

theorem mem_filterMap_concat {f : α → Option κ} :
    k ∈ (log ++ [a]).filterMap f ↔ k ∈ log.filterMap f ∨ f a = some k := by
  rw [List.filterMap_append, List.mem_append]
  refine or_congr Iff.rfl ?_
  simp

/-- **One more entry** may close what is open. -/
theorem Orderly.concat (h : Orderly opens closes log)
    (ha : ∀ k, closes a = some k → k ∈ log.filterMap opens ∧ k ∉ log.filterMap closes) :
    Orderly opens closes (log ++ [a]) := by
  intro l₁ a' l₂ k hsplit hcloses
  rcases List.eq_nil_or_concat l₂ with rfl | ⟨l₂, a'', rfl⟩
  · obtain ⟨rfl, heq⟩ := List.append_inj' hsplit rfl
    cases heq
    exact ha k hcloses
  · rw [List.concat_eq_append, ← List.cons_append, ← List.append_assoc] at hsplit
    exact h l₁ a' l₂ k (List.append_inj' hsplit rfl).1 hcloses

theorem Orderly.concat_of_none (h : Orderly opens closes log) (ha : closes a = none) :
    Orderly opens closes (log ++ [a]) :=
  h.concat fun k hk => by
    rw [ha] at hk
    cases hk

theorem Orderly.of_concat (h : Orderly opens closes (log ++ [a])) : Orderly opens closes log := by
  intro l₁ a' l₂ k hsplit hcloses
  exact h l₁ a' (l₂ ++ [a]) k (by rw [hsplit, List.append_assoc, List.cons_append]) hcloses

/-- What is closed has been opened. -/
theorem Orderly.mem_opens (h : Orderly opens closes log) (hk : k ∈ log.filterMap closes) :
    k ∈ log.filterMap opens := by
  obtain ⟨a, ha, hcloses⟩ := List.mem_filterMap.mp hk
  obtain ⟨l₁, l₂, rfl⟩ := List.append_of_mem ha
  rw [List.filterMap_append]
  exact List.mem_append_left _ (h l₁ a l₂ k rfl hcloses).1

/-- **Each thing is closed once** at most. -/
theorem Orderly.nodup (h : Orderly opens closes log) : (log.filterMap closes).Nodup := by
  induction log using List.reverseRecOn with
  | nil => exact List.nodup_nil
  | append_singleton log a ih =>
    have hlog := ih h.of_concat
    rw [List.filterMap_append]
    cases hcloses : closes a with
    | none => simpa [hcloses] using hlog
    | some k =>
      have hnot : k ∉ log.filterMap closes := (h log a [] k rfl hcloses).2
      simp only [List.filterMap_cons, hcloses, List.filterMap_nil]
      exact List.nodup_append.mpr ⟨hlog, List.nodup_singleton k, fun k₁ hk₁ k₂ hk₂ heq =>
        hnot (by rw [← List.mem_singleton.mp hk₂, ← heq]; exact hk₁)⟩

/-- What is closed is closed exactly once. -/
theorem Orderly.count_eq_one [DecidableEq κ] (h : Orderly opens closes log)
    (hk : k ∈ log.filterMap closes) : (log.filterMap closes).count k = 1 :=
  List.count_eq_one_of_mem h.nodup hk

end Lifecycle
