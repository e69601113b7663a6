/-
# A cursor into a list

A cursor is at an element of a list, or it has run past the end and starts again
at the head.  It is lost when its element has been taken out of the list.  Walking
as many steps as the list is long, or fewer, visits no place twice.
-/
import Mathlib.Data.List.Nodup
import Mathlib.Tactic.Common

namespace ListCursor

variable {α : Type*} {l : List α} {c : Option α}

/-- The cursor is not lost. -/
def Valid (l : List α) (c : Option α) : Prop := ∀ a, c = some a → a ∈ l

theorem valid_none (l : List α) : Valid l none := fun _ h => nomatch h

theorem valid_head (l : List α) : Valid l l.head? := fun _ h => List.mem_of_mem_head? h

/-- The place of a cursor that is not lost. -/
theorem Valid.exists_split (h : Valid l c) : ∃ pre rest, l = pre ++ rest ∧ c = rest.head? := by
  cases c with
  | none => exact ⟨l, [], (List.append_nil l).symm, rfl⟩
  | some a =>
    obtain ⟨pre, rest, hl⟩ := List.append_of_mem (h a rfl)
    exact ⟨pre, a :: rest, hl, rfl⟩

variable [DecidableEq α]

instance (l : List α) : (c : Option α) → Decidable (Valid l c)
  | none => .isTrue fun _ h => nomatch h
  | some a => decidable_of_iff (a ∈ l) ⟨fun h _ heq => Option.some.inj heq ▸ h, fun h => h a rfl⟩

/-- What comes behind `a`. -/
def next (a : α) : List α → Option α
  | [] => none
  | b :: l => if b = a then l.head? else next a l

/-- Where the cursor is; `none` when the list is empty or the cursor is lost. -/
def current (l : List α) : Option α → Option α
  | none => l.head?
  | some a => if a ∈ l then some a else none

/-- Visit `n` elements; `none` when there is nothing to visit any more. -/
def walk (l : List α) : ℕ → Option α → Option (List α × Option α)
  | 0, c => some ([], c)
  | n + 1, c =>
    match current l c with
    | none => none
    | some a => (walk l n (next a l)).map fun r => (a :: r.1, r.2)

theorem valid_erase {a : α} (h : Valid l c) (hne : c ≠ some a) : Valid (l.erase a) c := by
  intro b hb
  apply (List.mem_erase_of_ne _).mpr (h b hb)
  rintro rfl
  exact hne hb

theorem next_append {a : α} {pre rest : List α} (h : a ∉ pre) :
    next a (pre ++ a :: rest) = rest.head? := by
  induction pre with
  | nil => simp [next]
  | cons b pre ih =>
    rw [List.mem_cons, not_or] at h
    rw [List.cons_append, next, if_neg (Ne.symm h.1), ih h.2]

theorem mem_of_next {a b : α} {l : List α} (h : next a l = some b) : b ∈ l := by
  induction l with
  | nil => cases h
  | cons x l ih =>
    rw [next] at h
    split at h
    · exact List.mem_cons_of_mem _ (List.mem_of_mem_head? h)
    · exact List.mem_cons_of_mem _ (ih h)

theorem current_head (pre : List α) (a : α) (rest : List α) :
    current (pre ++ a :: rest) (a :: rest).head? = some a := by
  simp [current]

/-- A walk takes what is ahead of the cursor, and then what is behind it. -/
theorem walk_split (hl : l.Nodup) (n : ℕ) (hn : n ≤ l.length) {pre rest : List α}
    (hsplit : l = pre ++ rest) :
    ∃ c', walk l n rest.head? = some ((rest ++ pre).take n, c') ∧ Valid l c' := by
  induction n generalizing pre rest with
  | zero =>
    refine ⟨rest.head?, rfl, fun a ha => ?_⟩
    rw [hsplit]
    exact List.mem_append_right _ (List.mem_of_mem_head? ha)
  | succ n ih =>
    -- behind the end the walk goes on at the head
    have hahead : ∀ {pre rest : List α} (a : α), l = pre ++ a :: rest →
        ∃ c', walk l (n + 1) (a :: rest).head? = some ((a :: rest ++ pre).take (n + 1), c') ∧
          Valid l c' := by
      intro pre rest a hsplit
      have hpre : a ∉ pre := by
        intro hmem
        rw [hsplit] at hl
        exact (List.nodup_append.mp hl).2.2 a hmem a List.mem_cons_self rfl
      have hlen : l.length = pre.length + (rest.length + 1) := by
        rw [hsplit, List.length_append, List.length_cons]
      obtain ⟨c', hwalk, hvalid⟩ := @ih (by omega) (pre ++ [a]) rest (by simp [hsplit])
      refine ⟨c', ?_, hvalid⟩
      have hnext : next a l = rest.head? := by rw [hsplit, next_append hpre]
      have hcurrent : current l (a :: rest).head? = some a := by rw [hsplit, current_head]
      rw [walk, hcurrent]
      dsimp only
      rw [hnext, hwalk, Option.map_some, List.cons_append, List.take_succ_cons, ← List.append_assoc,
        List.take_append_of_le_length (by rw [List.length_append]; omega)]
    cases rest with
    | cons a rest => exact hahead a hsplit
    | nil =>
      rw [List.append_nil] at hsplit
      subst hsplit
      cases l with
      | nil => exact absurd hn (by simp)
      | cons a rest =>
        have hwalk : walk (a :: rest) (n + 1) none = walk (a :: rest) (n + 1) (some a) := by
          simp [walk, current]
        obtain ⟨c', hw, hvalid⟩ := @hahead [] rest a rfl
        rw [List.append_nil] at hw
        exact ⟨c', hwalk.trans hw, hvalid⟩

/-- **A walk that is not longer than the list visits every place at most once**, and
the cursor is not lost. -/
theorem walk_of_valid (hl : l.Nodup) (hc : Valid l c) {n : ℕ} (hn : n ≤ l.length) :
    ∃ visited c' rest, walk l n c = some (visited, c') ∧ (visited ++ rest).Perm l ∧ Valid l c' := by
  obtain ⟨pre, rest, hsplit, rfl⟩ := hc.exists_split
  obtain ⟨c', hwalk, hvalid⟩ := walk_split hl n hn hsplit
  refine ⟨_, c', (rest ++ pre).drop n, hwalk, ?_, hvalid⟩
  rw [List.take_append_drop, hsplit]
  exact List.perm_append_comm

end ListCursor
