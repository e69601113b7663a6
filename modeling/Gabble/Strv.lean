/-
# NULL-terminated vectors

An array of pointers, any of which may be NULL.  A program that goes through such an array
stops at the first NULL, so that the array holds what stands before it.  Here an array is
a list of cells, and reading and writing are checked against its length.

* `copy_eq`: what a loop that copies from one array into another makes of it;
* `copy_error`: such a loop that leaves the array which it reads;
* `strings_take`: the beginning of an array, terminated again.
-/
import Mathlib.Data.List.Basic
import Mathlib.Tactic.Common

namespace Strv

variable {α : Type*}

/-- The cells of an array of pointers; `none` is NULL. -/
abbrev Cells (α : Type*) := List (Option α)

/-- The memory outside of an array is touched. -/
inductive Fault : Type where
  | readOutside : Fault
  | writeOutside : Fault
  deriving DecidableEq

/-- A new array of NULLs. -/
def new0 (n : ℕ) : Cells α := List.replicate n none

def read (cells : Cells α) (i : ℕ) : Except Fault (Option α) :=
  match cells[i]? with
  | some v => .ok v
  | none => .error .readOutside

def write (cells : Cells α) (i : ℕ) (v : Option α) : Except Fault (Cells α) :=
  if i < cells.length then .ok (cells.set i v) else .error .writeOutside

/-- What stands before the first NULL; `none` when there is no NULL. -/
def strings : Cells α → Option (List α)
  | [] => none
  | none :: _ => some []
  | some v :: cells => (strings cells).map (v :: ·)

/-- The number of strings.  Without a NULL they are counted beyond the array. -/
def length (cells : Cells α) : Except Fault ℕ :=
  match strings cells with
  | some l => .ok l.length
  | none => .error .readOutside

/-- Copy `n` cells, from the cell `i` of one array on, to the cell `j` of the other and
those after it. -/
def copy (src : Cells α) : ℕ → ℕ → ℕ → Cells α → Except Fault (Cells α)
  | _, _, 0, dst => .ok dst
  | i, j, n + 1, dst => do
    let v ← read src i
    let dst' ← write dst j v
    copy src (i + 1) (j + 1) n dst'

/-! ## Strings -/

variable {cells : Cells α}

theorem strings_isSome_iff : (strings cells).isSome = true ↔ none ∈ cells := by
  induction cells with
  | nil => simp [strings]
  | cons v cells ih =>
    cases v with
    | none => simp [strings]
    | some v =>
      rw [strings, Option.isSome_map, ih]
      simp

theorem strings_length_lt {l : List α} (h : strings cells = some l) :
    l.length < cells.length := by
  induction cells generalizing l with
  | nil => cases h
  | cons v cells ih =>
    cases v with
    | none =>
      cases h
      exact Nat.succ_pos _
    | some v =>
      rw [strings, Option.map_eq_some_iff] at h
      obtain ⟨l', hl', rfl⟩ := h
      exact Nat.succ_lt_succ (ih hl')

/-- The beginning of an array, terminated again. -/
theorem strings_take {l : List α} (h : strings cells = some l) (n : ℕ) :
    strings (cells.take n ++ [none]) = some (l.take n) := by
  induction cells generalizing l n with
  | nil => cases h
  | cons v cells ih =>
    cases n with
    | zero => rfl
    | succ n =>
      cases v with
      | none =>
        cases h
        rfl
      | some v =>
        rw [strings, Option.map_eq_some_iff] at h
        obtain ⟨l', hl', rfl⟩ := h
        rw [List.take_succ_cons, List.cons_append, strings, ih hl' n]
        rfl

/-! ## Copying -/

theorem read_of_lt {i : ℕ} (h : i < cells.length) :
    read cells i = .ok cells[i] := by
  rw [read, List.getElem?_eq_getElem h]

theorem read_of_le {i : ℕ} (h : cells.length ≤ i) :
    read cells i = .error .readOutside := by
  rw [read, List.getElem?_eq_none h]

theorem write_of_lt {i : ℕ} (h : i < cells.length) (v : Option α) :
    write cells i v = .ok (cells.set i v) := if_pos h

theorem write_of_le {i : ℕ} (h : cells.length ≤ i) (v : Option α) :
    write cells i v = .error .writeOutside := if_neg (Nat.not_lt.mpr h)

variable {src : Cells α}

/-- **A loop that stays inside** both arrays. -/
theorem copy_eq {i j n : ℕ} {dst : Cells α} (hsrc : i + n ≤ src.length)
    (hdst : j + n ≤ dst.length) :
    copy src i j n dst = .ok (dst.take j ++ ((src.drop i).take n ++ dst.drop (j + n))) := by
  induction n generalizing i j dst with
  | zero => simp [copy]
  | succ n ih =>
    -- one round makes the part of `dst` that is final longer by a cell
    have hi : i < src.length := by omega
    have hj : j < dst.length := by omega
    have hset : dst.set j src[i] = (dst.take j ++ [src[i]]) ++ dst.drop (j + 1) := by
      rw [List.set_eq_take_append_cons_drop, if_pos hj, List.append_assoc]
      rfl
    have hfront : (dst.take j ++ [src[i]]).length = j + 1 := by
      rw [List.length_append, List.length_take, List.length_singleton]
      omega
    have hround : copy src i j (n + 1) dst = copy src (i + 1) (j + 1) n (dst.set j src[i]) := by
      rw [copy, read_of_lt hi]
      exact (congrArg (Except.bind · _) (write_of_lt hj _))
    have hrest : (dst.set j src[i]).drop (j + 1 + n) = dst.drop (j + (n + 1)) := by
      rw [hset, ← List.drop_drop, List.drop_left' hfront, List.drop_drop,
        show j + 1 + n = j + (n + 1) by omega]
    rw [hround, ih (by omega) (by rw [List.length_set]; omega), hrest, hset,
      List.take_left' hfront, List.drop_eq_getElem_cons hi, List.take_succ_cons]
    simp only [List.append_assoc, List.cons_append, List.nil_append]

/-- **A loop that leaves the array which it reads.** -/
theorem copy_error {i j n : ℕ} {dst : Cells α} (hi : i ≤ src.length)
    (hsrc : src.length < i + n) : ∃ fault, copy src i j n dst = .error fault := by
  induction n generalizing i j dst with
  | zero => omega
  | succ n ih =>
    -- the array that is written may end first, which is a fault as well
    by_cases hlt : i < src.length
    · by_cases hj : j < dst.length
      · obtain ⟨fault, hfault⟩ : ∃ fault,
            copy src (i + 1) (j + 1) n (dst.set j src[i]) = .error fault := ih hlt (by omega)
        refine ⟨fault, ?_⟩
        rw [copy, read_of_lt hlt]
        exact (congrArg (Except.bind · _) (write_of_lt hj _)).trans hfault
      · refine ⟨.writeOutside, ?_⟩
        rw [copy, read_of_lt hlt]
        exact congrArg (Except.bind · _) (write_of_le (Nat.not_lt.mp hj) _)
    · refine ⟨.readOutside, ?_⟩
      rw [copy, read_of_le (Nat.not_lt.mp hlt)]
      rfl

end Strv
