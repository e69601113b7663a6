/-
# Most recent first

A list of entries that have a key, the entry that was used last at its head.
Using an entry again moves it to the head; a list of at most `n` entries loses its
last one when it is full.  What the bounded list has is what the unbounded one
begins with (`touchAtMost_take`), and that is one entry for each key that was
used, in the order of its last use (`keys_recent`).
-/
import Mathlib.Data.List.Dedup
import Mathlib.Data.List.Induction
import Mathlib.Tactic.Common

namespace RecentList

variable {α κ : Type*} [DecidableEq κ] (key : α → κ)

/-- An entry comes to the head, and the first one with its key goes. -/
def touch (a : α) (l : List α) : List α := a :: l.eraseP fun b => key b = key a

/-- The same for a list of at most `n` entries. -/
def touchAtMost (n : ℕ) (a : α) (l : List α) : List α :=
  if l.any fun b => key b = key a then touch key a l
  else if n ≤ l.length then a :: l.dropLast
  else a :: l

/-- The list after some uses, in their order. -/
def recent (as : List α) : List α := as.foldl (fun l a => touch key a l) []

/-! ## The keys -/

variable {key} {a : α} {l : List α}

theorem map_eraseP (a : α) (l : List α) :
    (l.eraseP fun b => key b = key a).map key = (l.map key).erase (key a) := by
  induction l with
  | nil => rfl
  | cons b l ih =>
    rw [List.eraseP_cons, List.map_cons, List.erase_cons]
    by_cases h : key b = key a
    · simp [h]
    · simp [h, ih]

theorem keys_touch (a : α) (l : List α) :
    (touch key a l).map key = key a :: (l.map key).erase (key a) := by
  rw [touch, List.map_cons, map_eraseP]

theorem recent_append_singleton (as : List α) (a : α) :
    recent key (as ++ [a]) = touch key a (recent key as) := by
  rw [recent, List.foldl_append]
  rfl

theorem dedup_append_singleton (ks : List κ) (k : κ) :
    (ks ++ [k]).dedup = ks.dedup.erase k ++ [k] := by
  induction ks with
  | nil => rfl
  | cons x ks ih =>
    rw [List.cons_append]
    by_cases hx : x ∈ ks
    · rw [List.dedup_cons_of_mem hx, List.dedup_cons_of_mem (List.mem_append_left _ hx), ih]
    · rw [List.dedup_cons_of_notMem hx]
      by_cases hk : x = k
      · subst hk
        rw [List.dedup_cons_of_mem (by simp), ih, List.erase_cons_head]
        congr 1
        apply List.erase_of_not_mem
        rwa [List.mem_dedup]
      · rw [List.dedup_cons_of_notMem (by simp [hx, hk]), ih, List.erase_cons_tail (by simpa using hk)]
        rfl

/-- **One entry for each key that was used, the one used last at the head.** -/
theorem keys_recent (as : List α) : (recent key as).map key = (as.map key).dedup.reverse := by
  induction as using List.reverseRecOn with
  | nil => rfl
  | append_singleton as a ih =>
    rw [recent_append_singleton, keys_touch, ih, List.map_append, List.map_singleton,
      dedup_append_singleton, List.reverse_append, List.reverse_singleton, List.singleton_append]
    congr 1
    have hnodup := (as.map key).nodup_dedup
    rw [hnodup.erase_eq_filter, (List.nodup_reverse.mpr hnodup).erase_eq_filter,
      List.filter_reverse]

/-! ## A bounded list -/

/-- The first entry that is erased is among the first ones. -/
theorem take_eraseP_of_any {p : α → Bool} {n : ℕ} (h : (l.take (n + 1)).any p = true) :
    (l.take (n + 1)).eraseP p = (l.eraseP p).take n := by
  induction l generalizing n with
  | nil => cases h
  | cons b l ih =>
    rw [List.take_succ_cons, List.eraseP_cons, List.eraseP_cons]
    cases hb : p b with
    | true => rfl
    | false =>
      rw [List.take_succ_cons, List.any_cons, hb, Bool.false_or] at h
      cases n with
      | zero => cases h
      | succ n =>
        simp only [cond_false]
        rw [List.take_succ_cons, ih h]

/-- The first entry that is erased is not among the first ones. -/
theorem take_eraseP_of_not_any {p : α → Bool} {n : ℕ} (h : (l.take (n + 1)).any p = false) :
    (l.eraseP p).take n = l.take n := by
  induction l generalizing n with
  | nil => rfl
  | cons b l ih =>
    rw [List.take_succ_cons, List.any_cons, Bool.or_eq_false_iff] at h
    rw [List.eraseP_cons, h.1]
    cases n with
    | zero => rfl
    | succ n =>
      simp only [cond_false]
      rw [List.take_succ_cons, List.take_succ_cons, ih h.2]

/-- **A bounded list has what the unbounded one begins with**, and a use keeps it so. -/
theorem touchAtMost_take (n : ℕ) (a : α) (l : List α) :
    touchAtMost key (n + 1) a (l.take (n + 1)) = (touch key a l).take (n + 1) := by
  rw [touchAtMost, touch, touch, List.take_succ_cons]
  split
  case isTrue hfound => rw [take_eraseP_of_any hfound]
  case isFalse hfound =>
    rw [take_eraseP_of_not_any (Bool.eq_false_iff.mpr hfound)]
    split
    case isTrue hfull =>
      rw [List.dropLast_eq_take, List.take_take]
      rw [List.length_take] at hfull ⊢
      congr 2
      omega
    case isFalse hroom =>
      rw [List.length_take] at hroom
      rw [List.take_of_length_le (by omega), List.take_of_length_le (by omega)]

end RecentList
