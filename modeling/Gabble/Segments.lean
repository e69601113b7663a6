/-
# Reading a stream in segments

A reader keeps what it has not used of a stream in a buffer.  Each time a
segment arrives it appends the segment and calls a function that looks at the
whole buffer and says how many elements it has used; it calls it again until
nothing is used or nothing is left.

`Coherent` is the condition under which cutting the stream differently makes no
difference: a call that uses something would have used the same with more in
the buffer, or it used the whole buffer and would have gone on.
-/
import Mathlib.Data.List.Basic
import Mathlib.Tactic.Common

namespace Segments

variable {σ α : Type*}

/-- Call `take` until it uses nothing or the buffer is empty.  Every round uses
an element, so that as many rounds as elements are enough. -/
def drain (take : σ → List α → σ × ℕ) : ℕ → σ → List α → σ × List α
  | 0, s, buf => (s, buf)
  | fuel + 1, s, buf =>
    if buf.isEmpty then (s, buf)
    else if (take s buf).2 = 0 then ((take s buf).1, buf)
    else drain take fuel (take s buf).1 (buf.drop (take s buf).2)

/-- Call `take` as long as it makes progress. -/
def drainAll (take : σ → List α → σ × ℕ) (s : σ) (buf : List α) : σ × List α :=
  drain take buf.length s buf

/-- A segment arrives at a reader with a state and a buffer. -/
def feed (take : σ → List α → σ × ℕ) (r : σ × List α) (segment : List α) : σ × List α :=
  drainAll take r.1 (r.2 ++ segment)

/-- The segments of a stream arrive one after the other. -/
def feedAll (take : σ → List α → σ × ℕ) (r : σ × List α) (segments : List (List α)) :
    σ × List α :=
  segments.foldl (feed take) r

/-- What a call does that finds a segment in front of it after it has used the
whole buffer. -/
def resume (n : ℕ) (r : σ × ℕ) : σ × ℕ := (r.1, n + r.2)

/-- Cutting the stream makes no difference to this reader. -/
structure Coherent (take : σ → List α → σ × ℕ) : Prop where
  /-- no more is used than there is -/
  used_le : ∀ s buf, (take s buf).2 ≤ buf.length
  /-- a call that uses nothing changes nothing -/
  waits : ∀ s buf, (take s buf).2 = 0 → (take s buf).1 = s
  /-- more in the buffer makes no difference to a call that uses something, or
  the call used everything and goes on with what is more -/
  extends_ : ∀ s buf more, more ≠ [] → (take s buf).2 ≠ 0 →
    take s (buf ++ more) = take s buf ∨
      (take s buf).2 = buf.length ∧ (take (take s buf).1 more).2 ≠ 0 ∧
        take s (buf ++ more) = resume buf.length (take (take s buf).1 more)

variable {take : σ → List α → σ × ℕ}

theorem drain_of_isEmpty (fuel : ℕ) (s : σ) : drain take fuel s [] = (s, []) := by
  cases fuel with
  | zero => rfl
  | succ fuel => rfl

/-- More rounds than elements change nothing. -/
theorem drain_of_length_le {fuel : ℕ} {s : σ} {buf : List α} (h : buf.length ≤ fuel) :
    drain take fuel s buf = drainAll take s buf := by
  -- on the number of rounds, against any other sufficient number
  have hany : ∀ n m (s : σ) (buf : List α), buf.length ≤ n → buf.length ≤ m →
      drain take n s buf = drain take m s buf := by
    intro n
    induction n with
    | zero =>
      intro m s buf hn _
      have hnil : buf = [] := List.length_eq_zero_iff.mp (by omega)
      rw [hnil, drain_of_isEmpty, drain_of_isEmpty]
    | succ n ih =>
      intro m s buf hn hm
      rcases buf with _ | ⟨a, rest⟩
      · rw [drain_of_isEmpty, drain_of_isEmpty]
      obtain ⟨m, rfl⟩ : ∃ k, m = k + 1 := ⟨m - 1, by simp at hm; omega⟩
      rw [drain, drain]
      by_cases hzero : (take s (a :: rest)).2 = 0
      · rw [if_pos hzero, if_pos hzero]
      · rw [if_neg hzero, if_neg hzero, ih m]
        all_goals
          rw [List.length_drop]
          rw [List.length_cons] at hn hm ⊢
          omega
  exact hany _ _ _ _ h (Nat.le_refl _)

/-- A call that uses nothing ends the loop. -/
theorem drainAll_of_wait (hc : Coherent take) {s : σ} {buf : List α} (h : (take s buf).2 = 0) :
    drainAll take s buf = (s, buf) := by
  rcases buf with _ | ⟨a, rest⟩
  · rfl
  · rw [drainAll, List.length_cons, drain, if_neg (by simp), if_pos h, hc.waits s _ h]

/-- A call that uses something is followed by the loop over what is left. -/
theorem drainAll_of_take {s : σ} {buf : List α} (h : (take s buf).2 ≠ 0) (hne : buf ≠ []) :
    drainAll take s buf = drainAll take (take s buf).1 (buf.drop (take s buf).2) := by
  rcases buf with _ | ⟨a, rest⟩
  · exact absurd rfl hne
  · rw [drainAll, List.length_cons, drain, if_neg (by simp), if_neg h]
    apply drain_of_length_le
    rw [List.length_drop, List.length_cons]
    omega

/-- A call that uses the piece the buffer starts with is followed by the loop over
the rest. -/
theorem drainAll_piece {s s' : σ} {piece rest : List α} (hne : piece ≠ [])
    (h : take s (piece ++ rest) = (s', piece.length)) :
    drainAll take s (piece ++ rest) = drainAll take s' rest := by
  have hused : (take s (piece ++ rest)).2 ≠ 0 := by
    rw [h]
    exact fun hlen => hne (List.length_eq_zero_iff.mp hlen)
  rw [drainAll_of_take hused (by simp [hne]), h, List.drop_left]

/-- **The loop on a longer buffer** is the loop on the buffer, and then on what
it left followed by the rest. -/
theorem drainAll_append (hc : Coherent take) (s : σ) (buf more : List α) :
    drainAll take s (buf ++ more) =
      drainAll take (drainAll take s buf).1 ((drainAll take s buf).2 ++ more) := by
  induction hn : buf.length using Nat.strongRecOn generalizing s buf with
  | ind n ih =>
    by_cases hnil : buf = []
    · subst hnil
      rfl
    by_cases hmore : more = []
    · subst hmore
      rw [List.append_nil, List.append_nil]
      -- the loop has nothing to do after itself
      by_cases hzero : (take s buf).2 = 0
      · rw [drainAll_of_wait hc hzero, drainAll_of_wait hc hzero]
      · rw [drainAll_of_take hzero hnil]
        have hlen : (buf.drop (take s buf).2).length < n := by
          have hpos : 0 < buf.length := List.length_pos_iff.mpr hnil
          rw [List.length_drop]
          omega
        have hrest := ih _ hlen (take s buf).1 _ rfl
        rwa [List.append_nil, List.append_nil] at hrest
    by_cases hzero : (take s buf).2 = 0
    · rw [drainAll_of_wait hc hzero]
    have hlt : (buf.drop (take s buf).2).length < n := by
      have hpos : 0 < buf.length := List.length_pos_iff.mpr hnil
      rw [List.length_drop]
      omega
    have hle := hc.used_le s buf
    have hne : buf ++ more ≠ [] := fun h => hnil (List.append_eq_nil_iff.mp h).1
    rw [drainAll_of_take hzero hnil, ← ih _ hlt (take s buf).1 _ rfl]
    rcases hc.extends_ s buf more hmore hzero with hsame | ⟨hall, hgoes, hresume⟩
    · rw [drainAll_of_take (by rwa [hsame]) hne, hsame, List.drop_append_of_le_length hle]
    · have hused : (take s (buf ++ more)).2 ≠ 0 := by
        rw [hresume, resume]
        dsimp only
        omega
      rw [drainAll_of_take hused hne, hresume, resume, hall, List.drop_length, List.nil_append,
        drainAll_of_take hgoes hmore, List.drop_append, List.drop_of_length_le (by omega),
        Nat.add_sub_cancel_left, List.nil_append]

/-- The loop has nothing left to do. -/
def Settled (take : σ → List α → σ × ℕ) (r : σ × List α) : Prop := drainAll take r.1 r.2 = r

theorem settled_nil (s : σ) : Settled take (s, []) := rfl

theorem settled_drainAll (hc : Coherent take) (s : σ) (buf : List α) :
    Settled take (drainAll take s buf) := by
  have h := drainAll_append hc s buf []
  rw [List.append_nil, List.append_nil] at h
  exact h.symm

/-- **Segmentation.**  A reader that is fed in segments ends where one that gets
the whole stream at once ends. -/
theorem feedAll_eq (hc : Coherent take) {r : σ × List α} (hr : Settled take r)
    (segments : List (List α)) :
    feedAll take r segments = drainAll take r.1 (r.2 ++ segments.flatten) := by
  induction segments generalizing r with
  | nil =>
    rw [List.flatten_nil, List.append_nil]
    exact hr.symm
  | cons segment segments ih =>
    have hfeed : Settled take (feed take r segment) := settled_drainAll hc _ _
    rw [feedAll, List.foldl_cons, ← feedAll, ih hfeed, feed, List.flatten_cons,
      ← List.append_assoc, ← drainAll_append hc]

/-! ## Readers that keep an invariant -/

/-- What every call keeps the loop keeps. -/
theorem drainAll_invariant {I : σ → Prop} (hkeep : ∀ s buf, I s → I (take s buf).1) {s : σ}
    (hs : I s) (buf : List α) : I (drainAll take s buf).1 := by
  have hdrain : ∀ (fuel : ℕ) (s : σ) (buf : List α), I s → I (drain take fuel s buf).1 := by
    intro fuel
    induction fuel with
    | zero => exact fun s buf hs => hs
    | succ fuel ih =>
      intro s buf hs
      rw [drain]
      split
      · exact hs
      · split
        · exact hkeep s buf hs
        · exact ih _ _ (hkeep s buf hs)
  exact hdrain _ s buf hs

/-- The reader on the states that meet an invariant it keeps. -/
def restrict (take : σ → List α → σ × ℕ) (I : σ → Prop)
    (hkeep : ∀ s buf, I s → I (take s buf).1) (s : { s // I s }) (buf : List α) :
    { s // I s } × ℕ :=
  (⟨(take s.1 buf).1, hkeep s.1 buf s.2⟩, (take s.1 buf).2)

theorem drain_restrict {I : σ → Prop} (hkeep : ∀ s buf, I s → I (take s buf).1) (fuel : ℕ)
    (s : { s // I s }) (buf : List α) :
    drain take fuel s.1 buf =
      ((drain (restrict take I hkeep) fuel s buf).1.1,
        (drain (restrict take I hkeep) fuel s buf).2) := by
  induction fuel generalizing s buf with
  | zero => rfl
  | succ fuel ih =>
    have hused : (restrict take I hkeep s buf).2 = (take s.1 buf).2 := rfl
    rw [drain, drain, hused]
    split
    · rfl
    · split
      · rfl
      · exact ih (restrict take I hkeep s buf).1 _

/-- `feedAll_eq` for a reader that keeps an invariant and starts with an empty
buffer. -/
theorem feedAll_eq_of_restrict {I : σ → Prop} (hkeep : ∀ s buf, I s → I (take s buf).1)
    (hc : Coherent (restrict take I hkeep)) {s : σ} (hs : I s) (segments : List (List α)) :
    feedAll take (s, []) segments = drainAll take s segments.flatten := by
  have hfeed : ∀ (r : { s // I s } × List α),
      feedAll take (r.1.1, r.2) segments =
        ((feedAll (restrict take I hkeep) r segments).1.1,
          (feedAll (restrict take I hkeep) r segments).2) := by
    induction segments with
    | nil => exact fun r => rfl
    | cons segment segments ih =>
      intro r
      rw [feedAll, List.foldl_cons, feedAll, List.foldl_cons, ← feedAll, ← feedAll, ← ih, feed,
        drainAll, drain_restrict hkeep]
      rfl
  rw [hfeed (⟨s, hs⟩, []), feedAll_eq hc (settled_nil _), List.nil_append, drainAll, drainAll,
    drain_restrict hkeep _ ⟨s, hs⟩]

end Segments
