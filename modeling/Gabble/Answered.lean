/-
# Requests that get one answer

A request is in the hands of an object, which waits with it until it gives an answer.
How many answers it has given is counted.  A turn is what one call of the object's code
may do to that: the object goes on waiting, or gives one answer and does not wait any
more.  Turns compose, so that they are proved for the functions of the code one by one.

Code may also lose a request: the object stops waiting and gives no answer.  A turn
allows that, but keeps track of it.
-/
import Gabble.Transition

namespace Answered

variable {σ : Type*}

/-- What is seen of an object that has a request: whether it waits with the answer, how
many answers it has given, and whether it has lost the request. -/
structure View (σ : Type*) where
  waiting : σ → Prop
  answers : σ → ℕ
  lost : σ → Prop

/-- There is no answer as long as the object waits, and one answer from then on. -/
def View.Once (v : View σ) (s : σ) : Prop :=
  (v.waiting s → v.answers s = 0) ∧ (¬ v.waiting s → v.answers s = 1)

/-- What a call may do to the request. -/
structure View.Turn (v : View σ) (s s' : σ) : Prop where
  settled : ¬ v.waiting s → ¬ v.waiting s' ∧ v.answers s' = v.answers s
  asked : v.waiting s →
    (v.waiting s' ∧ v.answers s' = v.answers s) ∨
      (¬ v.waiting s' ∧ v.answers s' = v.answers s + 1) ∨ v.lost s'
  lost : v.lost s → v.lost s'

namespace View

variable {v : View σ} {s s' s'' : σ}

/-- A call that does nothing to the request. -/
theorem Turn.same (hwaiting : v.waiting s' ↔ v.waiting s) (hanswers : v.answers s' = v.answers s)
    (hlost : v.lost s → v.lost s') : v.Turn s s' where
  settled h := ⟨fun h' => h (hwaiting.mp h'), hanswers⟩
  asked h := .inl ⟨hwaiting.mpr h, hanswers⟩
  lost := hlost

theorem Turn.refl (v : View σ) (s : σ) : v.Turn s s := .same Iff.rfl rfl id

/-- A call for a request that is out of hand already. -/
theorem Turn.after (h : ¬ v.waiting s) (h' : ¬ v.waiting s') (hanswers : v.answers s' = v.answers s)
    (hlost : v.lost s → v.lost s') : v.Turn s s' where
  settled _ := ⟨h', hanswers⟩
  asked hw := absurd hw h
  lost := hlost

/-- The answer. -/
theorem Turn.answer (h : v.waiting s) (h' : ¬ v.waiting s')
    (hanswers : v.answers s' = v.answers s + 1) (hlost : v.lost s → v.lost s') : v.Turn s s' where
  settled hw := absurd h hw
  asked _ := .inr (.inl ⟨h', hanswers⟩)
  lost := hlost

theorem Turn.trans (h : v.Turn s s') (h' : v.Turn s' s'') : v.Turn s s'' where
  settled hw := by
    obtain ⟨hw', heq⟩ := h.settled hw
    obtain ⟨hw'', heq'⟩ := h'.settled hw'
    exact ⟨hw'', heq'.trans heq⟩
  asked hw := by
    rcases h.asked hw with ⟨hw', heq⟩ | ⟨hw', heq⟩ | hlost
    · rw [← heq]
      exact h'.asked hw'
    · obtain ⟨hw'', heq'⟩ := h'.settled hw'
      exact .inr (.inl ⟨hw'', heq'.trans heq⟩)
    · exact .inr (.inr (h'.lost hlost))
  lost h₀ := h'.lost (h.lost h₀)

end View

end Answered
