/-
# Partial transition functions and their runs

A program that reacts to events is a function `step : σ → ε → Option σ`, where
`none` says that the event cannot happen in that state.  This module has the
runs of such a function, the states they reach when every step meets a
condition on the state before it, and the invariant rule all the developments
of this project use.
-/
import Mathlib.Data.List.Basic
import Mathlib.Logic.Basic

namespace Transition

variable {σ ε : Type*}
variable {es : List ε} {α : Type*}

/-- Run a list of events; `none` when one of them is not enabled. -/
def run (step : σ → ε → Option σ) : σ → List ε → Option σ
  | s, [] => some s
  | s, e :: es => (step s e).bind fun s' => run step s' es

/-- Run the events up to the first one that is not enabled. -/
def advance (step : σ → ε → Option σ) : σ → List ε → σ
  | s, [] => s
  | s, e :: es => (step s e).elim s fun s' => advance step s' es

/-- Every step of the run meets the condition `ok` on the state before it. -/
def Admits (ok : σ → ε → Prop) (step : σ → ε → Option σ) : σ → List ε → Prop
  | _, [] => True
  | s, e :: es => ok s e ∧ ∀ s', step s e = some s' → Admits ok step s' es

/-- The states reached from `s₀` by steps that all meet `ok`. -/
inductive Reachable (step : σ → ε → Option σ) (ok : σ → ε → Prop) (s₀ : σ) :
    σ → Prop where
  | init : Reachable step ok s₀ s₀
  | step {s s' : σ} (e : ε) (hs : Reachable step ok s₀ s) (hok : ok s e)
      (hstep : step s e = some s') : Reachable step ok s₀ s'

/-- No condition on the steps. -/
def anyEvent (_ : σ) (_ : ε) : Prop := True

/-- What the events of a run contribute, each in the state it happens in. -/
def collect {α : Type*} (step : σ → ε → Option σ) (f : σ → ε → List α) : σ → List ε → List α
  | _, [] => []
  | s, e :: es => f s e ++ ((step s e).elim [] fun s' => collect step f s' es)

/-- The states a run passes through. -/
def trace (step : σ → ε → Option σ) : σ → List ε → List σ
  | s, [] => [s]
  | s, e :: es => s :: (step s e).elim [] fun s' => trace step s' es

variable {step : σ → ε → Option σ} {ok ok' : σ → ε → Prop} {s₀ s s' : σ}

/-- **The invariant rule.**  What holds at the start and survives every step
that meets `ok` holds in every state reached. -/
theorem Reachable.invariant {I : σ → Prop} (h0 : I s₀)
    (hstep : ∀ s e s', I s → ok s e → step s e = some s' → I s')
    (h : Reachable step ok s₀ s) : I s := by
  induction h with
  | init => exact h0
  | step e _ hok hs ih => exact hstep _ e _ ih hok hs

theorem Reachable.mono (himp : ∀ s e, ok s e → ok' s e)
    (h : Reachable step ok s₀ s) : Reachable step ok' s₀ s := by
  induction h with
  | init => exact .init
  | step e _ hok hs ih => exact .step e ih (himp _ e hok) hs

theorem Reachable.trans (h : Reachable step ok s₀ s)
    (h' : Reachable step ok s s') : Reachable step ok s₀ s' := by
  induction h' with
  | init => exact h
  | step e _ hok hs ih => exact .step e ih hok hs

/-- A computed run whose steps meet `ok` reaches its final state. -/
theorem reachable_of_run (es : List ε) (hadm : Admits ok step s₀ es)
    (hrun : run step s₀ es = some s) : Reachable step ok s₀ s := by
  induction es generalizing s₀ with
  | nil =>
    cases hrun
    exact .init
  | cons e es ih =>
    obtain ⟨hok, hrest⟩ := hadm
    obtain ⟨s₁, hs₁, hrun'⟩ := Option.bind_eq_some_iff.mp hrun
    exact (Reachable.step e .init hok hs₁).trans (ih (hrest s₁ hs₁) hrun')

/-- The invariant rule for a predicate that also speaks of what the run has
collected so far. -/
theorem run_collect_invariant {f : σ → ε → List α} {I : List α → σ → Prop}
    (hstep : ∀ l s e s', I l s → ok s e → step s e = some s' → I (l ++ f s e) s')
    (es : List ε) {l : List α} (h0 : I l s₀) (hadm : Admits ok step s₀ es)
    (hrun : run step s₀ es = some s) : I (l ++ collect step f s₀ es) s := by
  induction es generalizing s₀ l with
  | nil =>
    cases hrun
    rwa [collect, List.append_nil]
  | cons e es ih =>
    obtain ⟨hok, hrest⟩ := hadm
    obtain ⟨s₁, hs₁, hrun'⟩ := Option.bind_eq_some_iff.mp hrun
    rw [collect, hs₁, Option.elim_some, ← List.append_assoc]
    exact ih (hstep l s₀ e s₁ h0 hok hs₁) (hrest s₁ hs₁) hrun'

/-- What is collected from the events alone. -/
theorem collect_of_run (f : ε → List α) (es : List ε) (hrun : run step s₀ es = some s) :
    collect step (fun _ e => f e) s₀ es = es.flatMap f := by
  induction es generalizing s₀ with
  | nil => rfl
  | cons e es ih =>
    obtain ⟨s₁, hs₁, hrun'⟩ := Option.bind_eq_some_iff.mp hrun
    rw [collect, hs₁, Option.elim_some, ih hrun', List.flatMap_cons]

theorem run_append (es es' : List ε) :
    run step s₀ (es ++ es') = (run step s₀ es).bind fun s => run step s es' := by
  induction es generalizing s₀ with
  | nil => rfl
  | cons e es ih =>
    rw [List.cons_append, run, run]
    cases step s₀ e with
    | none => rfl
    | some s => exact ih

/-- The events that happened, and the one that could not. -/
theorem advance_cases (step : σ → ε → Option σ) (s₀ : σ) (es : List ε) :
    ∃ es₁ es₂, es = es₁ ++ es₂ ∧ run step s₀ es₁ = some (advance step s₀ es) ∧
      ∀ e, es₂.head? = some e → step (advance step s₀ es) e = none := by
  induction es generalizing s₀ with
  | nil => exact ⟨[], [], rfl, rfl, fun e he => by cases he⟩
  | cons e es ih =>
    rw [advance]
    cases hstep : step s₀ e with
    | none =>
      refine ⟨[], e :: es, rfl, rfl, fun e' he' => ?_⟩
      cases he'
      exact hstep
    | some s =>
      obtain ⟨es₁, es₂, rfl, hrun, hend⟩ := ih s
      refine ⟨e :: es₁, es₂, rfl, ?_, hend⟩
      rw [run, hstep]
      exact hrun

theorem advance_append (hrun : run step s₀ es = some s) (es' : List ε) :
    advance step s₀ (es ++ es') = advance step s es' := by
  induction es generalizing s₀ with
  | nil =>
    cases hrun
    rfl
  | cons e es ih =>
    obtain ⟨s₁, hs₁, hrun'⟩ := Option.bind_eq_some_iff.mp hrun
    rw [List.cons_append, advance, hs₁]
    exact ih hrun'

theorem advance_of_run (hrun : run step s₀ es = some s) :
    advance step s₀ es = s := by
  have h := advance_append hrun []
  rwa [List.append_nil] at h

theorem advance_of_forall (h : ∀ e ∈ es, step s₀ e = none) :
    advance step s₀ es = s₀ := by
  cases es with
  | nil => rfl
  | cons e es => rw [advance, h e List.mem_cons_self, Option.elim_none]

/-- The invariant rule for the events of a list, as far as they happen. -/
theorem advance_invariant {I : σ → Prop} (h0 : I s₀)
    (hstep : ∀ s e s', I s → e ∈ es → step s e = some s' → I s') : I (advance step s₀ es) := by
  induction es generalizing s₀ with
  | nil => exact h0
  | cons e es ih =>
    rw [advance]
    cases hs : step s₀ e with
    | none => exact h0
    | some s =>
      exact ih (hstep s₀ e s h0 List.mem_cons_self hs) fun t e' t' ht he' =>
        hstep t e' t' ht (List.mem_cons_of_mem e he')

/-- What a run contributes is what its parts do. -/
theorem collect_append {f : σ → ε → List α} (es' : List ε) (hrun : run step s₀ es = some s) :
    collect step f s₀ (es ++ es') = collect step f s₀ es ++ collect step f s es' := by
  induction es generalizing s₀ with
  | nil =>
    cases hrun
    rfl
  | cons e es ih =>
    obtain ⟨s₁, hs₁, hrun'⟩ := Option.bind_eq_some_iff.mp hrun
    rw [List.cons_append, collect, collect, hs₁, Option.elim_some, Option.elim_some, ih hrun',
      List.append_assoc]

/-- Contributions that are parts of others come to a part of what the others come to. -/
theorem collect_sublist {f g : σ → ε → List α} (hfg : ∀ s e, (f s e).Sublist (g s e))
    (es : List ε) : (collect step f s₀ es).Sublist (collect step g s₀ es) := by
  induction es generalizing s₀ with
  | nil => exact List.Sublist.refl _
  | cons e es ih =>
    rw [collect, collect]
    apply (hfg s₀ e).append
    cases step s₀ e with
    | none => exact List.Sublist.refl _
    | some s => exact ih

/-- A run that meets `ok` can be cut in two that do. -/
theorem admits_append {es es' : List ε} (h : Admits ok step s₀ (es ++ es'))
    (hrun : run step s₀ es = some s) : Admits ok step s₀ es ∧ Admits ok step s es' := by
  induction es generalizing s₀ with
  | nil =>
    cases hrun
    exact ⟨trivial, h⟩
  | cons e es ih =>
    obtain ⟨hok, hrest⟩ := h
    obtain ⟨s₁, hs₁, hrun'⟩ := Option.bind_eq_some_iff.mp hrun
    obtain ⟨hleft, hright⟩ := ih (hrest s₁ hs₁) hrun'
    refine ⟨⟨hok, fun s' hs' => ?_⟩, hright⟩
    rw [hs₁] at hs'
    cases hs'
    exact hleft

theorem admits_cons {e : ε} (hok : ok s₀ e) (hs : step s₀ e = some s)
    (h : Admits ok step s es) : Admits ok step s₀ (e :: es) := by
  refine ⟨hok, fun s' hs' => ?_⟩
  rw [hs] at hs'
  cases hs'
  exact h

theorem admits_cons_iff {e : ε} (hs : step s₀ e = some s) :
    Admits ok step s₀ (e :: es) ↔ ok s₀ e ∧ Admits ok step s es := by
  refine ⟨fun h => ⟨h.1, h.2 s hs⟩, fun h => admits_cons h.1 hs h.2⟩

theorem admits_cons_of_none {e : ε} (hs : step s₀ e = none) :
    Admits ok step s₀ (e :: es) ↔ ok s₀ e := by
  refine ⟨And.left, fun h => ⟨h, fun s' hs' => ?_⟩⟩
  rw [hs] at hs'
  cases hs'

/-- Whether a run meets a decidable condition can be computed. -/
instance decidableAdmits [∀ s e, Decidable (ok s e)] :
    ∀ (s : σ) (es : List ε), Decidable (Admits ok step s es)
  | _, [] => .isTrue trivial
  | s, e :: es =>
    match hs : step s e with
    | none => decidable_of_iff (ok s e) (admits_cons_of_none hs).symm
    | some s' =>
      have := decidableAdmits s' es
      decidable_of_iff (ok s e ∧ Admits ok step s' es) (admits_cons_iff hs).symm

/-- Two conditions that agree are met by the same runs. -/
theorem admits_congr (h : ∀ s e, ok s e ↔ ok' s e) (es : List ε) :
    Admits ok step s₀ es ↔ Admits ok' step s₀ es := by
  induction es generalizing s₀ with
  | nil => exact Iff.rfl
  | cons e es ih =>
    refine and_congr (h s₀ e) ?_
    exact forall_congr' fun s' => imp_congr_right fun _ => ih

/-- A property that a step keeps exactly when it meets `ok`, in the states an
invariant holds in, is kept by a run exactly when all its steps meet `ok`. -/
theorem run_iff_admits {I P : σ → Prop}
    (hstep : ∀ s e s', I s → step s e = some s' → I s' ∧ (P s' ↔ P s ∧ ok s e))
    (es : List ε) (h0 : I s₀) (hrun : run step s₀ es = some s) :
    P s ↔ P s₀ ∧ Admits ok step s₀ es := by
  induction es generalizing s₀ with
  | nil =>
    cases hrun
    exact (and_iff_left trivial).symm
  | cons e es ih =>
    obtain ⟨s₁, hs₁, hrun'⟩ := Option.bind_eq_some_iff.mp hrun
    obtain ⟨h₁, hiff⟩ := hstep s₀ e s₁ h0 hs₁
    rw [ih h₁ hrun', hiff, admits_cons_iff hs₁, and_assoc]

/-- Every run meets a condition that always holds. -/
theorem admits_of_forall (h : ∀ s e, ok s e) (es : List ε) : Admits ok step s₀ es := by
  induction es generalizing s₀ with
  | nil => exact trivial
  | cons e es ih => exact ⟨h _ e, fun _ _ => ih⟩

theorem admits_anyEvent (es : List ε) : Admits anyEvent step s₀ es :=
  admits_of_forall (fun _ _ => trivial) es

/-- A run meets a condition when each of its events does, after the events
before it. -/
theorem admits_iff_forall_split (es : List ε) :
    Admits ok step s₀ es ↔
      ∀ es₁ e es₂ s, es = es₁ ++ e :: es₂ → run step s₀ es₁ = some s → ok s e := by
  induction es generalizing s₀ with
  | nil => exact iff_of_true trivial fun es₁ e es₂ s h => by simp at h
  | cons e es ih =>
    constructor
    · rintro ⟨hok, hrest⟩ (_ | ⟨e₁, es₁⟩) e' es₂ s hsplit hrun
      · cases hrun
        rw [List.nil_append, List.cons.injEq] at hsplit
        exact hsplit.1 ▸ hok
      · rw [List.cons_append, List.cons.injEq] at hsplit
        obtain ⟨rfl, hsplit⟩ := hsplit
        obtain ⟨s₁, hs₁, hrun⟩ := Option.bind_eq_some_iff.mp hrun
        exact ih.mp (hrest s₁ hs₁) es₁ e' es₂ s hsplit hrun
    · intro h
      refine ⟨h [] e es s₀ rfl rfl, fun s₁ hs₁ => ih.mpr ?_⟩
      intro es₁ e' es₂ s hsplit hrun
      exact h (e :: es₁) e' es₂ s (by rw [hsplit, List.cons_append])
        (Option.bind_eq_some_iff.mpr ⟨s₁, hs₁, hrun⟩)

/-- What holds all along a run, at its start and after its first event. -/
theorem forall_prefix_cons_iff {P : List ε → σ → Prop} {e : ε} (hstep : step s₀ e = some s) :
    (∀ es₁ es₂ s₁, e :: es = es₁ ++ es₂ → run step s₀ es₁ = some s₁ → P es₁ s₁) ↔
      P [] s₀ ∧
        ∀ es₁ es₂ s₁, es = es₁ ++ es₂ → run step s es₁ = some s₁ → P (e :: es₁) s₁ := by
  constructor
  · intro h
    refine ⟨h [] (e :: es) s₀ rfl rfl, fun es₁ es₂ s₁ hsplit hrun => ?_⟩
    exact h (e :: es₁) es₂ s₁ (by rw [hsplit, List.cons_append]) (by simp [run, hstep, hrun])
  · rintro ⟨hnil, hcons⟩ (_ | ⟨e₁, es₁⟩) es₂ s₁ hsplit hrun
    · cases hrun
      exact hnil
    · rw [List.cons_append, List.cons.injEq] at hsplit
      obtain ⟨rfl, hsplit⟩ := hsplit
      exact hcons es₁ es₂ s₁ hsplit (by simpa [run, hstep] using hrun)

/-- What holds of all events of a run, of the first one and of the others. -/
theorem forall_split_cons_iff {P : List ε → σ → ε → Prop} {e : ε} (hstep : step s₀ e = some s) :
    (∀ es₁ e₁ es₂ s₁, e :: es = es₁ ++ e₁ :: es₂ → run step s₀ es₁ = some s₁ → P es₁ s₁ e₁) ↔
      P [] s₀ e ∧
        ∀ es₁ e₁ es₂ s₁, es = es₁ ++ e₁ :: es₂ → run step s es₁ = some s₁ →
          P (e :: es₁) s₁ e₁ := by
  constructor
  · intro h
    refine ⟨h [] e es s₀ rfl rfl, fun es₁ e₁ es₂ s₁ hsplit hrun => ?_⟩
    exact h (e :: es₁) e₁ es₂ s₁ (by rw [hsplit, List.cons_append]) (by simp [run, hstep, hrun])
  · rintro ⟨hnil, hcons⟩ (_ | ⟨e', es₁⟩) e₁ es₂ s₁ hsplit hrun
    · cases hrun
      rw [List.nil_append, List.cons.injEq] at hsplit
      exact hsplit.1 ▸ hnil
    · rw [List.cons_append, List.cons.injEq] at hsplit
      obtain ⟨rfl, hsplit⟩ := hsplit
      exact hcons es₁ e₁ es₂ s₁ hsplit (by simpa [run, hstep] using hrun)

/-- A property that holds after a step exactly when the step meets `ok`, in the
states reached by steps that do, holds all along a run exactly when all its
steps meet `ok`. -/
theorem forall_run_iff_admits {I P : σ → Prop} (hI : ∀ s, I s → P s)
    (hstep : ∀ s e s', I s → step s e = some s' → (P s' ↔ ok s e) ∧ (ok s e → I s'))
    (es : List ε) (h0 : I s₀) (hrun : run step s₀ es = some s) :
    (∀ es₁ es₂ s₁, es = es₁ ++ es₂ → run step s₀ es₁ = some s₁ → P s₁) ↔
      Admits ok step s₀ es := by
  induction es generalizing s₀ with
  | nil =>
    refine iff_of_true (fun es₁ es₂ s₁ hsplit hrun₁ => ?_) trivial
    rw [(List.append_eq_nil_iff.mp hsplit.symm).1] at hrun₁
    cases hrun₁
    exact hI s₀ h0
  | cons e es ih =>
    obtain ⟨s₁, hs₁, hrun'⟩ := Option.bind_eq_some_iff.mp hrun
    obtain ⟨hiff, hkeep⟩ := hstep s₀ e s₁ h0 hs₁
    rw [admits_cons_iff hs₁, forall_prefix_cons_iff (P := fun _ s => P s) hs₁]
    constructor
    · rintro ⟨-, hall⟩
      have hok : ok s₀ e := hiff.mp (hall [] es s₁ rfl rfl)
      exact ⟨hok, (ih (hkeep hok) hrun').mp hall⟩
    · rintro ⟨hok, hadm⟩
      exact ⟨hI s₀ h0, (ih (hkeep hok) hrun').mpr hadm⟩

/-- What a run contributes has a property exactly when all its steps meet `ok`,
when that is so for each step in the states an invariant holds in. -/
theorem forall_collect_iff_admits {f : σ → ε → List α} {I : σ → Prop} {Q : α → Prop}
    (hI : ∀ s e s', I s → step s e = some s' → I s')
    (hf : ∀ s e s', I s → step s e = some s' → ((∀ a ∈ f s e, Q a) ↔ ok s e))
    (es : List ε) (h0 : I s₀) (hrun : run step s₀ es = some s) :
    (∀ a ∈ collect step f s₀ es, Q a) ↔ Admits ok step s₀ es := by
  induction es generalizing s₀ with
  | nil => exact iff_of_true (fun a ha => by cases ha) trivial
  | cons e es ih =>
    obtain ⟨s₁, hs₁, hrun'⟩ := Option.bind_eq_some_iff.mp hrun
    rw [admits_cons_iff hs₁, ← hf s₀ e s₁ h0 hs₁, ← ih (hI s₀ e s₁ h0 hs₁) hrun', collect, hs₁]
    exact List.forall_mem_append

theorem mem_trace_self (es : List ε) : s₀ ∈ trace step s₀ es := by
  cases es with
  | nil => exact List.mem_singleton_self s₀
  | cons e es => exact List.mem_cons_self

theorem exists_mem_trace_cons {q : σ → Prop} {e : ε} (hstep : step s₀ e = some s) (hq : ¬ q s₀)
    (es : List ε) :
    (∃ t ∈ trace step s₀ (e :: es), q t) ↔ ∃ t ∈ trace step s es, q t := by
  rw [trace, hstep, Option.elim_some]
  simp only [List.mem_cons, exists_eq_or_imp]
  exact or_iff_right hq

theorem not_exists_mem_trace_nil {q : σ → Prop} (hq : ¬ q s₀) :
    ¬ ∃ t ∈ trace step s₀ [], q t := by
  rintro ⟨t, ht, hqt⟩
  rw [trace, List.mem_singleton] at ht
  exact hq (ht ▸ hqt)

/-- A property `B` is only seen after the run has passed through a state with `q` exactly
when the steps that bring it about are only made after that.  An invariant says, until
then, which steps these are. -/
theorem forall_visited_iff {I B q : σ → Prop} {bad : σ → ε → Prop}
    (hI : ∀ s, I s → ¬ B s ∧ ¬ q s)
    (hstep : ∀ s e s', I s → step s e = some s' →
      (q s' ∧ ¬ bad s e) ∨ (I s' ∧ ¬ bad s e) ∨ (B s' ∧ ¬ q s' ∧ bad s e))
    (es : List ε) (h0 : I s₀) (hrun : run step s₀ es = some s) :
    (∀ es₁ es₂ s₁, es = es₁ ++ es₂ → run step s₀ es₁ = some s₁ → B s₁ →
        ∃ t ∈ trace step s₀ es₁, q t) ↔
      ∀ es₁ e es₂ s₁, es = es₁ ++ e :: es₂ → run step s₀ es₁ = some s₁ → bad s₁ e →
        ∃ t ∈ trace step s₀ es₁, q t := by
  induction es generalizing s₀ with
  | nil =>
    refine iff_of_true (fun es₁ es₂ s₁ hsplit hrun₁ hB => ?_) fun es₁ e es₂ s₁ hsplit => ?_
    · rw [(List.append_eq_nil_iff.mp hsplit.symm).1] at hrun₁
      cases hrun₁
      exact absurd hB (hI s₀ h0).1
    · simp at hsplit
  | cons e es ih =>
    obtain ⟨s₁, hs₁, hrun'⟩ := Option.bind_eq_some_iff.mp hrun
    obtain ⟨hnotB, hnotq⟩ := hI s₀ h0
    have hcons := @exists_mem_trace_cons σ ε step s₀ s₁ q e hs₁ hnotq
    rw [forall_prefix_cons_iff hs₁, forall_split_cons_iff hs₁]
    simp only [hcons]
    rcases hstep s₀ e s₁ h0 hs₁ with ⟨hq, hgood⟩ | ⟨h₁, hgood⟩ | ⟨hB, hq, hbad⟩
    · have hvisited : ∀ es₁, ∃ t ∈ trace step s₁ es₁, q t := fun es₁ =>
        ⟨s₁, mem_trace_self es₁, hq⟩
      exact iff_of_true ⟨fun h => absurd h hnotB, fun es₁ _ _ _ _ _ => hvisited es₁⟩
        ⟨fun h => absurd h hgood, fun es₁ _ _ _ _ _ _ => hvisited es₁⟩
    · exact and_congr (iff_of_true (fun h => absurd h hnotB) fun h => absurd h hgood)
        (ih h₁ hrun')
    · refine iff_of_false (fun h => ?_) fun h => ?_
      · exact not_exists_mem_trace_nil hq (h.2 [] es s₁ rfl rfl hB)
      · exact not_exists_mem_trace_nil hnotq (h.1 hbad)

end Transition
