/-
# The end of dispose, and what the pipeline promises

When callbacks just return, every main-loop event and `dispose` come to an end
(`reaches_rest`): a potential goes down with every step.  With the invariants
of `RequestPipelineOrder` and `RequestPipelineOnce` this gives the two results
about the pipeline, with the run that shows why they need `Careful`.
-/
import Mathlib.Algebra.GroupWithZero.Nat
import Mathlib.Data.List.Nodup
import Mathlib.Data.List.Range
import Mathlib.Data.Finset.Card
import Mathlib.Tactic.Common
import Gabble.RequestPipelineOnce

open Transition

namespace RequestPipeline

/-! ## The potential -/

def Frame.weight : Frame → ℕ
  | .go => 1
  | _ => 2

def Phase.rank : Phase → ℕ
  | .alive => 0
  | .flushing .inFlight => 3
  | .flushing .pending => 2
  | .flushing .crypt => 1
  | .disposed => 0

/-- What is left to do before the code is at rest: callbacks to invoke, items to
move along their lists, frames to return to, lists to flush. -/
def State.potential (s : State) : ℕ :=
  3 * (s.next - (calledIds s.log).length) + 3 * s.pendingItems.length
    + 2 * s.itemsInFlight.length + s.cryptItems.length
    + (s.stack.map Frame.weight).sum + s.phase.rank

/-- The steps of the code itself, when callbacks just return. -/
def Event.internal : Event → Bool
  | .ret => true
  | .tau => true
  | _ => false

theorem careful_of_internal (s : State) {e : Event} (he : e.internal = true) : Careful s e := by
  cases e with
  | cancel i => cases he
  | _ => trivial

namespace Once

variable {s s' : State} {i : ItemId} {f : Frame} {k : List Frame}

theorem length_called_le (h : Once s) : (calledIds s.log).length ≤ s.next := by
  have hsub : (calledIds s.log).toFinset ⊆ Finset.range s.next := by
    intro i hi
    exact Finset.mem_range.mpr (h.calledLt i (List.mem_toFinset.mp hi))
  have hcard := Finset.card_le_card hsub
  rwa [List.toFinset_card_of_nodup h.calledNodup, Finset.card_range] at hcard

/-- Unlinking an item and popping its frame. -/
theorem potential_unlink (s : State) (i : ItemId) (k : List Frame) :
    (s.unlink i k).potential + (s.stack.map Frame.weight).sum
      ≤ s.potential + (k.map Frame.weight).sum := by
  have hp : (s.pendingItems.erase i).length ≤ s.pendingItems.length := List.length_erase_le
  have hf : (s.itemsInFlight.erase i).length ≤ s.itemsInFlight.length := List.length_erase_le
  simp only [State.potential, State.unlink]
  omega

/-- A callback is invoked: one less to call, one more frame. -/
theorem potential_invoke (h : Once (s.invoke i o f)) (hf : f.item = some i) :
    (s.invoke i o f).potential < s.potential := by
  have hle := h.length_called_le
  have hw : f.weight = 2 := by cases f <;> first | rfl | cases hf
  simp only [State.invoke, calledIds_append, calledIds_called, List.length_append,
    List.length_singleton] at hle
  simp only [State.potential, State.invoke, calledIds_append, calledIds_called,
    List.length_append, List.length_singleton, List.map_cons, List.sum_cons, hw]
  omega

/-- `send_next_request`, as far as the potential goes. -/
theorem potential_sendNextRequest (h' : Once s.sendNextRequest)
    (hne : s.pendingItems ≠ []) : s.sendNextRequest.potential < s.potential := by
  have hle := h'.length_called_le
  have hnf := h'.noFault
  rcases s.sendNextRequest_cases with ⟨hnil, _⟩ | ⟨i, rest, hp, hcases⟩
  · exact absurd hnil hne
  rcases hcases with ⟨_, heq⟩ | ⟨item, _, ⟨_, heq⟩ | ⟨_, _, heq⟩ | ⟨_, _, heq⟩⟩
  · simp [heq, State.abort] at hnf
  · simp [heq, State.abort] at hnf
  · rw [heq] at hle ⊢
    simp only [calledIds_append, calledIds_called, List.length_append,
      List.length_singleton] at hle
    simp only [State.potential, calledIds_append, calledIds_called, List.length_append,
      List.map_cons, List.sum_cons, Frame.weight, hp, List.length_cons]
    omega
  · rw [heq]
    simp only [State.potential, calledIds_append, calledIds_sent, List.append_nil, hp,
      List.length_cons]
    omega

/-- The return of a callback lowers the potential. -/
theorem potential_stepRet (h : Once s) (hk : s.stack = f :: k) (hi : f.item = some i) :
    ∃ s', RequestPipeline.step s .ret = some s' ∧ s'.potential < s.potential := by
  have hfmem : f ∈ s.stack := hk ▸ List.mem_cons_self
  have hpot := fun k' => potential_unlink s i k'
  have hw : f.weight = 2 := by cases f <;> first | rfl | cases hi
  have hsum : (s.stack.map Frame.weight).sum = 2 + (k.map Frame.weight).sum := by
    rw [hk, List.map_cons, List.sum_cons, hw]
  have hstep : RequestPipeline.step s .ret = RequestPipeline.stepRet s := by
    simp [RequestPipeline.step, h.noFault]
  rw [hstep]
  cases f with
  | go => cases hi
  | createZombie j =>
    cases hi
    have hok : FrameOk s (.createZombie i) := h.frames _ hfmem
    refine ⟨{ s with stack := k }.createZombieRet i, by simp [RequestPipeline.stepRet, hk], ?_⟩
    by_cases hfl : i ∈ s.itemsInFlight
    · obtain ⟨item, hitem, hflag, hz⟩ := h.inFlightItem i hfl
      have hlen := List.length_erase_of_mem hfl
      have hpos := List.length_pos_of_mem hfl
      simp only [State.createZombieRet, hitem, hflag, if_true, State.go, State.setItem,
        State.potential, List.length_cons, List.map_cons, List.sum_cons, Frame.weight, hsum, hlen]
      omega
    · obtain ⟨item, hitem, hflag, _⟩ := h.pendingItem i (hok.resolve_right hfl)
      have heq : { s with stack := k }.createZombieRet i = s.unlink i k := by
        rw [← h.deleteItem_eq_unlink hfmem rfl]
        simp [State.createZombieRet, hitem, hflag]
      rw [heq]
      have := hpot k
      omega
  | responseCb j =>
    cases hi
    refine ⟨({ s with stack := k }.deleteItem i).go, by simp [RequestPipeline.stepRet, hk], ?_⟩
    rw [State.go_deleteItem, h.deleteItem_eq_unlink hfmem rfl]
    have := hpot (.go :: k)
    simp only [List.map_cons, List.sum_cons, Frame.weight] at this
    omega
  | sendNextRequest j =>
    cases hi
    have hdel := h.deleteReturned hk rfl k (.inl rfl) (fun _ => (show FrameOk s _ from
      h.frames _ hfmem).2.1) (h.ordered.deleteFailed hk)
    refine ⟨{ s with stack := k }.sendNextRequestRet i, by simp [RequestPipeline.stepRet, hk], ?_⟩
    have hret : Once ({ s with stack := k }.sendNextRequestRet i) := by
      have hstep' : RequestPipeline.stepRet s =
          some ({ s with stack := k }.sendNextRequestRet i) := by
        simp [RequestPipeline.stepRet, hk]
      exact h.stepRet hstep'
    rw [State.sendNextRequestRet_of_noFault hdel.noFault] at hret ⊢
    rw [h.deleteItem_eq_unlink hfmem rfl] at hdel hret ⊢
    have := hpot k
    by_cases hne : (s.unlink i k).pendingItems = []
    · have heq : (s.unlink i k).sendNextRequest = s.unlink i k := by
        simp [State.sendNextRequest, hne]
      rw [heq]
      omega
    · have := potential_sendNextRequest hret hne
      omega
  | flush j =>
    cases hi
    refine ⟨{ s with stack := k }.deleteItem i, by simp [RequestPipeline.stepRet, hk], ?_⟩
    rw [h.deleteItem_eq_unlink hfmem rfl]
    have := hpot k
    omega

/-- The rounds of the loops lower the potential. -/
theorem potential_stepTau (h : Once s)
    (hcase : (∃ k, s.stack = .go :: k) ∨ s.stack = [] ∧ ∃ q, s.phase = .flushing q) :
    ∃ s', RequestPipeline.step s .tau = some s' ∧ s'.potential < s.potential := by
  have hstep : RequestPipeline.step s .tau = RequestPipeline.stepTau s := by
    simp [RequestPipeline.step, h.noFault]
  rw [hstep]
  rcases hcase with ⟨k, hk⟩ | ⟨hnil, q, hq⟩
  · have hs : RequestPipeline.stepTau s = some s.goLoop := by simp [RequestPipeline.stepTau, hk]
    refine ⟨s.goLoop, hs, ?_⟩
    have h' := h.stepTau hs
    unfold State.goLoop at h' ⊢
    split
    · rename_i hl
      rw [if_pos hl] at h'
      exact potential_sendNextRequest h' hl.1
    · simp only [State.potential, hk, List.tail_cons, List.map_cons, List.sum_cons, Frame.weight]
      omega
  · have hs : RequestPipeline.stepTau s = some (s.flushLoop q) := by
      simp [RequestPipeline.stepTau, hnil, hq]
    refine ⟨s.flushLoop q, hs, ?_⟩
    have h' := h.stepTau hs
    unfold State.flushLoop at h' ⊢
    split
    · cases q <;> simp [State.nextPhase, State.potential, hq, Phase.rank]
    · rename_i i rest hl
      simp only [hl] at h'
      have hmem : i ∈ s.queue q := hl ▸ List.mem_cons_self
      split
      · rename_i hitem
        have hnf := h'.noFault
        simp [hitem, State.abort] at hnf
      · rename_i item hitem
        simp only [hitem] at h'
        split
        · -- a zombie goes from the crypt without a word
          rename_i hz
          have hcrypt : i ∈ s.cryptItems := by
            cases q with
            | crypt => exact hmem
            | inFlight =>
              obtain ⟨it, hit, _, hz'⟩ := h.inFlightItem i hmem
              rw [hitem] at hit
              cases hit
              rw [hz] at hz'
              cases hz'
            | pending =>
              obtain ⟨it, hit, _, hz'⟩ := h.pendingItem i hmem
              rw [hitem] at hit
              cases hit
              rw [hz] at hz'
              cases hz'
          have hlen := List.length_erase_of_mem hcrypt
          have hpos := List.length_pos_of_mem hcrypt
          rw [State.deleteItem_of_zombie hitem hz]
          simp only [State.potential, hlen]
          omega
        · rename_i hz
          rw [if_neg hz] at h'
          exact potential_invoke h' rfl

/-- **Termination.**  When callbacks just return, the code comes back to rest:
to the main loop, or to the end of dispose. -/
theorem reaches_rest (h : Once s) :
    ∃ s', Reachable RequestPipeline.step (fun _ e => e.internal = true) s s' ∧ Once s' ∧
      s'.stack = [] ∧ (s'.phase = .alive ∨ s'.phase = .disposed) := by
  induction hn : s.potential using Nat.strong_induction_on generalizing s with
  | _ n ih =>
    subst hn
    by_cases hrest : s.stack = [] ∧ (s.phase = .alive ∨ s.phase = .disposed)
    · exact ⟨s, .init, h, hrest⟩
    obtain ⟨e, s₁, he, hs₁, hlt⟩ : ∃ e s₁, Event.internal e = true ∧
        RequestPipeline.step s e = some s₁ ∧ s₁.potential < s.potential := by
      cases hk : s.stack with
      | nil =>
        obtain ⟨q, hq⟩ : ∃ q, s.phase = .flushing q := by
          cases hph : s.phase with
          | flushing q => exact ⟨q, rfl⟩
          | _ => exact absurd ⟨hk, by simp [hph]⟩ hrest
        obtain ⟨s₁, hs₁, hlt⟩ := h.potential_stepTau (.inr ⟨hk, q, hq⟩)
        exact ⟨.tau, s₁, rfl, hs₁, hlt⟩
      | cons f k =>
        cases hi : f.item with
        | some i =>
          obtain ⟨s₁, hs₁, hlt⟩ := h.potential_stepRet hk hi
          exact ⟨.ret, s₁, rfl, hs₁, hlt⟩
        | none =>
          obtain rfl : f = .go := by cases f <;> first | rfl | cases hi
          obtain ⟨s₁, hs₁, hlt⟩ := h.potential_stepTau (.inl ⟨k, hk⟩)
          exact ⟨.tau, s₁, rfl, hs₁, hlt⟩
    obtain ⟨s', hreach, hdone⟩ := ih _ hlt (h.step (careful_of_internal s he) hs₁) rfl
    exact ⟨s', (Reachable.step e .init he hs₁).trans hreach, hdone⟩

end Once

/-! ## Dispose does not go back -/

namespace State

@[simp] theorem sendNextRequest_phase (s : State) : s.sendNextRequest.phase = s.phase := by
  rcases s.sendNextRequest_cases with
    ⟨_, h⟩ | ⟨_, _, _, ⟨_, h⟩ | ⟨_, _, ⟨_, h⟩ | ⟨_, _, h⟩ | ⟨_, _, h⟩⟩⟩ <;>
    simp [h, abort]

@[simp] theorem createZombie_phase (s : State) (i : ItemId) (o : Outcome) :
    (s.createZombie i o).phase = s.phase := by
  unfold createZombie
  split
  · rfl
  · split <;> rfl

@[simp] theorem createZombieRet_phase (s : State) (i : ItemId) :
    (s.createZombieRet i).phase = s.phase := by
  unfold createZombieRet
  split
  · rfl
  · split
    · rfl
    · exact deleteItem_phase s i

@[simp] theorem sendNextRequestRet_phase (s : State) (i : ItemId) :
    (s.sendNextRequestRet i).phase = s.phase := by
  unfold sendNextRequestRet
  simp only
  split <;> simp

@[simp] theorem goLoop_phase (s : State) : s.goLoop.phase = s.phase := by
  unfold goLoop
  split <;> simp

end State

theorem stepRet_phase {s s' : State} (hs : stepRet s = some s') : s'.phase = s.phase := by
  unfold stepRet at hs
  split at hs <;> cases hs <;> simp [State.go]

theorem stepTau_phase {s s' : State} (hs : stepTau s = some s') (hph : s.phase ≠ .alive) :
    s'.phase ≠ .alive := by
  unfold stepTau at hs
  split at hs
  · cases hs
    simpa using hph
  · cases hs
  · split at hs
    · rename_i q _
      cases hs
      unfold State.flushLoop
      split
      · cases q <;> simp [State.nextPhase]
      · split
        · exact hph
        · split
          · simpa using hph
          · exact hph
    · cases hs

/-- Once dispose has begun the pipeline is never alive again. -/
theorem step_phase {s s' : State} {e : Event} (hs : step s e = some s')
    (hph : s.phase ≠ .alive) : s'.phase ≠ .alive := by
  unfold step at hs
  split at hs
  · cases hs
  have hrest : ¬ s.AtRest := fun hr => hph hr.2
  cases e with
  | ret => rwa [stepRet_phase hs]
  | tau => exact stepTau_phase hs hph
  | enqueue timeout =>
    obtain ⟨_, ⟨⟩⟩ := Option.ite_none_right_eq_some.mp hs
    exact hph
  | cancel i =>
    obtain ⟨_, ⟨⟩⟩ := Option.ite_none_right_eq_some.mp hs
    simpa using hph
  | reply i =>
    simp only [stepReply] at hs
    split at hs
    · split at hs
      · contradiction
      · cases hs
        exact hph
      · cases hs
    · cases hs
  | porterGone =>
    cases hs
    exact hph
  | idle => exact absurd (Option.ite_none_right_eq_some.mp hs).1.1 hrest
  | timeout i => exact absurd (Option.ite_none_right_eq_some.mp hs).1.1 hrest
  | dispose => exact absurd (Option.ite_none_right_eq_some.mp hs).1 hrest
  | porterAvailable => exact absurd (Option.ite_none_right_eq_some.mp hs).1 hrest

/-- The end of dispose is reached when callbacks just return. -/
theorem Once.reaches_disposed {s : State} (h : Once s) (hph : s.phase ≠ .alive) :
    ∃ s', Reachable RequestPipeline.step (fun _ e => e.internal = true) s s' ∧
      s'.phase = .disposed := by
  obtain ⟨s', hreach, _, _, hdone⟩ := h.reaches_rest
  have hne : s'.phase ≠ .alive :=
    hreach.invariant (I := fun s => s.phase ≠ .alive) hph fun _ _ _ hi _ hs => step_phase hs hi
  exact ⟨s', hreach, hdone.resolve_left hne⟩

/-- At the end of dispose every item has been called. -/
theorem Once.called_of_disposed {s : State} (h : Once s) (hph : s.phase = .disposed)
    {i : ItemId} (hi : i < s.next) : i ∈ calledIds s.log := by
  have hp := (h.last (by rw [hph]; rfl)).1
  have hf := (h.late (by rw [hph]; rfl)).1
  rcases h.live i hi with hc | hm | hm
  · exact hc
  · simp [hp] at hm
  · simp [hf] at hm

/-! ## The main results -/

/-- **Callbacks.**  In a careful run every callback is invoked at most once, all
of them are by the end of dispose, which is reached, and no message is sent
after the callback of its item. -/
theorem callbacks_once {s : State} (h : Reachable step Careful State.new s) :
    (∀ i, (calledIds s.log).count i ≤ 1) ∧
    (s.phase = .disposed → ∀ i < s.next, (calledIds s.log).count i = 1) ∧
    (∀ l₁ i l₂, s.log = l₁ ++ .sent i :: l₂ → i ∉ calledIds l₁) ∧
    (s.phase ≠ .alive →
      ∃ s', Reachable step (fun _ e => e.internal = true) s s' ∧ s'.phase = .disposed) ∧
    s.fault = none := by
  have ho := once_of_reachable h
  refine ⟨List.nodup_iff_count_le_one.mp ho.calledNodup, ?_, ho.sentFirst,
    ho.reaches_disposed, ho.noFault⟩
  intro hph i hi
  exact List.count_eq_one_of_mem ho.calledNodup (ho.called_of_disposed hph hi)

/-- Enqueue an item, send it, enqueue another one; then dispose of the pipeline
while the first item is in flight and the second one pending. -/
def disposeRun : List Event :=
  [.porterAvailable, .enqueue 0, .idle, .tau, .tau, .enqueue 5, .dispose,
    .tau, .ret, .tau, .tau, .ret, .tau, .tau]

theorem callbacks_once_disposeRun :
    ∃ s, run step State.new disposeRun = some s ∧ s.phase = .disposed ∧ s.next = 2 ∧
      ∀ i < 2, (calledIds s.log).count i = 1 := by
  refine ⟨_, rfl, rfl, rfl, (callbacks_once (reachable_of_run disposeRun ?_ rfl)).2.1 rfl⟩
  repeat' refine admits_cons trivial rfl ?_
  trivial

/-- The callback of item 1, cancelled before it was sent, cancels item 0, which
is in flight. -/
def cancelInCallback : List Event :=
  [.porterAvailable, .enqueue 0, .idle, .tau, .tau, .enqueue 0, .cancel 1, .cancel 0,
    .ret, .tau, .tau, .ret, .tau]

/-- Item 1 is sent after its callback; when its request times out, the assertion
of `create_zombie` fails. -/
theorem cancelledItem_sent :
    ∃ s, Reachable step anyEvent State.new s ∧
      (∃ l₁ l₂, s.log = l₁ ++ .sent 1 :: l₂ ∧ 1 ∈ calledIds l₁) ∧
      ∃ s', step s (.timeout 1) = some s' ∧ s'.fault = some .assertNotZombie := by
  refine ⟨_, reachable_of_run cancelInCallback (admits_anyEvent _) rfl, ?_, _, rfl, rfl⟩
  exact ⟨[.sent 0, .called 1 .cancelled, .called 0 .cancelled], [], rfl, by decide⟩

/-- **Order, bound and progress.**  In a careful run at most ten items are in
flight, messages go out in the order of their items, skipping those that are
done, and the main loop never waits with a pending item and a free slot but no
delayed run. -/
theorem sends_in_order {s : State} (h : Reachable step Careful State.new s) :
    s.itemsInFlight.length ≤ requestPipelineSize ∧
    (sentIds s.log).Pairwise (· < ·) ∧
    (∀ l₁ i l₂, s.log = l₁ ++ .sent i :: l₂ →
      i ∉ calledIds l₁ ∧ ∀ j < i, j ∈ sentIds l₁ ∨ j ∈ calledIds l₁) ∧
    (s.AtRest → s.pendingItems ≠ [] → s.itemsInFlight.length < requestPipelineSize →
      0 < s.delayedRuns) := by
  have ho := once_of_reachable h
  refine ⟨ho.ordered.bound, ho.ordered.fifo.sentSorted, fun l₁ i l₂ hl =>
    ⟨ho.sentFirst l₁ i l₂ hl, (ho.ordered.fifo l₁ i l₂ hl).2⟩, ?_⟩
  rintro ⟨hnil, hph⟩ hp hl
  refine (ho.ordered.noStall hph hp hl).resolve_right ?_
  simp [WillGo, hnil]

/-- Two items are enqueued and the first one is cancelled before it is sent. -/
def cancelledRun : List Event :=
  [.porterAvailable, .enqueue 0, .enqueue 0, .cancel 0, .ret, .idle, .tau, .tau]

theorem sends_in_order_cancelledRun :
    ∃ s, run step State.new cancelledRun = some s ∧ s.AtRest ∧ sentIds s.log = [1] ∧
      ∀ l₁ i l₂, s.log = l₁ ++ .sent i :: l₂ →
        i ∉ calledIds l₁ ∧ ∀ j < i, j ∈ sentIds l₁ ∨ j ∈ calledIds l₁ := by
  refine ⟨_, rfl, ⟨rfl, rfl⟩, rfl, (sends_in_order (reachable_of_run cancelledRun ?_ rfl)).2.2.1⟩
  refine admits_cons trivial rfl (admits_cons trivial rfl (admits_cons trivial rfl
    (admits_cons ?_ rfl ?_)))
  · intro _ j hj
    cases hj
  · repeat' refine admits_cons trivial rfl ?_
    trivial

/-- A cancelled item that is not skipped: its message follows its callback. -/
theorem cancelledItem_not_skipped :
    ¬ ∀ s, Reachable step anyEvent State.new s →
      ∀ l₁ i l₂, s.log = l₁ ++ .sent i :: l₂ → .called i .cancelled ∉ l₁ := by
  intro h
  have hreach : Reachable step anyEvent State.new _ :=
    reachable_of_run cancelInCallback (admits_anyEvent _) rfl
  exact h _ hreach [.sent 0, .called 1 .cancelled, .called 0 .cancelled] 1 [] rfl (by decide)

end RequestPipeline
