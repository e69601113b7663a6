/-
# Order, bound and progress of the request pipeline

What holds in every run, whatever the callbacks do: the bound on the items in
flight, the order in which messages are handed to the connection, and that no
pending item is stranded.  Nothing here depends on what cancelling does to the
item being cancelled; that part is in `RequestPipelineOnce`.
-/
import Mathlib.Data.List.Induction
import Mathlib.Data.List.Nodup
import Mathlib.Tactic.Common
import Gabble.RequestPipeline

open Transition

namespace RequestPipeline

/-! ## The log -/

@[simp] theorem calledIds_nil : calledIds [] = [] := rfl

@[simp] theorem sentIds_nil : sentIds [] = [] := rfl

@[simp] theorem calledIds_append (l₁ l₂ : List Action) :
    calledIds (l₁ ++ l₂) = calledIds l₁ ++ calledIds l₂ := List.filterMap_append

@[simp] theorem sentIds_append (l₁ l₂ : List Action) :
    sentIds (l₁ ++ l₂) = sentIds l₁ ++ sentIds l₂ := List.filterMap_append

@[simp] theorem calledIds_called (i : ItemId) (o : Outcome) :
    calledIds [.called i o] = [i] := rfl

@[simp] theorem calledIds_sent (i : ItemId) : calledIds [.sent i] = [] := rfl

@[simp] theorem sentIds_sent (i : ItemId) : sentIds [.sent i] = [i] := rfl

@[simp] theorem sentIds_called (i : ItemId) (o : Outcome) :
    sentIds [.called i o] = [] := rfl

/-- Messages are handed over in the order of their items: when the message of
`j` is sent, no later one has been sent, and every item enqueued before `j` has
been sent or is done. -/
def Fifo (log : List Action) : Prop :=
  ∀ l₁ j l₂, log = l₁ ++ .sent j :: l₂ →
    (∀ i ∈ sentIds l₁, i < j) ∧ ∀ i < j, i ∈ sentIds l₁ ∨ i ∈ calledIds l₁

/-- A property of every `sent` entry and the log before it, for a longer log. -/
theorem forall_sent_append_singleton {P : List Action → ItemId → Prop}
    {log : List Action} {a : Action}
    (h : ∀ l₁ j l₂, log = l₁ ++ Action.sent j :: l₂ → P l₁ j)
    (ha : ∀ j, a = .sent j → P log j) :
    ∀ l₁ j l₂, log ++ [a] = l₁ ++ Action.sent j :: l₂ → P l₁ j := by
  intro l₁ j l₂ heq
  rcases List.eq_nil_or_concat l₂ with rfl | ⟨l₃, b, rfl⟩
  · obtain ⟨rfl, hab⟩ := List.append_inj' heq rfl
    exact ha j (by simpa using hab)
  · have heq' : log ++ [a] = (l₁ ++ Action.sent j :: l₃) ++ [b] := by simpa using heq
    exact h l₁ j l₃ (List.append_inj' heq' rfl).1

theorem Fifo.sentSorted {log : List Action} (h : Fifo log) :
    (sentIds log).Pairwise (· < ·) := by
  induction log using List.reverseRecOn with
  | nil => exact List.Pairwise.nil
  | append_singleton log a ih =>
    have hlog : Fifo log := fun l₁ j l₂ hl => h l₁ j (l₂ ++ [a]) (by simp [hl])
    cases a with
    | called i o => simpa using ih hlog
    | sent i =>
      rw [sentIds_append, sentIds_sent, List.pairwise_append]
      refine ⟨ih hlog, List.pairwise_singleton .., fun j hj m hm => ?_⟩
      rw [List.mem_singleton.mp hm]
      exact (h log i [] rfl).1 j hj

/-! ## Effect of the operations on the lists -/

namespace State

variable {s : State} {i j : ItemId}

@[simp] theorem setItem_items_self (s : State) (i : ItemId) (item : Item) :
    (s.setItem i item).items i = some item := Function.update_self ..

theorem setItem_items_ne (s : State) (item : Item) (hj : j ≠ i) :
    (s.setItem i item).items j = s.items j := Function.update_of_ne hj ..

/-- `delete_item` by cases: the heap, then the list the flags name. -/
theorem deleteItem_cases (s : State) (i : ItemId) :
    (s.items i = none ∧ s.deleteItem i = s.abort .freedItem) ∨
    ∃ item, s.items i = some item ∧
      ((item.zombie = true ∧ s.deleteItem i =
          { s with cryptItems := s.cryptItems.erase i,
                   items := Function.update s.items i none }) ∨
       (item.zombie = false ∧ item.inFlight = true ∧ s.deleteItem i =
          { s with itemsInFlight := s.itemsInFlight.erase i,
                   items := Function.update s.items i none }) ∨
       (item.zombie = false ∧ item.inFlight = false ∧ s.deleteItem i =
          { s with pendingItems := s.pendingItems.erase i,
                   items := Function.update s.items i none })) := by
  cases h : s.items i with
  | none => exact .inl ⟨rfl, by simp [deleteItem, h]⟩
  | some item =>
    refine .inr ⟨item, rfl, ?_⟩
    cases hz : item.zombie <;> cases hf : item.inFlight <;> simp [deleteItem, h, hz, hf]

/-- `send_next_request` by cases. -/
theorem sendNextRequest_cases (s : State) :
    (s.pendingItems = [] ∧ s.sendNextRequest = s) ∨
    ∃ i rest, s.pendingItems = i :: rest ∧
      ((s.items i = none ∧ s.sendNextRequest = s.abort .freedItem) ∨
       ∃ item, s.items i = some item ∧
        ((item.inFlight = true ∧ s.sendNextRequest = s.abort .assertNotInFlight) ∨
         (item.inFlight = false ∧ s.porter = false ∧ s.sendNextRequest =
            { s with pendingItems := rest, log := s.log ++ [Action.called i .sendFailed],
                     stack := .sendNextRequest i :: s.stack }) ∨
         (item.inFlight = false ∧ s.porter = true ∧ s.sendNextRequest =
            { s with pendingItems := rest, log := s.log ++ [Action.sent i],
                     unanswered := s.unanswered ++ [i],
                     items := Function.update s.items i
                       (some { item with inFlight := true, timer := true }),
                     itemsInFlight := i :: s.itemsInFlight }))) := by
  cases hp : s.pendingItems with
  | nil => exact .inl ⟨rfl, by simp [sendNextRequest, hp]⟩
  | cons i rest =>
    refine .inr ⟨i, rest, rfl, ?_⟩
    cases hi : s.items i with
    | none => exact .inl ⟨rfl, by simp [sendNextRequest, hp, hi]⟩
    | some item =>
      refine .inr ⟨item, rfl, ?_⟩
      cases hf : item.inFlight with
      | true => exact .inl ⟨rfl, by simp [sendNextRequest, hp, hi, hf]⟩
      | false =>
        refine .inr ?_
        cases hpo : s.porter with
        | false =>
          exact .inl ⟨rfl, rfl, by
            simp [sendNextRequest, hp, hi, hf, sendWithReply, hpo, invoke]⟩
        | true =>
          exact .inr ⟨rfl, rfl, by
            simp [sendNextRequest, hp, hi, hf, sendWithReply, hpo, setItem]⟩

theorem deleteItem_of_zombie {item : Item} (hi : s.items i = some item)
    (hz : item.zombie = true) :
    s.deleteItem i = { s with cryptItems := s.cryptItems.erase i,
                              items := Function.update s.items i none } := by
  simp [deleteItem, hi, hz]

@[simp] theorem deleteItem_phase (s : State) (i : ItemId) :
    (s.deleteItem i).phase = s.phase := by
  rcases deleteItem_cases s i with ⟨_, h⟩ | ⟨_, _, ⟨_, h⟩ | ⟨_, _, h⟩ | ⟨_, _, h⟩⟩ <;>
    simp [h, abort]

@[simp] theorem deleteItem_stack (s : State) (i : ItemId) :
    (s.deleteItem i).stack = s.stack := by
  rcases deleteItem_cases s i with ⟨_, h⟩ | ⟨_, _, ⟨_, h⟩ | ⟨_, _, h⟩ | ⟨_, _, h⟩⟩ <;>
    simp [h, abort]

@[simp] theorem deleteItem_porter (s : State) (i : ItemId) :
    (s.deleteItem i).porter = s.porter := by
  rcases deleteItem_cases s i with ⟨_, h⟩ | ⟨_, _, ⟨_, h⟩ | ⟨_, _, h⟩ | ⟨_, _, h⟩⟩ <;>
    simp [h, abort]

theorem sendNextRequestRet_of_noFault (h : (s.deleteItem i).fault = none) :
    s.sendNextRequestRet i = (s.deleteItem i).sendNextRequest := by
  simp [sendNextRequestRet, h]

/-- `delete_item` does not look at the stack. -/
theorem go_deleteItem (s : State) (k : List Frame) (i : ItemId) :
    ({ s with stack := k }.deleteItem i).go = { s with stack := .go :: k }.deleteItem i := by
  unfold deleteItem
  cases hi : s.items i with
  | none => simp [go, abort]
  | some item =>
    cases hz : item.zombie <;> cases hf : item.inFlight <;> simp [hz, hf, go]

end State

/-! ## The invariant -/

/-- A failed send is always under way inside the loop of `go`. -/
def WellStacked : List Frame → Prop
  | [] => True
  | .sendNextRequest _ :: k => k.head? = some .go ∧ WellStacked k
  | _ :: k => WellStacked k

/-- Code on the stack that will run the loop of `go` before the next main-loop
event. -/
def WillGo (stack : List Frame) : Prop :=
  .go ∈ stack ∨ ∃ i, Frame.responseCb i ∈ stack

/-- The invariant of all runs. -/
structure Ordered (s : State) : Prop where
  pendingSorted : s.pendingItems.Pairwise (· < ·)
  pendingLt : ∀ i ∈ s.pendingItems, i < s.next
  sentLt : ∀ i ∈ sentIds s.log, ∀ j ∈ s.pendingItems, i < j
  sentNext : ∀ i ∈ sentIds s.log, i < s.next
  accounted : ∀ i < s.next, i ∈ s.pendingItems ∨ i ∈ sentIds s.log ∨ i ∈ calledIds s.log
  fifo : Fifo s.log
  bound : s.itemsInFlight.length ≤ requestPipelineSize
  framesCalled : ∀ f ∈ s.stack, ∀ i, f.item = some i → i ∈ calledIds s.log
  wellStacked : WellStacked s.stack
  failing : ∀ i, Frame.sendNextRequest i ∈ s.stack → s.porter = false
  flushing : ∀ i, Frame.flush i ∈ s.stack → s.phase ≠ .alive
  noStall : s.phase = .alive → s.pendingItems ≠ [] →
    s.itemsInFlight.length < requestPipelineSize →
    0 < s.delayedRuns ∨ WillGo s.stack

section Preservation

variable {s s' : State} {i : ItemId} {f : Frame} {k : List Frame}

theorem wellStacked_tail (h : WellStacked (f :: k)) : WellStacked k := by
  cases f with
  | sendNextRequest i => exact h.2
  | _ => exact h

theorem willGo_cons (f : Frame) (h : WillGo k) : WillGo (f :: k) := by
  rcases h with h | ⟨i, h⟩
  · exact .inl (List.mem_cons_of_mem _ h)
  · exact .inr ⟨i, List.mem_cons_of_mem _ h⟩

theorem willGo_of_head (h : k.head? = some .go) : WillGo k :=
  .inl (List.mem_of_mem_head? h)

section

variable (h : Ordered s)

include h

theorem Ordered.abort (f : Fault) : Ordered (s.abort f) := { h with }

/-- Replace the top of the stack: by nothing, or by the loop of `go`. -/
theorem Ordered.setStack (hs : s.stack = f :: k) (k' : List Frame) (hk : k' = k ∨ k' = .go :: k)
    (hgo : s.phase = .alive → s.pendingItems ≠ [] →
      s.itemsInFlight.length < requestPipelineSize → 0 < s.delayedRuns ∨ WillGo k') :
    Ordered { s with stack := k' } := by
  have hmem : ∀ g ∈ k, g ∈ s.stack := fun g hg => by
    rw [hs]
    exact List.mem_cons_of_mem _ hg
  have hwell : WellStacked k := wellStacked_tail (hs ▸ h.wellStacked)
  have hmem' : ∀ g, g ≠ .go → g ∈ k' → g ∈ s.stack := by
    intro g hne hg
    rcases hk with rfl | rfl
    · exact hmem g hg
    · exact hmem g (List.mem_of_ne_of_mem hne hg)
  refine { h with
    framesCalled := ?_, wellStacked := ?_, failing := ?_, flushing := ?_, noStall := hgo }
  · rcases hk with rfl | rfl
    · exact fun g hg => h.framesCalled g (hmem g hg)
    · intro g hg j hj
      rcases List.mem_cons.mp hg with rfl | hg
      · cases hj
      · exact h.framesCalled g (hmem g hg) j hj
  · rcases hk with rfl | rfl <;> exact hwell
  · exact fun j hj => h.failing j (hmem' _ (by simp) hj)
  · exact fun j hj => h.flushing j (hmem' _ (by simp) hj)

/-- A callback is invoked: its item is done. -/
theorem Ordered.invoke (o : Outcome) (hf : f.item = some i) (hw : WellStacked (f :: s.stack))
    (hfail : ∀ j, f = .sendNextRequest j → s.porter = false)
    (hflush : ∀ j, f = .flush j → s.phase ≠ .alive) :
    Ordered (s.invoke i o f) := by
  refine { h with
    sentLt := ?sentLt, sentNext := ?sentNext, accounted := ?accounted, fifo := ?fifo
    framesCalled := ?framesCalled, wellStacked := hw, failing := ?failing, flushing := ?flushing
    noStall := ?noStall }
  case sentLt => simpa [State.invoke] using h.sentLt
  case sentNext => simpa [State.invoke] using h.sentNext
  case accounted =>
    intro j hj
    rcases h.accounted j hj with hp | hs | hc
    · exact .inl hp
    · exact .inr (.inl (by simpa [State.invoke] using hs))
    · exact .inr (.inr (by simp [State.invoke, hc]))
  case fifo => exact forall_sent_append_singleton h.fifo (fun j hj => by cases hj)
  case framesCalled =>
    intro g hg j hj
    have hc : calledIds (s.invoke i o f).log = calledIds s.log ++ [i] := by
      simp [State.invoke]
    rw [hc]
    rcases List.mem_cons.mp hg with rfl | hg
    · obtain rfl : i = j := Option.some.inj (hf.symm.trans hj)
      simp
    · exact List.mem_append_left _ (h.framesCalled g hg j hj)
  case failing =>
    intro j hj
    rcases List.mem_cons.mp hj with hjf | hj
    · exact hfail j hjf.symm
    · exact h.failing j hj
  case flushing =>
    intro j hj
    rcases List.mem_cons.mp hj with hjf | hj
    · exact hflush j hjf.symm
    · exact h.flushing j hj
  case noStall =>
    intro ha hp hl
    exact (h.noStall ha hp hl).imp id (willGo_cons f)

/-- `delete_item` for an item that is done.  Its slot may become free, so the
loop of `go` must be going to run. -/
theorem Ordered.deleteItem (hc : i ∈ calledIds s.log) (hgo : s.phase = .alive → WillGo s.stack ∨
      ∀ item, s.items i = some item → item.inFlight = false) :
    Ordered (s.deleteItem i) := by
  rcases State.deleteItem_cases s i with ⟨_, heq⟩ | ⟨item, hi, ⟨_, heq⟩ | ⟨_, hf, heq⟩ | ⟨_, _, heq⟩⟩
  · rw [heq]
    exact h.abort _
  · rw [heq]
    exact { h with }
  · rw [heq]
    refine { h with bound := ?_, noStall := ?_ }
    · exact Nat.le_trans List.length_erase_le h.bound
    · intro ha _ _
      rcases hgo ha with hw | hw
      · exact .inr hw
      · rw [hw item hi] at hf
        cases hf
  · rw [heq]
    have hsub : (s.pendingItems.erase i).Sublist s.pendingItems := List.erase_sublist
    refine { h with
      pendingSorted := h.pendingSorted.sublist hsub
      pendingLt := fun j hj => h.pendingLt j (hsub.subset hj)
      sentLt := fun j hj m hm => h.sentLt j hj m (hsub.subset hm)
      accounted := ?_, noStall := ?_ }
    · intro j hj
      by_cases hji : j = i
      · exact .inr (.inr (hji ▸ hc))
      · exact (h.accounted j hj).imp (fun hp => (List.mem_erase_of_ne hji).mpr hp) id
    · intro ha hp hl
      exact h.noStall ha (fun hnil => hp (by simp [hnil])) hl

/-- `send_next_request`, called from the loop of `go` with a free slot, or after
a failed send, when there is no porter. -/
theorem Ordered.sendNextRequest (hgo : s.stack.head? = some .go)
    (hb : s.porter = true → s.itemsInFlight.length < requestPipelineSize) :
    Ordered s.sendNextRequest := by
  rcases s.sendNextRequest_cases with
    ⟨_, heq⟩ | ⟨i, rest, hp, ⟨_, heq⟩ | ⟨item, _, ⟨_, heq⟩ | ⟨_, hpo, heq⟩ | ⟨_, hpo, heq⟩⟩⟩
  · rwa [heq]
  · rw [heq]
    exact h.abort _
  · rw [heq]
    exact h.abort _
  all_goals
    have hsort := h.pendingSorted
    have hlt := h.pendingLt
    have hsent := h.sentLt
    have hacc := h.accounted
    rw [hp] at hsort hlt hsent hacc
    have hhead : ∀ j ∈ rest, i < j := (List.pairwise_cons.mp hsort).1
    have hrest : ∀ j, j ∈ rest → j ∈ i :: rest := fun j hj => List.mem_cons_of_mem _ hj
    rw [heq]
  · -- no porter: the callback gets the error, the item is done
    have hbase : Ordered
        { s with pendingItems := rest, log := s.log ++ [Action.called i .sendFailed] } := by
      refine { h with
        pendingSorted := (List.pairwise_cons.mp hsort).2
        pendingLt := fun j hj => hlt j (hrest j hj)
        sentLt := ?_, sentNext := ?_, accounted := ?_, fifo := ?_, framesCalled := ?_,
        noStall := fun _ _ _ => .inr (willGo_of_head hgo) }
      · intro j hj m hm
        exact hsent j (by simpa using hj) m (hrest m hm)
      · simpa using h.sentNext
      · intro j hj
        simp only [sentIds_append, sentIds_called, calledIds_append, calledIds_called,
          List.append_nil, List.mem_append, List.mem_singleton]
        rcases hacc j hj with hm | hm | hm
        · rcases List.mem_cons.mp hm with rfl | hm
          · exact .inr (.inr (.inr rfl))
          · exact .inl hm
        · exact .inr (.inl hm)
        · exact .inr (.inr (.inl hm))
      · exact forall_sent_append_singleton h.fifo (fun j hj => by cases hj)
      · intro g hg j hj
        simpa using Or.inl (h.framesCalled g hg j hj)
    refine { hbase with
      framesCalled := ?_, wellStacked := ⟨hgo, h.wellStacked⟩, failing := fun _ _ => hpo
      flushing := fun j hj => h.flushing j (List.mem_of_ne_of_mem (by simp) hj)
      noStall := fun _ _ _ => .inr (willGo_cons _ (willGo_of_head hgo)) }
    intro g hg j hj
    rcases List.mem_cons.mp hg with rfl | hg
    · cases hj
      simp
    · exact hbase.framesCalled g hg j hj
  · -- the message is handed over and the item takes a slot
    refine { h with
      pendingSorted := (List.pairwise_cons.mp hsort).2
      pendingLt := fun j hj => hlt j (hrest j hj)
      sentLt := ?sentLt, sentNext := ?sentNext, accounted := ?accounted, fifo := ?fifo
      bound := ?bound, framesCalled := ?framesCalled
      noStall := fun _ _ _ => .inr (willGo_of_head hgo) }
    case sentLt =>
      intro j hj m hm
      simp only [sentIds_append, sentIds_sent, List.mem_append, List.mem_singleton] at hj
      rcases hj with hj | rfl
      · exact hsent j hj m (hrest m hm)
      · exact hhead m hm
    case sentNext =>
      intro j hj
      simp only [sentIds_append, sentIds_sent, List.mem_append, List.mem_singleton] at hj
      rcases hj with hj | rfl
      · exact h.sentNext j hj
      · exact hlt j List.mem_cons_self
    case accounted =>
      intro j hj
      simp only [sentIds_append, sentIds_sent, calledIds_append, calledIds_sent,
        List.append_nil, List.mem_append, List.mem_singleton]
      rcases hacc j hj with hm | hm | hm
      · rcases List.mem_cons.mp hm with rfl | hm
        · exact .inr (.inl (.inr rfl))
        · exact .inl hm
      · exact .inr (.inl (.inl hm))
      · exact .inr (.inr hm)
    case fifo =>
      apply forall_sent_append_singleton h.fifo
      intro j hj
      cases hj
      refine ⟨fun m hm => hsent m hm i List.mem_cons_self, fun m hm => ?_⟩
      have hmn : m < s.next := Nat.lt_trans hm (hlt i List.mem_cons_self)
      -- the pending list is sorted, so what is smaller than its head is not on it
      refine (hacc m hmn).resolve_left fun hmem => ?_
      rcases List.mem_cons.mp hmem with rfl | hmem
      · exact Nat.lt_irrefl _ hm
      · exact Nat.lt_asymm hm (hhead m hmem)
    case bound => exact Nat.succ_le_of_lt (hb hpo)
    case framesCalled =>
      intro g hg j hj
      simpa using h.framesCalled g hg j hj

theorem Ordered.enqueue (timeout : ℕ) : Ordered (s.enqueue timeout) := by
  refine { h with
    pendingSorted := ?pendingSorted, pendingLt := ?pendingLt, sentLt := ?sentLt
    sentNext := ?sentNext, accounted := ?accounted, noStall := ?noStall }
  case pendingSorted =>
    refine List.pairwise_append.mpr ⟨h.pendingSorted, List.pairwise_singleton _ _, ?_⟩
    intro j hj m hm
    rw [List.mem_singleton.mp hm]
    exact h.pendingLt j hj
  case pendingLt =>
    intro j hj
    rcases List.mem_append.mp hj with hj | hj
    · exact Nat.lt_succ_of_lt (h.pendingLt j hj)
    · rw [List.mem_singleton.mp hj]
      exact Nat.lt_succ_self _
  case sentLt =>
    intro j hj m hm
    rcases List.mem_append.mp hm with hm | hm
    · exact h.sentLt j hj m hm
    · rw [List.mem_singleton.mp hm]
      exact h.sentNext j hj
  case sentNext => exact fun j hj => Nat.lt_succ_of_lt (h.sentNext j hj)
  case accounted =>
    intro j hj
    rcases Nat.lt_succ_iff_lt_or_eq.mp hj with hj | rfl
    · exact (h.accounted j hj).imp (fun hp => List.mem_append_left _ hp) id
    · exact .inl (List.mem_append_right _ (List.mem_singleton_self _))
  case noStall =>
    -- with a free slot a run is scheduled; otherwise there is nothing to show
    intro _ _ hl
    left
    have hd : (s.enqueue timeout).delayedRuns = s.delayedRuns + 1 := if_pos hl
    omega

theorem Ordered.go : Ordered s.go := by
  refine { h with framesCalled := ?_, failing := ?_, flushing := ?_, noStall := ?_ }
  · intro g hg j hj
    rcases List.mem_cons.mp hg with rfl | hg
    · cases hj
    · exact h.framesCalled g hg j hj
  · exact fun j hj => h.failing j (List.mem_of_ne_of_mem (by simp) hj)
  · exact fun j hj => h.flushing j (List.mem_of_ne_of_mem (by simp) hj)
  · exact fun _ _ _ => .inr (.inl List.mem_cons_self)

theorem Ordered.createZombie (i : ItemId) (o : Outcome) :
    Ordered (s.createZombie i o) := by
  unfold State.createZombie
  split
  · exact h.abort _
  · split
    · exact h.abort _
    · rename_i item _ _
      have hset : Ordered (s.setItem i { item with timer := false }) := { h with }
      exact hset.invoke o rfl hset.wellStacked (fun j hj => by cases hj)
        (fun j hj => by cases hj)

theorem Ordered.createZombieRet (hc : i ∈ calledIds s.log) :
    Ordered (s.createZombieRet i) := by
  unfold State.createZombieRet
  split
  · exact h.abort _
  · rename_i item hi
    split
    · -- the slot becomes free, and the loop of `go` runs
      refine { h.go with bound := ?_, noStall := ?_ }
      · exact Nat.le_trans List.length_erase_le h.bound
      · exact fun _ _ _ => .inr (.inl List.mem_cons_self)
    · rename_i hf
      refine h.deleteItem hc fun _ => .inr fun item' hi' => ?_
      rw [hi] at hi'
      cases hi'
      simpa using hf

theorem Ordered.responseCb (i : ItemId) : Ordered (s.responseCb i) := by
  unfold State.responseCb
  split
  · exact h.abort _
  · rename_i item hi
    split
    · exact h
    · split
      · exact h.abort _
      · -- the reply frees a slot; the frame of `response_cb` will run the loop
        have hbound := Nat.le_trans (List.length_erase_le (a := i)) h.bound
        split
        · rename_i hz
          dsimp only
          rw [State.deleteItem_of_zombie
            (s := { s with itemsInFlight := s.itemsInFlight.erase i }) hi hz]
          exact { h.go with
            bound := hbound, noStall := fun _ _ _ => .inr (.inl List.mem_cons_self) }
        · exact
            { h.invoke (f := .responseCb i) .reply rfl h.wellStacked (fun j hj => by cases hj)
                (fun j hj => by cases hj) with
              bound := hbound
              noStall := fun _ _ _ => .inr (.inr ⟨i, List.mem_cons_self⟩) }

theorem Ordered.flushLoop {q : Queue} (hq : s.phase = .flushing q) :
    Ordered (s.flushLoop q) := by
  unfold State.flushLoop
  split
  · cases q <;> exact { h with flushing := nofun, noStall := nofun }
  · split
    · exact h.abort _
    · rename_i i _ _ _ item hi
      split
      · rename_i hz
        rw [State.deleteItem_of_zombie hi hz]
        exact { h with }
      · refine h.invoke _ rfl h.wellStacked (fun j hj => by cases hj) (fun j hj ha => ?_)
        rw [hq] at ha
        cases ha

end

end Preservation

/-! ## Steps and runs -/

theorem ordered_new : Ordered State.new where
  pendingSorted := List.Pairwise.nil
  pendingLt := by simp [State.new]
  sentLt := by simp [State.new]
  sentNext := by simp [State.new]
  accounted := by simp [State.new]
  fifo := by
    intro l₁ j l₂ h
    simp [State.new] at h
  bound := Nat.zero_le _
  framesCalled := by simp [State.new]
  wellStacked := trivial
  failing := by simp [State.new]
  flushing := by simp [State.new]
  noStall := by simp [State.new]

/-- The item whose send failed is deleted; the loop of `go` is still running. -/
theorem Ordered.deleteFailed {s : State} {i : ItemId} {k : List Frame} (h : Ordered s)
    (hk : s.stack = .sendNextRequest i :: k) : Ordered ({ s with stack := k }.deleteItem i) := by
  have hc : i ∈ calledIds s.log := h.framesCalled _ (hk ▸ List.mem_cons_self) i rfl
  have hwell : WellStacked (.sendNextRequest i :: k) := hk ▸ h.wellStacked
  have hgo : WillGo k := willGo_of_head hwell.1
  exact (h.setStack hk k (.inl rfl) fun _ _ _ => .inr hgo).deleteItem hc fun _ => .inl hgo

/-- The return of a callback. -/
theorem Ordered.stepRet {s s' : State} (h : Ordered s) (hs : stepRet s = some s') :
    Ordered s' := by
  unfold RequestPipeline.stepRet at hs
  split at hs
  · -- `create_zombie`
    rename_i i k hk
    cases hs
    have hc : i ∈ calledIds s.log := h.framesCalled _ (hk ▸ List.mem_cons_self) i rfl
    refine (h.setStack hk k (.inl rfl) ?_).createZombieRet hc
    intro ha hp hl
    refine (h.noStall ha hp hl).imp id fun hw => ?_
    simpa [WillGo, hk] using hw
  · -- `response_cb`: the loop of `go` takes the place of its frame
    rename_i i k hk
    cases hs
    have hc : i ∈ calledIds s.log := h.framesCalled _ (hk ▸ List.mem_cons_self) i rfl
    have hgo : WillGo (.go :: k) := .inl List.mem_cons_self
    have h' := (h.setStack hk (.go :: k) (.inr rfl) fun _ _ _ => .inr hgo).deleteItem hc
      fun _ => .inl hgo
    rwa [State.go_deleteItem]
  · -- `send_next_request`, inside the loop of `go`, without a porter
    rename_i i k hk
    cases hs
    have hwell : WellStacked (.sendNextRequest i :: k) := hk ▸ h.wellStacked
    have hpo : s.porter = false := h.failing i (hk ▸ List.mem_cons_self)
    have h' := h.deleteFailed hk
    unfold State.sendNextRequestRet
    dsimp only
    split
    · exact h'
    · refine h'.sendNextRequest ?_ ?_
      · rw [State.deleteItem_stack]
        exact hwell.1
      · rw [State.deleteItem_porter]
        intro hpo'
        rw [hpo] at hpo'
        cases hpo'
  · -- `flush`
    rename_i i k hk
    cases hs
    have hc : i ∈ calledIds s.log := h.framesCalled _ (hk ▸ List.mem_cons_self) i rfl
    have hph : s.phase ≠ .alive := h.flushing i (hk ▸ List.mem_cons_self)
    exact (h.setStack hk k (.inl rfl) fun ha => absurd ha hph).deleteItem hc
      fun ha => absurd ha hph
  · cases hs
  · cases hs

/-- The loops of `go` and of `flush`. -/
theorem Ordered.stepTau {s s' : State} (h : Ordered s) (hs : stepTau s = some s') :
    Ordered s' := by
  unfold RequestPipeline.stepTau at hs
  split at hs
  · rename_i k hk
    cases hs
    unfold State.goLoop
    split
    · rename_i hl
      exact h.sendNextRequest (by rw [hk]; rfl) fun _ => hl.2
    · -- the loop ends when nothing is pending or the pipeline is full
      rename_i hl
      rw [hk, List.tail_cons]
      exact h.setStack hk k (.inl rfl) fun _ hp hlt => absurd ⟨hp, hlt⟩ hl
  · cases hs
  · split at hs
    · rename_i q hq
      cases hs
      exact h.flushLoop hq
    · cases hs

/-- **One step.**  Every event keeps the invariant. -/
theorem Ordered.step {s s' : State} {e : Event} (h : Ordered s) (hs : step s e = some s') :
    Ordered s' := by
  unfold RequestPipeline.step at hs
  split at hs
  · cases hs
  cases e with
  | ret => exact h.stepRet hs
  | tau => exact h.stepTau hs
  | enqueue timeout =>
    obtain ⟨_, ⟨⟩⟩ := Option.ite_none_right_eq_some.mp hs
    exact h.enqueue timeout
  | cancel i =>
    obtain ⟨_, ⟨⟩⟩ := Option.ite_none_right_eq_some.mp hs
    exact h.createZombie i _
  | timeout i =>
    obtain ⟨_, ⟨⟩⟩ := Option.ite_none_right_eq_some.mp hs
    exact h.createZombie i _
  | idle =>
    obtain ⟨_, ⟨⟩⟩ := Option.ite_none_right_eq_some.mp hs
    exact { h.go with noStall := fun _ _ _ => .inr (.inl List.mem_cons_self) }
  | dispose =>
    obtain ⟨hrest, ⟨⟩⟩ := Option.ite_none_right_eq_some.mp hs
    exact { h with flushing := nofun, noStall := nofun }
  | porterAvailable =>
    obtain ⟨hrest, ⟨⟩⟩ := Option.ite_none_right_eq_some.mp hs
    exact { h with failing := fun i hi => by simp [hrest.1] at hi }
  | porterGone =>
    cases hs
    exact { h with failing := fun _ _ => rfl }
  | reply i =>
    simp only [stepReply] at hs
    split at hs
    · split at hs
      · cases hs
        have h' : Ordered { s with unanswered := s.unanswered.erase i } := { h with }
        exact h'.responseCb i
      · cases hs
        exact { h with }
      · cases hs
    · cases hs

end RequestPipeline
