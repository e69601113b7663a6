/-
# Every callback once

`create_zombie` runs the callback of the item it cancels while the item is
still linked in its list, and before its flags are updated.  If the item is
still pending and the callback cancels another item that is in flight, the loop
of `go` runs inside that callback and sends the very item that is being
cancelled.  In the runs where no callback does that
(`Careful`), every callback is invoked once and nothing is sent after it.
-/
import Mathlib.Data.List.Nodup
import Mathlib.Tactic.Common
import Gabble.RequestPipelineOrder

open Transition

namespace RequestPipeline

/-- The condition on one event: while the callback of an item that is cancelled
before it was sent is running, no item in flight is cancelled. -/
def Careful (s : State) : Event → Prop
  | .cancel i => i ∈ s.itemsInFlight →
      ∀ j, Frame.createZombie j ∈ s.stack → j ∉ s.pendingItems
  | _ => True

/-- The frame of an item that is being cancelled before it was sent. -/
def CancelsPending (s : State) (f : Frame) : Prop :=
  ∃ i ∈ s.pendingItems, f = .createZombie i

/-- Where the item of a frame is while its callback runs. -/
def FrameOk (s : State) : Frame → Prop
  | .createZombie i => i ∈ s.pendingItems ∨ i ∈ s.itemsInFlight
  | .responseCb i => i ∉ s.pendingItems ∧ i ∉ s.itemsInFlight ∧
      ∃ item, s.items i = some item ∧ item.zombie = false
  | .sendNextRequest i => i ∉ s.pendingItems ∧ i ∉ s.itemsInFlight ∧
      ∃ item, s.items i = some item ∧ item.zombie = false
  | .flush i => (s.phase = .flushing .inFlight ∧ i ∈ s.itemsInFlight) ∨
      (s.phase = .flushing .pending ∧ i ∈ s.pendingItems)
  | .go => True

/-- Nothing is in flight any more and nothing will be sent. -/
def Phase.late : Phase → Bool
  | .alive => false
  | .flushing .inFlight => false
  | .flushing .pending => true
  | .flushing .crypt => true
  | .disposed => true

/-- Nothing is pending any more either. -/
def Phase.last : Phase → Bool
  | .flushing .crypt => true
  | .disposed => true
  | _ => false

/-- A frame from which the code may still send a message. -/
def Frame.sends : Frame → Bool
  | .responseCb _ => true
  | .sendNextRequest _ => true
  | .go => true
  | _ => false

/-- The invariant of the careful runs. -/
structure Once (s : State) : Prop where
  noFault : s.fault = none
  ordered : Ordered s
  pendingItem : ∀ i ∈ s.pendingItems, ∃ item, s.items i = some item ∧
    item.inFlight = false ∧ item.zombie = false
  inFlightItem : ∀ i ∈ s.itemsInFlight, ∃ item, s.items i = some item ∧
    item.inFlight = true ∧ item.zombie = false
  cryptItem : ∀ i ∈ s.cryptItems, ∃ item, s.items i = some item ∧ item.zombie = true
  allocated : ∀ i, s.items i ≠ none → i < s.next
  inFlightNodup : s.itemsInFlight.Nodup
  cryptNodup : s.cryptItems.Nodup
  timerArmed : ∀ i item, s.items i = some item → item.timer = true →
    (i ∈ s.itemsInFlight ∧ .createZombie i ∉ s.stack) ∨ .responseCb i ∈ s.stack
  answerable : s.phase = .alive → s.unanswered.Nodup ∧
    ∀ i ∈ s.unanswered, i ∈ s.itemsInFlight ∨ i ∈ s.cryptItems
  calledLt : ∀ i ∈ calledIds s.log, i < s.next
  calledNodup : (calledIds s.log).Nodup
  live : ∀ i < s.next, i ∈ calledIds s.log ∨ i ∈ s.pendingItems ∨ i ∈ s.itemsInFlight
  sentFirst : ∀ l₁ j l₂, s.log = l₁ ++ .sent j :: l₂ → j ∉ calledIds l₁
  calledLinked : ∀ i ∈ calledIds s.log, i ∈ s.pendingItems ∨ i ∈ s.itemsInFlight →
    .createZombie i ∈ s.stack ∨ .flush i ∈ s.stack
  frames : ∀ f ∈ s.stack, FrameOk s f
  framesNodup : (s.stack.filterMap Frame.item).Nodup
  shape : s.stack.Pairwise fun above below => CancelsPending s below → CancelsPending s above
  late : s.phase.late = true → s.itemsInFlight = [] ∧ ∀ f ∈ s.stack, f.sends = false
  last : s.phase.last = true → s.pendingItems = [] ∧ s.stack = []

/-- The item `i` taken off the lists and freed, with the stack set to `k`. -/
def State.unlink (s : State) (i : ItemId) (k : List Frame) : State :=
  { s with
    stack := k
    items := Function.update s.items i none
    pendingItems := s.pendingItems.erase i
    itemsInFlight := s.itemsInFlight.erase i }

namespace Once

variable {s : State} {i : ItemId} {f : Frame} {k : List Frame}

/-! ## Consequences -/

section

variable (h : Once s)

include h

theorem pending_inFlight_disjoint (hp : i ∈ s.pendingItems) :
    i ∉ s.itemsInFlight := by
  intro hf
  obtain ⟨item, hi, hflag, _⟩ := h.pendingItem i hp
  obtain ⟨item', hi', hflag', _⟩ := h.inFlightItem i hf
  rw [hi] at hi'
  cases hi'
  rw [hflag] at hflag'
  cases hflag'

theorem pendingNodup : s.pendingItems.Nodup :=
  h.ordered.pendingSorted.imp Nat.ne_of_lt

/-- A linked item is a heap object, not a zombie. -/
theorem linkedItem (hlink : i ∈ s.pendingItems ∨ i ∈ s.itemsInFlight) :
    ∃ item, s.items i = some item ∧ item.zombie = false := by
  rcases hlink with hm | hm
  · obtain ⟨item, h1, _, h3⟩ := h.pendingItem i hm
    exact ⟨item, h1, h3⟩
  · obtain ⟨item, h1, _, h3⟩ := h.inFlightItem i hm
    exact ⟨item, h1, h3⟩

/-- So is the item of a frame on the stack. -/
theorem frameItem (hf : f ∈ s.stack) (hi : f.item = some i) :
    ∃ item, s.items i = some item ∧ item.zombie = false := by
  have hok := h.frames f hf
  cases f with
  | go => cases hi
  | createZombie j =>
    cases hi
    exact h.linkedItem hok
  | responseCb j =>
    cases hi
    exact hok.2.2
  | sendNextRequest j =>
    cases hi
    exact hok.2.2
  | flush j =>
    cases hi
    exact h.linkedItem (hok.elim (fun hq => .inr hq.2) fun hq => .inl hq.2)

/-- With nothing on the stack, what is linked has not been called. -/
theorem notCalled_of_empty (hs : s.stack = [])
    (hi : i ∈ s.pendingItems ∨ i ∈ s.itemsInFlight) : i ∉ calledIds s.log := by
  intro hc
  rcases h.calledLinked i hc hi with hm | hm <;> simp [hs] at hm

/-- Under a frame that cancels no pending item there is none that does. -/
theorem noCancelsPending (hk : s.stack = f :: k)
    (hf : ¬ CancelsPending s f) : ∀ g ∈ s.stack, ¬ CancelsPending s g := by
  have hshape := h.shape
  rw [hk] at hshape ⊢
  intro g hg
  rcases List.mem_cons.mp hg with rfl | hg
  · exact hf
  · exact fun hc => hf ((List.pairwise_cons.mp hshape).1 g hg hc)

/-- The item that `send_next_request` takes has not been called. -/
theorem head_notCalled (hgo : Frame.go ∈ s.stack)
    (hclean : ∀ g ∈ s.stack, ¬ CancelsPending s g) (hi : i ∈ s.pendingItems) :
    i ∉ calledIds s.log := by
  intro hc
  rcases h.calledLinked i hc (.inl hi) with hm | hm
  · exact hclean _ hm ⟨i, hi, rfl⟩
  · rcases h.frames _ hm with ⟨_, hf⟩ | ⟨hph, _⟩
    · exact h.pending_inFlight_disjoint hi hf
    · -- the pending list is only flushed when the code sends nothing any more
      have := (h.late (by rw [hph]; rfl)).2 _ hgo
      cases this

/-- What is not a zombie is not in the crypt. -/
theorem notCrypt {item : Item} (hitem : s.items i = some item)
    (hz : item.zombie = false) : i ∉ s.cryptItems := by
  intro hi
  obtain ⟨it, hit, hzombie⟩ := h.cryptItem i hi
  rw [hitem] at hit
  cases hit
  rw [hz] at hzombie
  cases hzombie

/-- Only the frame on top is about its item. -/
theorem others_ne (hk : s.stack = f :: k) (hi : f.item = some i) :
    (∀ g ∈ k, g.item ≠ some i) ∧ (k.filterMap Frame.item).Nodup := by
  have hnodup := h.framesNodup
  rw [hk, List.filterMap_cons_some hi] at hnodup
  obtain ⟨hnot, hrest⟩ := List.nodup_cons.mp hnodup
  exact ⟨fun g hg hgi => hnot (List.mem_filterMap.mpr ⟨g, hg, hgi⟩), hrest⟩

end

/-- The frame of another item is below. -/
theorem mem_below {g : Frame} {j : ItemId} (hi : f.item = some i) (hj : g.item = some j)
    (hji : j ≠ i) (hg : g ∈ f :: k) : g ∈ k := by
  refine List.mem_of_ne_of_mem (fun hfr => hji ?_) hg
  rw [hfr, hi] at hj
  exact (Option.some.inj hj).symm

/-- The callback of an item that was not called yet goes to the end of the log. -/
theorem log_called (h : Once s) (hc : i ∉ calledIds s.log) (hlt : i < s.next) (o : Outcome) :
    (∀ j ∈ calledIds (s.log ++ [Action.called i o]), j < s.next) ∧
      (calledIds (s.log ++ [Action.called i o])).Nodup ∧
      ∀ l₁ j l₂, s.log ++ [Action.called i o] = l₁ ++ Action.sent j :: l₂ → j ∉ calledIds l₁ := by
  have hlog : calledIds (s.log ++ [Action.called i o]) = calledIds s.log ++ [i] := by simp
  refine ⟨fun j hj => ?_, ?_, ?_⟩
  · rw [hlog] at hj
    rcases List.mem_append.mp hj with hj | hj
    · exact h.calledLt j hj
    · exact List.mem_singleton.mp hj ▸ hlt
  · rw [hlog]
    exact List.nodup_append.mpr ⟨h.calledNodup, List.nodup_singleton _, fun a ha b hb hab =>
      hc (List.mem_singleton.mp hb ▸ hab ▸ ha)⟩
  · exact forall_sent_append_singleton h.sentFirst (fun j hj => by cases hj)

/-! ## One operation at a time -/

/-- Stopping a timer changes nothing else. -/
theorem clearTimer (h : Once s) {item : Item} (hi : s.items i = some item) :
    Once (s.setItem i { item with timer := false }) := by
  have hord : Ordered (s.setItem i { item with timer := false }) := { h.ordered with }
  -- an item keeps the flags the invariant speaks of
  have hkeep : ∀ {P : Item → Prop} (j : ItemId),
      (∀ it : Item, P it → P { it with timer := false }) →
      (∃ it, s.items j = some it ∧ P it) →
      ∃ it, (s.setItem i { item with timer := false }).items j = some it ∧ P it := by
    rintro P j hP ⟨it, hj, hit⟩
    by_cases hji : j = i
    · subst hji
      rw [hi] at hj
      cases hj
      exact ⟨_, State.setItem_items_self .., hP _ hit⟩
    · exact ⟨it, (State.setItem_items_ne s _ hji).trans hj, hit⟩
  refine { h with
    ordered := hord, pendingItem := ?pendingItem, inFlightItem := ?inFlightItem,
    cryptItem := ?cryptItem, allocated := ?allocated,
    timerArmed := ?timerArmed, frames := ?frames }
  case pendingItem => exact fun j hj => hkeep j (fun _ hit => hit) (h.pendingItem j hj)
  case inFlightItem => exact fun j hj => hkeep j (fun _ hit => hit) (h.inFlightItem j hj)
  case cryptItem => exact fun j hj => hkeep j (fun _ hit => hit) (h.cryptItem j hj)
  case allocated =>
    intro j hj
    by_cases hji : j = i
    · exact h.allocated j (by rw [hji, hi]; simp)
    · rw [State.setItem_items_ne s _ hji] at hj
      exact h.allocated j hj
  case timerArmed =>
    intro j it hj ht
    by_cases hji : j = i
    · subst hji
      rw [State.setItem_items_self] at hj
      cases hj
      cases ht
    · rw [State.setItem_items_ne s _ hji] at hj
      exact h.timerArmed j it hj ht
  case frames =>
    intro g hg
    have hok := h.frames g hg
    cases g with
    | responseCb j => exact ⟨hok.1, hok.2.1, hkeep j (fun _ hit => hit) hok.2.2⟩
    | sendNextRequest j => exact ⟨hok.1, hok.2.1, hkeep j (fun _ hit => hit) hok.2.2⟩
    | _ => exact hok

/-- The callback of a linked item is invoked by `create_zombie` or `flush`. -/
theorem invokeLinked (h : Once s) (o : Outcome)
    (hf : f = .createZombie i ∨ f = Frame.flush i) (hc : i ∉ calledIds s.log)
    (hok : FrameOk s f) (hlt : i < s.next) (hlast : s.phase.last = false)
    (htimer : f = .createZombie i → s.timerArmed i = false)
    (hshape : ∀ g ∈ s.stack, CancelsPending s g → CancelsPending s f)
    (hord : Ordered (s.invoke i o f)) : Once (s.invoke i o f) := by
  have hitem : f.item = some i := by rcases hf with rfl | rfl <;> rfl
  have hsends : f.sends = false := by rcases hf with rfl | rfl <;> rfl
  have hlog : calledIds (s.invoke i o f).log = calledIds s.log ++ [i] := by
    simp [State.invoke]
  obtain ⟨hcalledLt, hcalledNodup, hsentFirst⟩ := h.log_called hc hlt o
  refine { h with
    ordered := hord, timerArmed := ?timerArmed, calledLt := hcalledLt, calledNodup := hcalledNodup
    live := ?live, sentFirst := hsentFirst, calledLinked := ?calledLinked, frames := ?frames,
    framesNodup := ?framesNodup
    shape := ?shape, late := ?late, last := ?last }
  case timerArmed =>
    intro j it hj ht
    refine (h.timerArmed j it hj ht).imp (fun hm => ⟨hm.1, fun hz => ?_⟩)
      (List.mem_cons_of_mem _)
    rcases List.mem_cons.mp hz with hzf | hz
    · obtain rfl : j = i := by rcases hf with rfl | rfl <;> cases hzf; rfl
      have hoff := htimer hzf.symm
      simp only [State.timerArmed, show s.items j = some it from hj, ht] at hoff
      cases hoff
    · exact hm.2 hz
  case live =>
    intro j hj
    rw [hlog]
    exact (h.live j hj).imp (fun hm => List.mem_append_left _ hm) id
  case calledLinked =>
    intro j hj hlink
    rw [hlog] at hj
    rcases List.mem_append.mp hj with hj | hj
    · exact (h.calledLinked j hj hlink).imp (List.mem_cons_of_mem _) (List.mem_cons_of_mem _)
    · obtain rfl := List.mem_singleton.mp hj
      rcases hf with rfl | rfl
      · exact .inl List.mem_cons_self
      · exact .inr List.mem_cons_self
  case frames =>
    intro g hg
    rcases List.mem_cons.mp hg with rfl | hg
    · exact hok
    · exact h.frames g hg
  case framesNodup =>
    have hnot : i ∉ s.stack.filterMap Frame.item := by
      intro hm
      obtain ⟨g, hg, hgi⟩ := List.mem_filterMap.mp hm
      exact hc (h.ordered.framesCalled g hg i hgi)
    show ((f :: s.stack).filterMap Frame.item).Nodup
    rw [List.filterMap_cons_some hitem]
    exact List.nodup_cons.mpr ⟨hnot, h.framesNodup⟩
  case shape => exact List.pairwise_cons.mpr ⟨hshape, h.shape⟩
  case late =>
    intro hl
    refine ⟨(h.late hl).1, fun g hg => ?_⟩
    rcases List.mem_cons.mp hg with rfl | hg
    · exact hsends
    · exact (h.late hl).2 g hg
  case last =>
    intro hl
    rw [show (s.invoke i o f).phase = s.phase from rfl, hlast] at hl
    cases hl

/-- A frame only looks at its own item. -/
theorem frameOk_congr {s' : State} (hok : FrameOk s f) (hph : s'.phase = s.phase)
    (hsame : ∀ j, f.item = some j → (j ∈ s'.pendingItems ↔ j ∈ s.pendingItems) ∧
      (j ∈ s'.itemsInFlight ↔ j ∈ s.itemsInFlight) ∧ s'.items j = s.items j) :
    FrameOk s' f := by
  cases f with
  | go => trivial
  | createZombie j =>
    obtain ⟨hp, hf, _⟩ := hsame j rfl
    exact hok.imp hp.mpr hf.mpr
  | responseCb j =>
    obtain ⟨hp, hf, hi⟩ := hsame j rfl
    exact ⟨fun hm => hok.1 (hp.mp hm), fun hm => hok.2.1 (hf.mp hm), hi ▸ hok.2.2⟩
  | sendNextRequest j =>
    obtain ⟨hp, hf, hi⟩ := hsame j rfl
    exact ⟨fun hm => hok.1 (hp.mp hm), fun hm => hok.2.1 (hf.mp hm), hi ▸ hok.2.2⟩
  | flush j =>
    obtain ⟨hp, hf, _⟩ := hsame j rfl
    exact hok.imp (fun hq => ⟨hph ▸ hq.1, hf.mpr hq.2⟩) fun hq => ⟨hph ▸ hq.1, hp.mpr hq.2⟩

/-- `delete_item` for the item of a frame unlinks it from both lists: it is on
the one its flags name, if on any. -/
theorem deleteItem_eq_unlink (h : Once s) (hf : f ∈ s.stack) (hi : f.item = some i)
    (k : List Frame) : { s with stack := k }.deleteItem i = s.unlink i k := by
  obtain ⟨item, hitem, hz⟩ := h.frameItem hf hi
  have hnp : item.inFlight = true → i ∉ s.pendingItems := by
    intro hfl hp
    obtain ⟨item', hi', hfl', _⟩ := h.pendingItem i hp
    rw [hitem] at hi'
    cases hi'
    rw [hfl] at hfl'
    cases hfl'
  have hnf : item.inFlight = false → i ∉ s.itemsInFlight := by
    intro hfl hp
    obtain ⟨item', hi', hfl', _⟩ := h.inFlightItem i hp
    rw [hitem] at hi'
    cases hi'
    rw [hfl] at hfl'
    cases hfl'
  cases hfl : item.inFlight with
  | true =>
    simp [State.deleteItem, hitem, hz, hfl, State.unlink, List.erase_of_not_mem (hnp hfl)]
  | false =>
    simp [State.deleteItem, hitem, hz, hfl, State.unlink, List.erase_of_not_mem (hnf hfl)]

/-- The callback of a frame has returned and its item is deleted; the frame is
popped, or the loop of `go` takes its place. -/
theorem deleteReturned (h : Once s) (hk : s.stack = f :: k) (hi : f.item = some i)
    (k' : List Frame) (hk' : k' = k ∨ k' = .go :: k ∧ f.sends = true)
    (hslot : s.phase = .alive → i ∉ s.itemsInFlight)
    (hord : Ordered ({ s with stack := k' }.deleteItem i)) :
    Once ({ s with stack := k' }.deleteItem i) := by
  have hfmem : f ∈ s.stack := hk ▸ List.mem_cons_self
  have hmem : ∀ g ∈ k, g ∈ s.stack := fun g hg => hk ▸ List.mem_cons_of_mem _ hg
  have hcalled : i ∈ calledIds s.log := h.ordered.framesCalled f hfmem i hi
  obtain ⟨hother, hnodup⟩ := h.others_ne hk hi
  have hpmem : ∀ j, j ∈ s.pendingItems.erase i → j ≠ i ∧ j ∈ s.pendingItems := fun j hj =>
    (h.pendingNodup.mem_erase_iff).mp hj
  have hfmem' : ∀ j, j ∈ s.itemsInFlight.erase i → j ≠ i ∧ j ∈ s.itemsInFlight := fun j hj =>
    (h.inFlightNodup.mem_erase_iff).mp hj
  have hcne : ∀ j ∈ s.cryptItems, j ≠ i := by
    rintro j hj rfl
    obtain ⟨it, hit, hz⟩ := h.frameItem hfmem hi
    exact h.notCrypt hit hz hj
  have hshape := h.shape
  rw [hk] at hshape
  rw [h.deleteItem_eq_unlink hfmem hi] at hord ⊢
  have hitems : ∀ j, j ≠ i → (s.unlink i k').items j = s.items j := fun j hj =>
    Function.update_of_ne hj ..
  -- no frame below works on `i`, so each cancels a pending item if it did before
  have hcp : ∀ g ∈ k, CancelsPending (s.unlink i k') g ↔ CancelsPending s g := by
    intro g hg
    constructor
    · rintro ⟨j, hj, rfl⟩
      exact ⟨j, (hpmem j hj).2, rfl⟩
    · rintro ⟨j, hj, rfl⟩
      have hji : j ≠ i := fun hji => hother _ hg (congrArg some hji)
      exact ⟨j, (List.mem_erase_of_ne hji).mpr hj, rfl⟩
  have hkmem : ∀ g ∈ k', g = .go ∨ g ∈ k := by
    rcases hk' with rfl | ⟨rfl, _⟩
    · exact fun g hg => .inr hg
    · exact fun g hg => List.mem_cons.mp hg
  have hkin : ∀ g ∈ k, g ∈ k' := by
    rcases hk' with rfl | ⟨rfl, _⟩
    · exact fun g hg => hg
    · exact fun g hg => List.mem_cons_of_mem _ hg
  refine { h with
    ordered := hord, pendingItem := ?pendingItem, inFlightItem := ?inFlightItem,
    cryptItem := ?cryptItem, allocated := ?allocated,
    inFlightNodup := h.inFlightNodup.erase _, timerArmed := ?timerArmed,
    answerable := ?answerable, live := ?live,
    calledLinked := ?calledLinked, frames := ?frames, framesNodup := ?framesNodup,
    shape := ?shape, late := ?late, last := ?last }
  case pendingItem =>
    intro j hj
    rw [hitems j (hpmem j hj).1]
    exact h.pendingItem j (hpmem j hj).2
  case inFlightItem =>
    intro j hj
    rw [hitems j (hfmem' j hj).1]
    exact h.inFlightItem j (hfmem' j hj).2
  case cryptItem =>
    intro j hj
    rw [hitems j (hcne j hj)]
    exact h.cryptItem j hj
  case allocated =>
    intro j hj
    by_cases hji : j = i
    · exact hji ▸ h.calledLt i hcalled
    · rw [hitems j hji] at hj
      exact h.allocated j hj
  case timerArmed =>
    intro j it hj ht
    by_cases hji : j = i
    · simp [State.unlink, hji] at hj
    · rw [hitems j hji] at hj
      refine (h.timerArmed j it hj ht).imp
        (fun hm => ⟨(List.mem_erase_of_ne hji).mpr hm.1, fun hz => ?_⟩) fun hr => ?_
      · rcases hkmem _ hz with hz | hz
        · cases hz
        · exact hm.2 (hmem _ hz)
      rw [hk] at hr
      exact hkin _ (mem_below hi rfl hji hr)
  case answerable =>
    intro ha
    refine ⟨(h.answerable ha).1, fun j hj => ((h.answerable ha).2 j hj).imp (fun hm => ?_) id⟩
    have hji : j ≠ i := fun hji => hslot ha (hji ▸ hm)
    exact (List.mem_erase_of_ne hji).mpr hm
  case live =>
    intro j hj
    by_cases hji : j = i
    · exact .inl (hji ▸ hcalled)
    · exact (h.live j hj).imp id
        (Or.imp (List.mem_erase_of_ne hji).mpr (List.mem_erase_of_ne hji).mpr)
  case calledLinked =>
    intro j hj hlink
    have hji : j ≠ i := hlink.elim (fun hm => (hpmem j hm).1) fun hm => (hfmem' j hm).1
    have hold := h.calledLinked j hj (hlink.imp (fun hm => (hpmem j hm).2) fun hm => (hfmem' j hm).2)
    rw [hk] at hold
    refine hold.imp (fun hm => ?_) fun hm => ?_
    · exact hkin _ (mem_below hi rfl hji hm)
    · exact hkin _ (mem_below hi rfl hji hm)
  case frames =>
    intro g hg
    rcases hkmem g hg with rfl | hg
    · trivial
    · refine frameOk_congr (h.frames g (hmem g hg)) rfl fun j hj => ?_
      have hji : j ≠ i := fun hji => hother g hg (hji ▸ hj)
      exact ⟨List.mem_erase_of_ne hji, List.mem_erase_of_ne hji, hitems j hji⟩
  case framesNodup => rcases hk' with rfl | ⟨rfl, _⟩ <;> exact hnodup
  case shape =>
    have hpw : k.Pairwise fun above below =>
        CancelsPending (s.unlink i k') below → CancelsPending (s.unlink i k') above := by
      refine (List.pairwise_cons.mp hshape).2.imp_of_mem fun ha hb hab => ?_
      rw [hcp _ ha, hcp _ hb]
      exact hab
    rcases hk' with rfl | ⟨rfl, hsends⟩
    · exact hpw
    · refine List.pairwise_cons.mpr ⟨fun g hg hc => ?_, hpw⟩
      obtain ⟨j, _, rfl⟩ := (List.pairwise_cons.mp hshape).1 g hg ((hcp g hg).mp hc)
      cases hsends
  case late =>
    intro hl
    obtain ⟨hnil, hquiet⟩ := h.late hl
    refine ⟨by simp [State.unlink, hnil], fun g hg => ?_⟩
    rcases hk' with rfl | ⟨rfl, hsends⟩
    · exact hquiet g (hmem g hg)
    · rw [hquiet f hfmem] at hsends
      cases hsends
  case last =>
    intro hl
    have := (h.last hl).2
    rw [hk] at this
    cases this

/-- `create_zombie` from the return of the callback, for an item in flight. -/
theorem toCrypt (h : Once s) (hk : s.stack = .createZombie i :: k)
    (hfl : i ∈ s.itemsInFlight)
    (hord : Ordered ({ s with stack := k }.createZombieRet i)) :
    Once ({ s with stack := k }.createZombieRet i) := by
  have hfmem : Frame.createZombie i ∈ s.stack := hk ▸ List.mem_cons_self
  have hmem : ∀ g ∈ k, g ∈ s.stack := fun g hg => hk ▸ List.mem_cons_of_mem _ hg
  have hcalled : i ∈ calledIds s.log := h.ordered.framesCalled _ hfmem i rfl
  have hnp : i ∉ s.pendingItems := fun hp => h.pending_inFlight_disjoint hp hfl
  obtain ⟨item, hitem, hflag, hz⟩ := h.inFlightItem i hfl
  obtain ⟨hother, hnodup⟩ := h.others_ne hk rfl
  have hnotlate : s.phase.late = false := by
    by_contra hl
    have hnil := (h.late (by simpa using hl)).1
    rw [hnil] at hfl
    cases hfl
  have hclean := h.noCancelsPending hk fun ⟨j, hj, hfr⟩ => by
    cases hfr
    exact hnp hj
  have heq : { s with stack := k }.createZombieRet i =
      { s with
        stack := .go :: k
        items := Function.update s.items i (some { item with zombie := true })
        itemsInFlight := s.itemsInFlight.erase i
        cryptItems := i :: s.cryptItems } := by
    simp [State.createZombieRet, hitem, hflag, State.go, State.setItem]
  rw [heq] at hord ⊢
  have hfmem' : ∀ j, j ∈ s.itemsInFlight.erase i → j ≠ i ∧ j ∈ s.itemsInFlight := fun j hj =>
    (h.inFlightNodup.mem_erase_iff).mp hj
  refine { h with
    ordered := hord, pendingItem := ?pendingItem, inFlightItem := ?inFlightItem,
    cryptItem := ?cryptItem, allocated := ?allocated,
    inFlightNodup := h.inFlightNodup.erase _
    cryptNodup := List.nodup_cons.mpr ⟨h.notCrypt hitem hz, h.cryptNodup⟩
    timerArmed := ?timerArmed, answerable := ?answerable, live := ?live,
    calledLinked := ?calledLinked, frames := ?frames
    framesNodup := hnodup
    shape := ?shape, late := ?late, last := ?last }
  case pendingItem =>
    intro j hj
    obtain ⟨it, hit, hflags⟩ := h.pendingItem j hj
    have hji : j ≠ i := fun hji => hnp (hji ▸ hj)
    exact ⟨it, (Function.update_of_ne hji ..).trans hit, hflags⟩
  case inFlightItem =>
    intro j hj
    obtain ⟨it, hit, hflags⟩ := h.inFlightItem j (hfmem' j hj).2
    exact ⟨it, (Function.update_of_ne (hfmem' j hj).1 ..).trans hit, hflags⟩
  case cryptItem =>
    intro j hj
    by_cases hji : j = i
    · subst hji
      exact ⟨_, Function.update_self .., rfl⟩
    · obtain ⟨it, hit, hflags⟩ := h.cryptItem j (List.mem_of_ne_of_mem hji hj)
      exact ⟨it, (Function.update_of_ne hji ..).trans hit, hflags⟩
  case allocated =>
    intro j hj
    by_cases hji : j = i
    · exact hji ▸ h.calledLt i hcalled
    · exact h.allocated j (by simpa [Function.update_of_ne hji] using hj)
  case timerArmed =>
    intro j it hj ht
    by_cases hji : j = i
    · -- its timer was stopped before its callback was invoked
      have hoff : it.timer = item.timer := by
        subst hji
        simp only [Function.update_self, Option.some.injEq] at hj
        rw [← hj]
      rcases h.timerArmed i item hitem (hoff ▸ ht) with hm | hm
      · exact absurd hfmem hm.2
      · exact absurd hfl (h.frames _ hm).2.1
    · have hj' : s.items j = some it := by simpa [Function.update_of_ne hji] using hj
      refine (h.timerArmed j it hj' ht).imp
        (fun hm => ⟨(List.mem_erase_of_ne hji).mpr hm.1, fun hz => ?_⟩) fun hr => ?_
      · exact hm.2 (hmem _ (List.mem_of_ne_of_mem (by simp) hz))
      · rw [hk] at hr
        exact List.mem_cons_of_mem _ (List.mem_of_ne_of_mem (by simp) hr)
  case answerable =>
    intro ha
    refine ⟨(h.answerable ha).1, fun j hj => ?_⟩
    by_cases hji : j = i
    · exact .inr (hji ▸ List.mem_cons_self)
    · exact ((h.answerable ha).2 j hj).imp (List.mem_erase_of_ne hji).mpr
        (List.mem_cons_of_mem _)
  case live =>
    intro j hj
    by_cases hji : j = i
    · exact .inl (hji ▸ hcalled)
    · exact (h.live j hj).imp id (Or.imp id (List.mem_erase_of_ne hji).mpr)
  case calledLinked =>
    intro j hj hlink
    have hji : j ≠ i := hlink.elim (fun hm hji => hnp (hji ▸ hm)) fun hm => (hfmem' j hm).1
    have hold := h.calledLinked j hj (hlink.imp id fun hm => (hfmem' j hm).2)
    rw [hk] at hold
    refine hold.imp (fun hm => ?_) fun hm => ?_
    · exact List.mem_cons_of_mem _ (List.mem_of_ne_of_mem (by simpa using hji) hm)
    · exact List.mem_cons_of_mem _ (List.mem_of_ne_of_mem (by simp) hm)
  case frames =>
    intro g hg
    rcases List.mem_cons.mp hg with rfl | hg
    · trivial
    · refine frameOk_congr (h.frames g (hmem g hg)) rfl fun j hj => ?_
      have hji : j ≠ i := fun hji => hother g hg (hji ▸ hj)
      exact ⟨Iff.rfl, List.mem_erase_of_ne hji, Function.update_of_ne hji ..⟩
  case shape =>
    refine List.pairwise_cons.mpr ⟨fun g hg hc => absurd hc (hclean g (hmem g hg)), ?_⟩
    exact h.shape.sublist (by rw [hk]; exact List.sublist_cons_self ..)
  case late =>
    intro hl
    rw [hnotlate] at hl
    cases hl
  case last =>
    intro hl
    have := (h.last hl).2
    rw [hk] at this
    cases this

/-- The first pending item, as `send_next_request` finds it in the loop of `go`. -/
structure Next (s : State) (i : ItemId) (rest : List ItemId) (item : Item) : Prop where
  pending : s.pendingItems = i :: rest
  found : s.items i = some item
  flag : item.inFlight = false
  zombie : item.zombie = false
  notCalled : i ∉ calledIds s.log
  notInFlight : i ∉ s.itemsInFlight
  notCrypt : i ∉ s.cryptItems
  clean : ∀ g ∈ s.stack, ¬ CancelsPending s g
  notLate : s.phase.late = false
  notLast : s.phase.last = false

theorem next (h : Once s) (hgo : s.stack.head? = some .go) {rest : List ItemId}
    (hp : s.pendingItems = i :: rest) : ∃ item, Next s i rest item := by
  obtain ⟨k, hk⟩ : ∃ k, s.stack = .go :: k := by
    cases hs : s.stack with
    | nil => simp [hs] at hgo
    | cons g k => exact ⟨k, by simpa [hs] using hgo⟩
  have hgomem : Frame.go ∈ s.stack := hk ▸ List.mem_cons_self
  have hclean := h.noCancelsPending hk fun ⟨j, _, hfr⟩ => by cases hfr
  have hmem : i ∈ s.pendingItems := hp ▸ List.mem_cons_self
  obtain ⟨item, hitem, hflag, hz⟩ := h.pendingItem i hmem
  refine ⟨item, hp, hitem, hflag, hz, h.head_notCalled hgomem hclean hmem,
    h.pending_inFlight_disjoint hmem, h.notCrypt hitem hz, hclean, ?_, ?_⟩
  · by_contra hl
    have := (h.late (by simpa using hl)).2 _ hgomem
    cases this
  · by_contra hl
    have := (h.last (by simpa using hl)).2
    rw [hk] at this
    cases this

section Next

variable {rest : List ItemId} {item : Item}

theorem Next.mem (hn : Next s i rest item) : i ∈ s.pendingItems :=
  hn.pending ▸ List.mem_cons_self

theorem Next.sub (hn : Next s i rest item) : ∀ j ∈ rest, j ∈ s.pendingItems :=
  fun _ hj => hn.pending ▸ List.mem_cons_of_mem _ hj

theorem Next.rest_iff (hn : Next s i rest item) {j : ItemId} (hj : j ≠ i) :
    j ∈ rest ↔ j ∈ s.pendingItems := by
  simp [hn.pending, hj]

theorem Next.notRest (h : Once s) (hn : Next s i rest item) : i ∉ rest :=
  (List.nodup_cons.mp (hn.pending ▸ h.pendingNodup)).1

/-- The items on the stack have been called, so the next one is not among them. -/
theorem Next.frame_ne (h : Once s) (hn : Next s i rest item) {g : Frame} (hg : g ∈ s.stack)
    {j : ItemId} (hj : g.item = some j) : j ≠ i :=
  fun hji => hn.notCalled (hji ▸ h.ordered.framesCalled g hg j hj)

/-- Nothing that is left is being cancelled. -/
theorem Next.clean_rest (hn : Next s i rest item) {s' : State} (hs' : s'.pendingItems = rest)
    {g : Frame} (hg : g ∈ s.stack) : ¬ CancelsPending s' g := by
  rintro ⟨j, hj, rfl⟩
  exact hn.clean _ hg ⟨j, hn.sub j (hs' ▸ hj), rfl⟩

/-- Sending the next item fails, and its callback is invoked. -/
theorem sendFails (h : Once s) (hn : Next s i rest item) (o : Outcome)
    (hord : Ordered { s with
      pendingItems := rest
      log := s.log ++ [Action.called i o]
      stack := .sendNextRequest i :: s.stack }) :
    Once { s with
      pendingItems := rest
      log := s.log ++ [Action.called i o]
      stack := .sendNextRequest i :: s.stack } := by
  obtain ⟨hcalledLt, hcalledNodup, hsentFirst⟩ :=
    h.log_called hn.notCalled (h.ordered.pendingLt i hn.mem) o
  refine { h with
    ordered := hord
    pendingItem := fun j hj => h.pendingItem j (hn.sub j hj)
    timerArmed := ?timerArmed, calledLt := hcalledLt, calledNodup := hcalledNodup, live := ?live
    sentFirst := hsentFirst, calledLinked := ?calledLinked, frames := ?frames,
    framesNodup := ?framesNodup, shape := ?shape
    late := fun hl => by rw [hn.notLate] at hl; cases hl
    last := fun hl => by rw [hn.notLast] at hl; cases hl }
  case timerArmed =>
    intro j it hj ht
    refine (h.timerArmed j it hj ht).imp (fun hm => ⟨hm.1, fun hm' => hm.2 ?_⟩)
      (List.mem_cons_of_mem _)
    exact List.mem_of_ne_of_mem (by simp) hm'
  case live =>
    intro j hj
    simp only [calledIds_append, calledIds_called, List.mem_append, List.mem_singleton]
    by_cases hji : j = i
    · exact .inl (.inr hji)
    · exact (h.live j hj).imp .inl (Or.imp (hn.rest_iff hji).mpr id)
  case calledLinked =>
    intro j hj hlink
    simp only [calledIds_append, calledIds_called, List.mem_append, List.mem_singleton] at hj
    rcases hj with hj | rfl
    · exact (h.calledLinked j hj (hlink.imp (hn.sub j) id)).imp
        (List.mem_cons_of_mem _) (List.mem_cons_of_mem _)
    · exact absurd hlink (not_or.mpr ⟨hn.notRest h, hn.notInFlight⟩)
  case frames =>
    intro g hg
    rcases List.mem_cons.mp hg with rfl | hg
    · exact ⟨hn.notRest h, hn.notInFlight, item, hn.found, hn.zombie⟩
    · refine frameOk_congr (h.frames g hg) rfl fun j hj => ?_
      exact ⟨hn.rest_iff (hn.frame_ne h hg hj), Iff.rfl, rfl⟩
  case framesNodup =>
    show ((Frame.sendNextRequest i :: s.stack).filterMap Frame.item).Nodup
    rw [List.filterMap_cons_some (f := Frame.item) rfl]
    refine List.nodup_cons.mpr ⟨fun hm => ?_, h.framesNodup⟩
    obtain ⟨g, hg, hgi⟩ := List.mem_filterMap.mp hm
    exact hn.frame_ne h hg hgi rfl
  case shape =>
    refine List.pairwise_cons.mpr ⟨fun g hg hc => absurd hc (hn.clean_rest rfl hg), ?_⟩
    exact h.shape.imp_of_mem fun _ hb _ hc => absurd hc (hn.clean_rest rfl hb)

/-- The next item is sent. -/
theorem sent (h : Once s) (hn : Next s i rest item)
    (hord : Ordered { s with
      pendingItems := rest
      items := Function.update s.items i (some { item with inFlight := true, timer := true })
      itemsInFlight := i :: s.itemsInFlight
      log := s.log ++ [Action.sent i]
      unanswered := s.unanswered ++ [i] }) :
    Once { s with
      pendingItems := rest
      items := Function.update s.items i (some { item with inFlight := true, timer := true })
      itemsInFlight := i :: s.itemsInFlight
      log := s.log ++ [Action.sent i]
      unanswered := s.unanswered ++ [i] } := by
  have hitems : ∀ j, j ≠ i → Function.update s.items i
      (some { item with inFlight := true, timer := true }) j = s.items j := fun j hj =>
    Function.update_of_ne hj ..
  have hnzombie : Frame.createZombie i ∉ s.stack := fun hz => hn.clean _ hz ⟨i, hn.mem, rfl⟩
  refine { h with
    ordered := hord, pendingItem := ?pendingItem, inFlightItem := ?inFlightItem,
    cryptItem := ?cryptItem, allocated := ?allocated
    inFlightNodup := List.nodup_cons.mpr ⟨hn.notInFlight, h.inFlightNodup⟩
    timerArmed := ?timerArmed, answerable := ?answerable, calledLt := ?calledLt,
    calledNodup := ?calledNodup, live := ?live, sentFirst := ?sentFirst
    calledLinked := ?calledLinked, frames := ?frames, shape := ?shape
    late := fun hl => by rw [hn.notLate] at hl; cases hl
    last := fun hl => by rw [hn.notLast] at hl; cases hl }
  case pendingItem =>
    intro j hj
    obtain ⟨it, hit, hflags⟩ := h.pendingItem j (hn.sub j hj)
    exact ⟨it, (hitems j fun hji => hn.notRest h (hji ▸ hj)).trans hit, hflags⟩
  case inFlightItem =>
    intro j hj
    by_cases hji : j = i
    · subst hji
      exact ⟨_, Function.update_self .., rfl, hn.zombie⟩
    · obtain ⟨it, hit, hflags⟩ := h.inFlightItem j (List.mem_of_ne_of_mem hji hj)
      exact ⟨it, (hitems j hji).trans hit, hflags⟩
  case cryptItem =>
    intro j hj
    obtain ⟨it, hit, hzt⟩ := h.cryptItem j hj
    exact ⟨it, (hitems j fun hji => hn.notCrypt (hji ▸ hj)).trans hit, hzt⟩
  case allocated =>
    intro j hj
    by_cases hji : j = i
    · exact hji ▸ h.ordered.pendingLt i hn.mem
    · exact h.allocated j (by rwa [← hitems j hji])
  case timerArmed =>
    intro j it hj ht
    by_cases hji : j = i
    · exact .inl ⟨hji ▸ List.mem_cons_self, hji ▸ hnzombie⟩
    · exact (h.timerArmed j it ((hitems j hji).symm.trans hj) ht).imp
        (fun hm => ⟨List.mem_cons_of_mem _ hm.1, hm.2⟩) id
  case answerable =>
    intro ha
    obtain ⟨hnd, hsubs⟩ := h.answerable ha
    refine ⟨List.nodup_append.mpr ⟨hnd, List.nodup_singleton _, ?_⟩, ?_⟩
    · rintro a hm b hb rfl
      rw [List.mem_singleton.mp hb] at hm
      exact (hsubs i hm).elim hn.notInFlight hn.notCrypt
    · intro j hj
      rcases List.mem_append.mp hj with hj | hj
      · exact (hsubs j hj).imp (List.mem_cons_of_mem _) id
      · exact .inl (List.mem_singleton.mp hj ▸ List.mem_cons_self)
  case calledLt => simpa using h.calledLt
  case calledNodup => simpa using h.calledNodup
  case live =>
    intro j hj
    by_cases hji : j = i
    · exact .inr (.inr (hji ▸ List.mem_cons_self))
    · exact (h.live j hj).imp (fun hc => by simpa using hc)
        (Or.imp (hn.rest_iff hji).mpr (List.mem_cons_of_mem _))
  case sentFirst =>
    refine forall_sent_append_singleton h.sentFirst fun j hj => ?_
    cases hj
    exact hn.notCalled
  case calledLinked =>
    intro j hj hlink
    have hj' : j ∈ calledIds s.log := by simpa using hj
    have hji : j ≠ i := fun hji => hn.notCalled (hji ▸ hj')
    exact h.calledLinked j hj' (hlink.imp (hn.sub j) (List.mem_of_ne_of_mem hji))
  case frames =>
    intro g hg
    refine frameOk_congr (h.frames g hg) rfl fun j hj => ?_
    have hji := hn.frame_ne h hg hj
    exact ⟨hn.rest_iff hji, by simp [hji], hitems j hji⟩
  case shape => exact h.shape.imp_of_mem fun _ hb _ hc => absurd hc (hn.clean_rest rfl hb)

end Next

section

variable (h : Once s)

include h

/-- `send_next_request` in the loop of `go`: no pending item is being cancelled,
so the one it takes has not been called. -/
theorem sendNextRequest (hgo : s.stack.head? = some .go)
    (hord : Ordered s.sendNextRequest) : Once s.sendNextRequest := by
  rcases s.sendNextRequest_cases with ⟨_, heq⟩ | ⟨i, rest, hp, hcases⟩
  · rwa [heq]
  obtain ⟨item, hn⟩ := h.next hgo hp
  rcases hcases with ⟨hnone, _⟩ | ⟨item', hitem', hcases⟩
  · rw [hn.found] at hnone
    cases hnone
  rw [hn.found] at hitem'
  cases hitem'
  rcases hcases with ⟨hfl, _⟩ | ⟨_, _, heq⟩ | ⟨_, _, heq⟩
  · rw [hn.flag] at hfl
    cases hfl
  · rw [heq] at hord ⊢
    exact h.sendFails hn _ hord
  · rw [heq] at hord ⊢
    exact h.sent hn hord

/-- `create_zombie`, up to the call of the callback, for an item not yet called. -/
theorem createZombie (o : Outcome) (hc : i ∉ calledIds s.log)
    (hlink : i ∈ s.pendingItems ∨ i ∈ s.itemsInFlight)
    (hcare : i ∈ s.itemsInFlight → ∀ j, Frame.createZombie j ∈ s.stack → j ∉ s.pendingItems)
    (hlast : s.phase.last = false) : Once (s.createZombie i o) := by
  obtain ⟨item, hitem, hz⟩ := h.linkedItem hlink
  have heq : s.createZombie i o =
      (s.setItem i { item with timer := false }).invoke i o (.createZombie i) := by
    simp [State.createZombie, hitem, hz]
  have hord := h.ordered.createZombie i o
  have hlt : i < s.next := h.allocated i (by rw [hitem]; simp)
  rw [heq] at hord ⊢
  refine (h.clearTimer hitem).invokeLinked o (.inl rfl) hc hlink hlt hlast ?_ ?_ hord
  · intro _
    simp [State.timerArmed]
  · rintro g hg ⟨j, hj, rfl⟩
    rcases hlink with hm | hm
    · exact ⟨i, hm, rfl⟩
    · exact absurd hj (hcare hm j hg)

/-- `response_cb`, up to the call of the callback, from the main loop. -/
theorem responseCb (hs : s.stack = []) (hph : s.phase = .alive)
    (hlink : i ∈ s.itemsInFlight ∨ i ∈ s.cryptItems) (hun : i ∉ s.unanswered) :
    Once (s.responseCb i) := by
  obtain ⟨item, hitem⟩ : ∃ item, s.items i = some item := by
    rcases hlink with hm | hm
    · exact (h.inFlightItem i hm).imp fun _ hit => hit.1
    · exact (h.cryptItem i hm).imp fun _ hit => hit.1
  by_cases hfl : i ∈ s.itemsInFlight
  case neg =>
    rwa [show s.responseCb i = s from by simp [State.responseCb, hitem, hfl]]
  obtain ⟨item', hitem', hflag, hz⟩ := h.inFlightItem i hfl
  rw [hitem] at hitem'
  cases hitem'
  have hord := h.ordered.responseCb i
  have hncalled := h.notCalled_of_empty hs (.inr hfl)
  have hnp : i ∉ s.pendingItems := fun hp => h.pending_inFlight_disjoint hp hfl
  have hlt : i < s.next := h.allocated i (by rw [hitem]; simp)
  have heq : s.responseCb i =
      { s with
        itemsInFlight := s.itemsInFlight.erase i
        log := s.log ++ [Action.called i .reply]
        stack := [.responseCb i] } := by
    simp [State.responseCb, hitem, hfl, hflag, hz, State.invoke, hs]
  rw [heq] at hord ⊢
  have hfmem' : ∀ j, j ∈ s.itemsInFlight.erase i → j ≠ i ∧ j ∈ s.itemsInFlight := fun j hj =>
    (h.inFlightNodup.mem_erase_iff).mp hj
  obtain ⟨hcalledLt, hcalledNodup, hsentFirst⟩ := h.log_called hncalled hlt .reply
  refine { h with
    ordered := hord
    inFlightItem := fun j hj => h.inFlightItem j (hfmem' j hj).2
    inFlightNodup := h.inFlightNodup.erase _
    timerArmed := ?_, answerable := ?_, calledLt := hcalledLt, calledNodup := hcalledNodup
    live := ?_, sentFirst := hsentFirst, calledLinked := ?_, frames := ?_
    framesNodup := List.nodup_singleton _
    shape := List.pairwise_singleton _ _
    late := fun hl => by rw [hph] at hl; cases hl
    last := fun hl => by rw [hph] at hl; cases hl }
  · intro j it hj ht
    by_cases hji : j = i
    · exact .inr (hji ▸ List.mem_cons_self)
    · refine (h.timerArmed j it hj ht).imp
        (fun hm => ⟨(List.mem_erase_of_ne hji).mpr hm.1, by simp⟩) fun hm => ?_
      simp [hs] at hm
  · intro ha
    refine ⟨(h.answerable ha).1, fun j hj => ((h.answerable ha).2 j hj).imp ?_ id⟩
    have hji : j ≠ i := fun hji => hun (hji ▸ hj)
    exact (List.mem_erase_of_ne hji).mpr
  · intro j hj
    simp only [calledIds_append, calledIds_called, List.mem_append, List.mem_singleton]
    by_cases hji : j = i
    · exact .inl (.inr hji)
    · exact (h.live j hj).imp .inl (Or.imp id (List.mem_erase_of_ne hji).mpr)
  · intro j hj hlink
    have hji : j ≠ i := hlink.elim (fun hm hji => hnp (hji ▸ hm)) fun hm => (hfmem' j hm).1
    have hj' : j ∈ calledIds s.log := by simpa [hji] using hj
    exact absurd hj' (h.notCalled_of_empty hs (hlink.imp id fun hm => (hfmem' j hm).2))
  · intro g hg
    rw [List.mem_singleton.mp hg]
    exact ⟨hnp, fun hm => (hfmem' i hm).1 rfl, item, hitem, hz⟩

theorem enqueue (timeout : ℕ) (hlast : s.phase.last = false) :
    Once (s.enqueue timeout) := by
  have hnew : ∀ j, s.items j ≠ none → j ≠ s.next := fun j hj => Nat.ne_of_lt (h.allocated j hj)
  have hitems : ∀ j it, s.items j = some it → (s.enqueue timeout).items j = some it := by
    intro j it hj
    have hji : j ≠ s.next := hnew j (by rw [hj]; simp)
    exact (Function.update_of_ne hji ..).trans hj
  have hframe : ∀ g ∈ s.stack, ∀ j, g.item = some j → j ≠ s.next := fun g hg j hj =>
    Nat.ne_of_lt (h.calledLt j (h.ordered.framesCalled g hg j hj))
  have hpend : ∀ j, j ≠ s.next →
      (j ∈ (s.enqueue timeout).pendingItems ↔ j ∈ s.pendingItems) := by
    intro j hj
    simp [State.enqueue, hj]
  refine { h with
    ordered := h.ordered.enqueue timeout
    pendingItem := ?pendingItem, inFlightItem := ?inFlightItem, cryptItem := ?cryptItem,
    allocated := ?allocated, timerArmed := ?timerArmed
    calledLt := fun j hj => Nat.lt_succ_of_lt (h.calledLt j hj)
    live := ?live, calledLinked := ?calledLinked, frames := ?frames, shape := ?shape
    last := fun hl => by
      rw [show (s.enqueue timeout).phase = s.phase from rfl, hlast] at hl
      cases hl }
  case pendingItem =>
    intro j hj
    by_cases hjn : j = s.next
    · subst hjn
      exact ⟨_, Function.update_self .., rfl, rfl⟩
    · obtain ⟨it, hit, hflags⟩ := h.pendingItem j ((hpend j hjn).mp hj)
      exact ⟨it, hitems j it hit, hflags⟩
  case inFlightItem =>
    intro j hj
    obtain ⟨it, hit, hflags⟩ := h.inFlightItem j hj
    exact ⟨it, hitems j it hit, hflags⟩
  case cryptItem =>
    intro j hj
    obtain ⟨it, hit, hflags⟩ := h.cryptItem j hj
    exact ⟨it, hitems j it hit, hflags⟩
  case allocated =>
    intro j hj
    by_cases hjn : j = s.next
    · exact hjn ▸ Nat.lt_succ_self _
    · have hj' : s.items j ≠ none := by
        simpa [State.enqueue, State.setItem, Function.update_of_ne hjn] using hj
      exact Nat.lt_succ_of_lt (h.allocated j hj')
  case timerArmed =>
    intro j it hj ht
    by_cases hjn : j = s.next
    · subst hjn
      simp only [State.enqueue, State.setItem, Function.update_self, Option.some.injEq] at hj
      subst hj
      cases ht
    · have hj' : s.items j = some it := by
        simpa [State.enqueue, State.setItem, Function.update_of_ne hjn] using hj
      exact h.timerArmed j it hj' ht
  case live =>
    intro j hj
    rcases Nat.lt_succ_iff_lt_or_eq.mp hj with hj | rfl
    · exact (h.live j hj).imp id (Or.imp (List.mem_append_left _) id)
    · exact .inr (.inl (List.mem_append_right _ (List.mem_singleton_self _)))
  case calledLinked =>
    intro j hj hlink
    have hjn : j ≠ s.next := Nat.ne_of_lt (h.calledLt j hj)
    exact h.calledLinked j hj (hlink.imp (hpend j hjn).mp id)
  case frames =>
    intro g hg
    refine frameOk_congr (h.frames g hg) rfl fun j hj => ?_
    have hjn := hframe g hg j hj
    exact ⟨hpend j hjn, Iff.rfl, Function.update_of_ne hjn ..⟩
  case shape =>
    refine h.shape.imp_of_mem fun _ hb hab hc => ?_
    obtain ⟨j, hj, rfl⟩ := hc
    obtain ⟨m, hm, rfl⟩ := hab ⟨j, (hpend j (hframe _ hb j rfl)).mp hj, rfl⟩
    exact ⟨m, List.mem_append_left _ hm, rfl⟩

/-- The loop of `go`, entered from the main loop. -/
theorem goFromRest (hs : s.AtRest) : Once s.go := by
  obtain ⟨hnil, hph⟩ := hs
  have hstack : s.go.stack = [.go] := by simp [State.go, hnil]
  refine { h with
    ordered := h.ordered.go, timerArmed := ?_, calledLinked := ?_, frames := ?_
    framesNodup := ?_, shape := ?_
    late := fun hl => by rw [show s.go.phase = s.phase from rfl, hph] at hl; cases hl
    last := fun hl => by rw [show s.go.phase = s.phase from rfl, hph] at hl; cases hl }
  · intro j it hj ht
    refine (h.timerArmed j it hj ht).imp (fun hm => ⟨hm.1, by simp [hstack]⟩) fun hm => ?_
    simp [hnil] at hm
  · intro j hj hlink
    exact absurd hj (h.notCalled_of_empty hnil hlink)
  · rw [hstack]
    intro g hg
    rw [List.mem_singleton.mp hg]
    trivial
  · rw [hstack]
    exact List.nodup_nil
  · rw [hstack]
    exact List.pairwise_singleton _ _

/-- The loop of `go` ends. -/
theorem popGo (hk : s.stack = .go :: k) (hord : Ordered { s with stack := k }) :
    Once { s with stack := k } := by
  have hmem : ∀ g ∈ k, g ∈ s.stack := fun g hg => hk ▸ List.mem_cons_of_mem _ hg
  have hback : ∀ g, g ≠ .go → g ∈ s.stack → g ∈ k := fun g hne hg =>
    List.mem_of_ne_of_mem hne (hk ▸ hg)
  refine { h with
    ordered := hord, timerArmed := ?timerArmed, calledLinked := ?calledLinked
    frames := fun g hg => h.frames g (hmem g hg)
    framesNodup := ?framesNodup, shape := ?shape, late := ?late, last := ?last }
  case timerArmed =>
    exact fun j it hj ht => (h.timerArmed j it hj ht).imp
      (fun hm => ⟨hm.1, fun hz => hm.2 (hmem _ hz)⟩) (hback _ (by simp))
  case calledLinked =>
    exact fun j hj hlink => (h.calledLinked j hj hlink).imp (hback _ (by simp)) (hback _ (by simp))
  case framesNodup =>
    have := h.framesNodup
    rwa [hk] at this
  case shape =>
    have := h.shape
    rw [hk] at this
    exact (List.pairwise_cons.mp this).2
  case late => exact fun hl => ⟨(h.late hl).1, fun g hg => (h.late hl).2 g (hmem g hg)⟩
  case last =>
    intro hl
    have := (h.last hl).2
    rw [hk] at this
    cases this

/-- One round of the loop of `flush`. -/
theorem flushLoop (hs : s.stack = []) {q : Queue} (hq : s.phase = .flushing q) :
    Once (s.flushLoop q) := by
  have hord := h.ordered.flushLoop hq
  cases hl : s.queue q with
  | nil =>
    have heq : s.flushLoop q = s.nextPhase q := by simp [State.flushLoop, hl]
    rw [heq] at hord ⊢
    have hnoframe : ∀ g, g ∈ s.stack → False := fun g hg => by simp [hs] at hg
    cases q with
    | inFlight =>
      exact { h with
        ordered := hord, answerable := nofun, frames := fun g hg => (hnoframe g hg).elim
        late := fun _ => ⟨hl, fun g hg => (hnoframe g hg).elim⟩, last := nofun }
    | pending =>
      have hlate := h.late (by rw [hq]; rfl)
      exact { h with
        ordered := hord, answerable := nofun, frames := fun g hg => (hnoframe g hg).elim
        late := fun _ => hlate, last := fun _ => ⟨hl, hs⟩ }
    | crypt =>
      have hlate := h.late (by rw [hq]; rfl)
      have hlast := h.last (by rw [hq]; rfl)
      exact { h with
        ordered := hord, answerable := nofun, frames := fun g hg => (hnoframe g hg).elim
        late := fun _ => hlate, last := fun _ => hlast }
  | cons i rest =>
    have hmem : i ∈ s.queue q := hl ▸ List.mem_cons_self
    have hlink : q ≠ .crypt → (i ∈ s.pendingItems ∨ i ∈ s.itemsInFlight) ∧
        FrameOk s (.flush i) := by
      intro hqc
      cases q with
      | inFlight => exact ⟨.inr hmem, .inl ⟨hq, hmem⟩⟩
      | pending => exact ⟨.inl hmem, .inr ⟨hq, hmem⟩⟩
      | crypt => exact absurd rfl hqc
    by_cases hqc : q = .crypt
    · -- only zombies are left: nobody is told anything
      subst hqc
      obtain ⟨item, hitem, hz⟩ := h.cryptItem i hmem
      have heq : s.flushLoop .crypt = s.deleteItem i := by
        simp [State.flushLoop, hl, hitem, hz]
      have hlast := h.last (by rw [hq]; rfl)
      have hlate := h.late (by rw [hq]; rfl)
      rw [heq, State.deleteItem_of_zombie hitem hz] at hord ⊢
      have hitems : ∀ j, j ≠ i → Function.update s.items i none j = s.items j := fun j hj =>
        Function.update_of_ne hj ..
      refine { h with
        ordered := hord, pendingItem := ?_, inFlightItem := ?_, cryptItem := ?_
        allocated := ?_, cryptNodup := h.cryptNodup.erase _, timerArmed := ?_
        answerable := fun ha => by rw [hq] at ha; cases ha
        frames := fun g hg => by simp [hs] at hg }
      · simp [hlast.1]
      · simp [hlate.1]
      · intro j hj
        obtain ⟨hji, hj⟩ := (h.cryptNodup.mem_erase_iff).mp hj
        obtain ⟨it, hit, hzt⟩ := h.cryptItem j hj
        exact ⟨it, (hitems j hji).trans hit, hzt⟩
      · intro j hj
        by_cases hji : j = i
        · simp [hji] at hj
        · exact h.allocated j (by rwa [← hitems j hji])
      · intro j it hj ht
        by_cases hji : j = i
        · simp [hji] at hj
        · exact h.timerArmed j it ((hitems j hji).symm.trans hj) ht
    · obtain ⟨hlinked, hok⟩ := hlink hqc
      obtain ⟨item, hitem, hz⟩ := h.linkedItem hlinked
      have heq : s.flushLoop q = s.invoke i .disconnected (.flush i) := by
        simp [State.flushLoop, hl, hitem, hz]
      have hnotlast : s.phase.last = false := by
        rw [hq]
        cases q with
        | crypt => exact absurd rfl hqc
        | _ => rfl
      rw [heq] at hord ⊢
      exact h.invokeLinked _ (.inr rfl) (h.notCalled_of_empty hs hlinked) hok
        (h.allocated i (by rw [hitem]; simp)) hnotlast nofun
        (fun g hg => by simp [hs] at hg) hord

/-! ## Steps and runs -/

/-- The return of a callback. -/
theorem stepRet {s' : State} (hs : stepRet s = some s') : Once s' := by
  have hord := h.ordered.stepRet hs
  unfold RequestPipeline.stepRet at hs
  split at hs
  · rename_i i k hk
    cases hs
    have hok : FrameOk s (.createZombie i) := h.frames _ (hk ▸ List.mem_cons_self)
    by_cases hfl : i ∈ s.itemsInFlight
    · exact h.toCrypt hk hfl hord
    · obtain ⟨item, hitem, hflag, _⟩ := h.pendingItem i (hok.resolve_right hfl)
      have heq : { s with stack := k }.createZombieRet i = { s with stack := k }.deleteItem i := by
        simp [State.createZombieRet, hitem, hflag]
      rw [heq] at hord ⊢
      exact h.deleteReturned hk rfl k (.inl rfl) (fun _ => hfl) hord
  · rename_i i k hk
    cases hs
    have hok : FrameOk s (.responseCb i) := h.frames _ (hk ▸ List.mem_cons_self)
    rw [State.go_deleteItem] at hord ⊢
    exact h.deleteReturned hk rfl _ (.inr ⟨rfl, rfl⟩) (fun _ => hok.2.1) hord
  · rename_i i k hk
    cases hs
    have hwell : WellStacked (.sendNextRequest i :: k) := hk ▸ h.ordered.wellStacked
    have hok : FrameOk s (.sendNextRequest i) := h.frames _ (hk ▸ List.mem_cons_self)
    have hdel := h.deleteReturned hk rfl k (.inl rfl) (fun _ => hok.2.1)
      (h.ordered.deleteFailed hk)
    rw [State.sendNextRequestRet_of_noFault hdel.noFault] at hord ⊢
    exact hdel.sendNextRequest (by rw [State.deleteItem_stack]; exact hwell.1) hord
  · rename_i i k hk
    cases hs
    have hfmem : Frame.flush i ∈ s.stack := hk ▸ List.mem_cons_self
    exact h.deleteReturned hk rfl k (.inl rfl)
      (fun ha => absurd ha (h.ordered.flushing i hfmem)) hord
  · cases hs
  · cases hs

/-- The loops of `go` and of `flush`. -/
theorem stepTau {s' : State} (hs : stepTau s = some s') : Once s' := by
  have hord := h.ordered.stepTau hs
  unfold RequestPipeline.stepTau at hs
  split at hs
  · rename_i k hk
    cases hs
    unfold State.goLoop at hord ⊢
    split
    · rename_i hl
      rw [if_pos hl] at hord
      exact h.sendNextRequest (by rw [hk]; rfl) hord
    · rename_i hl
      rw [if_neg hl] at hord
      rw [hk, List.tail_cons] at hord ⊢
      exact h.popGo hk hord
  · cases hs
  · rename_i hnil
    split at hs
    · rename_i q hq
      cases hs
      exact h.flushLoop hnil hq
    · cases hs

/-- User code never runs once only zombies are left. -/
theorem notLast_of_userTurn (hu : s.userTurn = true) : s.phase.last = false := by
  by_contra hl
  have hl' : s.phase.last = true := by simpa using hl
  have hnil := (h.last hl').2
  simp only [State.userTurn, hnil, beq_iff_eq] at hu
  rw [hu] at hl'
  cases hl'

/-- **One step.**  A careful step keeps the invariant. -/
theorem step {s' : State} {e : Event} (hok : Careful s e) (hs : step s e = some s') : Once s' := by
  have hord := h.ordered.step hs
  unfold RequestPipeline.step at hs
  split at hs
  · cases hs
  cases e with
  | ret => exact h.stepRet hs
  | tau => exact h.stepTau hs
  | enqueue timeout =>
    obtain ⟨hu, ⟨⟩⟩ := Option.ite_none_right_eq_some.mp hs
    exact h.enqueue timeout (h.notLast_of_userTurn hu)
  | cancel i =>
    obtain ⟨⟨hu, hlt, hnc⟩, ⟨⟩⟩ := Option.ite_none_right_eq_some.mp hs
    exact h.createZombie _ hnc ((h.live i hlt).resolve_left hnc) hok (h.notLast_of_userTurn hu)
  | timeout i =>
    obtain ⟨⟨⟨hnil, hph⟩, ht⟩, ⟨⟩⟩ := Option.ite_none_right_eq_some.mp hs
    obtain ⟨item, hitem, htimer⟩ : ∃ item, s.items i = some item ∧ item.timer = true := by
      cases hitem : s.items i with
      | none => simp [State.timerArmed, hitem] at ht
      | some item => exact ⟨item, rfl, by simpa [State.timerArmed, hitem] using ht⟩
    have hfl : i ∈ s.itemsInFlight := by
      rcases h.timerArmed i item hitem htimer with hm | hm
      · exact hm.1
      · simp [hnil] at hm
    refine h.createZombie _ (h.notCalled_of_empty hnil (.inr hfl)) (.inr hfl) ?_ (by rw [hph]; rfl)
    simp [hnil]
  | idle =>
    obtain ⟨⟨hrest, _⟩, ⟨⟩⟩ := Option.ite_none_right_eq_some.mp hs
    exact { h.goFromRest hrest with ordered := hord }
  | dispose =>
    obtain ⟨⟨hnil, _⟩, ⟨⟩⟩ := Option.ite_none_right_eq_some.mp hs
    exact { h with
      ordered := hord, answerable := nofun, frames := fun g hg => by simp [hnil] at hg
      late := nofun, last := nofun }
  | porterAvailable =>
    obtain ⟨_, ⟨⟩⟩ := Option.ite_none_right_eq_some.mp hs
    exact { h with ordered := hord }
  | porterGone =>
    cases hs
    exact { h with ordered := hord }
  | reply i =>
    simp only [stepReply] at hs
    split at hs
    · rename_i hcond
      obtain ⟨hnil, hun⟩ := hcond
      split at hs
      · rename_i hph
        cases hs
        obtain ⟨hnd, hsub⟩ := h.answerable hph
        have h' : Once { s with unanswered := s.unanswered.erase i } :=
          { h with
            ordered := { h.ordered with }
            answerable := fun _ => ⟨hnd.erase _, fun j hj => hsub j (List.mem_of_mem_erase hj)⟩ }
        exact h'.responseCb hnil hph (hsub i hun) fun hm => ((hnd.mem_erase_iff).mp hm).1 rfl
      · rename_i hph
        cases hs
        exact { h with ordered := hord, answerable := fun ha => by rw [hph] at ha; cases ha }
      · cases hs
    · cases hs

end

end Once

theorem once_new : Once State.new where
  noFault := rfl
  ordered := ordered_new
  pendingItem := by simp [State.new]
  inFlightItem := by simp [State.new]
  cryptItem := by simp [State.new]
  allocated := by simp [State.new]
  inFlightNodup := List.nodup_nil
  cryptNodup := List.nodup_nil
  timerArmed := by simp [State.new]
  answerable := by simp [State.new]
  calledLt := by simp [State.new]
  calledNodup := List.nodup_nil
  live := by simp [State.new]
  sentFirst := by
    intro l₁ j l₂ h
    simp [State.new] at h
  calledLinked := by simp [State.new]
  frames := by simp [State.new]
  framesNodup := List.nodup_nil
  shape := List.Pairwise.nil
  late := nofun
  last := nofun

/-- **Every careful run.** -/
theorem once_of_reachable {s : State} (h : Reachable step Careful State.new s) : Once s :=
  h.invariant once_new fun _ _ _ ho hok hs => ho.step hok hs

end RequestPipeline
