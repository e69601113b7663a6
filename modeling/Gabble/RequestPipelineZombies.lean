/-
# The zombies of the request pipeline

An item that is cancelled or times out while its IQ is in flight moves to
`crypt_items`.  Here is which replies it leaves there: `response_cb` looks an
item up in `items_in_flight`, where a zombie is not, and returns.  The
invariant `Filed` holds in all runs, whatever the callbacks do: the flags of an
item say which list it is on, and an IQ is unanswered until its reply comes.
-/
import Mathlib.Data.List.Nodup
import Mathlib.Data.List.Perm.Subperm
import Mathlib.Tactic.Common
import Gabble.RequestPipelineOrder

open Transition

namespace RequestPipeline

/-! ## Where an item is filed -/

/-- The item that is in flight while its callback runs, and is not afterwards. -/
def Frame.leaving : Frame → Option ItemId
  | .createZombie i => some i
  | .responseCb i => some i
  | _ => none

/-- The flags of the items agree with the lists they are on. -/
structure Filed (s : State) : Prop where
  asked : s.unanswered.Sublist (sentIds s.log)
  pendingItem : ∀ i ∈ s.pendingItems, ∀ item, s.items i = some item →
    item.inFlight = false ∧ item.zombie = false
  inFlightItem : ∀ i ∈ s.itemsInFlight, ∀ item, s.items i = some item →
    item.inFlight = true ∧ item.zombie = false
  cryptItem : ∀ i ∈ s.cryptItems, ∀ item, s.items i = some item → item.zombie = true
  inFlightNodup : s.itemsInFlight.Nodup
  cryptNodup : s.cryptItems.Nodup
  linkedLt : ∀ i, i ∈ s.itemsInFlight ∨ i ∈ s.cryptItems → i < s.next
  waiting : s.phase ≠ .disposed → ∀ i item, s.items i = some item →
    item.inFlight = true → item.zombie = false →
    (i ∈ s.itemsInFlight ∧ i ∈ s.unanswered) ∨ .responseCb i ∈ s.stack
  cancelling : ∀ i, .createZombie i ∈ s.stack →
    ∀ item, s.items i = some item → item.zombie = false
  leavingNodup : (s.stack.filterMap Frame.leaving).Nodup
  disposed : s.phase = .disposed → s.stack = []

/-- Every zombie still has an unanswered IQ. -/
def Awaited (s : State) : Prop := s.cryptItems ⊆ s.unanswered

theorem filed_new : Filed State.new where
  asked := List.Sublist.refl _
  pendingItem := nofun
  inFlightItem := nofun
  cryptItem := nofun
  inFlightNodup := List.nodup_nil
  cryptNodup := List.nodup_nil
  linkedLt := by
    intro i hi
    rcases hi with hi | hi <;> cases hi
  waiting := nofun
  cancelling := nofun
  leavingNodup := List.nodup_nil
  disposed := nofun

namespace State

theorem deleteItem_items_self (s : State) (i : ItemId) : (s.deleteItem i).items i = none := by
  rcases deleteItem_cases s i with ⟨h, heq⟩ | ⟨_, _, ⟨_, heq⟩ | ⟨_, _, heq⟩ | ⟨_, _, heq⟩⟩
  · rw [heq]
    exact h
  all_goals
    rw [heq]
    exact Function.update_self ..

/-- `delete_item` does not look at the stack. -/
theorem deleteItem_setStack (s : State) (k : List Frame) (i : ItemId) :
    { s with stack := k }.deleteItem i = { s.deleteItem i with stack := k } := by
  unfold deleteItem
  cases hi : s.items i with
  | none => rfl
  | some item => cases hz : item.zombie <;> cases hf : item.inFlight <;> simp [hz, hf]

/-- `response_cb` by cases: the item was freed, or it is not in flight, or its
callback gets the reply. -/
theorem responseCb_cases (s : State) (i : ItemId)
    (h : ∀ item, i ∈ s.itemsInFlight → s.items i = some item →
      item.inFlight = true ∧ item.zombie = false) :
    (s.items i = none ∧ s.responseCb i = s.abort .freedItem) ∨
    (i ∉ s.itemsInFlight ∧ s.responseCb i = s) ∨
    ∃ item, s.items i = some item ∧ item.zombie = false ∧ s.responseCb i =
      { s with itemsInFlight := s.itemsInFlight.erase i }.invoke i .reply (.responseCb i) := by
  unfold responseCb
  cases hi : s.items i with
  | none => exact .inl ⟨rfl, rfl⟩
  | some item =>
    refine .inr ?_
    by_cases hm : i ∈ s.itemsInFlight
    · obtain ⟨hfl, hz⟩ := h item hm hi
      exact .inr ⟨item, rfl, hz, by simp [hm, hfl, hz]⟩
    · exact .inl ⟨hm, by simp [hm]⟩

end State

namespace Filed

variable {s s' : State} {i : ItemId} {f : Frame} {k : List Frame}

section

variable (h : Filed s)

include h

/-- No IQ is asked twice. -/
theorem unansweredNodup (ho : Ordered s) : s.unanswered.Nodup :=
  (ho.fifo.sentSorted.imp Nat.ne_of_lt).sublist h.asked

/-- There are no more zombies than unanswered IQs. -/
theorem length_crypt_le (hs : Awaited s) :
    s.cryptItems.length ≤ s.unanswered.length :=
  (List.subperm_of_subset h.cryptNodup hs).length_le

/-- Nothing runs any more in a pipeline that is disposed. -/
theorem running (hk : s.stack = f :: k) : s.phase ≠ .disposed := by
  intro hp
  have hnil := h.disposed hp
  rw [hk] at hnil
  cases hnil

/-- No other frame is about the item that is being cancelled. -/
theorem notLeaving (hk : s.stack = .createZombie i :: k) :
    i ∉ k.filterMap Frame.leaving := by
  have hnodup := h.leavingNodup
  rw [hk, List.filterMap_cons_some (show Frame.leaving (.createZombie i) = some i from rfl)]
    at hnodup
  exact (List.nodup_cons.mp hnodup).1

/-- An item that is cancelled in flight waits for its reply. -/
theorem cancelled (hk : s.stack = .createZombie i :: k) {item : Item}
    (hi : s.items i = some item) (hfl : item.inFlight = true) :
    item.zombie = false ∧ i ∈ s.itemsInFlight ∧ i ∈ s.unanswered := by
  have hz : item.zombie = false := h.cancelling i (hk ▸ List.mem_cons_self) item hi
  refine ⟨hz, (h.waiting (h.running hk) i item hi hfl hz).resolve_right fun hm => ?_⟩
  rw [hk] at hm
  have hm' : Frame.responseCb i ∈ k := List.mem_of_ne_of_mem (by simp) hm
  exact h.notLeaving hk (List.mem_filterMap.mpr ⟨_, hm', rfl⟩)

/-! ## One operation at a time -/

theorem abort (f : Fault) : Filed (s.abort f) := { h with }

/-- A frame on top of the stack that is not about an item in flight. -/
theorem push (hf : f.leaving = none) (hd : s.phase ≠ .disposed) :
    Filed { s with stack := f :: s.stack } := by
  refine { h with
    waiting := ?waiting, cancelling := ?cancelling, leavingNodup := ?leavingNodup
    disposed := fun hp => absurd hp hd }
  case waiting =>
    intro hp j item hj hfl hz
    exact (h.waiting hp j item hj hfl hz).imp id (List.mem_cons_of_mem _)
  case cancelling =>
    intro j hj
    rcases List.mem_cons.mp hj with rfl | hj
    · cases hf
    · exact h.cancelling j hj
  case leavingNodup =>
    show ((f :: s.stack).filterMap Frame.leaving).Nodup
    rw [List.filterMap_cons_none hf]
    exact h.leavingNodup

theorem go (hd : s.phase ≠ .disposed) : Filed s.go := h.push rfl hd

/-- The frame on top is dropped; when `response_cb` waited in it, its item is gone. -/
theorem pop (hk : s.stack = f :: k)
    (hf : ∀ i, f = .responseCb i → s.items i = none) : Filed { s with stack := k } := by
  have hmem : ∀ g ∈ k, g ∈ s.stack := fun g hg => hk ▸ List.mem_cons_of_mem _ hg
  have hsub : (k.filterMap Frame.leaving).Sublist (s.stack.filterMap Frame.leaving) := by
    rw [hk]
    exact (List.sublist_cons_self f k).filterMap _
  refine { h with
    waiting := ?waiting, cancelling := fun j hj => h.cancelling j (hmem _ hj)
    leavingNodup := h.leavingNodup.sublist hsub, disposed := ?disposed }
  case waiting =>
    intro hp j item hj hfl hz
    refine (h.waiting hp j item hj hfl hz).imp id fun hm => ?_
    rw [hk] at hm
    refine List.mem_of_ne_of_mem (fun hfr => ?_) hm
    have hnone : s.items j = none := hf j hfr.symm
    rw [show s.items j = some item from hj] at hnone
    cases hnone
  case disposed => exact fun hp => absurd hp (h.running hk)

/-- `delete_item`: whichever list the flags name, the item is no longer on the heap. -/
theorem deleteItem (i : ItemId) : Filed (s.deleteItem i) := by
  have hget : ∀ j item, Function.update s.items i none j = some item →
      j ≠ i ∧ s.items j = some item := by
    intro j item hj
    by_cases hji : j = i
    · rw [hji, Function.update_self] at hj
      cases hj
    · exact ⟨hji, by rwa [Function.update_of_ne hji] at hj⟩
  rcases State.deleteItem_cases s i with ⟨_, heq⟩ | ⟨item, hi, ⟨_, heq⟩ | ⟨_, _, heq⟩ | ⟨_, _, heq⟩⟩
  · rw [heq]
    exact h.abort _
  all_goals
    have hpend := fun j hj it hit => h.pendingItem j hj it (hget j it hit).2
    have hfly := fun j hj it hit => h.inFlightItem j hj it (hget j it hit).2
    have hcrypt := fun j hj it hit => h.cryptItem j hj it (hget j it hit).2
    have hcancel := fun j hj it hit => h.cancelling j hj it (hget j it hit).2
    have hwait := fun hp j it hit => h.waiting hp j it (hget j it hit).2
    rw [heq]
  · exact { h with
      pendingItem := hpend, inFlightItem := hfly, cancelling := hcancel, waiting := hwait
      cryptItem := fun j hj => hcrypt j (List.mem_of_mem_erase hj)
      cryptNodup := h.cryptNodup.erase _
      linkedLt := fun j hj => h.linkedLt j (hj.imp id List.mem_of_mem_erase) }
  · refine { h with
      pendingItem := hpend, cryptItem := hcrypt, cancelling := hcancel, waiting := ?_
      inFlightItem := fun j hj => hfly j (List.mem_of_mem_erase hj)
      inFlightNodup := h.inFlightNodup.erase _
      linkedLt := fun j hj => h.linkedLt j (hj.imp List.mem_of_mem_erase id) }
    intro hp j it hit hfl hz
    have hji : j ≠ i := (hget j it hit).1
    exact (hwait hp j it hit hfl hz).imp
      (fun hm => ⟨(List.mem_erase_of_ne hji).mpr hm.1, hm.2⟩) id
  · exact { h with
      inFlightItem := hfly, cryptItem := hcrypt, cancelling := hcancel, waiting := hwait
      pendingItem := fun j hj => hpend j (List.mem_of_mem_erase hj) }

/-- The callback of a frame has returned and its item is deleted. -/
theorem deleteReturned (hk : s.stack = f :: k) (hf : ∀ j, f = .responseCb j → j = i) :
    Filed ({ s with stack := k }.deleteItem i) := by
  rw [State.deleteItem_setStack]
  refine (h.deleteItem i).pop (f := f) ?_ fun j hj => ?_
  · rw [State.deleteItem_stack, hk]
  · rw [hf j hj]
    exact State.deleteItem_items_self s i

/-- An item keeps its flags. -/
theorem setItem {item item' : Item} (hi : s.items i = some item)
    (hfl : item'.inFlight = item.inFlight) (hz : item'.zombie = item.zombie) :
    Filed (s.setItem i item') := by
  have hget : ∀ j it, (s.setItem i item').items j = some it →
      ∃ it', s.items j = some it' ∧ it.inFlight = it'.inFlight ∧ it.zombie = it'.zombie := by
    intro j it hj
    by_cases hji : j = i
    · rw [hji, State.setItem_items_self] at hj
      cases hj
      exact ⟨item, hji ▸ hi, hfl, hz⟩
    · rw [State.setItem_items_ne s _ hji] at hj
      exact ⟨it, hj, rfl, rfl⟩
  refine { h with
    pendingItem := ?pendingItem, inFlightItem := ?inFlightItem, cryptItem := ?cryptItem
    waiting := ?waiting, cancelling := ?cancelling }
  case pendingItem =>
    intro j hj it hit
    obtain ⟨it', hit', hfl', hz'⟩ := hget j it hit
    rw [hfl', hz']
    exact h.pendingItem j hj it' hit'
  case inFlightItem =>
    intro j hj it hit
    obtain ⟨it', hit', hfl', hz'⟩ := hget j it hit
    rw [hfl', hz']
    exact h.inFlightItem j hj it' hit'
  case cryptItem =>
    intro j hj it hit
    obtain ⟨it', hit', _, hz'⟩ := hget j it hit
    rw [hz']
    exact h.cryptItem j hj it' hit'
  case waiting =>
    intro hp j it hit
    obtain ⟨it', hit', hfl', hz'⟩ := hget j it hit
    rw [hfl', hz']
    exact h.waiting hp j it' hit'
  case cancelling =>
    intro j hj it hit
    obtain ⟨it', hit', _, hz'⟩ := hget j it hit
    rw [hz']
    exact h.cancelling j hj it' hit'

/-- The callback of an item in flight is invoked; the item leaves its list. -/
theorem invokeLeaving (o : Outcome) (hf : f.leaving = some i)
    (hd : s.phase ≠ Phase.disposed) (hi : i ∉ s.stack.filterMap Frame.leaving)
    (hz : ∀ item, s.items i = some item → item.zombie = false) : Filed (s.invoke i o f) := by
  refine { h with
    asked := ?asked, waiting := ?waiting, cancelling := ?cancelling, leavingNodup := ?leavingNodup
    disposed := fun hp => absurd hp hd }
  case asked => simpa [State.invoke] using h.asked
  case waiting =>
    intro hp j item hj hfl hzj
    exact (h.waiting hp j item hj hfl hzj).imp id (List.mem_cons_of_mem _)
  case cancelling =>
    intro j hj
    rcases List.mem_cons.mp hj with rfl | hj
    · cases hf
      exact hz
    · exact h.cancelling j hj
  case leavingNodup =>
    show ((f :: s.stack).filterMap Frame.leaving).Nodup
    rw [List.filterMap_cons_some hf]
    exact List.nodup_cons.mpr ⟨hi, h.leavingNodup⟩

/-- A callback is invoked from a frame that leaves its item where it is. -/
theorem invokeStaying (o : Outcome) (hf : f.leaving = none)
    (hd : s.phase ≠ .disposed) : Filed (s.invoke i o f) := by
  have hlog : Filed { s with log := s.log ++ [Action.called i o] } :=
    { h with asked := by simpa using h.asked }
  exact hlog.push hf hd

/-- The item is cancelled, or its time is over. -/
theorem createZombie (o : Outcome) (hd : s.phase ≠ .disposed)
    (hi : i ∉ s.stack.filterMap Frame.leaving) : Filed (s.createZombie i o) := by
  unfold State.createZombie
  split
  · exact h.abort _
  · rename_i item hitem
    split
    · exact h.abort _
    · rename_i hz
      have hset : Filed (s.setItem i { item with timer := false }) := h.setItem hitem rfl rfl
      refine hset.invokeLeaving o rfl hd hi fun it hit => ?_
      rw [State.setItem_items_self] at hit
      cases hit
      simpa using hz

/-- The cancelled item is a zombie from now on, if it is in flight. -/
theorem createZombieRet (hk : s.stack = .createZombie i :: k) :
    Filed ({ s with stack := k }.createZombieRet i) := by
  unfold State.createZombieRet
  have hpop : Filed { s with stack := k } := h.pop hk nofun
  have hmem : ∀ g ∈ k, g ∈ s.stack := fun g hg => hk ▸ List.mem_cons_of_mem _ hg
  dsimp only
  split
  · exact hpop.abort _
  · rename_i item hi
    split
    · rename_i hfl
      obtain ⟨hz, hlisted, -⟩ := h.cancelled hk hi hfl
      have hnew : ∀ j ∈ s.cryptItems, j ≠ i := by
        rintro j hj rfl
        have hzombie := h.cryptItem j hj item hi
        rw [hz] at hzombie
        cases hzombie
      have hother : ∀ {j it}, j ≠ i →
          ({ s with stack := k }.setItem i { item with zombie := true }).items j = some it →
          s.items j = some it := fun hj hit => by
        rwa [State.setItem_items_ne _ _ hj] at hit
      have hself : ∀ {it},
          ({ s with stack := k }.setItem i { item with zombie := true }).items i = some it →
          it.zombie = true := fun hit => by
        rw [State.setItem_items_self] at hit
        cases hit
        rfl
      have hstay : ∀ j ∈ s.itemsInFlight.erase i, j ≠ i ∧ j ∈ s.itemsInFlight := fun j hj =>
        h.inFlightNodup.mem_erase_iff.mp hj
      refine Filed.go ?_ (h.running hk)
      refine { hpop with
        pendingItem := ?pendingItem, inFlightItem := ?inFlightItem, cryptItem := ?cryptItem
        inFlightNodup := h.inFlightNodup.erase _
        cryptNodup := List.nodup_cons.mpr ⟨fun hm => hnew i hm rfl, h.cryptNodup⟩
        linkedLt := ?linkedLt, waiting := ?waiting, cancelling := ?cancelling }
      case pendingItem =>
        intro j hj it hit
        refine h.pendingItem j hj it (hother ?_ hit)
        rintro rfl
        rw [(h.pendingItem j hj item hi).1] at hfl
        cases hfl
      case inFlightItem =>
        intro j hj it hit
        exact h.inFlightItem j (hstay j hj).2 it (hother (hstay j hj).1 hit)
      case cryptItem =>
        intro j hj it hit
        rcases List.mem_cons.mp hj with rfl | hj
        · exact hself hit
        · exact h.cryptItem j hj it (hother (hnew j hj) hit)
      case linkedLt =>
        intro j hj
        rcases hj with hj | hj
        · exact h.linkedLt j (.inl (hstay j hj).2)
        · rcases List.mem_cons.mp hj with rfl | hj
          · exact h.linkedLt j (.inl hlisted)
          · exact h.linkedLt j (.inr hj)
      case waiting =>
        intro hp j it hit hflj hzj
        by_cases hji : j = i
        · rw [hself (hji ▸ hit)] at hzj
          cases hzj
        · exact (hpop.waiting hp j it (hother hji hit) hflj hzj).imp
            (fun hm => ⟨(List.mem_erase_of_ne hji).mpr hm.1, hm.2⟩) id
      case cancelling =>
        intro j hj it hit
        refine h.cancelling j (hmem _ hj) it (hother ?_ hit)
        rintro rfl
        exact h.notLeaving hk (List.mem_filterMap.mpr ⟨_, hj, rfl⟩)
    · exact hpop.deleteItem i

/-- `send_next_request`: the head of the pending items takes a slot, or its
callback gets the error. -/
theorem sendNextRequest (ho : Ordered s) (hd : s.phase ≠ .disposed) :
    Filed s.sendNextRequest := by
  rcases s.sendNextRequest_cases with
    ⟨_, heq⟩ | ⟨i, rest, hp, ⟨_, heq⟩ | ⟨item, hi, ⟨_, heq⟩ | ⟨_, _, heq⟩ | ⟨hfl, _, heq⟩⟩⟩
  · rwa [heq]
  · rw [heq]
    exact h.abort _
  · rw [heq]
    exact h.abort _
  all_goals
    have hrest : ∀ j ∈ rest, j ∈ s.pendingItems := fun j hj => hp ▸ List.mem_cons_of_mem _ hj
    rw [heq]
  · -- no porter
    have hbase : Filed { s with pendingItems := rest } :=
      { h with pendingItem := fun j hj => h.pendingItem j (hrest j hj) }
    exact hbase.invokeStaying (i := i) .sendFailed rfl hd
  · have hhead : i ∈ s.pendingItems := hp ▸ List.mem_cons_self
    have hsorted := ho.pendingSorted
    rw [hp] at hsorted
    have hne : ∀ j ∈ rest, j ≠ i := fun j hj =>
      Nat.ne_of_gt ((List.pairwise_cons.mp hsorted).1 j hj)
    have hz : item.zombie = false := (h.pendingItem i hhead item hi).2
    have hother : ∀ {j it}, j ≠ i →
        Function.update s.items i (some { item with inFlight := true, timer := true }) j = some it →
        s.items j = some it := fun hj hit => by
      rwa [Function.update_of_ne hj] at hit
    have hself : ∀ {it}, Function.update s.items i
        (some { item with inFlight := true, timer := true }) i = some it →
        it.inFlight = true ∧ it.zombie = false := by
      intro it hit
      rw [Function.update_self] at hit
      cases hit
      exact ⟨rfl, hz⟩
    refine { h with
      asked := ?asked, pendingItem := ?pendingItem, inFlightItem := ?inFlightItem
      cryptItem := ?cryptItem, inFlightNodup := ?inFlightNodup, linkedLt := ?linkedLt
      waiting := ?waiting, cancelling := ?cancelling }
    case asked =>
      rw [sentIds_append, sentIds_sent]
      exact h.asked.append (List.Sublist.refl _)
    case pendingItem =>
      exact fun j hj it hit => h.pendingItem j (hrest j hj) it (hother (hne j hj) hit)
    case inFlightItem =>
      intro j hj it hit
      by_cases hji : j = i
      · exact hself (hji ▸ hit)
      · exact h.inFlightItem j (List.mem_of_ne_of_mem hji hj) it (hother hji hit)
    case cryptItem =>
      intro j hj it hit
      refine h.cryptItem j hj it (hother ?_ hit)
      rintro rfl
      have hzombie := h.cryptItem j hj item hi
      rw [hz] at hzombie
      cases hzombie
    case inFlightNodup =>
      refine List.nodup_cons.mpr ⟨fun hm => ?_, h.inFlightNodup⟩
      rw [(h.inFlightItem i hm item hi).1] at hfl
      cases hfl
    case linkedLt =>
      rintro j (hj | hj)
      · rcases List.mem_cons.mp hj with rfl | hj
        · exact ho.pendingLt j hhead
        · exact h.linkedLt j (.inl hj)
      · exact h.linkedLt j (.inr hj)
    case waiting =>
      intro hph j it hit hflj hzj
      by_cases hji : j = i
      · subst hji
        exact .inl ⟨List.mem_cons_self, List.mem_append_right _ (List.mem_singleton_self _)⟩
      · exact (h.waiting hph j it (hother hji hit) hflj hzj).imp
          (fun hm => ⟨List.mem_cons_of_mem _ hm.1, List.mem_append_left _ hm.2⟩) id
    case cancelling =>
      intro j hj it hit
      by_cases hji : j = i
      · exact (hself (hji ▸ hit)).2
      · exact h.cancelling j hj it (hother hji hit)

theorem enqueue (timeout : ℕ) : Filed (s.enqueue timeout) := by
  let item : Item :=
    { timer := false, timeout := if timeout = 0 then defaultRequestTimeout else timeout
      inFlight := false, zombie := false }
  have hother : ∀ {j it}, j ≠ s.next → (s.setItem s.next item).items j = some it →
      s.items j = some it := fun hj hit => by
    rwa [State.setItem_items_ne s _ hj] at hit
  have hself : ∀ {it}, (s.setItem s.next item).items s.next = some it →
      it.inFlight = false ∧ it.zombie = false := fun hit => by
    rw [State.setItem_items_self] at hit
    cases hit
    exact ⟨rfl, rfl⟩
  refine { h with
    pendingItem := ?pendingItem, inFlightItem := ?inFlightItem, cryptItem := ?cryptItem
    linkedLt := fun j hj => Nat.lt_succ_of_lt (h.linkedLt j hj)
    waiting := ?waiting, cancelling := ?cancelling }
  case pendingItem =>
    intro j hj it hit
    by_cases hjn : j = s.next
    · subst hjn
      exact hself hit
    · refine h.pendingItem j ?_ it (hother hjn hit)
      exact (List.mem_append.mp hj).resolve_right fun hm => hjn (List.mem_singleton.mp hm)
  case inFlightItem =>
    exact fun j hj it hit =>
      h.inFlightItem j hj it (hother (Nat.ne_of_lt (h.linkedLt j (.inl hj))) hit)
  case cryptItem =>
    exact fun j hj it hit =>
      h.cryptItem j hj it (hother (Nat.ne_of_lt (h.linkedLt j (.inr hj))) hit)
  case waiting =>
    intro hp j it hit hfl hz
    by_cases hjn : j = s.next
    · subst hjn
      rw [(hself hit).1] at hfl
      cases hfl
    · exact h.waiting hp j it (hother hjn hit) hfl hz
  case cancelling =>
    intro j hj it hit
    by_cases hjn : j = s.next
    · subst hjn
      exact (hself hit).2
    · exact h.cancelling j hj it (hother hjn hit)

/-- The reply of an item is here, and nothing waits for it. -/
theorem answered (hi : ∀ item, s.items i = some item → item.inFlight = true → item.zombie = false →
      Frame.responseCb i ∈ s.stack) : Filed { s with unanswered := s.unanswered.erase i } := by
  refine { h with asked := List.erase_sublist.trans h.asked, waiting := ?_ }
  intro hp j it hit hfl hz
  by_cases hji : j = i
  · subst hji
    exact .inr (hi it hit hfl hz)
  · exact (h.waiting hp j it hit hfl hz).imp
      (fun hm => ⟨hm.1, (List.mem_erase_of_ne hji).mpr hm.2⟩) id

/-- An item gives its slot back while its callback runs. -/
theorem released (hi : ∀ item, s.items i = some item → item.inFlight = true → item.zombie = false →
      Frame.responseCb i ∈ s.stack) :
    Filed { s with itemsInFlight := s.itemsInFlight.erase i } := by
  refine { h with
    inFlightItem := fun j hj => h.inFlightItem j (List.mem_of_mem_erase hj)
    inFlightNodup := h.inFlightNodup.erase _
    linkedLt := fun j hj => h.linkedLt j (hj.imp List.mem_of_mem_erase id), waiting := ?_ }
  intro hp j it hit hfl hz
  by_cases hji : j = i
  · subst hji
    exact .inr (hi it hit hfl hz)
  · exact (h.waiting hp j it hit hfl hz).imp
      (fun hm => ⟨(List.mem_erase_of_ne hji).mpr hm.1, hm.2⟩) id

/-- A reply arrives while nothing else is running. -/
theorem reply (hs : s.stack = []) (hd : s.phase ≠ .disposed) (i : ItemId) :
    Filed ({ s with unanswered := s.unanswered.erase i }.responseCb i) := by
  rcases State.responseCb_cases { s with unanswered := s.unanswered.erase i } i
      (fun item hm hi => h.inFlightItem i hm item hi) with
    ⟨hi, heq⟩ | ⟨hm, heq⟩ | ⟨item, hi, hz, heq⟩
  · rw [heq]
    refine (h.answered fun item hitem => ?_).abort _
    rw [show s.items i = none from hi] at hitem
    cases hitem
  · rw [heq]
    exact h.answered fun item hitem hfl hz =>
      (h.waiting hd i item hitem hfl hz).resolve_left fun hw => hm hw.1
  · rw [heq]
    have hbase : Filed (s.invoke i .reply (.responseCb i)) := by
      refine h.invokeLeaving .reply rfl hd (by rw [hs]; exact List.not_mem_nil) fun it hit => ?_
      rw [show s.items i = some item from hi] at hit
      cases hit
      exact hz
    have hhere : Frame.responseCb i ∈ (s.invoke i .reply (.responseCb i)).stack :=
      List.mem_cons_self
    exact (hbase.answered fun _ _ _ _ => hhere).released fun _ _ _ _ => hhere

/-- One round of the loop of `flush`. -/
theorem flushLoop (hs : s.stack = []) {q : Queue} (hq : s.phase = .flushing q) :
    Filed (s.flushLoop q) := by
  have hd : s.phase ≠ .disposed := fun hp => by
    rw [hq] at hp
    cases hp
  unfold State.flushLoop
  split
  · have hquiet : ∀ j item, s.items j = some item → item.inFlight = true → item.zombie = false →
        (j ∈ s.itemsInFlight ∧ j ∈ s.unanswered) ∨ Frame.responseCb j ∈ s.stack := h.waiting hd
    cases q with
    | inFlight => exact { h with waiting := fun _ => hquiet, disposed := nofun }
    | pending => exact { h with waiting := fun _ => hquiet, disposed := nofun }
    | crypt => exact { h with waiting := fun hp => absurd rfl hp, disposed := fun _ => hs }
  · split
    · exact h.abort _
    · split
      · exact h.deleteItem _
      · exact h.invokeStaying _ rfl hd

end

end Filed

/-! ## Steps -/

theorem Filed.stepRet {s s' : State} (h : Filed s) (ho : Ordered s) (hs : stepRet s = some s') :
    Filed s' := by
  unfold RequestPipeline.stepRet at hs
  split at hs
  · rename_i i k hk
    cases hs
    exact h.createZombieRet hk
  · rename_i i k hk
    cases hs
    refine (h.deleteReturned hk fun j hj => by cases hj; rfl).go ?_
    rw [State.deleteItem_phase]
    exact h.running hk
  · rename_i i k hk
    cases hs
    have hret : Filed ({ s with stack := k }.deleteItem i) := h.deleteReturned hk nofun
    unfold State.sendNextRequestRet
    dsimp only
    split
    · exact hret
    · refine hret.sendNextRequest (ho.deleteFailed hk) ?_
      rw [State.deleteItem_phase]
      exact h.running hk
  · rename_i i k hk
    cases hs
    exact h.deleteReturned hk nofun
  · cases hs
  · cases hs

theorem Filed.stepTau {s s' : State} (h : Filed s) (ho : Ordered s) (hs : stepTau s = some s') :
    Filed s' := by
  unfold RequestPipeline.stepTau at hs
  split at hs
  · rename_i k hk
    cases hs
    unfold State.goLoop
    split
    · exact h.sendNextRequest ho (h.running hk)
    · rw [hk, List.tail_cons]
      exact h.pop hk nofun
  · cases hs
  · rename_i hk
    split at hs
    · rename_i q hq
      cases hs
      exact h.flushLoop hk hq
    · cases hs

/-- User code runs in a pipeline that is not disposed yet. -/
theorem Filed.not_disposed {s : State} (h : Filed s) (hu : s.userTurn = true) :
    s.phase ≠ .disposed := by
  intro hp
  simp [State.userTurn, h.disposed hp, hp] at hu

/-- **One step.**  Every event keeps the flags right. -/
theorem Filed.step {s s' : State} {e : Event} (h : Filed s) (ho : Ordered s)
    (hs : step s e = some s') : Filed s' := by
  unfold RequestPipeline.step at hs
  split at hs
  · cases hs
  have halive : s.AtRest → s.phase ≠ .disposed := fun hrest hp => by
    rw [hrest.2] at hp
    cases hp
  have hempty : ∀ i, s.AtRest → i ∉ s.stack.filterMap Frame.leaving := fun i hrest => by
    rw [hrest.1]
    exact List.not_mem_nil
  cases e with
  | ret => exact h.stepRet ho hs
  | tau => exact h.stepTau ho hs
  | enqueue timeout =>
    obtain ⟨_, ⟨⟩⟩ := Option.ite_none_right_eq_some.mp hs
    exact h.enqueue timeout
  | cancel i =>
    obtain ⟨⟨hu, hlive⟩, ⟨⟩⟩ := Option.ite_none_right_eq_some.mp hs
    refine h.createZombie _ (h.not_disposed hu) fun hm => ?_
    -- the item of a frame on the stack was called, so it cannot be cancelled
    obtain ⟨f, hf, hfi⟩ := List.mem_filterMap.mp hm
    refine hlive.2 (ho.framesCalled f hf i ?_)
    cases f <;> first | exact hfi | cases hfi
  | timeout i =>
    obtain ⟨⟨hrest, _⟩, ⟨⟩⟩ := Option.ite_none_right_eq_some.mp hs
    exact h.createZombie _ (halive hrest) (hempty i hrest)
  | idle =>
    obtain ⟨⟨hrest, _⟩, ⟨⟩⟩ := Option.ite_none_right_eq_some.mp hs
    have hset : Filed { s with delayedRuns := s.delayedRuns - 1 } := { h with }
    exact hset.go (halive hrest)
  | dispose =>
    obtain ⟨hrest, ⟨⟩⟩ := Option.ite_none_right_eq_some.mp hs
    exact { h with waiting := fun _ => h.waiting (halive hrest), disposed := by rintro ⟨⟩ }
  | porterAvailable =>
    obtain ⟨hrest, ⟨⟩⟩ := Option.ite_none_right_eq_some.mp hs
    exact { h with }
  | porterGone =>
    cases hs
    exact { h with }
  | reply i =>
    simp only [stepReply] at hs
    split at hs
    · rename_i hreply
      split at hs
      · rename_i hp
        cases hs
        exact h.reply hreply.1 (by rw [hp]; rintro ⟨⟩) i
      · rename_i hp
        cases hs
        exact { h with
          asked := List.erase_sublist.trans h.asked
          waiting := fun hne => absurd hp hne }
      · cases hs
    · cases hs

/-! ## Which zombies are awaited -/

namespace Awaited

variable {s : State} {i : ItemId} {k : List Frame}

section

variable (h : Awaited s)

include h

theorem deleteItem (i : ItemId) : Awaited (s.deleteItem i) := by
  rcases State.deleteItem_cases s i with ⟨_, heq⟩ | ⟨_, _, ⟨_, heq⟩ | ⟨_, _, heq⟩ | ⟨_, _, heq⟩⟩
  · rw [heq]
    exact h
  · rw [heq]
    exact fun j hj => h (List.mem_of_mem_erase hj)
  · rw [heq]
    exact h
  · rw [heq]
    exact h

theorem createZombie (o : Outcome) : Awaited (s.createZombie i o) := by
  unfold State.createZombie
  split
  · exact h
  · split
    · exact h
    · exact h

/-- A new zombie is still waiting for its reply. -/
theorem createZombieRet (hf : Filed s) (hk : s.stack = .createZombie i :: k) :
    Awaited ({ s with stack := k }.createZombieRet i) := by
  unfold State.createZombieRet
  dsimp only
  split
  · exact h
  · rename_i item hi
    split
    · rename_i hfl
      intro j hj
      rcases List.mem_cons.mp hj with rfl | hj
      · exact (hf.cancelled hk hi hfl).2.2
      · exact h hj
    · exact deleteItem (s := { s with stack := k }) h i

theorem sendNextRequest : Awaited s.sendNextRequest := by
  rcases s.sendNextRequest_cases with
    ⟨_, heq⟩ | ⟨i, rest, _, ⟨_, heq⟩ | ⟨item, _, ⟨_, heq⟩ | ⟨_, _, heq⟩ | ⟨_, _, heq⟩⟩⟩
  all_goals rw [heq]
  · exact h
  · exact h
  · exact h
  · exact h
  · exact fun j hj => List.mem_append_left _ (h hj)

theorem flushLoop (q : Queue) : Awaited (s.flushLoop q) := by
  unfold State.flushLoop
  split
  · cases q <;> exact h
  · split
    · exact h
    · split
      · exact h.deleteItem _
      · exact h

theorem stepRet {s' : State} (hf : Filed s) (hs : stepRet s = some s') :
    Awaited s' := by
  unfold RequestPipeline.stepRet at hs
  split at hs
  · rename_i i k hk
    cases hs
    exact h.createZombieRet hf hk
  · rename_i i k _
    cases hs
    exact deleteItem (s := { s with stack := k }) h i
  · rename_i i k _
    cases hs
    have hret : Awaited ({ s with stack := k }.deleteItem i) :=
      deleteItem (s := { s with stack := k }) h i
    unfold State.sendNextRequestRet
    dsimp only
    split
    · exact hret
    · exact hret.sendNextRequest
  · rename_i i k _
    cases hs
    exact deleteItem (s := { s with stack := k }) h i
  · cases hs
  · cases hs

theorem stepTau {s' : State} (hs : stepTau s = some s') : Awaited s' := by
  unfold RequestPipeline.stepTau at hs
  split at hs
  · cases hs
    unfold State.goLoop
    split
    · exact h.sendNextRequest
    · exact h
  · cases hs
  · split at hs
    · cases hs
      exact h.flushLoop _
    · cases hs

end

end Awaited

/-- A reply changes the zombies and the other unanswered IQs in no way. -/
theorem stepReply_lists {s s' : State} {i : ItemId} (h : Filed s) (hs : stepReply s i = some s') :
    s'.cryptItems = s.cryptItems ∧ s'.unanswered = s.unanswered.erase i := by
  unfold stepReply at hs
  split at hs
  · split at hs
    · cases hs
      rcases State.responseCb_cases { s with unanswered := s.unanswered.erase i } i
          (fun item hm hi => h.inFlightItem i hm item hi) with
        ⟨_, heq⟩ | ⟨_, heq⟩ | ⟨_, _, _, heq⟩
      all_goals
        rw [heq]
        exact ⟨rfl, rfl⟩
    · cases hs
      exact ⟨rfl, rfl⟩
    · cases hs
  · cases hs

/-- The condition on one event: the item that is answered is not a zombie. -/
def NoLateReply (s : State) : Event → Prop
  | .reply i => i ∉ s.cryptItems
  | _ => True

instance (s : State) : ∀ e, Decidable (NoLateReply s e)
  | .reply i => inferInstanceAs (Decidable (i ∉ s.cryptItems))
  | .enqueue _ | .cancel _ | .ret | .tau | .idle | .timeout _ | .dispose | .porterAvailable
  | .porterGone => .isTrue trivial

/-- **One step.**  Every event but the reply to a zombie keeps the zombies awaited. -/
theorem awaited_step_iff {s s' : State} {e : Event} (h : Awaited s) (hf : Filed s)
    (ho : Ordered s) (hs : step s e = some s') : Awaited s' ↔ NoLateReply s e := by
  unfold step at hs
  split at hs
  · cases hs
  cases e with
  | ret => exact iff_of_true (h.stepRet hf hs) trivial
  | tau => exact iff_of_true (h.stepTau hs) trivial
  | enqueue timeout =>
    obtain ⟨_, ⟨⟩⟩ := Option.ite_none_right_eq_some.mp hs
    exact iff_of_true h trivial
  | cancel i =>
    obtain ⟨_, ⟨⟩⟩ := Option.ite_none_right_eq_some.mp hs
    exact iff_of_true (h.createZombie _) trivial
  | timeout i =>
    obtain ⟨_, ⟨⟩⟩ := Option.ite_none_right_eq_some.mp hs
    exact iff_of_true (h.createZombie _) trivial
  | idle =>
    obtain ⟨_, ⟨⟩⟩ := Option.ite_none_right_eq_some.mp hs
    exact iff_of_true h trivial
  | dispose =>
    obtain ⟨_, ⟨⟩⟩ := Option.ite_none_right_eq_some.mp hs
    exact iff_of_true h trivial
  | porterAvailable =>
    obtain ⟨_, ⟨⟩⟩ := Option.ite_none_right_eq_some.mp hs
    exact iff_of_true h trivial
  | porterGone =>
    cases hs
    exact iff_of_true h trivial
  | reply i =>
    obtain ⟨hcrypt, hunanswered⟩ := stepReply_lists hf hs
    unfold Awaited
    rw [hcrypt, hunanswered]
    constructor
    · -- an IQ is asked once, so it is not unanswered any more
      intro hsub hi
      exact (hf.unansweredNodup ho).not_mem_erase (hsub hi)
    · intro hi j hj
      have hji : j ≠ i := fun hji => hi (hji ▸ hj)
      exact (List.mem_erase_of_ne hji).mpr (h hj)

/-- **Zombies.**  All along a run every item in `crypt_items` has an unanswered IQ, and
there are no more of them than unanswered IQs, exactly if no zombie is answered. -/
theorem crypt_unanswered_iff (es : List Event) (s : State)
    (hrun : run step State.new es = some s) :
    (∀ es₁ es₂ s₁, es = es₁ ++ es₂ → run step State.new es₁ = some s₁ →
        (∀ i ∈ s₁.cryptItems, i ∈ s₁.unanswered) ∧
          s₁.cryptItems.length ≤ s₁.unanswered.length) ↔
      Admits NoLateReply step State.new es := by
  refine forall_run_iff_admits (I := fun s => Awaited s ∧ Filed s ∧ Ordered s)
    (fun s h => ⟨h.1, h.2.1.length_crypt_le h.1⟩) ?_ es
    ⟨List.Subset.refl _, filed_new, ordered_new⟩ hrun
  rintro s e s' ⟨h, hf, ho⟩ hs
  have hiff := awaited_step_iff h hf ho hs
  have hf' := hf.step ho hs
  constructor
  · refine ⟨fun hall => hiff.mp hall.1, fun hok => ?_⟩
    exact ⟨hiff.mpr hok, hf'.length_crypt_le (hiff.mpr hok)⟩
  · exact fun hok => ⟨hiff.mpr hok, hf', ho.step hs⟩

/-- An item is sent and then cancelled. -/
def cancelledInFlight : List Event :=
  [.porterAvailable, .enqueue 0, .idle, .tau, .tau, .cancel 0, .ret, .tau]

theorem crypt_unanswered_iff_cancelledInFlight :
    (∃ s, run step State.new cancelledInFlight = some s ∧ s.cryptItems = [0]) ∧
      ∀ es₁ es₂ s₁, cancelledInFlight = es₁ ++ es₂ → run step State.new es₁ = some s₁ →
        (∀ i ∈ s₁.cryptItems, i ∈ s₁.unanswered) ∧
          s₁.cryptItems.length ≤ s₁.unanswered.length :=
  ⟨⟨_, rfl, rfl⟩, (crypt_unanswered_iff cancelledInFlight _ rfl).mpr (by decide)⟩

/-- Its reply comes late: the zombie stays, and nothing will take it away before
`dispose`. -/
theorem zombie_outlives_reply :
    ∃ s, run step State.new (cancelledInFlight ++ [.reply 0]) = some s ∧
      s.cryptItems = [0] ∧ s.unanswered = [] ∧
      ¬ ((∀ i ∈ s.cryptItems, i ∈ s.unanswered) ∧
        s.cryptItems.length ≤ s.unanswered.length) :=
  ⟨_, rfl, rfl, rfl, by decide⟩

end RequestPipeline
