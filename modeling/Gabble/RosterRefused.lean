/-
# Roster sets that are refused

When a roster set is answered with an error the server has changed nothing, and the item
should stay what the pushes made of it.  `roster_edited_cb` does the same for an error as
for a result, though: an item that is not on the roster gets the subscription that the
edit asked for.
-/
import Mathlib.Tactic.Common
import Gabble.RosterValidity

open Transition

namespace Roster

variable {s s' : State} {h : Handle} {item : Item} {iq : Iq}

/-! ## What is believed of a contact -/

/-- What an item says about the contact's place on the server's roster. -/
structure Belief where
  subscription : Subscription
  name : Option String
  groups : Finset Group
  googleType : GoogleItemType
deriving DecidableEq

/-- The belief of an item. -/
def Item.belief (item : Item) : Belief :=
  ⟨item.subscription, item.name, item.groups, item.googleType⟩

/-- What is believed of a contact, `none` when there is no item. -/
def State.belief (s : State) (h : Handle) : Option Belief := (s.item h).map Item.belief

/-- The contact is believed to be on the server's roster. -/
def State.OnRoster (s : State) (h : Handle) : Prop :=
  ∃ b ∈ s.belief h, b.subscription ≠ .remove

/-- The belief stays what it was.  An item that is not on the roster may go. -/
def BeliefKept (s s' : State) (h : Handle) : Prop :=
  s'.belief h = s.belief h ∨ (s'.belief h = none ∧ ¬ s.OnRoster h)

theorem belief_congr (hitem : s'.item h = s.item h) : s'.belief h = s.belief h := by
  rw [State.belief, hitem]
  rfl

theorem belief_of_item (hitem : s.item h = some item) : s.belief h = some item.belief := by
  rw [State.belief, hitem]
  rfl

theorem onRoster_iff (hitem : s.item h = some item) :
    s.OnRoster h ↔ item.subscription ≠ .remove := by
  rw [State.OnRoster, belief_of_item hitem]
  refine ⟨?_, fun hsub => ⟨item.belief, rfl, hsub⟩⟩
  rintro ⟨b, hb, hsub⟩
  cases hb
  exact hsub

/-- Nobody gets onto the roster while the belief is kept. -/
theorem BeliefKept.onRoster (hkept : BeliefKept s s' h) (hon : s'.OnRoster h) : s.OnRoster h := by
  obtain ⟨b, hb, hsub⟩ := hon
  rcases hkept with heq | ⟨hnone, -⟩
  · exact ⟨b, heq ▸ hb, hsub⟩
  · rw [hnone] at hb
    cases hb

/-! ## The steps of the answer -/

/-- Setting an item that says the same changes no belief. -/
theorem setItem_belief {item' : Item} (hitem : s.item h = some item)
    (hsame : item'.belief = item.belief) (h' : Handle) :
    (s.setItem h item').belief h' = s.belief h' := by
  by_cases hh : h' = h
  · subst hh
    rw [belief_of_item (setItem_item_self ..), belief_of_item hitem, hsame]
  · exact belief_congr (setItem_item_ne _ _ hh)

theorem landed_belief (hitem : s.item iq.edit.handle = some item) (success : Bool) (h : Handle) :
    (s.landed iq item success).belief h = s.belief h := by
  have hdrop : (s.dropIq iq).item iq.edit.handle = some item := hitem
  calc (s.landed iq item success).belief h
      = ((s.dropIq iq).setItem iq.edit.handle { item with editsInFlight := false }).belief h :=
        belief_congr ((landed_same s iq item success).item h)
    _ = (s.dropIq iq).belief h := setItem_belief hdrop (by rfl) h
    _ = s.belief h := rfl

/-- Applying edits tells the server, and changes no belief. -/
theorem itemApplyEdits_belief (s : State) (h h' : Handle) :
    (s.itemApplyEdits h).belief h' = s.belief h' := by
  rcases itemApplyEdits_item s h h' with heq | ⟨rfl, item, flight, hitem, heq⟩
  · exact belief_congr heq
  · rw [belief_of_item heq, belief_of_item hitem]
    rfl

/-- An item that is not on the roster may be removed. -/
theorem itemMaybeRemove_beliefKept (s : State) (h h' : Handle) :
    BeliefKept s (s.itemMaybeRemove h).1 h' := by
  rcases itemMaybeRemove_cases s h with ⟨heq, -⟩ | ⟨item, hitem, hrem, heq⟩
  · rw [heq]
    exact .inl rfl
  · rw [heq]
    by_cases hh : h' = h
    · subst hh
      refine .inr ⟨?_, fun hon => ?_⟩
      · rw [State.belief, removeItem_item, if_pos rfl]
        rfl
      · exact (onRoster_iff hitem).mp hon ((Item.removable_iff item).mp hrem).1
    · refine .inl (belief_congr ?_)
      rw [removeItem_item, if_neg hh]

/-- **One answer** keeps all beliefs exactly if it does not create the item. -/
theorem answered_beliefKept_iff (hitem : s.item iq.edit.handle = some item) (success : Bool) :
    (∀ h, BeliefKept s (s.answered iq item success) h) ↔
      (item.subscription = .remove → iq.edit.newSubscription = .remove) := by
  have hbelief (h : Handle) :
      ((s.landed iq item success).itemApplyEdits iq.edit.handle).belief h = s.belief h :=
    (itemApplyEdits_belief ..).trans (landed_belief hitem success h)
  have hfree (t : State) (h : Handle) : (t.itemEditFree iq.edit).belief h = t.belief h :=
    belief_congr ((itemEditFree_sameItems t iq.edit).item h)
  rw [State.answered]
  generalize (s.landed iq item success).itemApplyEdits iq.edit.handle = t at hbelief ⊢
  -- the item as it is when the answer is believed
  obtain ⟨item', hitem', hsame⟩ : ∃ item', t.item iq.edit.handle = some item' ∧
      item'.belief = item.belief := by
    have hsome := (hbelief iq.edit.handle).trans (belief_of_item hitem)
    exact Option.map_eq_some_iff.mp hsome
  have hsub : item'.subscription = item.subscription := congrArg Belief.subscription hsame
  by_cases hcreate : item.subscription = .remove ∧ iq.edit.newSubscription ≠ .remove
  · -- the item is created, and then it is not removed
    refine iff_of_false (fun hall => ?_) fun himp => hcreate.2 (himp hcreate.1)
    have hnew : t.believeEdited iq.edit = t.setItem iq.edit.handle
        { item' with subscription := iq.edit.newSubscription } := by
      rw [State.believeEdited, hitem']
      exact if_pos ⟨hsub.trans hcreate.1, hcreate.2⟩
    have hon : (t.believeEdited iq.edit).OnRoster iq.edit.handle := by
      rw [hnew]
      exact (onRoster_iff (setItem_item_self ..)).mpr hcreate.2
    have hstays : ((t.believeEdited iq.edit).itemMaybeRemove iq.edit.handle).1 =
        t.believeEdited iq.edit := by
      rcases itemMaybeRemove_cases (t.believeEdited iq.edit) iq.edit.handle with
        ⟨heq, -⟩ | ⟨item₁, hitem₁, hrem, -⟩
      · rw [heq]
      · exact absurd ((Item.removable_iff item₁).mp hrem).1 ((onRoster_iff hitem₁).mp hon)
    have hkept := hall iq.edit.handle
    rw [hstays] at hkept
    have hafter : ((t.believeEdited iq.edit).itemEditFree iq.edit).OnRoster iq.edit.handle := by
      rw [State.OnRoster, hfree]
      exact hon
    exact (onRoster_iff hitem).mp (hkept.onRoster hafter) hcreate.1
  · refine iff_of_true (fun h => ?_) fun hremove =>
      Classical.not_not.mp fun hne => hcreate ⟨hremove, hne⟩
    have hsameState : t.believeEdited iq.edit = t := by
      rw [State.believeEdited, hitem']
      exact if_neg fun hcond => hcreate ⟨hsub.symm.trans hcond.1, hcond.2⟩
    rw [hsameState, BeliefKept, hfree, ← hbelief h]
    rcases itemMaybeRemove_beliefKept t iq.edit.handle h with heq | ⟨hnone, hoff⟩
    · exact .inl heq
    · refine .inr ⟨hnone, fun hon => hoff ?_⟩
      rwa [State.OnRoster, hbelief]

/-! ## Runs -/

/-- The roster set that an event answers with an error. -/
def Event.refuses (s : State) : Event → Option Iq
  | .iqReply id false => s.iqs.find? (·.id == id)
  | _ => none

/-- The condition on one event: no roster set is refused while the contact is not on the
roster, but for the removal of the contact. -/
def RefusedOnRoster (s : State) (e : Event) : Prop :=
  ∀ iq ∈ e.refuses s, ∀ item ∈ s.item iq.edit.handle,
    item.subscription = .remove → iq.edit.newSubscription = .remove

instance (s : State) (e : Event) : Decidable (RefusedOnRoster s e) :=
  inferInstanceAs (Decidable (∀ iq ∈ e.refuses s, ∀ item ∈ s.item iq.edit.handle,
    item.subscription = .remove → iq.edit.newSubscription = .remove))

/-- One refusal keeps all beliefs exactly if it meets the condition. -/
theorem refused_iff {id : IqId} (hs : Sound s) (hstep : step s (.iqReply id false) = some s') :
    (∀ h, BeliefKept s s' h) ↔ RefusedOnRoster s (.iqReply id false) := by
  obtain ⟨-, hoperation⟩ := operation_of_step hstep
  cases hfind : s.iqs.find? (·.id == id) with
  | none =>
    rw [operation, hfind] at hoperation
    cases hoperation
  | some iq =>
    have hiq : iq ∈ s.iqs := List.mem_of_find?_eq_some hfind
    obtain rfl : iq.id = id := by simpa using List.find?_some hfind
    obtain ⟨item, hitem, -⟩ := hs.wired.flying hiq
    rw [operation_iqReply hs.wired hiq hitem] at hoperation
    cases hoperation
    rw [answered_beliefKept_iff hitem, RefusedOnRoster]
    simp [Event.refuses, hfind, hitem]

theorem sound_of_run {conn : Connection} {events : List Event}
    (hrun : run step (State.new conn) events = some s) : Sound s :=
  reachable_sound (reachable_of_run events (admits_anyEvent events) hrun)

/-- **Refused edits.**  In a run a refused roster set leaves what is believed of every
contact as it was, and puts nobody onto the roster, exactly if no roster set but a removal
is refused while the contact is not on the roster.  What the answer lets complete later,
such as the removal of a group once its members have been asked to leave it, takes place
after a refusal, too. -/
theorem refused_kept_iff (conn : Connection) (events : List Event) (s : State)
    (hrun : run step (State.new conn) events = some s) :
    (∀ es₁ id es₂ s₁ s₂, events = es₁ ++ .iqReply id false :: es₂ →
        run step (State.new conn) es₁ = some s₁ → step s₁ (.iqReply id false) = some s₂ →
        ∀ h, BeliefKept s₁ s₂ h ∧ (s₂.OnRoster h → s₁.OnRoster h)) ↔
      Admits RefusedOnRoster step (State.new conn) events := by
  rw [admits_iff_forall_split]
  constructor
  · intro hkept es₁ e es₂ s₁ hsplit hrun₁
    -- the run goes on after the event
    rw [hsplit, run_append, hrun₁] at hrun
    obtain ⟨s₂, hstep, -⟩ : ∃ s₂, step s₁ e = some s₂ ∧ run step s₂ es₂ = some s :=
      Option.bind_eq_some_iff.mp hrun
    match e with
    | .iqReply id false =>
      refine (refused_iff (sound_of_run hrun₁) hstep).mp fun h => ?_
      exact (hkept es₁ id es₂ s₁ s₂ hsplit hrun₁ hstep h).1
    | .iqReply _ true | .push .. | .rosterResult .. | .presence .. | .flickerTimeout _
    | .setName .. | .requestSubscription .. | .authorizePublication _ | .storeContacts _
    | .removeContacts _ | .unsubscribe _ | .unpublish _ | .blockContacts _ | .unblockContacts _
    | .setContactGroups .. | .setGroupMembers .. | .addToGroup .. | .removeFromGroup ..
    | .removeGroup _ | .complete _ | .aliasChanged .. | .porterLost | .disconnected =>
      intro iq hiq
      cases hiq
  · intro hok es₁ id es₂ s₁ s₂ hsplit hrun₁ hstep h
    have hkept := (refused_iff (sound_of_run hrun₁) hstep).mpr (hok es₁ _ es₂ s₁ hsplit hrun₁) h
    exact ⟨hkept, hkept.onRoster⟩

/-- Two edits of a contact on the roster are refused, one after the other. -/
theorem refused_kept_iff_twice :
    ∃ s, run step (State.new plainServer)
        [.rosterResult none [bothNode 1], .setName 1 (some "a"), .addToGroup (some 7) [1],
          .iqReply 0 false, .iqReply 1 false] = some s ∧
      s.belief 1 = some ⟨.both, none, ∅, .normal⟩ ∧
      ∀ es₁ id es₂ s₁ s₂, [.rosterResult none [bothNode 1], .setName 1 (some "a"),
          .addToGroup (some 7) [1], .iqReply 0 false, .iqReply 1 false] =
            es₁ ++ .iqReply id false :: es₂ →
        run step (State.new plainServer) es₁ = some s₁ →
        step s₁ (.iqReply id false) = some s₂ →
        ∀ h, BeliefKept s₁ s₂ h ∧ (s₂.OnRoster h → s₁.OnRoster h) :=
  ⟨_, rfl, by decide, (refused_kept_iff plainServer _ _ rfl).mpr (by decide)⟩

/-- A contact is believed to be on the roster although the server refused to store it. -/
theorem refused_contact_believed :
    ¬ ∀ conn events s, run step (State.new conn) events = some s →
        ∀ es₁ id es₂ s₁ s₂, events = es₁ ++ .iqReply id false :: es₂ →
        run step (State.new conn) es₁ = some s₁ → step s₁ (.iqReply id false) = some s₂ →
        ∀ h, BeliefKept s₁ s₂ h ∧ (s₂.OnRoster h → s₁.OnRoster h) := by
  intro hall
  have hkept := hall plainServer [.rosterResult none [], .storeContacts [1], .iqReply 0 false] _ rfl
    [.rosterResult none [], .storeContacts [1]] 0 [] _ _ rfl rfl rfl 1
  obtain ⟨b, hb, hsub⟩ := hkept.2 ⟨⟨.none, none, ∅, .normal⟩, by decide, by decide⟩
  rw [show b = ⟨.remove, none, ∅, .normal⟩ from (Option.some.inj hb).symm] at hsub
  exact hsub rfl

end Roster
