/-
# The subscriptions of the items

`GABBLE_ROSTER_SUBSCRIPTION_INVALID` says in an edit that the subscription is not to be
changed.  An item must never have it, or else the next stanza about the contact fails
an assertion.  It gets there when a roster set that leaves the subscription alone is
answered while the contact is not on the roster: `roster_edited_cb` believes what the
edit says.
-/
import Mathlib.Tactic.Common
import Gabble.RosterRuns

open Transition

namespace Roster

variable {keeps : Option ItemEdit → Prop} {s s' : State} {e : Event} {h : Handle} {item : Item}
  {edits : ItemEdit}

/-! ## Stanzas -/

theorem toMessage_eq_none_iff (item : Item) (h : Handle) (googleRoster : Bool) :
    item.toMessage h googleRoster = none ↔ item.subscription = .invalid := by
  unfold Item.toMessage
  cases item.subscription <;> simp

/-- An edit does not make a subscription invalid. -/
theorem subscription_of_editedItem (hinvalid : (edits.editedItem item).subscription = .invalid) :
    item.subscription = .invalid := by
  have hcase : (edits.editedItem item).subscription = .none ∨
      (edits.editedItem item).subscription = edits.subscriptionFor item := by
    simp only [ItemEdit.editedItem]
    split
    · exact .inl rfl
    · exact .inr rfl
  rcases hcase with heq | heq <;> rw [heq] at hinvalid
  · cases hinvalid
  · unfold ItemEdit.subscriptionFor at hinvalid
    split at hinvalid
    · rename_i hchange
      simp [ItemEdit.changesSubscription, hinvalid] at hchange
    · exact hinvalid

/-! ## Applying edits -/

/-- Only the edits of an item are changed when they are applied. -/
theorem itemApplyEdits_item (s : State) (h h' : Handle) :
    (s.itemApplyEdits h).item h' = s.item h' ∨
    (h' = h ∧ ∃ item flight, s.item h = some item ∧ (s.itemApplyEdits h).item h =
      some { item with unsentEdits := none, editsInFlight := flight }) := by
  rcases itemApplyEdits_cases s h with
    ⟨heq, _⟩ | ⟨item, edits, s₁, hitem, _, _, _, hcore, hcase⟩
  · rw [heq]
    exact .inl rfl
  · by_cases hh : h' = h
    · subst hh
      rcases hcase with ⟨_, _, heq⟩ | ⟨stanza, _, _, heq⟩ | ⟨_, heq⟩
      · refine .inl ?_
        rw [heq]
        exact hcore.item h'
      · refine .inr ⟨rfl, item, true, hitem, ?_⟩
        rw [heq]
        exact setItem_item_self ..
      · refine .inr ⟨rfl, item, item.editsInFlight, hitem, ?_⟩
        rw [heq, State.unchangedEdit, (itemEditFree_sameItems _ _).item]
        exact setItem_item_self ..
    · refine .inl ?_
      rw [← hcore.item h']
      rcases hcase with ⟨_, _, heq⟩ | ⟨stanza, _, _, heq⟩ | ⟨_, heq⟩
      · rw [heq]
        rfl
      · rw [heq]
        exact setItem_item_ne _ _ hh
      · rw [heq, State.unchangedEdit, (itemEditFree_sameItems _ _).item]
        exact setItem_item_ne _ _ hh

theorem itemApplyEdits_fault (s : State) (h : Handle) :
    (s.itemApplyEdits h).fault = s.fault ∨
      ∃ item, s.item h = some item ∧ item.subscription = .invalid := by
  rcases itemApplyEdits_cases s h with
    ⟨heq, _⟩ | ⟨item, edits, s₁, hitem, _, _, _, hcore, hcase⟩
  · rw [heq]
    exact .inl rfl
  · rcases hcase with ⟨_, hmsg, heq⟩ | ⟨stanza, _, _, heq⟩ | ⟨_, heq⟩
    · exact .inr ⟨item, hitem, subscription_of_editedItem ((toMessage_eq_none_iff ..).mp hmsg)⟩
    · rw [heq]
      exact .inl hcore.fault
    · rw [heq, State.unchangedEdit, (itemEditFree_sameItems _ _).fault]
      exact .inl hcore.fault

/-! ## The invariant -/

/-- No item has an invalid subscription, and no assertion has failed. -/
structure Valid (s : State) : Prop where
  fault : s.fault = none
  subscription : ∀ h item, s.item h = some item → item.subscription ≠ .invalid

theorem SameTable.valid (hsame : SameTable s s') (hs : Valid s) : Valid s' :=
  ⟨hsame.fault.trans hs.fault, fun h item hitem =>
    hs.subscription h item ((hsame.item h).symm.trans hitem)⟩

theorem Valid.setItem (hs : Valid s) (h : Handle) (hitem : item.subscription ≠ .invalid) :
    Valid (s.setItem h item) := by
  refine ⟨hs.fault, fun h' item' hitem' => ?_⟩
  by_cases hh : h' = h
  · subst hh
    rw [setItem_item_self] at hitem'
    cases hitem'
    exact hitem
  · rw [setItem_item_ne _ _ hh] at hitem'
    exact hs.subscription h' item' hitem'

theorem Valid.itemApplyEdits (hs : Valid s) (h : Handle) : Valid (s.itemApplyEdits h) := by
  constructor
  · rcases itemApplyEdits_fault s h with heq | ⟨item, hitem, hinvalid⟩
    · exact heq.trans hs.fault
    · exact absurd hinvalid (hs.subscription h item hitem)
  · intro h' item' hitem'
    rcases itemApplyEdits_item s h h' with heq | ⟨rfl, item, flight, hitem, heq⟩
    · exact hs.subscription h' item' (heq.symm.trans hitem')
    · rw [heq] at hitem'
      cases hitem'
      exact hs.subscription h' item hitem

theorem Valid.removeItem (hs : Valid s) (h : Handle) (item : Item) :
    Valid (s.removeItem h item) := by
  refine ⟨(removeItem_kept s h item).2.2.2.trans hs.fault, fun h' item' hitem' => ?_⟩
  rw [removeItem_item] at hitem'
  split at hitem'
  · cases hitem'
  · exact hs.subscription h' item' hitem'

theorem Move.valid (hmove : Move keeps s s') (hs : Valid s) : Valid s' := by
  cases hmove with
  | frame hcore => exact hcore.sameTable.valid hs
  | create h name hnone => exact hs.setItem h (by simp [Item.new])
  | adjust h item' hitem hedits hflight hsub hgoogle =>
    refine hs.setItem h ?_
    rcases hsub with hsub | ⟨hsub, _⟩
    · rw [hsub]
      exact hs.subscription h _ hitem
    · exact hsub
  | remove h hitem _ _ => exact hs.removeItem h _
  | queue h result hchange _ =>
    refine queueEdit_ind hs fun item hitem => ?_
    refine Valid.itemApplyEdits ?_ h
    refine (collected_same s h item _ _).sameTable.valid (hs.setItem h ?_)
    exact hs.subscription h item hitem

/-! ## The answers -/

/-- The roster set that an event answers. -/
def Event.answers (s : State) : Event → Option Iq
  | .iqReply id _ => s.iqs.find? (·.id == id)
  | _ => none

/-- A roster set that leaves the subscription alone is not answered while the contact is
not on the roster. -/
def SubscriptionKnown (s : State) (e : Event) : Prop :=
  ∀ iq ∈ e.answers s, ∀ item ∈ s.item iq.edit.handle,
    item.subscription = .remove → iq.edit.newSubscription ≠ .invalid

instance (s : State) (e : Event) : Decidable (SubscriptionKnown s e) :=
  inferInstanceAs (Decidable (∀ iq ∈ e.answers s, ∀ item ∈ s.item iq.edit.handle,
    item.subscription = .remove → iq.edit.newSubscription ≠ .invalid))

theorem landed_item (s : State) (iq : Iq) (item : Item) (success : Bool) :
    (s.landed iq item success).item iq.edit.handle =
      some { item with editsInFlight := false } := by
  rw [(landed_same s iq item success).item]
  exact setItem_item_self ..

theorem Valid.landed {iq : Iq} (hs : Valid s) (hitem : s.item iq.edit.handle = some item)
    (success : Bool) : Valid (s.landed iq item success) := by
  refine (landed_same s iq item success).sameTable.valid ?_
  have hdrop : Valid (s.dropIq iq) := ⟨hs.fault, hs.subscription⟩
  exact hdrop.setItem _ (hs.subscription _ item hitem)

/-- The answer is believed, and it knows the subscription. -/
theorem Valid.believeEdited {edit : ItemEdit} (hs : Valid s)
    (hknown : ∀ item, s.item edit.handle = some item → item.subscription = .remove →
      edit.newSubscription ≠ .invalid) : Valid (s.believeEdited edit) := by
  rcases believeEdited_cases s edit with heq | ⟨item, hitem, hsub, _, heq⟩
  · rw [heq]
    exact hs
  · rw [heq]
    exact hs.setItem _ (hknown item hitem hsub)

theorem Valid.itemMaybeRemove (hs : Valid s) (h : Handle) : Valid (s.itemMaybeRemove h).1 := by
  rcases itemMaybeRemove_cases s h with ⟨heq, _⟩ | ⟨item, _, _, heq⟩
  · rw [heq]
    exact hs
  · rw [heq]
    exact hs.removeItem h item

theorem Turn.valid (hturn : Turn keeps s e s') (hw : Wired s) (hknown : SubscriptionKnown s e)
    (hs : Valid s) : Valid s' := by
  refine hturn.preserves (fun _ _ hsame => hsame.valid) (fun _ _ hmove => hmove.valid)
    (fun iq item success he hiq hitem hs => ?_) (fun s₁ hs₁ => ?_) hs
  · subst he
    have happly := (hs.landed hitem success).itemApplyEdits iq.edit.handle
    refine (happly.believeEdited fun item' hitem' hsub => ?_).itemMaybeRemove _
    -- the subscription of the item is still the one of before the answer
    refine hknown iq (find_iq hw hiq) item hitem ?_
    have hland := landed_item s iq item success
    rcases itemApplyEdits_item (s.landed iq item success) iq.edit.handle iq.edit.handle with
      heq | ⟨_, item₁, flight, hitem₁, heq⟩
    · rw [heq, hland] at hitem'
      cases hitem'
      exact hsub
    · rw [hland] at hitem₁
      cases hitem₁
      rw [heq] at hitem'
      cases hitem'
      exact hsub
  · have hreceived : Valid { s₁ with received := true } := ⟨hs₁.fault, hs₁.subscription⟩
    exact foldl_itemApplyEdits (fun t h ht => ht.itemApplyEdits h) _ hreceived

/-- **No item has an invalid subscription**, and no assertion fails, in a run whose
answers know the subscription. -/
theorem subscriptions_valid {conn : Connection}
    (hreach : Reachable step SubscriptionKnown (State.new conn) s) :
    s.fault = none ∧ ∀ h item, s.item h = some item → item.subscription ≠ .invalid := by
  have hinv : Sound s ∧ Valid s := by
    refine hreach.invariant (I := fun s => Sound s ∧ Valid s)
      ⟨sound_new conn, rfl, fun h item hitem => ?_⟩ ?_
    · cases hitem
    · rintro s e s' ⟨hsound, hvalid⟩ hok hstep
      obtain ⟨_, hturn⟩ := step_turn hsound.atRest hsound.wired (keeps_true s e) trivial hstep
      exact ⟨hsound.step hstep, hturn.valid hsound.wired hok hvalid⟩
  exact ⟨hinv.2.fault, hinv.2.subscription⟩

/-- A contact that is on the roster. -/
def bothNode (h : Handle) : ItemNode := ⟨some h, some "both", none, none, none, none, []⟩

/-- A contact that is taken off the roster. -/
def removeNode (h : Handle) : ItemNode := ⟨some h, some "remove", none, none, none, none, []⟩

/-- A contact is renamed, and the server takes it off the roster meanwhile. -/
def removedRun : List Event :=
  [.rosterResult none [bothNode 1], .setName 1 (some "a"), .push none [removeNode 1]]

/-- The rename is answered before the contact is taken off the roster. -/
theorem subscriptions_valid_renamed :
    ∃ s, run step (State.new plainServer)
        [.rosterResult none [bothNode 1], .setName 1 (some "a"), .iqReply 0 true,
          .push none [removeNode 1], .setName 1 (some "b")] = some s ∧
      s.iqs.length = 1 ∧ s.fault = none ∧
      ∀ h item, s.item h = some item → item.subscription ≠ .invalid := by
  have hadm : Admits SubscriptionKnown step (State.new plainServer)
      [.rosterResult none [bothNode 1], .setName 1 (some "a"), .iqReply 0 true,
        .push none [removeNode 1], .setName 1 (some "b")] := by decide
  exact ⟨_, rfl, by decide, subscriptions_valid (reachable_of_run _ hadm rfl)⟩

/-- Once the rename is answered the item is invalid, and the next one fails the
assertion. -/
theorem subscription_invalid :
    (∃ s item, run step (State.new plainServer) (removedRun ++ [.iqReply 0 true]) = some s ∧
      s.item 1 = some item ∧ item.subscription = .invalid) ∧
    ∃ s, run step (State.new plainServer)
        (removedRun ++ [.iqReply 0 true, .setName 1 (some "b")]) = some s ∧
      s.fault = some .assertNotReached :=
  ⟨⟨_, _, rfl, rfl, rfl⟩, _, rfl, rfl⟩

end Roster
