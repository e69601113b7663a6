/-
# Coalesced edits

While a roster set is outstanding all requests about the contact are collected in
one edit.  Here the state that the collected edit asks for is compared with the
state that the requests lead to when they are made one after the other.

The abstract side is `Entry`, the contact as the user sees it, and
`Request.perform`, what one request does to it.  They agree as long as no request
contradicts an earlier one in a way the slots of the edit cannot express (`Fits`).
-/
import Mathlib.Tactic.Common
import Gabble.RosterItem

namespace Roster

/-! ## The abstract state of a contact -/

/-- A contact on the roster; one that is not there keeps what it would be created
with. -/
structure Entry where
  removed : Bool
  name : Option String
  groups : Finset Group
  googleType : GoogleItemType
  deriving DecidableEq

/-- What can be seen of it on the server. -/
def Entry.visible (entry : Entry) : Option (Option String × Finset Group × GoogleItemType) :=
  if entry.removed then none else some (entry.name, entry.groups, entry.googleType)

/-- A request about one contact. -/
inductive Request : Type where
  | setName (name : Option String) : Request
  | setGroups (groups : Finset Group) : Request
  | addToGroup (group : Group) : Request
  | removeFromGroup (group : Group) : Request
  | setBlocked (blocked : Bool) : Request
  | add : Request
  | remove : Request
  deriving DecidableEq

/-- The Google type that blocking or unblocking gives. -/
def blockedType (blocked : Bool) : GoogleItemType := if blocked then .blocked else .normal

/-- The contact after a change; a change puts it on the roster. -/
def Entry.changeTo (entry entry' : Entry) : Entry :=
  if entry' = entry then entry else { entry' with removed := false }

/-- What one request does.  A blocked contact is not removed, and only Google's
roster has blocked contacts. -/
def Request.perform (googleRoster : Bool) (entry : Entry) : Request → Entry
  | .setName none => { entry with name := none, removed := false }
  | .setName (some name) => entry.changeTo { entry with name := some name }
  | .setGroups groups => entry.changeTo { entry with groups := groups }
  | .addToGroup group => entry.changeTo { entry with groups := insert group entry.groups }
  | .removeFromGroup group => entry.changeTo { entry with groups := entry.groups.erase group }
  | .setBlocked blocked =>
    if googleRoster then entry.changeTo { entry with googleType := blockedType blocked }
    else entry
  | .add =>
    if entry.removed ∨ entry.googleType = .hidden then
      { entry with removed := false, googleType := .normal }
    else entry
  | .remove =>
    if entry.removed ∨ entry.googleType = .blocked then entry else ⟨true, none, ∅, .normal⟩

/-! ## The edit -/

/-- The contact as the item describes it. -/
def Item.entry (item : Item) : Entry where
  removed := item.subscription = .remove
  name := item.name
  groups := item.groups
  googleType := item.googleType

/-- What a request does to the edit that collects the changes. -/
def Request.queue (googleRoster : Bool) (item : Item) (edits : ItemEdit) : Request → ItemEdit
  | .setName name => edits.setName name
  | .setGroups groups => edits.setGroups groups
  | .addToGroup group => edits.addToGroup group
  | .removeFromGroup group => edits.removeFromGroup group
  | .setBlocked blocked => if googleRoster then edits.setBlocked blocked else edits
  | .add =>
    if item.googleType = .hidden ∨ item.subscription = .remove then edits.add else edits
  | .remove => edits.remove

/-- The state that an edit asks for. -/
def ItemEdit.asks (edits : ItemEdit) (item : Item) : Entry := (edits.editedItem item).entry

section

variable {googleRoster : Bool} {item : Item} {edits : ItemEdit}

/-- While an edit is queued its subscription slot is unused or holds a removal, and
its Google type comes from blocking, unblocking or adding. -/
structure ItemEdit.Queued (edits : ItemEdit) : Prop where
  subscription : edits.newSubscription = .invalid ∨ edits.newSubscription = .remove
  googleType : edits.newGoogleType = none ∨ edits.newGoogleType = some .normal ∨
    edits.newGoogleType = some .blocked

theorem queued_new (h : Handle) : (ItemEdit.new h).Queued := ⟨.inl rfl, .inl rfl⟩

theorem Request.queue_queued (q : Request) (googleRoster : Bool) (item : Item)
    (h : edits.Queued) : (q.queue googleRoster item edits).Queued := by
  cases q with
  | remove => exact ⟨.inr rfl, h.googleType⟩
  | setBlocked blocked =>
    simp only [Request.queue]
    split
    · refine ⟨h.subscription, .inr ?_⟩
      cases blocked <;> simp [ItemEdit.setBlocked]
    · exact h
  | add =>
    simp only [Request.queue]
    split
    · exact ⟨h.subscription, .inr (.inl rfl)⟩
    · exact h
  | setName _ | setGroups _ | addToGroup _ | removeFromGroup _ =>
    exact ⟨h.subscription, h.googleType⟩

/-! ## The slots -/

@[simp] theorem nameFor_setName (name : Option String) :
    (edits.setName name).nameFor item = name := by
  cases name <;> rfl

@[simp] theorem groupsFor_setGroups (groups : Finset Group) :
    (edits.setGroups groups).groupsFor item = groups := by
  simp [ItemEdit.groupsFor, ItemEdit.setGroups]

@[simp] theorem groupsFor_addToGroup (group : Group) :
    (edits.addToGroup group).groupsFor item = insert group (edits.groupsFor item) := by
  ext x
  cases ha : edits.addToGroups <;> cases hr : edits.removeFromGroups <;>
    cases hall : edits.removeFromAllOtherGroups <;>
    simp [ItemEdit.groupsFor, ItemEdit.addToGroup, ha, hr, hall] <;> grind

@[simp] theorem groupsFor_removeFromGroup (group : Group) :
    (edits.removeFromGroup group).groupsFor item = (edits.groupsFor item).erase group := by
  ext x
  cases ha : edits.addToGroups <;> cases hr : edits.removeFromGroups <;>
    cases hall : edits.removeFromAllOtherGroups <;>
    simp [ItemEdit.groupsFor, ItemEdit.removeFromGroup, ha, hr, hall] <;> grind

@[simp] theorem googleTypeFor_setBlocked (blocked : Bool) :
    (edits.setBlocked blocked).googleTypeFor item = blockedType blocked := rfl

@[simp] theorem googleTypeFor_add : edits.add.googleTypeFor item = .normal := rfl

/-! ## What an edit asks for -/

/-- The contact is not on the roster when the edit has been made: a contact that was
there is removed, unless it is blocked, and one that was not is not created. -/
def ItemEdit.Removes (edits : ItemEdit) (item : Item) : Prop :=
  if item.subscription = .remove then
    edits.newSubscription = .remove ∨ edits.alters item = false
  else edits.newSubscription = .remove ∧ edits.googleTypeFor item ≠ .blocked

theorem asks_removed (h : edits.Queued) :
    (edits.asks item).removed = true ↔ edits.Removes item := by
  have hsub := h.subscription
  by_cases hitem : item.subscription = .remove
  · -- nothing changes the subscription but the creation of the item
    have hch : edits.changesSubscription item = false := by
      rcases hsub with hs | hs <;> simp [ItemEdit.changesSubscription, hs, hitem]
    simp only [ItemEdit.asks, ItemEdit.editedItem, Item.entry, ItemEdit.createsItem,
      ItemEdit.subscriptionFor, hch, ItemEdit.Removes, hitem, if_true, decide_eq_true_eq]
    cases hal : edits.alters item <;> rcases hsub with hs | hs <;> simp [hs]
  · have hcr : edits.createsItem item = false := by
      simp only [ItemEdit.createsItem, ItemEdit.subscriptionFor]
      rcases hsub with hs | hs <;> simp [ItemEdit.changesSubscription, hs, hitem]
    simp only [ItemEdit.asks, ItemEdit.editedItem, Item.entry, hcr, ItemEdit.Removes,
      ItemEdit.subscriptionFor, ItemEdit.changesSubscription, ItemEdit.cancelsSubscriptions,
      if_neg hitem, decide_eq_true_eq]
    by_cases hb : edits.googleTypeFor item = .blocked <;>
      rcases hsub with hs | hs <;> simp [hs, hitem, hb, Ne.symm hitem]

/-- What an edit asks for, in terms of its slots. -/
theorem asks_visible (item : Item) (h : edits.Queued) :
    (edits.Removes item → (edits.asks item).visible = none) ∧
    (¬ edits.Removes item → (edits.asks item).visible =
      some (edits.nameFor item, edits.groupsFor item, edits.googleTypeFor item)) := by
  constructor
  · intro hr
    unfold Entry.visible
    rw [if_pos ((asks_removed h).mpr hr)]
  · intro hr
    unfold Entry.visible
    rw [if_neg fun hrem => hr ((asks_removed h).mp hrem)]
    rfl

theorem Entry.visible_removed {entry : Entry} (h : entry.removed = true) :
    entry.visible = none := if_pos h

theorem Entry.visible_present {entry : Entry} (h : entry.removed = false) :
    entry.visible = some (entry.name, entry.groups, entry.googleType) := by
  unfold Entry.visible
  rw [h]
  rfl

/-! ## When the requests fit -/

/-- The name, the groups and the Google type. -/
abbrev Slots := Option String × Finset Group × GoogleItemType

def Item.slots (item : Item) : Slots := (item.name, item.groups, item.googleType)

def Entry.slots (entry : Entry) : Slots := (entry.name, entry.groups, entry.googleType)

def ItemEdit.slots (edits : ItemEdit) (item : Item) : Slots :=
  (edits.nameFor item, edits.groupsFor item, edits.googleTypeFor item)

/-- What a request does to the slots. -/
def Request.change (googleRoster : Bool) (slots : Slots) : Request → Slots
  | .setName name => (name, slots.2)
  | .setGroups groups => (slots.1, groups, slots.2.2)
  | .addToGroup group => (slots.1, insert group slots.2.1, slots.2.2)
  | .removeFromGroup group => (slots.1, slots.2.1.erase group, slots.2.2)
  | .setBlocked blocked =>
    if googleRoster then (slots.1, slots.2.1, blockedType blocked) else slots
  | .add => slots
  | .remove => slots

/-- The edit still puts a contact on the roster when the request has been collected:
it creates the contact, removes its name, or changes a slot. -/
def Request.StillCreates (googleRoster : Bool) (item : Item) (edits : ItemEdit) (entry : Entry)
    (q : Request) : Prop :=
  edits.create = true ∨ q = .setName none ∨
    ((∀ name, q ≠ .setName name) ∧ edits.removeName = true) ∨
    q.change googleRoster entry.slots ≠ item.slots

/-- **The condition on one request**, given the item, the edit collected so far and
the state that the requests so far lead to. -/
def Request.Fits (googleRoster : Bool) (item : Item) (edits : ItemEdit) (entry : Entry)
    (q : Request) : Prop :=
  if edits.newSubscription = .remove then
    if entry.removed then
      -- a removal is queued: the request must leave the contact removed, or block a
      -- contact of which nothing else is left
      (q.perform googleRoster entry).removed = true ∨
        (googleRoster = true ∧ q = .setBlocked true ∧ item.subscription ≠ .remove ∧
          edits.nameFor item = entry.name ∧ edits.groupsFor item = entry.groups)
    else
      -- the contact is kept because it is blocked, and must stay so
      ¬ (googleRoster = true ∧ q = .setBlocked false) ∧ ¬ (q = .add ∧ item.googleType = .hidden)
  else if item.subscription = .remove then
    -- the contact is not on the roster yet: the edit must still put it there
    match q with
    | .add => entry.removed = true ∨ entry.googleType = .normal ∨ entry.googleType = .hidden
    | .remove => entry.removed = true ∨ entry.googleType ≠ .blocked
    | q => entry.removed = true ∨ q.StillCreates googleRoster item edits entry
  else ¬ (q = .add ∧ item.googleType = .hidden ∧ edits.newGoogleType = some .blocked)

/-- The edit and the abstract state agree. -/
structure Agrees (item : Item) (edits : ItemEdit) (entry : Entry) : Prop where
  queued : edits.Queued
  visible : (edits.asks item).visible = entry.visible
  kept : edits.newSubscription ≠ .remove → entry.removed = true → entry = item.entry
  gone : entry.removed = true → entry = item.entry ∨ entry = ⟨true, none, ∅, .normal⟩

theorem agrees_new (item : Item) (h : Handle) : Agrees item (ItemEdit.new h) item.entry where
  queued := queued_new h
  visible := by
    congr 1
    simp [ItemEdit.asks, ItemEdit.editedItem, ItemEdit.createsItem, ItemEdit.subscriptionFor,
      ItemEdit.alters, ItemEdit.changesSubscription, ItemEdit.nameFor, ItemEdit.groupsFor,
      ItemEdit.googleTypeFor, ItemEdit.new, Item.entry]
  kept _ _ := rfl
  gone _ := .inl rfl

/-! ## One request

The requests other than `add` and `remove` each change one of the slots, in the
edit and in the abstract state alike. -/

variable {entry : Entry} {q : Request}

theorem slots_queue (ha : q ≠ .add) :
    (q.queue googleRoster item edits).slots item = q.change googleRoster (edits.slots item) := by
  cases q with
  | add => exact absurd rfl ha
  | setName name =>
    have h : (edits.setName name).nameFor item = name := nameFor_setName name
    simp only [ItemEdit.slots, Request.queue, h]
    rfl
  | setGroups groups =>
    simp only [ItemEdit.slots, Request.queue, groupsFor_setGroups]
    rfl
  | addToGroup group =>
    simp only [ItemEdit.slots, Request.queue, groupsFor_addToGroup]
    rfl
  | removeFromGroup group =>
    simp only [ItemEdit.slots, Request.queue, groupsFor_removeFromGroup]
    rfl
  | setBlocked blocked =>
    cases googleRoster
    · rfl
    · rfl
  | remove => rfl

theorem newSubscription_queue (hr : q ≠ .remove) :
    (q.queue googleRoster item edits).newSubscription = edits.newSubscription := by
  cases q with
  | remove => exact absurd rfl hr
  | add =>
    simp only [Request.queue]
    split <;> rfl
  | setBlocked blocked =>
    simp only [Request.queue]
    split <;> rfl
  | setName _ | setGroups _ | addToGroup _ | removeFromGroup _ => rfl

/-- A contact on the roster stays there, with the slot changed. -/
theorem perform_present (hp : entry.removed = false) (ha : q ≠ .add) (hr : q ≠ .remove) :
    (q.perform googleRoster entry).visible = some (q.change googleRoster entry.slots) := by
  have hchange : ∀ entry' : Entry, (entry.changeTo entry').visible = some entry'.slots := by
    intro entry'
    unfold Entry.changeTo
    split
    · rename_i heq
      rw [heq]
      exact Entry.visible_present hp
    · rfl
  cases q with
  | add => exact absurd rfl ha
  | remove => exact absurd rfl hr
  | setName name =>
    cases name with
    | none => rfl
    | some name => exact hchange _
  | setGroups groups => exact hchange _
  | addToGroup group => exact hchange _
  | removeFromGroup group => exact hchange _
  | setBlocked blocked =>
    cases googleRoster
    · exact Entry.visible_present hp
    · exact hchange _

/-- A contact that is not on the roster is put there by a change. -/
theorem perform_removed (hp : entry.removed = true) (ha : q ≠ .add) (hr : q ≠ .remove) :
    (q.perform googleRoster entry).visible =
      if q = .setName none ∨ q.change googleRoster entry.slots ≠ entry.slots then
        some (q.change googleRoster entry.slots)
      else none := by
  have hchange : ∀ entry' : Entry, entry'.removed = true → (entry.changeTo entry').visible =
      if entry'.slots ≠ entry.slots then some entry'.slots else none := by
    intro entry' hp'
    have heq : entry' = entry ↔ entry'.slots = entry.slots := by
      obtain ⟨_, _, _, _⟩ := entry
      obtain ⟨_, _, _, _⟩ := entry'
      simp_all [Entry.slots]
    unfold Entry.changeTo
    by_cases hs : entry'.slots = entry.slots
    · rw [if_pos (heq.mpr hs), if_neg (by simpa using hs)]
      exact Entry.visible_removed hp
    · rw [if_neg fun he => hs (heq.mp he), if_pos hs]
      rfl
  cases q with
  | add => exact absurd rfl ha
  | remove => exact absurd rfl hr
  | setName name =>
    cases name with
    | none => rfl
    | some name =>
      simp only [Request.setName.injEq, reduceCtorEq, false_or]
      exact hchange { entry with name := some name } hp
  | setGroups groups =>
    simp only [reduceCtorEq, false_or]
    exact hchange { entry with groups := groups } hp
  | addToGroup group =>
    simp only [reduceCtorEq, false_or]
    exact hchange { entry with groups := insert group entry.groups } hp
  | removeFromGroup group =>
    simp only [reduceCtorEq, false_or]
    exact hchange { entry with groups := entry.groups.erase group } hp
  | setBlocked blocked =>
    cases googleRoster
    · simpa [Request.perform, Request.change] using Entry.visible_removed hp
    · simp only [reduceCtorEq, false_or]
      exact hchange { entry with googleType := blockedType blocked } hp

/-- On an item that is not on the roster the edit alters something when it creates
it, removes its name or changes a slot. -/
theorem alters_iff (h : edits.Queued) (hitem : item.subscription = .remove) :
    edits.alters item = true ↔
      edits.create = true ∨ edits.removeName = true ∨ edits.slots item ≠ item.slots := by
  have hch : edits.changesSubscription item = false := by
    rcases h.subscription with hs | hs <;> simp [ItemEdit.changesSubscription, hs, hitem]
  simp only [ItemEdit.alters, hch, ItemEdit.slots, Item.slots, ne_eq, Prod.mk.injEq,
    Bool.or_eq_true, decide_eq_true_eq]
  grind

theorem Agrees.removes (h : Agrees item edits entry) :
    edits.Removes item ↔ entry.removed = true := by
  obtain ⟨h1, h2⟩ := asks_visible item h.queued
  have hvis := h.visible
  constructor
  · intro hr
    rw [h1 hr] at hvis
    by_contra hne
    rw [Entry.visible_present (by simpa using hne)] at hvis
    cases hvis
  · intro hr
    by_contra hne
    rw [h2 hne, Entry.visible_removed hr] at hvis
    cases hvis

theorem Agrees.slots (h : Agrees item edits entry) (hp : entry.removed = false) :
    entry.slots = edits.slots item := by
  have hne : ¬ edits.Removes item := fun hr => by
    rw [h.removes.mp hr] at hp
    cases hp
  have hvis := h.visible
  rw [(asks_visible item h.queued).2 hne, Entry.visible_present hp] at hvis
  exact (Option.some.inj hvis).symm

/-- The request does the same to the edit and to the abstract state. -/
def Request.Matches (googleRoster : Bool) (item : Item) (edits : ItemEdit) (entry : Entry)
    (q : Request) : Prop :=
  ((q.queue googleRoster item edits).asks item).visible = (q.perform googleRoster entry).visible

theorem visible_eq_none_iff : entry.visible = none ↔ entry.removed = true := by
  unfold Entry.visible
  split <;> simp_all

theorem newSubscription_queue_remove (hrem : edits.newSubscription = .remove) :
    (q.queue googleRoster item edits).newSubscription = .remove := by
  by_cases hq : q = .remove
  · rw [hq]
    rfl
  · rw [newSubscription_queue hq, hrem]

section

variable (h : Agrees item edits entry)

include h

/-- The edit asks for a removal, and the abstract contact is removed. -/
theorem matches_of_removal (hrem : edits.newSubscription = .remove) (hgone : entry.removed = true) :
    q.Matches googleRoster item edits entry ↔ (q.perform googleRoster entry).removed = true ∨
      (googleRoster = true ∧ q = .setBlocked true ∧ item.subscription ≠ .remove ∧
        edits.nameFor item = entry.name ∧ edits.groupsFor item = entry.groups) := by
  have hq' := q.queue_queued googleRoster item h.queued
  have hsub' : (q.queue googleRoster item edits).newSubscription = .remove :=
    newSubscription_queue_remove hrem
  have hremoves := h.removes.mpr hgone
  by_cases hcase : googleRoster = true ∧ q = .setBlocked true ∧ item.subscription ≠ .remove
  · -- blocking keeps the contact, with what is left of it
    obtain ⟨rfl, rfl, hitem⟩ := hcase
    have hentry : entry = ⟨true, none, ∅, .normal⟩ := by
      refine (h.gone hgone).resolve_left fun heq => hitem ?_
      rw [heq] at hgone
      simpa [Item.entry] using hgone
    subst hentry
    have hnot : ¬ (Request.queue true item edits (.setBlocked true)).Removes item := by
      simp [ItemEdit.Removes, hitem, Request.queue, blockedType]
    unfold Request.Matches
    rw [(asks_visible item hq').2 hnot]
    simp only [Request.queue, if_true, googleTypeFor_setBlocked]
    simp [Request.perform, Entry.changeTo, Entry.visible, blockedType, hitem]
    rfl
  · have hremoves' : (q.queue googleRoster item edits).Removes item := by
      unfold ItemEdit.Removes at hremoves ⊢
      split
      · exact .inl hsub'
      · rename_i hitem
        rw [if_neg hitem] at hremoves
        refine ⟨hsub', ?_⟩
        cases q with
        | setBlocked blocked =>
          cases googleRoster
          · exact hremoves.2
          · cases blocked
            · simp [Request.queue, blockedType]
            · exact absurd ⟨rfl, rfl, hitem⟩ hcase
        | add =>
          simp only [Request.queue]
          split
          · simp
          · exact hremoves.2
        | setName _ | setGroups _ | addToGroup _ | removeFromGroup _ | remove =>
          exact hremoves.2
    unfold Request.Matches
    rw [(asks_visible item hq').1 hremoves', eq_comm, visible_eq_none_iff]
    constructor
    · exact .inl
    · rintro (hp | ⟨hg, hq, hitem, _⟩)
      · exact hp
      · exact absurd ⟨hg, hq, hitem⟩ hcase

/-- A request other than `add` and `remove` matches when the edit does not remove the
contact afterwards. -/
theorem matches_of_present (hp : entry.removed = false) (ha : q ≠ .add) (hr : q ≠ .remove) :
    q.Matches googleRoster item edits entry ↔ ¬ (q.queue googleRoster item edits).Removes item := by
  have hq' := q.queue_queued googleRoster item h.queued
  unfold Request.Matches
  rw [perform_present hp ha hr]
  constructor
  · intro hm hrem
    rw [(asks_visible item hq').1 hrem] at hm
    cases hm
  · intro hrem
    rw [(asks_visible item hq').2 hrem]
    exact congrArg some ((slots_queue ha).trans (by rw [h.slots hp]))

/-- The contact is blocked, and kept although its removal is queued. -/
theorem matches_of_kept (hrem : edits.newSubscription = .remove) (hp : entry.removed = false) :
    q.Matches googleRoster item edits entry ↔
      ¬ (googleRoster = true ∧ q = .setBlocked false) ∧
        ¬ (q = .add ∧ item.googleType = .hidden) := by
  have hslots := h.slots hp
  have hnot : ¬ edits.Removes item := fun hr => by
    rw [h.removes.mp hr] at hp
    cases hp
  have hitem : item.subscription ≠ .remove := fun hi => hnot (by
    rw [ItemEdit.Removes, if_pos hi]
    exact .inl hrem)
  have hblocked : edits.googleTypeFor item = .blocked := by
    by_contra hne
    refine hnot ?_
    rw [ItemEdit.Removes, if_neg hitem]
    exact ⟨hrem, hne⟩
  have hentry : entry.googleType = .blocked := (congrArg (·.2.2) hslots).trans hblocked
  have hsame : ∀ q : Request, q.queue googleRoster item edits = edits →
      q.perform googleRoster entry = entry → q.Matches googleRoster item edits entry := by
    intro q h1 h2
    unfold Request.Matches
    rw [h1, h2]
    exact h.visible
  cases q with
  | remove =>
    refine iff_of_true (hsame _ ?_ ?_) (by simp)
    · simp only [Request.queue, ItemEdit.remove, ← hrem]
    · simp [Request.perform, hentry]
  | add =>
    have hperform : Request.perform googleRoster entry .add = entry := by
      simp [Request.perform, hp, hentry]
    by_cases hh : item.googleType = .hidden
    · refine iff_of_false (fun hm => ?_) (by simp [hh])
      have hq' := Request.add.queue_queued googleRoster item h.queued
      have hrem' : (Request.add.queue googleRoster item edits).Removes item := by
        simp only [Request.queue, hh, true_or, if_true, ItemEdit.Removes, if_neg hitem]
        exact ⟨hrem, by simp⟩
      unfold Request.Matches at hm
      rw [(asks_visible item hq').1 hrem', hperform, Entry.visible_present hp] at hm
      cases hm
    · refine iff_of_true (hsame _ ?_ hperform) (by simp [hh])
      simp [Request.queue, hh, hitem]
  | setBlocked blocked =>
    rw [matches_of_present h hp (by simp) (by simp)]
    cases googleRoster
    · exact iff_of_true hnot (by simp)
    · cases blocked <;> simp [ItemEdit.Removes, Request.queue, hitem,
        ItemEdit.setBlocked, hrem, ItemEdit.googleTypeFor]
  | setName _ | setGroups _ | addToGroup _ | removeFromGroup _ =>
    rw [matches_of_present h hp (by simp) (by simp)]
    refine iff_of_true (fun hr => ?_) (by simp)
    rw [ItemEdit.Removes, if_neg hitem] at hr
    exact hr.2 hblocked

/-- No removal is queued, and the contact is on the roster. -/
theorem matches_of_stored
    (hsub : edits.newSubscription ≠ .remove) (hitem : item.subscription ≠ .remove) :
    q.Matches googleRoster item edits entry ↔
      ¬ (q = .add ∧ item.googleType = .hidden ∧ edits.newGoogleType = some .blocked) := by
  have hnot : ∀ edits : ItemEdit, edits.newSubscription ≠ .remove → ¬ edits.Removes item := by
    intro edits hne hr
    rw [ItemEdit.Removes, if_neg hitem] at hr
    exact hne hr.1
  have hp : entry.removed = false := by
    by_contra hne
    exact hnot edits hsub (h.removes.mpr (by simpa using hne))
  have hslots := h.slots hp
  have hgt : entry.googleType = edits.googleTypeFor item := congrArg (·.2.2) hslots
  cases q with
  | remove =>
    refine iff_of_true ?_ (by simp)
    have hq' := Request.remove.queue_queued googleRoster item h.queued
    unfold Request.Matches
    by_cases hb : edits.googleTypeFor item = .blocked
    · have hkeep : ¬ (Request.remove.queue googleRoster item edits).Removes item := by
        rw [ItemEdit.Removes, if_neg hitem]
        exact fun hr => hr.2 hb
      rw [(asks_visible item hq').2 hkeep]
      simp only [Request.perform, hgt, hb, or_true, if_true]
      rw [Entry.visible_present hp]
      exact congrArg some hslots.symm
    · have hgone : (Request.remove.queue googleRoster item edits).Removes item := by
        rw [ItemEdit.Removes, if_neg hitem]
        exact ⟨rfl, hb⟩
      rw [(asks_visible item hq').1 hgone]
      simp [Request.perform, hgt, hb, hp, Entry.visible]
  | add =>
    have hq' := Request.add.queue_queued googleRoster item h.queued
    have hkeep := hnot (Request.add.queue googleRoster item edits)
      (by rw [newSubscription_queue (by simp)]; exact hsub)
    unfold Request.Matches
    rw [(asks_visible item hq').2 hkeep]
    have hname : edits.nameFor item = entry.name := (congrArg (·.1) hslots).symm
    have hgroups : edits.groupsFor item = entry.groups := (congrArg (·.2.1) hslots).symm
    by_cases hh : item.googleType = .hidden
    · have hedit : Request.add.queue googleRoster item edits = edits.add := by
        simp [Request.queue, hh]
      have hn : edits.add.nameFor item = edits.nameFor item := rfl
      have hg : edits.add.groupsFor item = edits.groupsFor item := rfl
      rw [hedit, hn, hg, hname, hgroups, googleTypeFor_add]
      rcases h.queued.googleType with hgt' | hgt' | hgt' <;>
        simp [Request.perform, hgt, ItemEdit.googleTypeFor, hgt', hh, Entry.visible, hp]
    · have hedit : Request.add.queue googleRoster item edits = edits := by
        simp [Request.queue, hh, hitem]
      have hne : entry.googleType ≠ .hidden := by
        rw [hgt]
        rcases h.queued.googleType with hgt' | hgt' | hgt' <;>
          simp [ItemEdit.googleTypeFor, hgt', hh]
      rw [hedit, hname, hgroups, ← hgt]
      simp [Request.perform, hne, Entry.visible, hp, hh]
  | setName _ | setGroups _ | addToGroup _ | removeFromGroup _ | setBlocked _ =>
    rw [matches_of_present h hp (by simp) (by simp)]
    refine iff_of_true (hnot _ ?_) (by simp)
    rw [newSubscription_queue (by simp)]
    exact hsub

end

/-- The flags of the edit. -/
theorem flags_queue (googleRoster : Bool) (item : Item) (edits : ItemEdit) (ha : q ≠ .add) :
    (q.queue googleRoster item edits).create = edits.create ∧
      ((q.queue googleRoster item edits).removeName = true ↔
        q = .setName none ∨ ((∀ name, q ≠ .setName name) ∧ edits.removeName = true)) := by
  cases q with
  | add => exact absurd rfl ha
  | setName name => cases name <;> simp [Request.queue, ItemEdit.setName]
  | setBlocked blocked => cases googleRoster <;> simp [Request.queue, ItemEdit.setBlocked]
  | setGroups _ | addToGroup _ | removeFromGroup _ | remove =>
    simp [Request.queue, ItemEdit.setGroups, ItemEdit.addToGroup, ItemEdit.removeFromGroup,
      ItemEdit.remove]

/-- The contact is not on the roster and nothing has been changed yet. -/
theorem matches_of_untouched (h : Agrees item edits entry)
    (hsub : edits.newSubscription ≠ .remove) (hitem : item.subscription = .remove)
    (hp : entry.removed = true) : q.Matches googleRoster item edits entry := by
  have hq' := q.queue_queued googleRoster item h.queued
  have hentry : entry.slots = item.slots := by
    rw [h.kept hsub hp]
    rfl
  have hal : ¬ edits.alters item = true := by
    have hr := h.removes.mpr hp
    rw [ItemEdit.Removes, if_pos hitem] at hr
    simpa using hr.resolve_left hsub
  rw [alters_iff h.queued hitem] at hal
  push Not at hal
  obtain ⟨hcreate, hname, hslots⟩ := hal
  by_cases hr : q = .remove
  · subst hr
    have hrem : (Request.remove.queue googleRoster item edits).Removes item := by
      rw [ItemEdit.Removes, if_pos hitem]
      exact .inl rfl
    unfold Request.Matches
    rw [(asks_visible item hq').1 hrem]
    simp [Request.perform, hp, Entry.visible]
  · -- whether the edit now alters something is whether the request changes something
    have hrem : (q.queue googleRoster item edits).Removes item ↔
        (q.queue googleRoster item edits).alters item = false := by
      rw [ItemEdit.Removes, if_pos hitem, newSubscription_queue hr]
      simp [hsub]
    unfold Request.Matches
    by_cases ha : q = .add
    · subst ha
      have hedit : Request.add.queue googleRoster item edits = edits.add := by
        simp [Request.queue, hitem]
      have hnot : ¬ (Request.add.queue googleRoster item edits).Removes item := by
        rw [hrem, hedit]
        simp [ItemEdit.alters, ItemEdit.add]
      rw [(asks_visible item hq').2 hnot, hedit, googleTypeFor_add]
      simp only [Request.perform, hp, true_or, if_true, Entry.visible]
      have hn : edits.add.nameFor item = entry.name := congrArg (·.1) (hslots.trans hentry.symm)
      have hg : edits.add.groupsFor item = entry.groups :=
        congrArg (·.2.1) (hslots.trans hentry.symm)
      rw [hn, hg]
      rfl
    · obtain ⟨hf1, hf2⟩ := flags_queue googleRoster item edits ha
      have halters : (q.queue googleRoster item edits).alters item = true ↔
          q = .setName none ∨ q.change googleRoster entry.slots ≠ entry.slots := by
        rw [alters_iff hq' hitem, hf1, hf2, slots_queue ha, hslots, ← hentry]
        simp [hcreate, hname]
      rw [perform_removed hp ha hr]
      split
      · rename_i hch
        have hnot : ¬ (q.queue googleRoster item edits).Removes item := by
          rw [hrem, halters.mpr hch]
          simp
        rw [(asks_visible item hq').2 hnot]
        exact congrArg some ((slots_queue ha).trans (by rw [hslots, hentry]))
      · rename_i hch
        refine (asks_visible item hq').1 (hrem.mpr ?_)
        simpa using fun hal => hch (halters.mp hal)

/-- The contact is not on the roster, and the edit is going to put it there. -/
theorem matches_of_created (h : Agrees item edits entry)
    (hsub : edits.newSubscription ≠ .remove) (hitem : item.subscription = .remove)
    (hp : entry.removed = false) :
    q.Matches googleRoster item edits entry ↔
      match q with
      | .add => entry.googleType = .normal ∨ entry.googleType = .hidden
      | .remove => entry.googleType ≠ .blocked
      | q => q.StillCreates googleRoster item edits entry := by
  have hq' := q.queue_queued googleRoster item h.queued
  have hslots := h.slots hp
  have hrem : q ≠ .remove → ((q.queue googleRoster item edits).Removes item ↔
      (q.queue googleRoster item edits).alters item = false) := by
    intro hr
    rw [ItemEdit.Removes, if_pos hitem, newSubscription_queue hr]
    simp [hsub]
  have halters : q ≠ .add → ((q.queue googleRoster item edits).alters item = true ↔
      q.StillCreates googleRoster item edits entry) := by
    intro ha
    obtain ⟨hf1, hf2⟩ := flags_queue googleRoster item edits ha
    rw [alters_iff hq' hitem, hf1, hf2, slots_queue ha, ← hslots, Request.StillCreates, or_assoc]
  cases q with
  | remove =>
    have hgone : (Request.remove.queue googleRoster item edits).Removes item := by
      rw [ItemEdit.Removes, if_pos hitem]
      exact .inl rfl
    unfold Request.Matches
    rw [(asks_visible item hq').1 hgone]
    by_cases hb : entry.googleType = .blocked <;>
      simp [Request.perform, hp, hb, Entry.visible]
  | add =>
    have hedit : Request.add.queue googleRoster item edits = edits.add := by
      simp [Request.queue, hitem]
    have hnot : ¬ (Request.add.queue googleRoster item edits).Removes item := by
      rw [hrem (by simp), hedit]
      simp [ItemEdit.alters, ItemEdit.add]
    have hn : edits.add.nameFor item = entry.name := (congrArg (·.1) hslots).symm
    have hg : edits.add.groupsFor item = entry.groups := (congrArg (·.2.1) hslots).symm
    unfold Request.Matches
    rw [(asks_visible item hq').2 hnot, hedit, googleTypeFor_add, hn, hg]
    cases hgt : entry.googleType <;> simp [Request.perform, hp, hgt, Entry.visible]
  | setName _ | setGroups _ | addToGroup _ | removeFromGroup _ | setBlocked _ =>
    rw [matches_of_present h hp (by simp) (by simp), hrem (by simp), Bool.not_eq_false]
    exact halters (by simp)

/-- **One request.**  Collecting it in the edit does what the request does exactly
when it fits. -/
theorem Agrees.matches_iff_fits (h : Agrees item edits entry) :
    q.Matches googleRoster item edits entry ↔ q.Fits googleRoster item edits entry := by
  by_cases hrem : edits.newSubscription = .remove
  · cases hp : entry.removed with
    | true =>
      rw [matches_of_removal h hrem hp]
      simp [Request.Fits, hrem, hp]
    | false =>
      rw [matches_of_kept h hrem hp]
      simp [Request.Fits, hrem, hp]
  · by_cases hitem : item.subscription = .remove
    · cases hp : entry.removed with
      | true =>
        refine iff_of_true (matches_of_untouched h hrem hitem hp) ?_
        simp only [Request.Fits, if_neg hrem, if_pos hitem]
        cases q <;> exact .inl hp
      | false =>
        rw [matches_of_created h hrem hitem hp]
        simp only [Request.Fits, if_neg hrem, if_pos hitem, hp]
        cases q <;> simp
    · rw [matches_of_stored h hrem hitem]
      simp only [Request.Fits, if_neg hrem, if_neg hitem]

/-- Only a removal removes: any other request that leaves the contact removed has
done nothing. -/
theorem perform_eq_of_removed (hr : q ≠ .remove)
    (hgone : (q.perform googleRoster entry).removed = true) :
    q.perform googleRoster entry = entry := by
  have hchange : ∀ entry' : Entry, (entry.changeTo entry').removed = true →
      entry.changeTo entry' = entry := by
    intro entry' hgone
    unfold Entry.changeTo at hgone ⊢
    split at hgone
    · rename_i heq
      rw [if_pos heq]
    · cases hgone
  cases q with
  | remove => exact absurd rfl hr
  | setName name =>
    cases name with
    | none => cases hgone
    | some name => exact hchange _ hgone
  | setGroups groups => exact hchange _ hgone
  | addToGroup group => exact hchange _ hgone
  | removeFromGroup group => exact hchange _ hgone
  | setBlocked blocked =>
    cases googleRoster
    · rfl
    · exact hchange _ hgone
  | add =>
    simp only [Request.perform] at hgone ⊢
    split at hgone
    · cases hgone
    · rename_i hne
      rw [if_neg hne]

theorem Agrees.queue (h : Agrees item edits entry)
    (hm : q.Matches googleRoster item edits entry) :
    Agrees item (q.queue googleRoster item edits) (q.perform googleRoster entry) where
  queued := q.queue_queued googleRoster item h.queued
  visible := hm
  kept := by
    intro hsub hgone
    by_cases hr : q = .remove
    · subst hr
      exact absurd rfl hsub
    · rw [newSubscription_queue hr] at hsub
      have heq := perform_eq_of_removed hr hgone
      rw [heq] at hgone ⊢
      exact h.kept hsub hgone
  gone := by
    intro hgone
    by_cases hr : q = .remove
    · subst hr
      simp only [Request.perform] at hgone ⊢
      split
      · rename_i hcase
        rw [if_pos hcase] at hgone
        exact h.gone hgone
      · exact .inr rfl
    · have heq := perform_eq_of_removed hr hgone
      rw [heq] at hgone ⊢
      exact h.gone hgone

/-! ## All requests -/

/-- The edit that collects a sequence of requests. -/
def queueAll (googleRoster : Bool) (item : Item) (edits : ItemEdit) (qs : List Request) :
    ItemEdit :=
  qs.foldl (fun edits q => q.queue googleRoster item edits) edits

/-- The requests, made one after the other. -/
def performAll (googleRoster : Bool) (entry : Entry) (qs : List Request) : Entry :=
  qs.foldl (fun entry q => q.perform googleRoster entry) entry

/-- Every request of the sequence fits. -/
def FitAll (googleRoster : Bool) (item : Item) : ItemEdit → Entry → List Request → Prop
  | _, _, [] => True
  | edits, entry, q :: qs =>
    q.Fits googleRoster item edits entry ∧
      FitAll googleRoster item (q.queue googleRoster item edits)
        (q.perform googleRoster entry) qs

/-- The collected edit asks for what the requests lead to, whenever it is sent,
exactly when every request fits. -/
theorem Agrees.forall_prefix_iff (h : Agrees item edits entry) (qs : List Request) :
    (∀ k, ((queueAll googleRoster item edits (qs.take k)).asks item).visible =
      (performAll googleRoster entry (qs.take k)).visible) ↔
      FitAll googleRoster item edits entry qs := by
  induction qs generalizing edits entry with
  | nil =>
    refine iff_of_true (fun k => ?_) trivial
    rw [List.take_nil]
    exact h.visible
  | cons q qs ih =>
    constructor
    · intro hall
      have hm : q.Matches googleRoster item edits entry := hall 1
      refine ⟨h.matches_iff_fits.mp hm, (ih (h.queue hm)).mp fun k => ?_⟩
      exact hall (k + 1)
    · rintro ⟨hfit, hrest⟩ k
      have hm := h.matches_iff_fits.mpr hfit
      cases k with
      | zero => exact h.visible
      | succ k => exact (ih (h.queue hm)).mpr hrest k

end

end Roster
