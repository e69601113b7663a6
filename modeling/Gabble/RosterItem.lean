/-
# Roster items and the edits made to them (`src/roster.c`)

One contact's `GabbleRosterItem`, what a pushed `<item/>` makes of it, and the
`GabbleRosterItemEdit` that collects what the user wants changed.  The functions
here look at one item only; the roster itself is in `Roster.lean`.

Handles are numbers.  A `TpHandleSet` of groups is a `Finset`, and a pointer to
one that may be NULL is an `Option`.
-/
import Mathlib.Data.Finset.Basic
import Mathlib.Data.Finset.SDiff

namespace Roster

abbrev Handle := ℕ

/-- A handle of type `TP_HANDLE_TYPE_GROUP`. -/
abbrev Group := ℕ

/-- A pointer to a `GSimpleAsyncResult`. -/
abbrev ResultId := ℕ

/-- `GoogleItemType`, but for `INVALID`: no item has that type, and in an edit it
stands for "don't edit", which is `none` there. -/
inductive GoogleItemType : Type where
  | normal : GoogleItemType
  | blocked : GoogleItemType
  | hidden : GoogleItemType
  | pinned : GoogleItemType
  deriving DecidableEq

/-- `GabbleRosterSubscription`. -/
inductive Subscription : Type where
  | none : Subscription
  | from_ : Subscription
  | to : Subscription
  | both : Subscription
  | remove : Subscription
  | invalid : Subscription
  deriving DecidableEq

/-- `TpSubscriptionState`. -/
inductive SubscriptionState : Type where
  | no : SubscriptionState
  | removedRemotely : SubscriptionState
  | ask : SubscriptionState
  | yes : SubscriptionState
  deriving DecidableEq

/-- `GabbleRosterItemEdit`. -/
structure ItemEdit where
  handle : Handle
  create : Bool
  results : List ResultId
  newSubscription : Subscription
  newGoogleType : Option GoogleItemType
  newName : Option String
  removeName : Bool
  addToGroups : Option (Finset Group)
  removeFromGroups : Option (Finset Group)
  removeFromAllOtherGroups : Bool
  deriving DecidableEq

/-- `item_edit_new`. -/
def ItemEdit.new (handle : Handle) : ItemEdit where
  handle := handle
  create := false
  results := []
  newSubscription := .invalid
  newGoogleType := none
  newName := none
  removeName := false
  addToGroups := none
  removeFromGroups := none
  removeFromAllOtherGroups := false

/-- `GabbleRosterItem`.  `flickerPrevention` says that `flicker_prevention_id` is
set. -/
structure Item where
  subscription : Subscription
  askSubscribe : Bool
  googleType : GoogleItemType
  name : Option String
  aliasFor : Option String
  groups : Finset Group
  editsInFlight : Bool
  unsentEdits : Option ItemEdit
  subscribe : SubscriptionState
  publish : SubscriptionState
  publishRequest : Option String
  stored : Bool
  blocked : Bool
  flickerPrevention : Bool
  deriving DecidableEq

/-- The transient item that `_gabble_roster_item_ensure` makes for a contact that is
not on the roster. -/
def Item.new (name : Option String) : Item where
  subscription := .remove
  askSubscribe := false
  googleType := .normal
  name := name
  aliasFor := none
  groups := ∅
  editsInFlight := false
  unsentEdits := none
  subscribe := .no
  publish := .no
  publishRequest := none
  stored := false
  blocked := false
  flickerPrevention := false

/-! ## A pushed item -/

/-- An `<item/>` of a roster query.  `contact` is `none` when
`validate_roster_item` refuses the jid. -/
structure ItemNode where
  contact : Option Handle
  subscription : Option String
  ask : Option String
  googleType : Option String
  aliasFor : Option String
  name : Option String
  groups : List Group
  deriving DecidableEq

/-- `_parse_item_subscription`. -/
def parseItemSubscription : Option String → Subscription
  | some "from" => .from_
  | some "to" => .to
  | some "both" => .both
  | some "remove" => .remove
  | _ => .none

/-- `_parse_google_item_type`. -/
def parseGoogleItemType : Option String → GoogleItemType
  | some "B" => .blocked
  | some "H" => .hidden
  | some "P" => .pinned
  | _ => .normal

namespace Item

/-- `_google_roster_item_should_keep`. -/
def googleRosterItemShouldKeep (item : Item) : Bool :=
  if item.googleType = .hidden then false
  else if item.askSubscribe then true
  else item.subscription ≠ .none && item.subscription ≠ .remove

/-- `_gabble_roster_item_update`, the part about the item. -/
def update (item : Item) (node : ItemNode) (googleRosterMode : Bool) : Item :=
  let subscription := parseItemSubscription node.subscription
  let newGroups := node.groups.toFinset
  { item with
    subscription := subscription
    askSubscribe := node.ask = some "subscribe"
    googleType :=
      if googleRosterMode then parseGoogleItemType node.googleType else item.googleType
    aliasFor := if googleRosterMode then node.aliasFor else item.aliasFor
    name := if subscription = .remove then none else node.name
    groups := (item.groups ∪ newGroups) \ (item.groups \ newGroups) }

/-- `roster_item_set_publish`, with whether something changed. -/
def setPublish (item : Item) (publish : SubscriptionState) (request : Option String) :
    Bool × Item :=
  (item.publish ≠ publish || item.publishRequest ≠ request,
    { item with publish := publish, publishRequest := request })

/-- `roster_item_set_subscribe`. -/
def setSubscribe (item : Item) (subscribe : SubscriptionState) : Bool × Item :=
  (item.subscribe ≠ subscribe, { item with subscribe := subscribe })

/-- "handle publish list changes" in `process_roster`. -/
def publishChanges (item : Item) (googleRoster : Bool) : Bool × Item :=
  match item.subscription with
  | .from_ | .both =>
    if googleRoster && !item.googleRosterItemShouldKeep then item.setPublish .no none
    else item.setPublish .yes none
  | .none | .to | .remove =>
    if item.publish = .yes then (true, (item.setPublish .no none).2) else (false, item)
  -- not reached: the subscription has just been parsed
  | .invalid => (false, item)

/-- "handle subscribe list changes" in `process_roster`. -/
def subscribeChanges (item : Item) (googleRoster : Bool) : Bool × Item :=
  match item.subscription with
  | .to | .both =>
    let state :=
      if googleRoster && !item.googleRosterItemShouldKeep then SubscriptionState.no else .yes
    ((item.setSubscribe state).1,
      { (item.setSubscribe state).2 with flickerPrevention := false })
  | .none | .from_ =>
    if item.askSubscribe then
      if item.subscribe = .yes then (false, item)
      else { item with flickerPrevention := !item.flickerPrevention }.setSubscribe .ask
    else if !item.flickerPrevention then item.setSubscribe .no
    else (false, item)
  | .remove => item.setSubscribe .no
  | .invalid => (false, item)

/-- Whether the contact is shown as stored, after "handle stored list changes". -/
def keepsStored (item : Item) (googleRoster : Bool) : Bool :=
  match item.subscription with
  | .none | .to | .from_ | .both =>
    !(googleRoster && item.subscribe ≠ .ask && item.publish ≠ .ask &&
      !item.googleRosterItemShouldKeep)
  | .remove => false
  | .invalid => item.stored

/-- Whether the contact is blocked, after "handle deny list changes". -/
def isBlocked (item : Item) (googleRoster : Bool) : Bool :=
  if googleRoster then item.subscription ≠ .remove && item.googleType = .blocked
  else item.blocked

/-- The test of `_gabble_roster_item_maybe_remove`. -/
def removable (item : Item) : Bool :=
  item.subscription = .remove && !item.editsInFlight && item.publish = .no &&
    item.subscribe = .no

end Item

/-! ## Queueing an edit -/

namespace ItemEdit

/-- `gabble_roster_handle_set_blocked`, on the edit. -/
def setBlocked (edits : ItemEdit) (blocked : Bool) : ItemEdit :=
  { edits with newGoogleType := some (if blocked then .blocked else .normal) }

/-- `gabble_roster_handle_set_name`, on the edit. -/
def setName (edits : ItemEdit) (name : Option String) : ItemEdit :=
  { edits with newName := name, removeName := name.isNone }

/-- `gabble_roster_handle_remove`, on the edit. -/
def remove (edits : ItemEdit) : ItemEdit := { edits with newSubscription := .remove }

/-- `gabble_roster_handle_add`, on the edit. -/
def add (edits : ItemEdit) : ItemEdit :=
  { edits with create := true, newGoogleType := some .normal }

/-- `gabble_roster_handle_add_to_group`, on the edit. -/
def addToGroup (edits : ItemEdit) (group : Group) : ItemEdit :=
  { edits with
    addToGroups := some (insert group (edits.addToGroups.getD ∅))
    removeFromGroups := edits.removeFromGroups.map fun groups => groups.erase group }

/-- `gabble_roster_handle_remove_from_group`, on the edit. -/
def removeFromGroup (edits : ItemEdit) (group : Group) : ItemEdit :=
  { edits with
    removeFromGroups := some (insert group (edits.removeFromGroups.getD ∅))
    addToGroups := edits.addToGroups.map fun groups => groups.erase group }

/-- `gabble_roster_set_contact_groups_async`, on the edit. -/
def setGroups (edits : ItemEdit) (groups : Finset Group) : ItemEdit :=
  { edits with
    addToGroups := some groups
    removeFromAllOtherGroups := true
    removeFromGroups := none }

/-- The operation is going to wait for this edit. -/
def addResult (edits : ItemEdit) (result : Option ResultId) : ItemEdit :=
  { edits with results := result.toList ++ edits.results }

end ItemEdit

/-- The edit that collects the changes to come. -/
def Item.edits (item : Item) (handle : Handle) : ItemEdit :=
  item.unsentEdits.getD (ItemEdit.new handle)

/-! ## Applying the edit

`roster_item_apply_edits` goes through the parts of the edit one after the other,
with a copy of the item that it edits and a flag that says whether it did. -/

/-- The Google type of the edited item. -/
def ItemEdit.googleTypeFor (edits : ItemEdit) (item : Item) : GoogleItemType :=
  edits.newGoogleType.getD item.googleType

/-- The removal of a blocked contact, which cancels the subscriptions instead. -/
def ItemEdit.cancelsSubscriptions (edits : ItemEdit) (item : Item) : Bool :=
  edits.newSubscription = .remove && edits.newSubscription ≠ item.subscription &&
    edits.googleTypeFor item = .blocked

/-- The subscription is changed. -/
def ItemEdit.changesSubscription (edits : ItemEdit) (item : Item) : Bool :=
  edits.newSubscription ≠ .invalid && edits.newSubscription ≠ item.subscription &&
    !edits.cancelsSubscriptions item

/-- The name of the edited item. -/
def ItemEdit.nameFor (edits : ItemEdit) (item : Item) : Option String :=
  if edits.removeName then none
  else
    match edits.newName with
    | some name => some name
    | none => item.name

/-- The groups of the edited item. -/
def ItemEdit.groupsFor (edits : ItemEdit) (item : Item) : Finset Group :=
  if edits.addToGroups.isSome || edits.removeFromGroups.isSome ||
      edits.removeFromAllOtherGroups then
    let groups := if edits.removeFromAllOtherGroups then ∅ else item.groups
    (groups ∪ edits.addToGroups.getD ∅) \ edits.removeFromGroups.getD ∅
  else item.groups

/-- Something is altered, so that an IQ is needed. -/
def ItemEdit.alters (edits : ItemEdit) (item : Item) : Bool :=
  edits.create || edits.googleTypeFor item ≠ item.googleType ||
    edits.changesSubscription item || edits.removeName ||
    edits.nameFor item ≠ item.name || edits.groupsFor item ≠ item.groups

/-- The subscription of the edited item, before a transient item is created. -/
def ItemEdit.subscriptionFor (edits : ItemEdit) (item : Item) : Subscription :=
  if edits.changesSubscription item then edits.newSubscription else item.subscription

/-- The edit changes a transient item, and does not remove it: the item is created
as a side-effect. -/
def ItemEdit.createsItem (edits : ItemEdit) (item : Item) : Bool :=
  edits.alters item && edits.newSubscription ≠ .remove && edits.subscriptionFor item = .remove

/-- `edited_item`, at the end. -/
def ItemEdit.editedItem (edits : ItemEdit) (item : Item) : Item :=
  { item with
    googleType := edits.googleTypeFor item
    subscription := if edits.createsItem item then .none else edits.subscriptionFor item
    name := edits.nameFor item
    groups := edits.groupsFor item }

/-- The edit as it is sent. -/
def ItemEdit.sent (edits : ItemEdit) (item : Item) : ItemEdit :=
  if edits.createsItem item then { edits with newSubscription := .none } else edits

/-! ## The stanza -/

/-- The `<item/>` of a roster set.  The other attributes are left out when the item
is to be removed; a Google type that is not sent is `normal`. -/
structure Stanza where
  handle : Handle
  subscription : Subscription
  body : Option (GoogleItemType × Bool × Option String × Finset Group)
  deriving DecidableEq

/-- `_gabble_roster_item_to_message`; `none` where `_subscription_to_string` fails its
assertion. -/
def Item.toMessage (item : Item) (handle : Handle) (googleRoster : Bool) : Option Stanza :=
  match item.subscription with
  | .invalid => none
  | .remove => some ⟨handle, .remove, none⟩
  | subscription =>
    some ⟨handle, subscription, some
      (if googleRoster then item.googleType else .normal, item.askSubscribe, item.name,
        item.groups)⟩

end Roster
