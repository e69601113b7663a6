/-
# The roster (`src/roster.c`)

The model of `GabbleRoster`: the items of all contacts, the roster sets that wait
for an answer, and the results of the asynchronous operations of the contact
list, which count the edits they wait for (`gabble_simple_async_countdown_new`
and its companions in `src/util.c`).

A `TpHandleSet` that an operation iterates over is a list without duplicates, in
the order of the iteration.  What an operation does after a failing assertion is
not looked at: there is no further step.

Ghost data: a result counts how often it was scheduled to complete, and the
history says how each edit ended.
-/
import Mathlib.Data.List.AList
import Mathlib.Logic.Function.Basic
import Gabble.Transition
import Gabble.RosterItem

namespace Roster

/-- A pointer to a roster set that waits for an answer. -/
abbrev IqId := ℕ

/-- The type of a presence stanza about subscriptions. -/
inductive PresenceType : Type where
  | subscribe : PresenceType
  | subscribed : PresenceType
  | unsubscribe : PresenceType
  | unsubscribed : PresenceType
  deriving DecidableEq

/-- What a result calls: the callback of the operation itself, or one that goes on
with the operation first. -/
inductive Callback : Type where
  | operation : Callback
  | requestSubscriptionAdded (contacts : List Handle) (message : String) : Callback
  | removeGroupRemoved (group : Option Group) (contacts : List Handle) : Callback
  deriving DecidableEq

/-- A `GSimpleAsyncResult`. -/
structure AsyncResult where
  callback : Callback
  todo : ℤ
  failed : Bool
  completions : ℕ
  deriving DecidableEq

/-- A roster set that waits for an answer, with the edit that is its user data. -/
structure Iq where
  id : IqId
  edit : ItemEdit
  stanza : Stanza
  deriving DecidableEq

/-- The history. -/
inductive Action : Type where
  | presence (type : PresenceType) (contact : Handle) (status : String) : Action
  | rosterSet (id : IqId) (stanza : Stanza) : Action
  | answered (id : IqId) (success : Bool) : Action
  | unchanged (edits : ItemEdit) : Action
  | destroyed (edits : ItemEdit) : Action
  | readFreed (contact : Handle) : Action
  | contactsChanged (changed removed : Finset Handle) : Action
  | blockingChanged (contacts : Finset Handle) : Action
  | nicknamesUpdate (contacts : List Handle) : Action
  | groupsCreated (groups : Finset Group) : Action
  | groupsChanged (contact : Handle) (added removed : Finset Group) : Action
  | groupsRemoved (group : Group) : Action
  | called (result : ResultId) (failed : Bool) : Action
  deriving DecidableEq

/-- The assertion of `_subscription_to_string`. -/
inductive Fault : Type where
  | assertNotReached : Fault
  deriving DecidableEq

/-- What the rest of the connection says. -/
structure Connection where
  selfHandle : Handle
  /-- `GABBLE_CONNECTION_FEATURES_GOOGLE_ROSTER`. -/
  googleRoster : Bool
  /-- There is a porter to send stanzas with. -/
  porter : Bool
  /-- The alias of a contact, when its source is better than the jid. -/
  cachedAlias : Handle → Option String

/-- The roster. -/
structure State where
  conn : Connection
  items : AList fun _ : Handle => Item
  groups : Finset Group
  preAuthorized : Finset Handle
  received : Bool
  /-- The connection has been closed. -/
  closed : Bool
  iqs : List Iq
  nextIq : IqId
  results : ResultId → AsyncResult
  nextResult : ResultId
  /-- The results that complete in an idle. -/
  idle : List ResultId
  log : List Action
  fault : Option Fault

/-- `gabble_roster_new`. -/
def State.new (conn : Connection) : State where
  conn := conn
  items := ∅
  groups := ∅
  preAuthorized := ∅
  received := false
  closed := false
  iqs := []
  nextIq := 0
  results := fun _ => ⟨.operation, 0, false, 0⟩
  nextResult := 0
  idle := []
  log := []
  fault := none

namespace State

def item (s : State) (h : Handle) : Option Item := s.items.lookup h

def setItem (s : State) (h : Handle) (item : Item) : State :=
  { s with items := s.items.insert h item }

def record (s : State) (a : Action) : State := { s with log := s.log ++ [a] }

/-! ## Results -/

def setResult (s : State) (r : ResultId) (result : AsyncResult) : State :=
  { s with results := Function.update s.results r result }

/-- `g_simple_async_result_complete_in_idle`. -/
def completeInIdle (s : State) (r : ResultId) : State :=
  { s.setResult r { s.results r with completions := (s.results r).completions + 1 } with
    idle := s.idle ++ [r] }

/-- `gabble_simple_async_countdown_new`, with one thing to do; the result is
`s.nextResult`. -/
def countdownNew (s : State) (callback : Callback) : State :=
  { s.setResult s.nextResult ⟨callback, 1, false, 0⟩ with nextResult := s.nextResult + 1 }

/-- `gabble_simple_async_countdown_inc`. -/
def countdownInc (s : State) (r : ResultId) : State :=
  if 1 ≤ (s.results r).todo then
    s.setResult r { s.results r with todo := (s.results r).todo + 1 }
  else s

/-- `gabble_simple_async_countdown_dec`. -/
def countdownDec (s : State) (r : ResultId) : State :=
  let s' := s.setResult r { s.results r with todo := (s.results r).todo - 1 }
  if (s'.results r).todo ≤ 0 then s'.completeInIdle r else s'

/-- `g_simple_async_result_set_from_error`. -/
def setFromError (s : State) (r : ResultId) : State :=
  s.setResult r { s.results r with failed := true }

/-- `gabble_simple_async_succeed_or_fail_in_idle`. -/
def succeedOrFailInIdle (s : State) (failed : Bool) : State :=
  { s.setResult s.nextResult ⟨.operation, 0, failed, 0⟩ with
    nextResult := s.nextResult + 1 }.completeInIdle s.nextResult

/-- `item_edit_free`. -/
def itemEditFree (s : State) (edits : ItemEdit) : State :=
  edits.results.reverse.foldl countdownDec s

/-- `_gabble_connection_send` of a presence stanza, with whether it worked. -/
def sendPresence (s : State) (type : PresenceType) (contact : Handle) (status : String) :
    State × Bool :=
  if s.conn.porter then (s.record (.presence type contact status), true) else (s, false)

/-! ## Items -/

/-- `_gabble_roster_item_ensure`, for its effect. -/
def itemEnsure (s : State) (h : Handle) : State :=
  match s.item h with
  | some _ => s
  | none => s.setItem h (Item.new (s.conn.cachedAlias h))

/-- `_gabble_roster_item_maybe_remove`.  An item that goes takes its unsent edits
with it (`_gabble_roster_item_free`). -/
def itemMaybeRemove (s : State) (h : Handle) : State × Bool :=
  match s.item h with
  | none => (s, false)
  | some item =>
    if item.removable then
      let s := { s with items := s.items.erase h }
      match item.unsentEdits with
      | none => (s, true)
      | some edits => ((s.record (.destroyed edits)).itemEditFree edits, true)
    else (s, false)

/-- `roster_item_cancel_subscriptions`, with whether the stanzas could be sent. -/
def itemCancelSubscriptions (s : State) (contact : Handle) (item : Item) : State × Bool :=
  let (s, ret) :=
    if item.subscription = .from_ ∨ item.subscription = .both then
      s.sendPresence .unsubscribed contact ""
    else (s, true)
  if ret ∧ (item.subscription = .to ∨ item.subscription = .both) then
    s.sendPresence .unsubscribe contact ""
  else (s, ret)

/-- The part of `roster_item_apply_edits` that removes a blocked contact. -/
def applyCancel (s : State) (contact : Handle) (item : Item) (edits : ItemEdit) : State :=
  if edits.cancelsSubscriptions item then
    let (s, ok) := s.itemCancelSubscriptions contact item
    if ok then s else edits.results.foldl setFromError s
  else s

/-- The end of `roster_item_apply_edits`: send what was altered. -/
def sendEdits (s : State) (contact : Handle) (item : Item) (edits : ItemEdit) : State :=
  match (edits.editedItem item).toMessage contact s.conn.googleRoster with
  | none => { s with fault := some .assertNotReached }
  | some stanza =>
    { s.setItem contact { item with unsentEdits := none, editsInFlight := true } with
      iqs := s.iqs ++ [⟨s.nextIq, edits.sent item, stanza⟩]
      nextIq := s.nextIq + 1
      log := s.log ++ [.rosterSet s.nextIq stanza] }

/-- `roster_item_apply_edits`. -/
def itemApplyEdits (s : State) (contact : Handle) : State :=
  match s.item contact with
  | none => s
  | some item =>
    if !s.received || item.editsInFlight then s
    else
      match item.unsentEdits with
      | none => s
      | some edits =>
        let s := s.applyCancel contact item edits
        if edits.alters item then s.sendEdits contact item edits
        else
          ((s.setItem contact { item with unsentEdits := none }).record
            (.unchanged edits)).itemEditFree edits

end State

namespace State

/-- The part of `roster_edited_cb` that believes that the item exists: the server
claims to have created it. -/
def believeEdited (s : State) (edit : ItemEdit) : State :=
  match s.item edit.handle with
  | none => s
  | some item =>
    if item.subscription = .remove ∧ edit.newSubscription ≠ .remove then
      s.setItem edit.handle { item with subscription := edit.newSubscription }
    else s

/-- The part of `roster_edited_cb` about the item. -/
def itemEdited (s : State) (edit : ItemEdit) : State :=
  match s.item edit.handle with
  | none => s
  | some item =>
    let s := s.setItem edit.handle { item with editsInFlight := false }
    (((s.itemApplyEdits edit.handle).believeEdited edit).itemMaybeRemove edit.handle).1

/-- `roster_edited_cb`. -/
def rosterEditedCb (s : State) (edit : ItemEdit) (success : Bool) : State :=
  let s := if success then s else edit.results.foldl setFromError s
  (s.itemEdited edit).itemEditFree edit

/-! ## Requests about one contact -/

/-- Queue an edit, and apply it at once if that is possible.  The operation of
`result`, if there is one, waits for it. -/
def queueEdit (s : State) (contact : Handle) (result : Option ResultId)
    (change : ItemEdit → ItemEdit) : State :=
  match s.item contact with
  | none => s
  | some item =>
    let s := match result with
      | none => s
      | some r => s.countdownInc r
    (s.setItem contact { item with
      unsentEdits := some (change ((item.edits contact).addResult result)) }).itemApplyEdits
        contact

/-- `gabble_roster_handle_set_blocked`. -/
def handleSetBlocked (s : State) (contact : Handle) (blocked : Bool) (result : ResultId) :
    State :=
  if s.conn.googleRoster then
    (s.itemEnsure contact).queueEdit contact (some result) fun edits => edits.setBlocked blocked
  else s

/-- `gabble_roster_handle_set_name`. -/
def handleSetName (s : State) (contact : Handle) (name : Option String) : State :=
  (s.itemEnsure contact).queueEdit contact none fun edits => edits.setName name

/-- The part of `gabble_roster_handle_remove` about a contact that is not on the
roster: whether the item could be removed at once. -/
def handleRemoveTransient (s : State) (contact : Handle) (item : Item) : State × Bool :=
  if item.subscription = .remove then
    let item := ((item.setPublish .no none).2.setSubscribe .no).2
    (s.setItem contact item).itemMaybeRemove contact
  else (s, false)

/-- `gabble_roster_handle_remove`. -/
def handleRemove (s : State) (contact : Handle) (result : ResultId) : State :=
  match s.item contact with
  | none => s
  | some item =>
    let (s, removed) := s.handleRemoveTransient contact item
    if removed then s.record (.contactsChanged ∅ {contact})
    else s.queueEdit contact (some result) ItemEdit.remove

/-- `gabble_roster_handle_add`. -/
def handleAdd (s : State) (contact : Handle) (result : ResultId) : State :=
  let hasEntry := (s.item contact).isSome
  let s := s.itemEnsure contact
  match s.item contact with
  | none => s
  | some item =>
    let doAdd := !hasEntry || item.googleType = .hidden || item.subscription = .remove
    if doAdd then s.queueEdit contact (some result) ItemEdit.add else s

/-- `gabble_roster_handle_add_to_group`. -/
def handleAddToGroup (s : State) (contact : Handle) (group : Group) (result : ResultId) : State :=
  (s.itemEnsure contact).queueEdit contact (some result) fun edits => edits.addToGroup group

/-- `gabble_roster_handle_remove_from_group`. -/
def handleRemoveFromGroup (s : State) (contact : Handle) (group : Group) (result : ResultId) :
    State :=
  (s.itemEnsure contact).queueEdit contact (some result) fun edits => edits.removeFromGroup group

/-! ## Stanzas from the server -/

/-- The sets that `process_roster` reports at its end. -/
structure Changes where
  changed : Finset Handle
  removed : Finset Handle
  blockingChanged : Finset Handle
  updatedNicknames : List Handle
  deriving DecidableEq

/-- `_gabble_roster_item_update`, the part about the groups. -/
def updateGroups (s : State) (contact : Handle) (oldGroups newGroups : Finset Group) : State :=
  let created := newGroups \ s.groups
  let s := { s with groups := s.groups ∪ newGroups }
  let s := if s.received ∧ created ≠ ∅ then s.record (.groupsCreated created) else s
  let added := newGroups \ oldGroups
  let removed := oldGroups \ newGroups
  if s.received ∧ (added ≠ ∅ ∨ removed ≠ ∅) then s.record (.groupsChanged contact added removed)
  else s

/-- What `process_roster` makes of an item after the update, and which lists change. -/
def processItem (contact : Handle) (item : Item) (googleRoster : Bool) (sets : Changes) :
    Item × Changes :=
  let (publishChanged, item) := item.publishChanges googleRoster
  let (subscribeChanged, item) := item.subscribeChanges googleRoster
  let changed :=
    if publishChanged || subscribeChanged then insert contact sets.changed else sets.changed
  let keeps := item.keepsStored googleRoster
  let hides := !keeps && item.subscription ≠ .remove
  let sets := { sets with
    changed :=
      if keeps then if item.stored then changed else insert contact changed
      else changed.erase contact
    removed :=
      if hides || (!keeps && item.stored) then insert contact sets.removed else sets.removed
    blockingChanged :=
      if item.isBlocked googleRoster ≠ item.blocked then insert contact sets.blockingChanged
      else sets.blockingChanged }
  ({ item with stored := keeps, blocked := item.isBlocked googleRoster }, sets)

/-- One round of the loop of `process_roster`. -/
def processNode (googleRoster : Bool) (acc : State × Changes) (node : ItemNode) :
    State × Changes :=
  match node.contact with
  | none => acc
  | some contact =>
    let s := acc.1.itemEnsure contact
    match s.item contact with
    | none => (s, acc.2)
    | some old =>
      let updated := old.update node googleRoster
      let s := s.updateGroups contact old.groups node.groups.toFinset
      let sets := { acc.2 with
        updatedNicknames :=
          if old.name ≠ updated.name then acc.2.updatedNicknames ++ [contact]
          else acc.2.updatedNicknames }
      let (item, sets) := processItem contact updated googleRoster sets
      (((s.setItem contact item).itemMaybeRemove contact).1, sets)

/-- `process_roster`.  A push is one of Google's when it has their extension. -/
def processRoster (s : State) (ext : Option String) (nodes : List ItemNode) : State :=
  let googleRoster := s.conn.googleRoster && ext == some "2"
  let (s, sets) := nodes.foldl (processNode googleRoster) (s, ⟨∅, ∅, ∅, []⟩)
  let s := if sets.updatedNicknames = [] then s
    else s.record (.nicknamesUpdate sets.updatedNicknames)
  let s := s.record (.contactsChanged sets.changed sets.removed)
  if googleRoster then s.record (.blockingChanged sets.blockingChanged) else s

/-- The contacts with unsent edits. -/
def editedItems (s : State) : List Handle :=
  s.items.keys.filter fun h => (s.item h).any fun item => item.unsentEdits.isSome

/-- `got_roster_iq` for the answer to the initial request. -/
def gotRosterResult (s : State) (ext : Option String) (nodes : List ItemNode) : State :=
  if s.received then s
  else
    let s := s.processRoster ext nodes
    let edited := s.editedItems
    edited.foldl itemApplyEdits { s with received := true }

/-- `_gabble_roster_send_presence_ack`, when something changed. -/
def sendPresenceAck (s : State) (contact : Handle) : PresenceType → State
  | .unsubscribe => (s.sendPresence .unsubscribed contact "").1
  | .subscribed => (s.sendPresence .subscribe contact "").1
  | .unsubscribed => (s.sendPresence .unsubscribe contact "").1
  | .subscribe => s

/-- `gabble_roster_presence_cb`, the switch; `none` is any other type. -/
def presenceSwitch (s : State) (contact : Handle) (item : Item) (status : Option String) :
    Option PresenceType → State
  | some .subscribe =>
    let s := (s.setItem contact (item.setPublish .ask status).2).record
      (.contactsChanged {contact} ∅)
    if contact ∈ s.preAuthorized then (s.sendPresence .subscribed contact "").1 else s
  | some .unsubscribe =>
    if item.publish = .yes ∨ item.publish = .ask then
      ((s.setItem contact (item.setPublish .removedRemotely none).2).record
        (.contactsChanged {contact} ∅)).sendPresenceAck contact .unsubscribe
    else s
  | some .subscribed =>
    if item.subscribe ≠ .yes then
      ((s.setItem contact { item with subscribe := .yes }).record
        (.contactsChanged {contact} ∅)).sendPresenceAck contact .subscribed
    else s
  | some .unsubscribed =>
    if item.subscribe = .yes ∨ item.subscribe = .ask then
      ((s.setItem contact { item with subscribe := .removedRemotely }).record
        (.contactsChanged {contact} ∅)).sendPresenceAck contact .unsubscribed
    else s
  | none => s

/-- `gabble_roster_presence_cb`. -/
def presenceCb (s : State) (contact : Handle) (type : Option PresenceType)
    (status : Option String) : State :=
  if contact = s.conn.selfHandle then s
  else
    let s := s.itemEnsure contact
    match s.item contact with
    | none => s
    | some item => s.presenceSwitch contact item status type

/-- `flicker_prevention_timeout`. -/
def flickerPreventionTimeout (s : State) (contact : Handle) (item : Item) : State :=
  if (item.subscription = .remove ∨ item.subscription = .none) ∧ item.askSubscribe = false then
    (s.setItem contact { item with subscribe := .no, flickerPrevention := false }).record
      (.contactsChanged {contact} ∅)
  else s.setItem contact { item with flickerPrevention := false }

/-! ## The operations of the contact list -/

/-- Do something for one contact after the other, until it fails.  The state says
what has been done so far, and the flag that nothing has failed. -/
def loopWhile {σ : Type} (body : σ → Handle → σ × Bool) : σ → List Handle → σ × Bool
  | s, [] => (s, true)
  | s, contact :: contacts =>
    let (s', ok) := body s contact
    if ok then loopWhile body s' contacts else (s', false)

/-- An operation that waits for the edits it asks for. -/
def countdown (s : State) (callback : Callback) (body : ResultId → State → State) : State :=
  (body s.nextResult (s.countdownNew callback)).countdownDec s.nextResult

/-- `gabble_roster_request_subscription_async`. -/
def requestSubscriptionAsync (s : State) (contacts : List Handle) (message : String) : State :=
  s.countdown (.requestSubscriptionAdded contacts message) fun result s =>
    contacts.foldl (fun s contact => s.handleAdd contact result) s

/-- The loop of `gabble_roster_request_subscription_added_cb`. -/
def requestSubscriptionOne (message : String) (s : State) (contact : Handle) : State × Bool :=
  if (s.item contact).any fun item => item.subscription = .to ∨ item.subscription = .both then
    (s, true)
  else s.sendPresence .subscribe contact message

/-- `gabble_roster_request_subscription_added_cb`. -/
def requestSubscriptionAddedCb (s : State) (contacts : List Handle) (message : String) : State :=
  let (s, ok) := loopWhile (requestSubscriptionOne message) s contacts
  s.succeedOrFailInIdle !ok

/-- The loop of `gabble_roster_authorize_publication_async`. -/
def authorizePublicationOne (s : State) (contact : Handle) : State × Bool :=
  match s.item contact with
  | none => ({ s with preAuthorized := insert contact s.preAuthorized }, true)
  | some item =>
    if item.publish = .no ∨ item.publish = .removedRemotely then
      ({ s with preAuthorized := insert contact s.preAuthorized }, true)
    else if item.publish = .ask then s.sendPresence .subscribed contact ""
    else (s, true)

/-- `gabble_roster_authorize_publication_async`. -/
def authorizePublicationAsync (s : State) (contacts : List Handle) : State :=
  let (s, ok) := loopWhile authorizePublicationOne s contacts
  s.succeedOrFailInIdle !ok

/-- `gabble_roster_store_contacts_async`. -/
def storeContactsAsync (s : State) (contacts : List Handle) : State :=
  s.countdown .operation fun result s =>
    contacts.foldl (fun s contact => s.handleAdd contact result) s

/-- `gabble_roster_remove_contacts_async`. -/
def removeContactsAsync (s : State) (contacts : List Handle) : State :=
  s.countdown .operation fun result s =>
    contacts.foldl (fun s contact => s.handleRemove contact result) s

/-- The contact is reported as removed or as changed. -/
def reportRemoval (sets : Changes) (contact : Handle) (removed : Bool) : Changes :=
  if removed then { sets with removed := insert contact sets.removed }
  else { sets with changed := insert contact sets.changed }

/-- The loop of `gabble_roster_unsubscribe_async`. -/
def unsubscribeOne (acc : State × Changes) (contact : Handle) : (State × Changes) × Bool :=
  match acc.1.item contact with
  | none => (acc, true)
  | some item =>
    if item.subscribe = .no then (acc, true)
    else if item.subscribe = .removedRemotely then
      let (s, removed) :=
        (acc.1.setItem contact (item.setSubscribe .no).2).itemMaybeRemove contact
      ((s, reportRemoval acc.2 contact removed), true)
    else
      let (s, ok) := acc.1.sendPresence .unsubscribe contact ""
      ((s, acc.2), ok)

/-- `gabble_roster_unsubscribe_async`. -/
def unsubscribeAsync (s : State) (contacts : List Handle) : State :=
  let ((s, sets), ok) := loopWhile unsubscribeOne (s, ⟨∅, ∅, ∅, []⟩) contacts
  (s.record (.contactsChanged sets.changed sets.removed)).succeedOrFailInIdle !ok

/-- The first half of the loop of `gabble_roster_unpublish_async`: a request or a
remote removal is forgotten at once. -/
def unpublishForget (acc : State × Changes) (contact : Handle) (item : Item) :
    State × Changes :=
  if item.publish = .ask ∨ item.publish = .removedRemotely then
    let (s, removed) :=
      (acc.1.setItem contact (item.setPublish .no none).2).itemMaybeRemove contact
    -- the item is looked at again below, also when it has just been freed
    (if removed then s.record (.readFreed contact) else s, reportRemoval acc.2 contact removed)
  else acc

/-- The loop of `gabble_roster_unpublish_async`. -/
def unpublishOne (acc : State × Changes) (contact : Handle) : (State × Changes) × Bool :=
  match acc.1.item contact with
  | none => (acc, true)
  | some item =>
    let acc := unpublishForget acc contact item
    if item.publish = .yes then
      let (s, ok) := acc.1.sendPresence .unsubscribed contact ""
      ((s, acc.2), ok)
    else (acc, true)

/-- `gabble_roster_unpublish_async`. -/
def unpublishAsync (s : State) (contacts : List Handle) : State :=
  let ((s, sets), ok) := loopWhile unpublishOne (s, ⟨∅, ∅, ∅, []⟩) contacts
  (s.record (.contactsChanged sets.changed sets.removed)).succeedOrFailInIdle !ok

/-- `gabble_roster_block_contacts_async` and `gabble_roster_unblock_contacts_async`. -/
def setBlockedAsync (s : State) (contacts : List Handle) (blocked : Bool) : State :=
  s.countdown .operation fun result s =>
    contacts.foldl (fun s contact => s.handleSetBlocked contact blocked result) s

def blockContactsAsync (s : State) (contacts : List Handle) : State :=
  s.setBlockedAsync contacts true

def unblockContactsAsync (s : State) (contacts : List Handle) : State :=
  s.setBlockedAsync contacts false

/-- Groups that are used for the first time are created. -/
def createGroups (s : State) (groups : Finset Group) : State :=
  let created := groups \ s.groups
  let s := { s with groups := s.groups ∪ groups }
  if created ≠ ∅ then s.record (.groupsCreated created) else s

/-- `gabble_roster_set_contact_groups_async`.  A group is `none` when its name is not
a valid one. -/
def setContactGroupsAsync (s : State) (contact : Handle) (groups : List (Option Group)) :
    State :=
  let groupsSet := (groups.filterMap id).toFinset
  let s := s.itemEnsure contact
  s.countdown .operation fun result s =>
    (s.createGroups groupsSet).queueEdit contact (some result) fun edits => edits.setGroups groupsSet

/-- The operations on the members of one group; those on an invalid group fail. -/
def groupCountdown (s : State) (group : Option Group)
    (body : Group → ResultId → State → State) : State :=
  s.countdown .operation fun result s =>
    match group with
    | none => s.setFromError result
    | some group => body group result (s.createGroups {group})

/-- `gabble_roster_set_group_members_async`. -/
def setGroupMembersAsync (s : State) (group : Option Group) (contacts : List Handle) : State :=
  s.groupCountdown group fun group result s =>
    s.items.keys.foldl (fun s contact =>
      if contact ∈ contacts then s.handleAddToGroup contact group result
      else s.handleRemoveFromGroup contact group result) s

/-- `gabble_roster_add_to_group_async`. -/
def addToGroupAsync (s : State) (group : Option Group) (contacts : List Handle) : State :=
  s.groupCountdown group fun group result s =>
    contacts.foldl (fun s contact => s.handleAddToGroup contact group result) s

/-- `gabble_roster_remove_from_group_async`; there is nothing to do when the group
does not exist. -/
def removeFromGroupAsync (s : State) (group : Option Group) (contacts : List Handle) : State :=
  s.countdown .operation fun result s =>
    match group with
    | none => s
    | some group =>
      contacts.foldl (fun s contact => s.handleRemoveFromGroup contact group result) s

/-- The contacts that are in a group. -/
def groupMembers (s : State) (group : Group) : List Handle :=
  s.items.keys.filter fun h => (s.item h).any fun item => decide (group ∈ item.groups)

/-- `gabble_roster_remove_group_async`. -/
def removeGroupAsync (s : State) (group : Option Group) : State :=
  let members := match group with
    | none => []
    | some group => if group ∈ s.groups then s.groupMembers group else []
  s.countdown (.removeGroupRemoved group members) fun result s =>
    match group with
    | none => s
    | some group =>
      members.foldl (fun s contact => s.handleRemoveFromGroup contact group result) s

/-- Take one item out of a group, without telling the server. -/
def leaveGroup (group : Group) (s : State) (contact : Handle) : State :=
  match s.item contact with
  | none => s
  | some item => s.setItem contact { item with groups := item.groups.erase group }

/-- `gabble_roster_remove_group_removed_cb`, before it calls the operation's callback. -/
def removeGroupRemovedCb (s : State) (group : Option Group) (contacts : List Handle) : State :=
  match group with
  | none => s
  | some group =>
    if (s.groupMembers group).all (· ∈ contacts) then
      let s := { s with groups := s.groups.erase group }.record (.groupsRemoved group)
      (s.groupMembers group).foldl (leaveGroup group) s
    else s

/-- A result completes: its callback is called. -/
def completeResult (s : State) (r : ResultId) : State :=
  let s := { s with idle := s.idle.erase r }.record (.called r (s.results r).failed)
  match (s.results r).callback with
  | .operation => s
  | .requestSubscriptionAdded contacts message => s.requestSubscriptionAddedCb contacts message
  | .removeGroupRemoved group contacts => s.removeGroupRemovedCb group contacts

end State

/-! ## Runs -/

/-- What can happen next. -/
inductive Event : Type where
  | push (ext : Option String) (nodes : List ItemNode) : Event
  | rosterResult (ext : Option String) (nodes : List ItemNode) : Event
  | presence (contact : Handle) (type : Option PresenceType) (status : Option String) : Event
  | iqReply (id : IqId) (success : Bool) : Event
  | flickerTimeout (contact : Handle) : Event
  | setName (contact : Handle) (name : Option String) : Event
  | requestSubscription (contacts : List Handle) (message : String) : Event
  | authorizePublication (contacts : List Handle) : Event
  | storeContacts (contacts : List Handle) : Event
  | removeContacts (contacts : List Handle) : Event
  | unsubscribe (contacts : List Handle) : Event
  | unpublish (contacts : List Handle) : Event
  | blockContacts (contacts : List Handle) : Event
  | unblockContacts (contacts : List Handle) : Event
  | setContactGroups (contact : Handle) (groups : List (Option Group)) : Event
  | setGroupMembers (group : Option Group) (contacts : List Handle) : Event
  | addToGroup (group : Option Group) (contacts : List Handle) : Event
  | removeFromGroup (group : Option Group) (contacts : List Handle) : Event
  | removeGroup (group : Option Group) : Event
  | complete (result : ResultId) : Event
  | aliasChanged (contact : Handle) (name : Option String) : Event
  | porterLost : Event
  | disconnected : Event
  deriving DecidableEq

/-- The contacts of an operation, which are a set. -/
def Event.contacts : Event → List Handle
  | .requestSubscription contacts _ => contacts
  | .authorizePublication contacts => contacts
  | .storeContacts contacts => contacts
  | .removeContacts contacts => contacts
  | .unsubscribe contacts => contacts
  | .unpublish contacts => contacts
  | .blockContacts contacts => contacts
  | .unblockContacts contacts => contacts
  | .setGroupMembers _ contacts => contacts
  | .addToGroup _ contacts => contacts
  | .removeFromGroup _ contacts => contacts
  | _ => []

/-- What the main loop still does after the connection has been closed. -/
def Event.afterClose : Event → Bool
  | .iqReply _ _ => true
  | .flickerTimeout _ => true
  | .complete _ => true
  | _ => false

/-- The effect of an event, `none` when it cannot happen. -/
def operation (s : State) : Event → Option State
  | .push ext nodes => some (s.processRoster ext nodes)
  | .rosterResult ext nodes => some (s.gotRosterResult ext nodes)
  | .presence contact type status => some (s.presenceCb contact type status)
  | .iqReply id success =>
    match s.iqs.find? (·.id == id) with
    | none => none
    | some iq =>
      some ({ s with iqs := s.iqs.filter (·.id != id) }.record
        (.answered id success) |>.rosterEditedCb iq.edit success)
  | .flickerTimeout contact =>
    match s.item contact with
    | none => none
    | some item =>
      if item.flickerPrevention then some (s.flickerPreventionTimeout contact item) else none
  | .setName contact name => some (s.handleSetName contact name)
  | .requestSubscription contacts message => some (s.requestSubscriptionAsync contacts message)
  | .authorizePublication contacts => some (s.authorizePublicationAsync contacts)
  | .storeContacts contacts => some (s.storeContactsAsync contacts)
  | .removeContacts contacts => some (s.removeContactsAsync contacts)
  | .unsubscribe contacts => some (s.unsubscribeAsync contacts)
  | .unpublish contacts => some (s.unpublishAsync contacts)
  | .blockContacts contacts => some (s.blockContactsAsync contacts)
  | .unblockContacts contacts => some (s.unblockContactsAsync contacts)
  | .setContactGroups contact groups => some (s.setContactGroupsAsync contact groups)
  | .setGroupMembers group contacts => some (s.setGroupMembersAsync group contacts)
  | .addToGroup group contacts => some (s.addToGroupAsync group contacts)
  | .removeFromGroup group contacts => some (s.removeFromGroupAsync group contacts)
  | .removeGroup group => some (s.removeGroupAsync group)
  | .complete r => if r ∈ s.idle then some (s.completeResult r) else none
  | .aliasChanged contact name =>
    some { s with conn := { s.conn with
      cachedAlias := Function.update s.conn.cachedAlias contact name } }
  | .porterLost => some { s with conn := { s.conn with porter := false } }
  | .disconnected =>
    some { s with closed := true, groups := ∅, preAuthorized := ∅ }

/-- One step. -/
def step (s : State) (e : Event) : Option State :=
  if s.fault.isSome ∨ (s.closed ∧ e.afterClose = false) ∨ ¬ e.contacts.Nodup then none
  else operation s e

end Roster
