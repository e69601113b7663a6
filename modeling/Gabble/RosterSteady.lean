/-
# What leaves the subscription of a contact alone

Whether a contact is subscribed to is said by its item: the subscription and the `ask`
flag that the server pushed, the subscribe state, and whether the flicker timeout is
pending.  Only roster stanzas that name the contact, presence that answers a request
and the timeout itself change them, but that a remote removal may be acknowledged.

* `Steady`: the item of a contact stays, and so does its subscription;
* `steady_operation`: so it is with every event that does not concern the contact.
-/
import Mathlib.Tactic.Common
import Gabble.RosterValidity

open Transition

namespace Roster

variable {s s' s'' : State} {h c : Handle} {item item' : Item}

/-! ## Steady items -/

/-- The subscription of an item is the same, but that the state may have become NO. -/
structure Item.Steady (item item' : Item) : Prop where
  subscription : item'.subscription = item.subscription
  ask : item'.askSubscribe = item.askSubscribe
  flicker : item'.flickerPrevention = item.flickerPrevention
  subscribe : item'.subscribe = item.subscribe ∨ item'.subscribe = .no

/-- The contact keeps its item and its subscription, unless it is not on the roster. -/
def Steady (h : Handle) (s s' : State) : Prop :=
  ∀ item, s.item h = some item → item.subscription ≠ .remove →
    ∃ item', s'.item h = some item' ∧ item.Steady item'

theorem Item.Steady.refl (item : Item) : item.Steady item := ⟨rfl, rfl, rfl, .inl rfl⟩

theorem Item.Steady.trans {item'' : Item} (hsteady : item.Steady item')
    (hsteady' : item'.Steady item'') : item.Steady item'' where
  subscription := hsteady'.subscription.trans hsteady.subscription
  ask := hsteady'.ask.trans hsteady.ask
  flicker := hsteady'.flicker.trans hsteady.flicker
  subscribe := by
    rcases hsteady'.subscribe with heq | hno
    · rw [heq]
      exact hsteady.subscribe
    · exact .inr hno

theorem Steady.of_item (heq : s'.item h = s.item h) : Steady h s s' := by
  intro item hitem _
  exact ⟨item, heq.trans hitem, .refl item⟩

theorem Steady.refl (s : State) : Steady h s s := .of_item rfl

theorem Steady.trans (hsteady : Steady h s s') (hsteady' : Steady h s' s'') : Steady h s s'' := by
  intro item hitem hsub
  obtain ⟨item', hitem', h₁⟩ := hsteady item hitem hsub
  rw [← h₁.subscription] at hsub
  obtain ⟨item'', hitem'', h₂⟩ := hsteady' item' hitem' hsub
  exact ⟨item'', hitem'', h₁.trans h₂⟩

theorem SameCore.steady (hcore : SameCore s s') : Steady h s s' := .of_item (hcore.item h)

theorem SameItems.steady (hsame : SameItems s s') : Steady h s s' := .of_item (hsame.item h)

/-- An item is replaced by a steady one. -/
theorem steady_setItem (hitem : s.item c = some item)
    (hsteady : item.subscription ≠ .remove → item.Steady item') :
    Steady h s (s.setItem c item') := by
  by_cases hh : h = c
  · subst hh
    intro old hold hsub
    rw [hitem] at hold
    cases hold
    exact ⟨item', setItem_item_self .., hsteady hsub⟩
  · exact .of_item (setItem_item_ne _ _ hh)

theorem steady_foldl {α : Type} {f : State → α → State} (l : List α) (s : State)
    (hf : ∀ s, ∀ a ∈ l, Steady h s (f s a)) : Steady h s (l.foldl f s) := by
  induction l generalizing s with
  | nil => exact .refl s
  | cons a l ih =>
    refine (hf s a List.mem_cons_self).trans (ih _ ?_)
    exact fun s a' ha => hf s a' (List.mem_cons_of_mem _ ha)

theorem steady_loopWhile {σ : Type} {body : σ → Handle → σ × Bool} (view : σ → State)
    (hbody : ∀ acc c, Steady h (view acc) (view (body acc c).1)) (l : List Handle) (acc : σ) :
    Steady h (view acc) (view (State.loopWhile body acc l).1) := by
  induction l generalizing acc with
  | nil => exact .refl _
  | cons c l ih =>
    unfold State.loopWhile
    dsimp only
    split
    · exact (hbody acc c).trans (ih _)
    · exact hbody acc c

/-! ## Edits -/

theorem steady_itemEnsure (s : State) (c : Handle) : Steady h s (s.itemEnsure c) := by
  cases hitem : s.item c with
  | some item =>
    unfold State.itemEnsure
    rw [hitem]
    exact .refl s
  | none =>
    unfold State.itemEnsure
    rw [hitem]
    by_cases hh : h = c
    · subst hh
      intro item hold
      rw [hitem] at hold
      cases hold
    · exact .of_item (setItem_item_ne _ _ hh)

theorem steady_itemApplyEdits (s : State) (c : Handle) : Steady h s (s.itemApplyEdits c) := by
  rcases itemApplyEdits_item s c h with heq | ⟨rfl, item, flight, hitem, heq⟩
  · exact .of_item heq
  · intro old hold _
    rw [hitem] at hold
    cases hold
    exact ⟨_, heq, ⟨rfl, rfl, rfl, .inl rfl⟩⟩

theorem steady_queueEdit (s : State) (c : Handle) (result : Option ResultId)
    (change : ItemEdit → ItemEdit) : Steady h s (s.queueEdit c result change) := by
  refine queueEdit_ind (.refl s) fun item hitem => ?_
  have hset : Steady h s (s.setItem c { item with
      unsentEdits := some (change ((item.edits c).addResult result)) }) :=
    steady_setItem hitem fun _ => ⟨rfl, rfl, rfl, .inl rfl⟩
  refine (hset.trans ?_).trans (steady_itemApplyEdits _ c)
  exact (collected_same s c item result change).steady

/-- Only an item that is not on the roster is removed. -/
theorem steady_itemMaybeRemove (s : State) (c : Handle) :
    Steady h s (s.itemMaybeRemove c).1 := by
  rcases itemMaybeRemove_cases s c with ⟨heq, _⟩ | ⟨item, hitem, hrem, heq⟩
  · rw [heq]
    exact .refl s
  · rw [heq]
    by_cases hh : h = c
    · subst hh
      intro old hold hsub
      rw [hitem] at hold
      cases hold
      exact absurd ((Item.removable_iff item).mp hrem).1 hsub
    · exact .of_item (by rw [removeItem_item, if_neg hh])

/-! ## The operations -/

section

variable (s)

theorem steady_ensure_queueEdit (c : Handle) (result : Option ResultId)
    (change : ItemEdit → ItemEdit) : Steady h s ((s.itemEnsure c).queueEdit c result change) :=
  (steady_itemEnsure s c).trans (steady_queueEdit _ c result change)

theorem steady_handleSetBlocked (c : Handle) (blocked : Bool) (r : ResultId) :
    Steady h s (s.handleSetBlocked c blocked r) := by
  unfold State.handleSetBlocked
  split
  · exact steady_ensure_queueEdit _ _ _ _
  · exact .refl s

theorem steady_handleAddToGroup (c : Handle) (group : Group) (r : ResultId) :
    Steady h s (s.handleAddToGroup c group r) :=
  steady_ensure_queueEdit _ _ _ _

theorem steady_handleRemoveFromGroup (c : Handle) (group : Group) (r : ResultId) :
    Steady h s (s.handleRemoveFromGroup c group r) :=
  steady_ensure_queueEdit _ _ _ _

theorem steady_handleAdd (c : Handle) (r : ResultId) :
    Steady h s (s.handleAdd c r) := by
  have hens := steady_itemEnsure (h := h) s c
  unfold State.handleAdd
  dsimp only
  split
  · exact hens
  · split
    · exact hens.trans (steady_queueEdit _ _ _ _)
    · exact hens

theorem steady_handleRemove (c : Handle) (r : ResultId) :
    Steady h s (s.handleRemove c r) := by
  unfold State.handleRemove
  cases hitem : s.item c with
  | none => exact .refl s
  | some item =>
    have htransient : Steady h s (s.handleRemoveTransient c item).1 := by
      unfold State.handleRemoveTransient
      split
      · rename_i hsub
        refine (steady_setItem hitem fun hne => ?_).trans (steady_itemMaybeRemove _ c)
        exact absurd hsub hne
      · exact .refl s
    dsimp only
    split
    · exact htransient.trans (record_sameCore _ rfl).steady
    · exact htransient.trans (steady_queueEdit _ _ _ _)

/-- The operations that wait for the edits they ask for. -/
theorem steady_countdown (callback : Callback) {body : ResultId → State → State}
    (hbody : ∀ r s, Steady h s (body r s)) : Steady h s (s.countdown callback body) := by
  have hnew : Steady h s (s.countdownNew callback) := .of_item rfl
  exact (hnew.trans (hbody _ _)).trans (countdownDec_sameItems _ _).steady

theorem steady_groupCountdown (group : Option Group)
    {body : Group → ResultId → State → State} (hbody : ∀ g r s, Steady h s (body g r s)) :
    Steady h s (s.groupCountdown group body) := by
  refine steady_countdown s _ fun r s => ?_
  cases group with
  | none => exact (setFromError_sameCore ..).steady
  | some g => exact (createGroups_sameCore s {g}).steady.trans (hbody g r _)

theorem steady_setContactGroups (c : Handle) (groups : List (Option Group)) :
    Steady h s (s.setContactGroupsAsync c groups) := by
  have hbody : ∀ (r : ResultId) (s : State), Steady h s
      ((s.createGroups (groups.filterMap id).toFinset).queueEdit c (some r) fun edits =>
        edits.setGroups (groups.filterMap id).toFinset) := by
    intro r s
    exact (createGroups_sameCore s _).steady.trans (steady_queueEdit _ _ _ _)
  unfold State.setContactGroupsAsync
  exact (steady_itemEnsure s c).trans (steady_countdown _ _ hbody)

theorem steady_succeedOrFail (failed : Bool) :
    Steady h s (s.succeedOrFailInIdle failed) := .of_item rfl

end

theorem steady_unsubscribeOne (acc : State × State.Changes) (c : Handle) :
    Steady h acc.1 (State.unsubscribeOne acc c).1.1 := by
  unfold State.unsubscribeOne
  cases hitem : acc.1.item c with
  | none => exact .refl _
  | some item =>
    dsimp only
    split
    · exact .refl _
    · split
      · -- a remote removal is acknowledged
        refine (steady_setItem hitem fun _ => ?_).trans (steady_itemMaybeRemove _ c)
        exact ⟨rfl, rfl, rfl, .inr rfl⟩
      · exact (sendPresence_sameCore ..).steady

theorem steady_unpublishOne (acc : State × State.Changes) (c : Handle) :
    Steady h acc.1 (State.unpublishOne acc c).1.1 := by
  unfold State.unpublishOne
  cases hitem : acc.1.item c with
  | none => exact .refl _
  | some item =>
    have hforget : Steady h acc.1 (State.unpublishForget acc c item).1 := by
      unfold State.unpublishForget
      split
      · have hset : Steady h acc.1
            ((acc.1.setItem c (item.setPublish .no none).2).itemMaybeRemove c).1 := by
          refine (steady_setItem hitem fun _ => ?_).trans (steady_itemMaybeRemove _ c)
          exact ⟨rfl, rfl, rfl, .inl rfl⟩
        dsimp only
        split
        · exact hset.trans (record_sameCore _ rfl).steady
        · exact hset
      · exact .refl _
    dsimp only
    split
    · exact hforget.trans (sendPresence_sameCore ..).steady
    · exact hforget

theorem steady_leaveGroup (group : Group) (s : State) (c : Handle) :
    Steady h s (State.leaveGroup group s c) := by
  unfold State.leaveGroup
  cases hitem : s.item c with
  | none => exact .refl s
  | some item => exact steady_setItem hitem fun _ => ⟨rfl, rfl, rfl, .inl rfl⟩

theorem steady_removeGroupRemovedCb (s : State) (group : Option Group)
    (contacts : List Handle) : Steady h s (s.removeGroupRemovedCb group contacts) := by
  unfold State.removeGroupRemovedCb
  cases group with
  | none => exact .refl s
  | some g =>
    dsimp only
    split
    · have hrecord : Steady h s
          ({ s with groups := s.groups.erase g }.record (.groupsRemoved g)) := .of_item rfl
      exact hrecord.trans (steady_foldl _ _ fun s c _ => steady_leaveGroup g s c)
    · exact .refl s

theorem steady_completeResult (s : State) (r : ResultId) : Steady h s (s.completeResult r) := by
  have hcall : Steady h s (s.callResult r) := .of_item rfl
  unfold State.completeResult
  dsimp only
  split
  · exact hcall
  · rename_i contacts message _
    refine hcall.trans ?_
    have hloop := sameCore_loopWhile (requestSubscriptionOne_sameCore message) contacts
      (s.callResult r)
    exact hloop.steady.trans (steady_succeedOrFail _ _)
  · exact hcall.trans (steady_removeGroupRemovedCb _ _ _)

/-! ## What the server says -/

/-- Only a contact that is not on the roster is believed to be. -/
theorem steady_believeEdited (s : State) (edit : ItemEdit) :
    Steady h s (s.believeEdited edit) := by
  unfold State.believeEdited
  cases hitem : s.item edit.handle with
  | none => exact .refl s
  | some item =>
    dsimp only
    split
    · rename_i hsub
      exact steady_setItem hitem fun hne => absurd hsub.1 hne
    · exact .refl s

/-- The answer to a roster set. -/
theorem steady_rosterEditedCb (s : State) (edit : ItemEdit) (success : Bool) :
    Steady h s (s.rosterEditedCb edit success) := by
  have hhead : Steady h s (if success then s else edit.results.foldl State.setFromError s) := by
    split
    · exact .refl s
    · exact (foldl_sameCore _ setFromError_sameCore _ s).steady
  have hitem : ∀ s : State, Steady h s (s.itemEdited edit) := by
    intro s
    unfold State.itemEdited
    cases hitem : s.item edit.handle with
    | none => exact .refl s
    | some item =>
      have hland : Steady h s (s.setItem edit.handle { item with editsInFlight := false }) :=
        steady_setItem hitem fun _ => ⟨rfl, rfl, rfl, .inl rfl⟩
      have happly := hland.trans (steady_itemApplyEdits _ edit.handle)
      have hbelieve := happly.trans (steady_believeEdited _ edit)
      exact hbelieve.trans (steady_itemMaybeRemove _ edit.handle)
  exact (hhead.trans (hitem _)).trans (itemEditFree_sameItems _ edit).steady

/-- Presence that says nothing about our subscription. -/
theorem steady_presenceCb (s : State) (c : Handle) {type : Option PresenceType}
    (status : Option String)
    (htype : c = h → type ≠ some .subscribed ∧ type ≠ some .unsubscribed) :
    Steady h s (s.presenceCb c type status) := by
  unfold State.presenceCb
  split
  · exact .refl s
  · obtain ⟨item, hitem, _⟩ := itemEnsure_item s c
    have hens : Steady h s (s.itemEnsure c) := steady_itemEnsure s c
    simp only [hitem]
    -- the item is replaced, and the change reported
    have hset : ∀ item' : Item, (c = h → item.Steady item') → Steady h s
        (((s.itemEnsure c).setItem c item').record (.contactsChanged {c} ∅)) := by
      intro item' hsteady
      refine (hens.trans ?_).trans (record_sameCore _ rfl).steady
      by_cases hh : c = h
      · exact steady_setItem hitem fun _ => hsteady hh
      · exact .of_item (setItem_item_ne _ _ (Ne.symm hh))
    rcases type with _ | type
    · exact hens
    · cases type with
      | subscribe =>
        have hask := hset (item.setPublish .ask status).2 fun _ => ⟨rfl, rfl, rfl, .inl rfl⟩
        simp only [State.presenceSwitch]
        split
        · exact hask.trans (sendPresence_sameCore ..).steady
        · exact hask
      | unsubscribe =>
        simp only [State.presenceSwitch]
        split
        · exact (hset (item.setPublish .removedRemotely none).2
            fun _ => ⟨rfl, rfl, rfl, .inl rfl⟩).trans (sendPresenceAck_sameCore ..).steady
        · exact hens
      | subscribed =>
        simp only [State.presenceSwitch]
        split
        · exact (hset { item with subscribe := .yes }
            fun hh => absurd rfl (htype hh).1).trans (sendPresenceAck_sameCore ..).steady
        · exact hens
      | unsubscribed =>
        simp only [State.presenceSwitch]
        split
        · exact (hset { item with subscribe := .removedRemotely }
            fun hh => absurd rfl (htype hh).2).trans (sendPresenceAck_sameCore ..).steady
        · exact hens

/-- An `<item/>` about another contact. -/
theorem processNode_item_ne (googleRoster : Bool) (acc : State × State.Changes)
    {node : ItemNode} (hne : node.contact ≠ some h) :
    (State.processNode googleRoster acc node).1.item h = acc.1.item h := by
  unfold State.processNode
  split
  · rfl
  · rename_i c hc
    have hh : h ≠ c := by
      intro heq
      exact hne (heq ▸ hc)
    have hens : (acc.1.itemEnsure c).item h = acc.1.item h := by
      unfold State.itemEnsure
      split
      · rfl
      · exact setItem_item_ne _ _ hh
    have hremove : ∀ s : State, (s.itemMaybeRemove c).1.item h = s.item h := by
      intro s
      rcases itemMaybeRemove_cases s c with ⟨heq, _⟩ | ⟨item, _, _, heq⟩
      · rw [heq]
      · rw [heq, removeItem_item, if_neg hh]
    dsimp only
    split
    · exact hens
    · rw [hremove, setItem_item_ne _ _ hh, (updateGroups_sameCore ..).item]
      exact hens

/-- The end of `process_roster` only reports what has changed. -/
theorem processRoster_item (s : State) (ext : Option String) (nodes : List ItemNode)
    (h : Handle) : (s.processRoster ext nodes).item h =
      (nodes.foldl (State.processNode (s.conn.googleRoster && ext == some "2"))
        (s, ⟨∅, ∅, ∅, []⟩)).1.item h := by
  unfold State.processRoster
  dsimp only
  split <;> split <;> rfl

/-- A roster stanza that does not name the contact. -/
theorem processRoster_item_ne (s : State) (ext : Option String) {nodes : List ItemNode}
    (hne : ∀ node ∈ nodes, node.contact ≠ some h) :
    (s.processRoster ext nodes).item h = s.item h := by
  rw [processRoster_item]
  generalize (s.conn.googleRoster && ext == some "2") = googleRoster
  have hloop : ∀ acc : State × State.Changes,
      (nodes.foldl (State.processNode googleRoster) acc).1.item h = acc.1.item h := by
    induction nodes with
    | nil => intro acc; rfl
    | cons node nodes ih =>
      intro acc
      rw [List.foldl_cons, ih fun node' hmem => hne node' (List.mem_cons_of_mem _ hmem)]
      exact processNode_item_ne googleRoster acc (hne node List.mem_cons_self)
  exact hloop _

/-! ## The events -/

/-- The event says nothing new about our subscription to the contact. -/
def Event.Spares (h : Handle) : Event → Prop
  | .push _ nodes | .rosterResult _ nodes => ∀ node ∈ nodes, node.contact ≠ some h
  | .presence contact type _ =>
    contact = h → type ≠ some .subscribed ∧ type ≠ some .unsubscribed
  | .flickerTimeout contact => contact ≠ h
  | _ => True

/-- **The rule for the subscription.**  An event that does not concern the contact
leaves its item, and the subscription in it. -/
theorem steady_operation {e : Event} (hspares : e.Spares h) (hop : operation s e = some s') :
    Steady h s s' := by
  cases e <;> simp only [operation, Option.some.injEq] at hop
  case push ext nodes =>
    subst hop
    exact .of_item (processRoster_item_ne s ext hspares)
  case rosterResult ext nodes =>
    subst hop
    unfold State.gotRosterResult
    split
    · exact .refl s
    · have hroster : Steady h s { s.processRoster ext nodes with received := true } :=
        .of_item (processRoster_item_ne s ext hspares)
      exact hroster.trans (steady_foldl _ _ fun s c _ => steady_itemApplyEdits s c)
  case presence contact type status =>
    subst hop
    exact steady_presenceCb s contact status hspares
  case iqReply id success =>
    split at hop
    · cases hop
    · cases hop
      have hdrop : Steady h s ({ s with iqs := s.iqs.filter (·.id != id) }.record
        (.answered id success)) := .of_item rfl
      exact hdrop.trans (steady_rosterEditedCb _ _ _)
  case flickerTimeout contact =>
    split at hop
    · cases hop
    · split at hop
      · cases hop
        refine .of_item ?_
        unfold State.flickerPreventionTimeout
        split
        · exact setItem_item_ne _ _ (Ne.symm hspares)
        · exact setItem_item_ne _ _ (Ne.symm hspares)
      · cases hop
  case setName contact name =>
    subst hop
    exact steady_ensure_queueEdit _ _ _ _
  case requestSubscription contacts message =>
    subst hop
    exact steady_countdown s _ fun r s => steady_foldl _ _ fun s c _ => steady_handleAdd s c r
  case authorizePublication contacts =>
    subst hop
    have hloop := sameCore_loopWhile authorizePublicationOne_sameCore contacts s
    exact hloop.steady.trans (steady_succeedOrFail _ _)
  case storeContacts contacts =>
    subst hop
    exact steady_countdown s _ fun r s => steady_foldl _ _ fun s c _ => steady_handleAdd s c r
  case removeContacts contacts =>
    subst hop
    exact steady_countdown s _ fun r s => steady_foldl _ _ fun s c _ => steady_handleRemove s c r
  case unsubscribe contacts =>
    subst hop
    have hloop := steady_loopWhile (h := h) Prod.fst steady_unsubscribeOne contacts
      (s, ⟨∅, ∅, ∅, []⟩)
    exact (hloop.trans (record_sameCore _ rfl).steady).trans (steady_succeedOrFail _ _)
  case unpublish contacts =>
    subst hop
    have hloop := steady_loopWhile (h := h) Prod.fst steady_unpublishOne contacts
      (s, ⟨∅, ∅, ∅, []⟩)
    exact (hloop.trans (record_sameCore _ rfl).steady).trans (steady_succeedOrFail _ _)
  case blockContacts contacts =>
    subst hop
    exact steady_countdown s _ fun r s =>
      steady_foldl _ _ fun s c _ => steady_handleSetBlocked s c true r
  case unblockContacts contacts =>
    subst hop
    exact steady_countdown s _ fun r s =>
      steady_foldl _ _ fun s c _ => steady_handleSetBlocked s c false r
  case setContactGroups contact groups =>
    subst hop
    exact steady_setContactGroups s contact groups
  case setGroupMembers group contacts =>
    subst hop
    refine steady_groupCountdown s group fun g r s => steady_foldl _ _ fun s c _ => ?_
    split
    · exact steady_handleAddToGroup s c g r
    · exact steady_handleRemoveFromGroup s c g r
  case addToGroup group contacts =>
    subst hop
    exact steady_groupCountdown s group fun g r s =>
      steady_foldl _ _ fun s c _ => steady_handleAddToGroup s c g r
  case removeFromGroup group contacts =>
    subst hop
    refine steady_countdown s _ fun r s => ?_
    cases group with
    | none => exact .refl s
    | some g => exact steady_foldl _ _ fun s c _ => steady_handleRemoveFromGroup s c g r
  case removeGroup group =>
    subst hop
    refine steady_countdown s _ fun r s => ?_
    cases group with
    | none => exact .refl s
    | some g => exact steady_foldl _ _ fun s c _ => steady_handleRemoveFromGroup s c g r
  case complete r =>
    split at hop
    · cases hop
      exact steady_completeResult s r
    · cases hop
  case aliasChanged contact name =>
    subst hop
    exact .of_item rfl
  case porterLost =>
    subst hop
    exact .of_item rfl
  case disconnected =>
    subst hop
    exact .of_item rfl

end Roster
