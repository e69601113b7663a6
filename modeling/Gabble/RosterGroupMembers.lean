/-
# Setting the members of a group (`src/roster.c`)

`gabble_roster_set_group_members_async` goes through the items of the roster and
queues an edit for each of them.  The groups that a contact is asked to be in are
those of its item, as the outstanding edit and then the unsent one change them.

* `setMembers_iff`: the members end up as asked for exactly when each of them has an
  item already;
* `new_member_missing`: a contact without one is not put into the group, although
  `gabble_roster_add_to_group_async` would make an item for it.
-/
import Mathlib.Tactic.Common
import Gabble.RosterEdit
import Gabble.RosterRefused

open Transition

namespace Roster

variable {s s' : State} {h h' : Handle} {item : Item} {edits : ItemEdit}

/-! ## The groups asked for -/

/-- What an edit makes of the groups of a contact; it looks at nothing else. -/
def ItemEdit.groupsOf (edits : ItemEdit) (groups : Finset Group) : Finset Group :=
  edits.groupsFor { Item.new none with groups := groups }

/-- The edits of a contact that the server has not answered, the oldest first. -/
def State.openEdits (s : State) (h : Handle) (item : Item) : List ItemEdit :=
  (s.iqs.filter fun iq => iq.edit.handle = h).map (fun iq => iq.edit) ++ item.unsentEdits.toList

/-- The groups of an item, after all its edits. -/
def State.itemGroups (s : State) (h : Handle) (item : Item) : Finset Group :=
  (s.openEdits h item).foldl (fun groups edits => edits.groupsOf groups) item.groups

/-- The groups that a contact is asked to be in; none without an item. -/
def State.askedGroups (s : State) (h : Handle) : Finset Group :=
  (s.item h).elim ∅ fun item => s.itemGroups h item

/-- **The members of a group are set.**  The group has the members asked for, and no
other group of any contact is touched. -/
structure SetsMembers (s s' : State) (group : Group) (contacts : List Handle) : Prop where
  members : ∀ h, group ∈ s'.askedGroups h ↔ h ∈ contacts
  others : ∀ h other, other ≠ group → (other ∈ s'.askedGroups h ↔ other ∈ s.askedGroups h)

theorem askedGroups_of_item (hitem : s.item h = some item) :
    s.askedGroups h = s.itemGroups h item := by
  unfold State.askedGroups
  rw [hitem]
  rfl

theorem askedGroups_of_none (hnone : s.item h = none) : s.askedGroups h = ∅ := by
  unfold State.askedGroups
  rw [hnone]
  rfl

/-- Only the items and the outstanding sets matter. -/
theorem askedGroups_congr (hitem : s'.item h = s.item h) (hiqs : s'.iqs = s.iqs) :
    s'.askedGroups h = s.askedGroups h := by
  unfold State.askedGroups State.itemGroups State.openEdits
  rw [hitem, hiqs]

/-- An edit that is sent is about the same groups. -/
theorem groupsOf_sent (edits : ItemEdit) (item : Item) (groups : Finset Group) :
    (edits.sent item).groupsOf groups = edits.groupsOf groups := by
  unfold ItemEdit.sent
  split
  · rfl
  · rfl

/-- Without an outstanding set only the unsent edit is left. -/
theorem filter_iqs_of_idle (hs : Wired s) (hitem : s.item h = some item)
    (hidle : item.editsInFlight = false) : s.iqs.filter (fun iq => iq.edit.handle = h) = [] := by
  rw [List.filter_eq_nil_iff]
  intro iq hiq heq
  have hflight := hs.flying hiq
  rw [of_decide_eq_true heq, InFlight.of_item hitem, hidle] at hflight
  cases hflight

/-! ## Applying the edits -/

/-- The edit is sent: it is outstanding instead of unsent. -/
theorem askedGroups_sentEdit {stanza : Stanza} (hs : Wired s) (hitem : s.item h = some item)
    (hedits : item.unsentEdits = some edits) (h' : Handle) :
    (s.sentEdit h item edits stanza).askedGroups h' = s.askedGroups h' := by
  have hhandle : (edits.sent item).handle = h :=
    (sent_handle edits item).trans (hs.unsent h item edits hitem hedits)
  have hiqs : (s.sentEdit h item edits stanza).iqs =
      s.iqs ++ [⟨s.nextIq, edits.sent item, stanza⟩] := rfl
  by_cases hh : h' = h
  · subst hh
    have hself : (s.sentEdit h' item edits stanza).item h' =
        some { item with unsentEdits := none, editsInFlight := true } := setItem_item_self ..
    rw [askedGroups_of_item hself, askedGroups_of_item hitem]
    unfold State.itemGroups State.openEdits
    rw [hiqs, hedits, List.filter_append]
    simp [hhandle, groupsOf_sent]
  · have hother : (s.sentEdit h item edits stanza).item h' = s.item h' := setItem_item_ne _ _ hh
    unfold State.askedGroups State.itemGroups State.openEdits
    rw [hother, hiqs, List.filter_append]
    simp [hhandle, Ne.symm hh]

/-- The edit changes nothing: the groups are what they were without it. -/
theorem askedGroups_unchangedEdit (hs : Wired s) (hitem : s.item h = some item)
    (hidle : item.editsInFlight = false) (hedits : item.unsentEdits = some edits)
    (hsame : edits.alters item = false) (h' : Handle) :
    (s.unchangedEdit h item edits).askedGroups h' = s.askedGroups h' := by
  have hfree := itemEditFree_sameItems
    ((s.setItem h { item with unsentEdits := none }).record (.unchanged edits)) edits
  have hiqs : (s.unchangedEdit h item edits).iqs = s.iqs := hfree.iqs
  by_cases hh : h' = h
  · subst hh
    have hgroups : edits.groupsOf item.groups = item.groups := by
      simp only [ItemEdit.alters, Bool.or_eq_false_iff, decide_eq_false_iff_not, ne_eq,
        Decidable.not_not] at hsame
      exact hsame.2
    have hself : (s.unchangedEdit h' item edits).item h' =
        some { item with unsentEdits := none } := (hfree.item h').trans (setItem_item_self ..)
    rw [askedGroups_of_item hself, askedGroups_of_item hitem]
    unfold State.itemGroups State.openEdits
    rw [hiqs, filter_iqs_of_idle hs hitem hidle, hedits]
    exact hgroups.symm
  · have hother : (s.unchangedEdit h item edits).item h' = s.item h' :=
      (hfree.item h').trans (setItem_item_ne _ _ hh)
    exact askedGroups_congr hother hiqs

/-- Applying the edits of a contact asks for nothing new. -/
theorem askedGroups_itemApplyEdits (hs : Wired s) (h h' : Handle) :
    (s.itemApplyEdits h).askedGroups h' = s.askedGroups h' := by
  rcases itemApplyEdits_cases s h with
    ⟨heq, _⟩ | ⟨item, edits, s₁, hitem, _, hidle, hedits, hcore, hcase⟩
  · rw [heq]
  · have hs₁ : Wired s₁ := hcore.wired hs
    have hitem₁ : s₁.item h = some item := (hcore.item h).trans hitem
    rw [← askedGroups_congr (hcore.item h') hcore.iqs]
    rcases hcase with ⟨_, _, heq⟩ | ⟨stanza, _, _, heq⟩ | ⟨hsame, heq⟩
    · rw [heq]
      rfl
    · rw [heq]
      exact askedGroups_sentEdit hs₁ hitem₁ hedits h'
    · rw [heq]
      exact askedGroups_unchangedEdit hs₁ hitem₁ hidle hedits hsame h'

/-! ## Queueing an edit -/

/-- A request that does the same to the groups whatever the edit was. -/
structure GroupChange (change : ItemEdit → ItemEdit) (effect : Finset Group → Finset Group) :
    Prop extends EditChange change where
  groups : ∀ edits groups, (change edits).groupsOf groups = effect (edits.groupsOf groups)

theorem groupChange_addToGroup (group : Group) :
    GroupChange (fun edits => edits.addToGroup group) (insert group) where
  toEditChange := editChange_addToGroup group
  groups _ _ := groupsFor_addToGroup group

theorem groupChange_removeFromGroup (group : Group) :
    GroupChange (fun edits => edits.removeFromGroup group) (Finset.erase · group) where
  toEditChange := editChange_removeFromGroup group
  groups _ _ := groupsFor_removeFromGroup group

/-- The edit is collected: the groups asked for change as the request says. -/
theorem itemGroups_collected {change : ItemEdit → ItemEdit}
    {effect : Finset Group → Finset Group} (hchange : GroupChange change effect)
    (result : Option ResultId) :
    s.itemGroups h { item with
      unsentEdits := some (change ((item.edits h).addResult result)) } =
      effect (s.itemGroups h item) := by
  unfold State.itemGroups State.openEdits
  simp only [Option.toList_some, List.foldl_append, List.foldl_cons, List.foldl_nil]
  rw [hchange.groups]
  congr 1
  -- a fresh edit leaves the groups alone
  unfold Item.edits
  cases item.unsentEdits with
  | none => rfl
  | some edits => rfl

theorem askedGroups_queueEdit {change : ItemEdit → ItemEdit}
    {effect : Finset Group → Finset Group} (hs : Wired s) (hchange : GroupChange change effect)
    (hitem : s.item h = some item) (result : Option ResultId) (h' : Handle) :
    (s.queueEdit h result change).askedGroups h' =
      if h' = h then effect (s.askedGroups h') else s.askedGroups h' := by
  have hwired : Wired (s.collected h item result change) :=
    hs.collected hchange.toEditChange hitem
  have hsame := collected_same s h item result change
  rw [queueEdit_eq hitem, askedGroups_itemApplyEdits hwired]
  rw [askedGroups_congr (hsame.item h') hsame.iqs]
  by_cases hh : h' = h
  · subst hh
    rw [if_pos rfl, askedGroups_of_item (setItem_item_self ..), askedGroups_of_item hitem]
    exact itemGroups_collected hchange result
  · rw [if_neg hh]
    exact askedGroups_congr (setItem_item_ne _ _ hh) rfl

/-- An edit makes no item and removes none. -/
theorem queueEdit_isSome (result : Option ResultId) (change : ItemEdit → ItemEdit)
    (h h' : Handle) :
    ((s.queueEdit h result change).item h').isSome = (s.item h').isSome := by
  cases hitem : s.item h with
  | none => rw [queueEdit_of_none hitem]
  | some item =>
    have hcollected : ((s.collected h item result change).item h').isSome =
        (s.item h').isSome := by
      rw [(collected_same s h item result change).item h']
      by_cases hh : h' = h
      · subst hh
        rw [setItem_item_self, hitem]
        rfl
      · rw [setItem_item_ne _ _ hh]
    rw [queueEdit_eq hitem, ← hcollected]
    rcases itemApplyEdits_item (s.collected h item result change) h h' with
      heq | ⟨rfl, item', flight, hitem', heq⟩
    · rw [heq]
    · rw [heq, hitem']
      rfl

/-! ## The loop over the items -/

/-- One round of the loop of `gabble_roster_set_group_members_async`. -/
def setMember (group : Group) (contacts : List Handle) (result : ResultId) (s : State)
    (contact : Handle) : State :=
  if contact ∈ contacts then s.handleAddToGroup contact group result
  else s.handleRemoveFromGroup contact group result

/-- What a round does to the groups of its contact. -/
def memberEffect (group : Group) (contacts : List Handle) (contact : Handle)
    (groups : Finset Group) : Finset Group :=
  if contact ∈ contacts then insert group groups else groups.erase group

variable {group : Group} {contacts : List Handle} {result : ResultId}

theorem itemEnsure_of_isSome (hsome : (s.item h).isSome) : s.itemEnsure h = s := by
  obtain ⟨item, hitem⟩ := Option.isSome_iff_exists.mp hsome
  unfold State.itemEnsure
  rw [hitem]

/-- A round queues one edit, which puts the contact into the group or takes it out. -/
theorem setMember_eq (group : Group) (contacts : List Handle) (result : ResultId)
    (hsome : (s.item h).isSome) : ∃ change,
    GroupChange change (memberEffect group contacts h) ∧
      setMember group contacts result s h = s.queueEdit h (some result) change := by
  unfold setMember memberEffect
  split
  · refine ⟨_, groupChange_addToGroup group, ?_⟩
    rw [State.handleAddToGroup, itemEnsure_of_isSome hsome]
  · refine ⟨_, groupChange_removeFromGroup group, ?_⟩
    rw [State.handleRemoveFromGroup, itemEnsure_of_isSome hsome]

/-- The loop visits every contact once: it changes the groups of the contacts that it
visits, and of no others. -/
theorem askedGroups_foldl_setMember (visited : List Handle) (hs : Wired s)
    (hnodup : visited.Nodup) (hitems : ∀ h ∈ visited, (s.item h).isSome) (h : Handle) :
    (visited.foldl (setMember group contacts result) s).askedGroups h =
      if h ∈ visited then memberEffect group contacts h (s.askedGroups h)
      else s.askedGroups h := by
  induction visited generalizing s with
  | nil => rfl
  | cons contact visited ih =>
    obtain ⟨hnot, hnodup⟩ := List.nodup_cons.mp hnodup
    have hsome := hitems contact List.mem_cons_self
    obtain ⟨item, hitem⟩ := Option.isSome_iff_exists.mp hsome
    obtain ⟨change, hchange, heq⟩ := setMember_eq group contacts result hsome
    rw [List.foldl_cons, heq, ih (hs.queueEdit hchange.toEditChange) hnodup]
    · rw [askedGroups_queueEdit hs hchange hitem]
      by_cases hh : h = contact
      · subst hh
        simp [hnot]
      · simp [hh]
    · intro h' hmem
      rw [queueEdit_isSome]
      exact hitems h' (List.mem_cons_of_mem _ hmem)

/-! ## The operation -/

/-- The operation, with its counter and the new group. -/
theorem setGroupMembersAsync_eq (s : State) (group : Group) (contacts : List Handle) :
    s.setGroupMembersAsync (some group) contacts =
      (((s.countdownNew .operation).createGroups {group}).items.keys.foldl
        (setMember group contacts s.nextResult)
          ((s.countdownNew .operation).createGroups {group})).countdownDec s.nextResult := rfl

theorem mem_keys_iff (s : State) (h : Handle) : h ∈ s.items.keys ↔ (s.item h).isSome :=
  AList.lookup_isSome.symm

/-- Every contact with an item is put into the group or taken out of it. -/
theorem askedGroups_setGroupMembers (hs : Wired s) (group : Group) (contacts : List Handle)
    (h : Handle) :
    (s.setGroupMembersAsync (some group) contacts).askedGroups h =
      if (s.item h).isSome then memberEffect group contacts h (s.askedGroups h) else ∅ := by
  have hcore := createGroups_sameCore (s.countdownNew .operation) {group}
  have hnew : Wired (s.countdownNew .operation) := hs.congr rfl rfl rfl rfl
  set s₁ : State := (s.countdownNew .operation).createGroups {group} with hs₁
  have hwired : Wired s₁ := hcore.wired hnew
  have hitem : ∀ h, s₁.item h = s.item h := fun h => hcore.item h
  have hasked : s₁.askedGroups h = s.askedGroups h := askedGroups_congr (hitem h) hcore.iqs
  have hdec := countdownDec_sameItems
    (s₁.items.keys.foldl (setMember group contacts s.nextResult) s₁) s.nextResult
  rw [setGroupMembersAsync_eq, ← hs₁, askedGroups_congr (hdec.item h) hdec.iqs]
  rw [askedGroups_foldl_setMember _ hwired (AList.keys_nodup _)
    (fun h hmem => (mem_keys_iff s₁ h).mp hmem), hasked]
  by_cases hsome : (s.item h).isSome
  · rw [if_pos hsome, if_pos ((mem_keys_iff s₁ h).mpr (by rw [hitem]; exact hsome))]
  · have hnot : h ∉ s₁.items.keys := by
      rw [mem_keys_iff, hitem]
      exact hsome
    rw [if_neg hsome, if_neg hnot]
    exact askedGroups_of_none (by simpa using hsome)

/-- **Setting the members of a group.**  The group gets exactly the members asked for
when each of them has an item, a stored or a transient one. -/
theorem setMembers_iff (conn : Connection) (events : List Event) (s s' : State) (group : Group)
    (contacts : List Handle) (hrun : run step (State.new conn) events = some s)
    (hstep : step s (.setGroupMembers (some group) contacts) = some s') :
    SetsMembers s s' group contacts ↔ ∀ h ∈ contacts, (s.item h).isSome := by
  have hs : Wired s := (sound_of_run hrun).wired
  have heq : s' = s.setGroupMembersAsync (some group) contacts :=
    (Option.some.inj (operation_of_step hstep).2).symm
  have hasked : ∀ h, s'.askedGroups h =
      if (s.item h).isSome then memberEffect group contacts h (s.askedGroups h) else ∅ := by
    intro h
    rw [heq]
    exact askedGroups_setGroupMembers hs group contacts h
  constructor
  · intro hsets h hmem
    -- the contact is in the group, and only an item can say so
    have hin : group ∈ s'.askedGroups h := (hsets.members h).mpr hmem
    rw [hasked] at hin
    by_contra hnone
    rw [if_neg hnone] at hin
    exact Finset.notMem_empty _ hin
  · intro hitems
    constructor
    · intro h
      rw [hasked]
      by_cases hmem : h ∈ contacts
      · simp [hitems h hmem, memberEffect, hmem]
      · refine iff_of_false (fun hin => ?_) hmem
        split at hin
        · simp [memberEffect, hmem] at hin
        · exact Finset.notMem_empty _ hin
    · intro h other hne
      rw [hasked]
      cases hitem : s.item h with
      | none => simp [askedGroups_of_none hitem]
      | some item =>
        rw [Option.isSome_some, if_pos rfl]
        unfold memberEffect
        split
        · rw [Finset.mem_insert, or_iff_right hne]
        · rw [Finset.mem_erase, and_iff_right hne]

/-- Two contacts are on the roster, and the second one is in two groups. -/
def groupsRun : List Event :=
  [.rosterResult none [bothNode 1, { bothNode 2 with groups := [7, 8] }]]

/-- The first contact is put into a group that the second one was in. -/
theorem setMembers_iff_groupsRun :
    ∃ s s', run step (State.new plainServer) groupsRun = some s ∧
      step s (.setGroupMembers (some 7) [1]) = some s' ∧ SetsMembers s s' 7 [1] ∧
      s'.askedGroups 1 = {7} ∧ s'.askedGroups 2 = {8} := by
  refine ⟨_, _, rfl, rfl, ?_, by decide, by decide⟩
  exact (setMembers_iff plainServer groupsRun _ _ 7 [1] rfl rfl).mpr (by decide)

/-- A contact that is not on the roster is not put into the group; adding it to the
group would have put it there. -/
theorem new_member_missing :
    ∃ s s' s'', run step (State.new plainServer) [.rosterResult none [bothNode 1]] = some s ∧
      step s (.setGroupMembers (some 7) [1, 2]) = some s' ∧
      step s (.addToGroup (some 7) [1, 2]) = some s'' ∧
      ¬ SetsMembers s s' 7 [1, 2] ∧ 7 ∉ s'.askedGroups 2 ∧ 7 ∈ s''.askedGroups 2 := by
  refine ⟨_, _, _, rfl, rfl, rfl, fun hsets => ?_, by decide, by decide⟩
  have hin := (hsets.members 2).mpr (by decide)
  revert hin
  decide

end Roster
