/-
# Removing a contact while a roster set is outstanding

`gabble_roster_handle_remove` queues the removal when an earlier edit of the contact is
in flight.  The removal stays queued until that edit is answered, whatever happens
meanwhile; then it is sent if the contact is on the roster and not blocked.
-/
import Mathlib.Tactic.Common
import Gabble.RosterPending

open Transition

namespace Roster

variable {keeps : Option ItemEdit → Prop} {s s' : State} {e : Event} {h : Handle} {item : Item}
  {iq : Iq}

/-! ## Roster sets stay outstanding -/

theorem itemApplyEdits_iqs (h : Handle) (hiq : iq ∈ s.iqs) : iq ∈ (s.itemApplyEdits h).iqs := by
  rcases itemApplyEdits_cases s h with
    ⟨heq, _⟩ | ⟨item, edits, s₁, _, _, _, _, hcore, hcase⟩
  · rw [heq]
    exact hiq
  · rw [← hcore.iqs] at hiq
    rcases hcase with ⟨_, _, heq⟩ | ⟨stanza, _, _, heq⟩ | ⟨_, heq⟩
    · rw [heq]
      exact hiq
    · rw [heq]
      exact List.mem_append_left _ hiq
    · rw [heq, State.unchangedEdit, (itemEditFree_sameItems _ _).iqs]
      exact hiq

theorem Move.mem_iqs (hmove : Move keeps s s') (hiq : iq ∈ s.iqs) : iq ∈ s'.iqs := by
  cases hmove with
  | frame hcore => exact hcore.iqs ▸ hiq
  | create h name hnone => exact hiq
  | adjust h item' _ _ _ _ _ => exact hiq
  | remove h hitem _ _ =>
    rw [(removeItem_kept ..).2.1]
    exact hiq
  | queue h result hchange _ =>
    cases hitem : s.item h with
    | none =>
      rw [queueEdit_of_none hitem]
      exact hiq
    | some item =>
      rw [queueEdit_eq hitem]
      refine itemApplyEdits_iqs h ?_
      rw [(collected_same s h item result _).iqs]
      exact hiq

theorem Moves.mem_iqs (hmoves : Moves keeps s s') (hiq : iq ∈ s.iqs) : iq ∈ s'.iqs :=
  hmoves.preserves (I := fun s => iq ∈ s.iqs) (fun _ _ hmove => hmove.mem_iqs) hiq

/-! ## The removal stays queued -/

/-- The roster set is outstanding, and the edit that waits for its answer removes the
contact. -/
structure RemovalQueued (iq : Iq) (s : State) : Prop where
  outstanding : iq ∈ s.iqs
  queued : ∃ item edits, s.item iq.edit.handle = some item ∧ item.editsInFlight = true ∧
    item.unsentEdits = some edits ∧ edits.newSubscription = .remove

/-- The item of the contact and the roster set are still there. -/
theorem RemovalQueued.congr (hs : RemovalQueued iq s)
    (hitem : s'.item iq.edit.handle = s.item iq.edit.handle) (hiq : iq ∈ s'.iqs) :
    RemovalQueued iq s' := by
  obtain ⟨item, edits, hit, hflight, hedits, hsub⟩ := hs.queued
  exact ⟨hiq, item, edits, hitem.trans hit, hflight, hedits, hsub⟩

theorem SameTable.removalQueued (hsame : SameTable s s') (hs : RemovalQueued iq s) :
    RemovalQueued iq s' :=
  hs.congr (hsame.item _) (hsame.iqs ▸ hs.outstanding)

theorem itemApplyEdits_of_inFlight (hflight : InFlight s h) : s.itemApplyEdits h = s := by
  obtain ⟨item, hitem, hf⟩ := hflight
  rcases itemApplyEdits_cases s h with ⟨heq, _⟩ | ⟨item', _, _, hitem', _, hidle, _⟩
  · exact heq
  · rw [hitem] at hitem'
    cases hitem'
    rw [hf] at hidle
    cases hidle

theorem RemovalQueued.inFlight (hs : RemovalQueued iq s) : InFlight s iq.edit.handle := by
  obtain ⟨item, edits, hit, hflight, _⟩ := hs.queued
  exact ⟨item, hit, hflight⟩

theorem RemovalQueued.itemApplyEdits (hs : RemovalQueued iq s) (h : Handle) :
    RemovalQueued iq (s.itemApplyEdits h) := by
  by_cases hh : iq.edit.handle = h
  · subst hh
    rw [itemApplyEdits_of_inFlight hs.inFlight]
    exact hs
  · rcases itemApplyEdits_item s h iq.edit.handle with heq | ⟨heq, _⟩
    · exact hs.congr heq (itemApplyEdits_iqs h hs.outstanding)
    · exact absurd heq hh

/-- A request about the contact does not take the removal back. -/
theorem RemovalQueued.queueEdit {result : Option ResultId} {change : ItemEdit → ItemEdit}
    (hs : RemovalQueued iq s) (hchange : EditChange change) (h : Handle) :
    RemovalQueued iq (s.queueEdit h result change) := by
  refine queueEdit_ind hs fun item hitem => ?_
  refine ((collected_same s h item result change).sameTable.removalQueued ?_).itemApplyEdits h
  by_cases hh : iq.edit.handle = h
  · obtain ⟨item', edits, hit, hflight, hedits, hsub⟩ := hs.queued
    subst hh
    rw [hitem] at hit
    cases hit
    refine ⟨hs.outstanding, _, _, setItem_item_self .., hflight, rfl, ?_⟩
    have hnew : ((item.edits iq.edit.handle).addResult result).newSubscription = .remove := by
      simp only [ItemEdit.addResult, Item.edits, hedits, Option.getD_some, hsub]
    exact (hchange.subscription _).elim (fun heq => heq.trans hnew) id
  · exact hs.congr (setItem_item_ne _ _ hh) hs.outstanding

theorem Move.removalQueued (hmove : Move keeps s s') (hs : RemovalQueued iq s) :
    RemovalQueued iq s' := by
  obtain ⟨item, edits, hit, hflight, hedits, hsub⟩ := hs.queued
  cases hmove with
  | frame hcore => exact hcore.sameTable.removalQueued hs
  | create h name hnone =>
    have hne : iq.edit.handle ≠ h := fun heq => by
      rw [heq, hnone] at hit
      cases hit
    exact hs.congr (setItem_item_ne _ _ hne) hs.outstanding
  | adjust h item' hitem hedits' hflight' _ _ =>
    by_cases hh : iq.edit.handle = h
    · subst hh
      rw [hit] at hitem
      cases hitem
      exact ⟨hs.outstanding, item', edits, setItem_item_self .., hflight'.trans hflight,
        hedits'.trans hedits, hsub⟩
    · exact hs.congr (setItem_item_ne _ _ hh) hs.outstanding
  | remove h hitem hrem _ =>
    have hne : iq.edit.handle ≠ h := fun heq => by
      rw [heq, hitem] at hit
      cases hit
      rw [((Item.removable_iff _).mp hrem).2.1] at hflight
      cases hflight
    refine hs.congr ?_ ?_
    · rw [removeItem_item, if_neg hne]
    · rw [(removeItem_kept ..).2.1]
      exact hs.outstanding
  | queue h result hchange _ => exact hs.queueEdit hchange h

theorem Moves.removalQueued (hmoves : Moves keeps s s') (hs : RemovalQueued iq s) :
    RemovalQueued iq s' := hmoves.preserves (fun _ _ hmove => hmove.removalQueued) hs

/-- The answer to another roster set, and the arrival of the roster, leave it queued. -/
theorem Turn.removalQueued (hturn : Turn keeps s e s') (hw : Wired s)
    (hother : ∀ success, e ≠ .iqReply iq.id success) (hs : RemovalQueued iq s) :
    RemovalQueued iq s' := by
  refine hturn.preserves (fun _ _ hsame => hsame.removalQueued)
    (fun _ _ hmove => hmove.removalQueued) (fun iq' item success he hiq' hitem hs => ?_)
    (fun s₁ hs₁ => ?_) hs
  · have hid : iq.id ≠ iq'.id := fun heq => hother success (heq ▸ he)
    have hne : iq.edit.handle ≠ iq'.edit.handle := fun heq =>
      hid (by rw [List.inj_on_of_nodup_map hw.handles hs.outstanding hiq' heq])
    have hdrop : iq ∈ (s.dropIq iq').iqs :=
      List.mem_filter.mpr ⟨hs.outstanding, by simpa using hid⟩
    have hland : RemovalQueued iq (s.landed iq' item success) := by
      refine (landed_same s iq' item success).sameTable.removalQueued ?_
      exact hs.congr (setItem_item_ne _ _ hne) hdrop
    have happly := hland.itemApplyEdits iq'.edit.handle
    have hbelieve : RemovalQueued iq
        (((s.landed iq' item success).itemApplyEdits iq'.edit.handle).believeEdited iq'.edit) := by
      rcases believeEdited_cases _ iq'.edit with heq | ⟨item', _, _, _, heq⟩
      · rw [heq]
        exact happly
      · rw [heq]
        exact happly.congr (setItem_item_ne _ _ hne) happly.outstanding
    rcases itemMaybeRemove_cases _ iq'.edit.handle with ⟨heq, _⟩ | ⟨item', _, _, heq⟩
    · rw [heq]
      exact hbelieve
    · rw [heq]
      refine hbelieve.congr ?_ ?_
      · rw [removeItem_item, if_neg hne]
      · rw [(removeItem_kept ..).2.1]
        exact hbelieve.outstanding
  · have hreceived : RemovalQueued iq { s₁ with received := true } :=
      hs₁.congr rfl hs₁.outstanding
    exact foldl_itemApplyEdits (fun t h ht => ht.itemApplyEdits h) _ hreceived

/-! ## The removal is requested -/

theorem removalQueued_queueEdit (result : Option ResultId) (hiq : iq ∈ s.iqs)
    (hitem : s.item iq.edit.handle = some item) (hflight : item.editsInFlight = true) :
    RemovalQueued iq (s.queueEdit iq.edit.handle result ItemEdit.remove) := by
  rw [queueEdit_eq hitem]
  refine RemovalQueued.itemApplyEdits ?_ _
  refine (collected_same s _ item result _).sameTable.removalQueued ?_
  exact ⟨hiq, _, _, setItem_item_self .., hflight, rfl, rfl⟩

/-- `gabble_roster_handle_remove` while the roster set is outstanding. -/
theorem removalQueued_handleRemove (hw : Wired s) (hiq : iq ∈ s.iqs) (r : ResultId) :
    RemovalQueued iq (s.handleRemove iq.edit.handle r) := by
  obtain ⟨item, hitem, hflight⟩ := hw.flying hiq
  unfold State.handleRemove State.handleRemoveTransient
  rw [hitem]
  dsimp only
  split
  · -- the publish and subscribe states are cleared, and the item stays
    set item' := ((item.setPublish .no none).2.setSubscribe .no).2
    have hflight' : item'.editsInFlight = true := hflight
    rcases itemMaybeRemove_cases (s.setItem iq.edit.handle item') iq.edit.handle with
      ⟨heq, _⟩ | ⟨item'', hitem'', hrem, _⟩
    · rw [heq]
      exact removalQueued_queueEdit _ hiq (setItem_item_self ..) hflight'
    · rw [setItem_item_self] at hitem''
      cases hitem''
      rw [((Item.removable_iff _).mp hrem).2.1] at hflight'
      cases hflight'
  · exact removalQueued_queueEdit _ hiq hitem hflight

theorem foldl_handleRemove_queued {r : ResultId} (contacts : List Handle) (hw : Wired s)
    (hrun : 1 ≤ owed s r) (hiq : iq ∈ s.iqs)
    (hmem : iq.edit.handle ∈ contacts ∨ RemovalQueued iq s) :
    RemovalQueued iq (contacts.foldl (fun s contact => s.handleRemove contact r) s) := by
  induction contacts generalizing s with
  | nil => exact hmem.resolve_left (by simp)
  | cons c contacts ih =>
    have hmoves : Moves (fun _ => True) s (s.handleRemove c r) :=
      moves_handleRemove c (todo_of_owed hrun) fun _ _ _ => trivial
    refine ih (hmoves.wired hw) (by rw [hmoves.owed]; exact hrun) (hmoves.mem_iqs hiq) ?_
    rcases hmem with hmem | hs
    · rcases List.mem_cons.mp hmem with heq | hmem
      · exact .inr (heq ▸ removalQueued_handleRemove hw hiq r)
      · exact .inl hmem
    · exact .inr (hmoves.removalQueued hs)

theorem removalQueued_removeContacts {contacts : List Handle} (hs : Sound s) (hiq : iq ∈ s.iqs)
    (hmem : iq.edit.handle ∈ contacts) (hstep : step s (.removeContacts contacts) = some s') :
    RemovalQueued iq s' := by
  obtain ⟨-, hop⟩ := operation_of_step hstep
  cases hop
  have hw : Wired (s.countdownNew .operation) := hs.wired.congr rfl rfl rfl rfl
  have hloop := foldl_handleRemove_queued contacts hw (hs.atRest.running .operation) hiq
    (.inl hmem)
  exact (countdownDec_sameItems _ _).sameTable.removalQueued hloop

/-! ## The removal is sent -/

theorem removes_of_newSubscription {edits : ItemEdit} (hremove : edits.newSubscription = .remove)
    (hitem : item.subscription ≠ .remove) (htype : edits.googleTypeFor item ≠ .blocked) :
    edits.alters item = true ∧ (edits.editedItem item).subscription = .remove := by
  have hchanges : edits.changesSubscription item = true := by
    simp [ItemEdit.changesSubscription, ItemEdit.cancelsSubscriptions, hremove, htype,
      Ne.symm hitem]
  have hcreates : edits.createsItem item = false := by
    simp [ItemEdit.createsItem, hremove]
  refine ⟨by simp [ItemEdit.alters, hchanges], ?_⟩
  simp [ItemEdit.editedItem, hcreates, ItemEdit.subscriptionFor, hchanges, hremove]

theorem answered_iqs (s : State) (iq : Iq) (item : Item) (success : Bool) :
    (s.answered iq item success).iqs =
      ((s.landed iq item success).itemApplyEdits iq.edit.handle).iqs := by
  unfold State.answered
  rw [(itemEditFree_sameItems _ _).iqs]
  have hbelieve : ∀ t : State, (t.believeEdited iq.edit).iqs = t.iqs := by
    intro t
    rcases believeEdited_cases t iq.edit with heq | ⟨_, _, _, _, heq⟩ <;> rw [heq]
    rfl
  rcases itemMaybeRemove_cases _ iq.edit.handle with ⟨heq, _⟩ | ⟨item', _, _, heq⟩
  · rw [heq, hbelieve]
  · rw [heq, (removeItem_kept ..).2.1, hbelieve]

/-- The answer sends the queued removal. -/
theorem removal_answered {edits : ItemEdit} (hw : Wired s) (hiq : iq ∈ s.iqs)
    (hedits : item.unsentEdits = some edits)
    (hremove : edits.newSubscription = .remove) (hsub : item.subscription ≠ .remove)
    (htype : edits.googleTypeFor item ≠ .blocked) (success : Bool) :
    ∃ iq' ∈ (s.answered iq item success).iqs, iq'.stanza = ⟨iq.edit.handle, .remove, none⟩ := by
  obtain ⟨halters, hedited⟩ := removes_of_newSubscription hremove hsub htype
  have hland := landed_item s iq item success
  have hrec : (s.landed iq item success).received = true :=
    (landed_same s iq item success).received.trans (hw.received (List.ne_nil_of_mem hiq))
  rw [answered_iqs]
  rcases itemApplyEdits_cases (s.landed iq item success) iq.edit.handle with
    ⟨_, hwait⟩ | ⟨item', edits', s₁, hitem', _, _, hedits', hcore, hcase⟩
  · have hflight := hwait hrec _ hland (by simp [hedits])
    cases hflight
  · rw [hland] at hitem'
    cases hitem'
    change item.unsentEdits = some edits' at hedits'
    rw [hedits] at hedits'
    cases hedits'
    rcases hcase with ⟨_, hmsg, _⟩ | ⟨stanza, _, hmsg, heq⟩ | ⟨hno, _⟩
    · rw [toMessage_eq_none_iff] at hmsg
      have hsame : (edits.editedItem item).subscription = .invalid := hmsg
      rw [hedited] at hsame
      cases hsame
    · refine ⟨_, by rw [heq]; exact List.mem_append_right _ List.mem_cons_self, ?_⟩
      have hmsg' : (edits.editedItem item).toMessage iq.edit.handle
          (s.landed iq item success).conn.googleRoster = some stanza := hmsg
      simp only [Item.toMessage, hedited, Option.some.injEq] at hmsg'
      exact hmsg'.symm
    · have hyes : edits.alters item = false := hno
      rw [halters] at hyes
      cases hyes

/-- **A removal is sent.**  The contact's removal is requested while a roster set about it
is outstanding.  It stays queued until the answer comes, in any run; if the contact is
then on the roster and not blocked, a roster set removes it. -/
theorem removal_sent {conn : Connection} {s₀ s₁ s₂ s₃ : State} {contacts : List Handle}
    {success : Bool} (hreach : Reachable step anyEvent (State.new conn) s₀) (hiq : iq ∈ s₀.iqs)
    (hmem : iq.edit.handle ∈ contacts) (hremove : step s₀ (.removeContacts contacts) = some s₁)
    (hrun : Reachable step (fun _ e => ∀ success, e ≠ .iqReply iq.id success) s₁ s₂)
    (hanswer : step s₂ (.iqReply iq.id success) = some s₃) :
    ∃ item edits, s₂.item iq.edit.handle = some item ∧ item.unsentEdits = some edits ∧
      edits.newSubscription = .remove ∧
      (item.subscription ≠ .remove → edits.googleTypeFor item ≠ .blocked →
        ∃ iq' ∈ s₃.iqs, iq'.stanza = ⟨iq.edit.handle, .remove, none⟩) := by
  have hs₀ := reachable_sound hreach
  have hqueued₁ := removalQueued_removeContacts hs₀ hiq hmem hremove
  obtain ⟨hs₂, hqueued₂⟩ : Sound s₂ ∧ RemovalQueued iq s₂ := by
    refine hrun.invariant (I := fun s => Sound s ∧ RemovalQueued iq s)
      ⟨hs₀.step hremove, hqueued₁⟩ ?_
    rintro s e s' ⟨hs, hqueued⟩ hother hstep
    have hturn := (step_turn hs.atRest hs.wired (keeps_true s e) trivial hstep).2
    exact ⟨hs.step hstep, hturn.removalQueued hs.wired hother hqueued⟩
  obtain ⟨item, edits, hitem, _, hedits, hsub⟩ := hqueued₂.queued
  refine ⟨item, edits, hitem, hedits, hsub, fun hpresent htype => ?_⟩
  obtain ⟨-, hop⟩ := operation_of_step hanswer
  rw [operation_iqReply hs₂.wired hqueued₂.outstanding hitem] at hop
  cases hop
  exact removal_answered hs₂.wired hqueued₂.outstanding hedits hsub hpresent htype success

/-- The roster set that creates a contact, the removal of the contact, and the push. -/
def createRemoveRun : List Event :=
  [.rosterResult none [], .storeContacts [1], .removeContacts [1],
    .push none [{ bothNode 1 with subscription := some "none" }]]

/-- The roster set that creates the contact. -/
def createIq : Iq where
  id := 0
  edit := { (ItemEdit.new 1).add with newSubscription := .none, results := [0] }
  stanza := ⟨1, .none, some (.normal, false, none, ∅)⟩

/-- The push arrives before the answer. -/
theorem removal_sent_createRemoveRun :
    ∃ s₂ s₃, run step (State.new plainServer) createRemoveRun = some s₂ ∧
      step s₂ (.iqReply 0 true) = some s₃ ∧
      ∃ iq' ∈ s₃.iqs, iq'.stanza = ⟨1, .remove, none⟩ := by
  have hreach : Reachable step anyEvent (State.new plainServer) _ :=
    reachable_of_run (createRemoveRun.take 2) (admits_anyEvent _) rfl
  have hcreate : createIq ∈
      ((run step (State.new plainServer) (createRemoveRun.take 2)).get rfl).iqs := by decide
  have hpush : Reachable step (fun _ e => ∀ success, e ≠ .iqReply createIq.id success)
      ((run step (State.new plainServer) (createRemoveRun.take 3)).get rfl) _ :=
    .step (.push none [{ bothNode 1 with subscription := some "none" }]) .init (fun _ => by simp)
      rfl
  obtain ⟨item, edits, hitem, hedits, _, hsent⟩ :=
    removal_sent hreach hcreate (List.mem_singleton.mpr rfl) rfl hpush rfl
  cases hitem
  cases hedits
  exact ⟨_, _, rfl, rfl, hsent (by decide) (by decide)⟩

/-- The contacts that roster sets have removed. -/
def removalsSent (log : List Action) : List Handle :=
  log.filterMap fun
    | .rosterSet _ stanza => if stanza.subscription = .remove then some stanza.handle else none
    | _ => none

/-- Google's server. -/
def googleServer : Connection := { plainServer with googleRoster := true }

/-- A blocked contact is not removed; and when the answer that creates a contact comes
before the push, its removal is forgotten. -/
theorem removal_not_sent :
    (∃ s, run step (State.new googleServer)
        [.rosterResult (some "2") [bothNode 1], .blockContacts [1], .removeContacts [1],
          .push (some "2") [{ bothNode 1 with googleType := some "B" }], .iqReply 0 true] = some s ∧
      s.iqs = [] ∧ (s.item 1).any (·.unsentEdits.isNone) ∧ 1 ∉ removalsSent s.log) ∧
    ∃ s, run step (State.new plainServer) (createRemoveRun.take 3 ++ [.iqReply 0 true]) = some s ∧
      s.iqs = [] ∧ (s.item 1).any (·.unsentEdits.isNone) ∧ 1 ∉ removalsSent s.log :=
  ⟨⟨_, rfl, rfl, rfl, by decide⟩, _, rfl, rfl, rfl, by decide⟩

end Roster
