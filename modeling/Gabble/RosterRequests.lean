/-
# Requests about a contact while a roster set is outstanding

The requests about one contact that arrive while a roster set about it is outstanding
are collected in one edit, which is sent when the answer comes.  The roster is run
through such requests here, so that what is known about the collected edit
(`RosterEdit.lean`) becomes a statement about the stanza that is sent.
-/
import Mathlib.Data.List.Forall2
import Mathlib.Tactic.Common
import Gabble.RosterEdit
import Gabble.RosterRemoval

open Transition

namespace Roster

variable {keeps : Option ItemEdit → Prop} {s s' s₀ : State} {e : Event} {h : Handle}
  {item : Item} {edits : ItemEdit} {q : Request}

/-! ## Requests are events -/

/-- The event makes the request about the contact. -/
inductive Request.Made (h : Handle) : Request → Event → Prop where
  | setName (name : Option String) : Request.Made h (.setName name) (.setName h name)
  | setGroups (groups : List (Option Group)) :
      Request.Made h (.setGroups (groups.filterMap id).toFinset) (.setContactGroups h groups)
  | addToGroup (group : Group) :
      Request.Made h (.addToGroup group) (.addToGroup (some group) [h])
  | removeFromGroup (group : Group) :
      Request.Made h (.removeFromGroup group) (.removeFromGroup (some group) [h])
  | block : Request.Made h (.setBlocked true) (.blockContacts [h])
  | unblock : Request.Made h (.setBlocked false) (.unblockContacts [h])
  | store : Request.Made h .add (.storeContacts [h])
  | subscribe (message : String) : Request.Made h .add (.requestSubscription [h] message)
  | remove : Request.Made h .remove (.removeContacts [h])

/-! ## Collecting the requests -/

/-- The edit, but for the results that wait for it. -/
def ItemEdit.content (edits : ItemEdit) : ItemEdit := { edits with results := [] }

/-- Since the state `s₀` only requests about the contact have been made, and they have
been collected in an edit. -/
structure Collecting (s₀ : State) (h : Handle) (item : Item) (edits : ItemEdit) (s : State) :
    Prop where
  googleRoster : s.conn.googleRoster = s₀.conn.googleRoster
  iqs : s.iqs = s₀.iqs
  closed : s.closed = false
  fault : s.fault = none
  item : ∃ item', s.item h = some item' ∧ item'.editsInFlight = true ∧
    (item'.edits h).content = edits ∧ item'.subscription = item.subscription ∧
    item'.slots = item.slots

section

variable (hc : Collecting s₀ h item edits s)

include hc

theorem Collecting.sameCore (hcore : SameCore s s') :
    Collecting s₀ h item edits s' where
  googleRoster := hcore.googleRoster.trans hc.googleRoster
  iqs := hcore.iqs.trans hc.iqs
  closed := hcore.closed.trans hc.closed
  fault := hcore.fault.trans hc.fault
  item := by
    rw [hcore.item]
    exact hc.item

theorem Collecting.sameItems (hsame : SameItems s s') :
    Collecting s₀ h item edits s' where
  googleRoster := by
    rw [hsame.conn]
    exact hc.googleRoster
  iqs := hsame.iqs.trans hc.iqs
  closed := hsame.closed.trans hc.closed
  fault := hsame.fault.trans hc.fault
  item := by
    rw [hsame.item]
    exact hc.item

/-- The edit of a contact with a roster set outstanding is only collected. -/
theorem Collecting.queueEdit (result : Option ResultId)
    (change : ItemEdit → ItemEdit) (hchange : ∀ e, (change e).content = change e.content) :
    Collecting s₀ h item (change edits) (s.queueEdit h result change) := by
  obtain ⟨item', hitem, hflight, hedits, hsub, hslots⟩ := hc.item
  have hsame := collected_same s h item' result change
  have hnew : (s.collected h item' result change).item h = some { item' with
      unsentEdits := some (change ((item'.edits h).addResult result)) } := by
    rw [hsame.item]
    exact setItem_item_self ..
  have hkept : InFlight (s.collected h item' result change) h := ⟨_, hnew, hflight⟩
  rw [queueEdit_eq hitem, itemApplyEdits_of_inFlight hkept]
  refine ⟨?_, hsame.iqs.trans hc.iqs, hsame.closed.trans hc.closed, hsame.fault.trans hc.fault,
    _, hnew, hflight, ?_, hsub, hslots⟩
  · rw [hsame.conn]
    exact hc.googleRoster
  · have hcontent : ((item'.edits h).addResult result).content = (item'.edits h).content := rfl
    change (change ((item'.edits h).addResult result)).content = _
    rw [hchange, hcontent, hedits]

/-- A contact with a roster set outstanding has an item. -/
theorem Collecting.itemEnsure : s.itemEnsure h = s := by
  obtain ⟨item', hitem, _⟩ := hc.item
  unfold State.itemEnsure
  rw [hitem]

theorem Collecting.countdownNew (callback : Callback) :
    Collecting s₀ h item edits (s.countdownNew callback) :=
  ⟨hc.googleRoster, hc.iqs, hc.closed, hc.fault, hc.item⟩

theorem Collecting.handleAdd (r : ResultId) :
    Collecting s₀ h item (Request.add.queue s₀.conn.googleRoster item edits) (s.handleAdd h r) := by
  obtain ⟨item', hitem, hflight, hedits, hsub, hslots⟩ := hc.item
  have htype : item'.googleType = item.googleType := congrArg (·.2.2) hslots
  unfold State.handleAdd
  simp only [hc.itemEnsure, hitem, Option.isSome_some, Bool.not_true, Bool.false_or, htype, hsub,
    Request.queue, Bool.or_eq_true, decide_eq_true_eq]
  split
  · exact hc.queueEdit _ ItemEdit.add fun _ => rfl
  · exact hc

theorem Collecting.handleRemove (r : ResultId) :
    Collecting s₀ h item edits.remove (s.handleRemove h r) := by
  obtain ⟨item', hitem, hflight, hedits, hsub, hslots⟩ := hc.item
  unfold State.handleRemove State.handleRemoveTransient
  rw [hitem]
  dsimp only
  split
  · set item'' := ((item'.setPublish .no none).2.setSubscribe .no).2
    have hflight'' : item''.editsInFlight = true := hflight
    have hset : Collecting s₀ h item edits (s.setItem h item'') :=
      ⟨hc.googleRoster, hc.iqs, hc.closed, hc.fault, item'', setItem_item_self .., hflight,
        hedits, hsub, hslots⟩
    rcases itemMaybeRemove_cases (s.setItem h item'') h with ⟨heq, _⟩ | ⟨item₁, hitem₁, hrem, _⟩
    · rw [heq]
      exact hset.queueEdit _ ItemEdit.remove fun _ => rfl
    · rw [setItem_item_self] at hitem₁
      cases hitem₁
      rw [((Item.removable_iff _).mp hrem).2.1] at hflight''
      cases hflight''
  · exact hc.queueEdit _ ItemEdit.remove fun _ => rfl

theorem Collecting.handleSetBlocked (blocked : Bool) (r : ResultId) :
    Collecting s₀ h item ((Request.setBlocked blocked).queue s₀.conn.googleRoster item edits)
      (s.handleSetBlocked h blocked r) := by
  unfold State.handleSetBlocked
  rw [hc.itemEnsure, hc.googleRoster]
  simp only [Request.queue]
  split
  · exact hc.queueEdit _ (fun edits => edits.setBlocked blocked) fun _ => rfl
  · exact hc

/-- A request is collected. -/
theorem Collecting.step (hmade : q.Made h e) :
    ∃ s', step s e = some s' ∧
      Collecting s₀ h item (q.queue s₀.conn.googleRoster item edits) s' := by
  have hcan : e.contacts.Nodup → Roster.step s e = operation s e := by
    intro hnodup
    unfold Roster.step
    rw [if_neg]
    simp [hc.fault, hc.closed, hnodup]
  cases hmade with
  | setName name =>
    refine ⟨_, hcan List.nodup_nil, ?_⟩
    unfold State.handleSetName
    rw [hc.itemEnsure]
    exact hc.queueEdit _ (fun edits => edits.setName name) fun _ => rfl
  | setGroups groups =>
    refine ⟨_, hcan List.nodup_nil, ?_⟩
    unfold State.setContactGroupsAsync
    rw [hc.itemEnsure]
    refine Collecting.sameItems ?_ (countdownDec_sameItems _ _)
    exact ((hc.countdownNew _).sameCore (createGroups_sameCore _ _)).queueEdit _
      (fun edits => edits.setGroups (groups.filterMap id).toFinset) fun _ => rfl
  | addToGroup group =>
    refine ⟨_, hcan (List.nodup_singleton h), ?_⟩
    refine Collecting.sameItems ?_ (countdownDec_sameItems _ _)
    have hgroups := (hc.countdownNew .operation).sameCore (createGroups_sameCore _ {group})
    simp only [List.foldl_cons, List.foldl_nil, State.handleAddToGroup]
    rw [hgroups.itemEnsure]
    exact hgroups.queueEdit _ (fun edits => edits.addToGroup group) fun _ => rfl
  | removeFromGroup group =>
    refine ⟨_, hcan (List.nodup_singleton h), ?_⟩
    refine Collecting.sameItems ?_ (countdownDec_sameItems _ _)
    have hnew := hc.countdownNew .operation
    simp only [List.foldl_cons, List.foldl_nil, State.handleRemoveFromGroup]
    rw [hnew.itemEnsure]
    exact hnew.queueEdit _ (fun edits => edits.removeFromGroup group) fun _ => rfl
  | block =>
    refine ⟨_, hcan (List.nodup_singleton h), ?_⟩
    exact ((hc.countdownNew _).handleSetBlocked true _).sameItems (countdownDec_sameItems _ _)
  | unblock =>
    refine ⟨_, hcan (List.nodup_singleton h), ?_⟩
    exact ((hc.countdownNew _).handleSetBlocked false _).sameItems (countdownDec_sameItems _ _)
  | store =>
    refine ⟨_, hcan (List.nodup_singleton h), ?_⟩
    exact ((hc.countdownNew _).handleAdd _).sameItems (countdownDec_sameItems _ _)
  | subscribe message =>
    refine ⟨_, hcan (List.nodup_singleton h), ?_⟩
    exact ((hc.countdownNew _).handleAdd _).sameItems (countdownDec_sameItems _ _)
  | remove =>
    refine ⟨_, hcan (List.nodup_singleton h), ?_⟩
    exact ((hc.countdownNew _).handleRemove _).sameItems (countdownDec_sameItems _ _)

end

theorem Collecting.run {qs : List Request} {es : List Event}
    (hmade : List.Forall₂ (Request.Made h) qs es) (hc : Collecting s₀ h item edits s) :
    ∃ s', run Roster.step s es = some s' ∧
      Collecting s₀ h item (queueAll s₀.conn.googleRoster item edits qs) s' := by
  induction hmade generalizing edits s with
  | nil => exact ⟨s, rfl, hc⟩
  | cons hq _ ih =>
    obtain ⟨s₁, hs₁, hc₁⟩ := hc.step hq
    obtain ⟨s', hs', hc'⟩ := ih hc₁
    refine ⟨s', ?_, hc'⟩
    rw [Transition.run, hs₁]
    exact hs'

/-! ## Google types -/

/-- Without Google's roster every item has the normal type. -/
def PlainTypes (s : State) : Prop :=
  s.conn.googleRoster = false → ∀ h item, s.item h = some item → item.googleType = .normal

theorem SameTable.plainTypes (hsame : SameTable s s') (hs : PlainTypes s) : PlainTypes s' := by
  intro hg h item hitem
  rw [hsame.googleRoster] at hg
  rw [hsame.item] at hitem
  exact hs hg h item hitem

theorem PlainTypes.setItem (hs : PlainTypes s) (h : Handle)
    (hitem : s.conn.googleRoster = false → item.googleType = .normal) :
    PlainTypes (s.setItem h item) := by
  intro hg h' item' hitem'
  by_cases hh : h' = h
  · subst hh
    rw [setItem_item_self] at hitem'
    cases hitem'
    exact hitem hg
  · rw [setItem_item_ne _ _ hh] at hitem'
    exact hs hg h' item' hitem'

theorem itemApplyEdits_googleRoster (s : State) (h : Handle) :
    (s.itemApplyEdits h).conn.googleRoster = s.conn.googleRoster := by
  rcases itemApplyEdits_cases s h with
    ⟨heq, _⟩ | ⟨item, edits, s₁, _, _, _, _, hcore, hcase⟩
  · rw [heq]
  · rcases hcase with ⟨_, _, heq⟩ | ⟨stanza, _, _, heq⟩ | ⟨_, heq⟩
    · rw [heq]
      exact hcore.googleRoster
    · rw [heq]
      exact hcore.googleRoster
    · rw [heq, State.unchangedEdit, (itemEditFree_sameItems _ _).conn]
      exact hcore.googleRoster

theorem PlainTypes.itemApplyEdits (hs : PlainTypes s) (h : Handle) :
    PlainTypes (s.itemApplyEdits h) := by
  intro hg h' item' hitem'
  rw [itemApplyEdits_googleRoster] at hg
  rcases itemApplyEdits_item s h h' with heq | ⟨rfl, item, flight, hitem, heq⟩
  · exact hs hg h' item' (heq.symm.trans hitem')
  · rw [heq] at hitem'
    cases hitem'
    exact hs hg h' item hitem

theorem PlainTypes.removeItem (hs : PlainTypes s) (h : Handle) (item : Item) :
    PlainTypes (s.removeItem h item) := by
  have hconn : (s.removeItem h item).conn = s.conn := by
    unfold State.removeItem
    split
    · rfl
    · rw [(itemEditFree_sameItems _ _).conn]
      rfl
  intro hg h' item' hitem'
  rw [hconn] at hg
  rw [removeItem_item] at hitem'
  split at hitem'
  · cases hitem'
  · exact hs hg h' item' hitem'

theorem Move.plainTypes (hmove : Move keeps s s') (hs : PlainTypes s) : PlainTypes s' := by
  cases hmove with
  | frame hcore => exact hcore.sameTable.plainTypes hs
  | create h name hnone => exact hs.setItem h fun _ => rfl
  | adjust h item' hitem _ _ _ hgoogle =>
    refine hs.setItem h fun hg => ?_
    rcases hgoogle with hsame | htrue
    · exact hsame.trans (hs hg h _ hitem)
    · rw [hg] at htrue
      cases htrue
  | remove h hitem _ _ => exact hs.removeItem h _
  | queue h result hchange _ =>
    refine queueEdit_ind hs fun item hitem => ?_
    refine PlainTypes.itemApplyEdits ?_ h
    refine (collected_same s h item _ _).sameTable.plainTypes (hs.setItem h fun hg => ?_)
    exact hs hg h item hitem

theorem Turn.plainTypes (hturn : Turn keeps s e s') (hs : PlainTypes s) : PlainTypes s' := by
  refine hturn.preserves (fun _ _ hsame => hsame.plainTypes) (fun _ _ hmove => hmove.plainTypes)
    (fun iq item success _ _ hitem hs => ?_) (fun s₁ hs₁ => ?_) hs
  · have hdrop : PlainTypes (s.dropIq iq) := hs
    have hland : PlainTypes (s.landed iq item success) :=
      (landed_same s iq item success).sameTable.plainTypes
        (hdrop.setItem _ fun hg => hs hg _ item hitem)
    have happly := hland.itemApplyEdits iq.edit.handle
    have hbelieve : PlainTypes
        (((s.landed iq item success).itemApplyEdits iq.edit.handle).believeEdited iq.edit) := by
      rcases believeEdited_cases _ iq.edit with heq | ⟨item', hitem', _, _, heq⟩
      · rw [heq]
        exact happly
      · rw [heq]
        exact happly.setItem _ fun hg => happly hg _ item' hitem'
    rcases itemMaybeRemove_cases _ iq.edit.handle with ⟨heq, _⟩ | ⟨item', _, _, heq⟩
    · rw [heq]
      exact hbelieve
    · rw [heq]
      exact hbelieve.removeItem _ item'
  · have hreceived : PlainTypes { s₁ with received := true } := hs₁
    exact foldl_itemApplyEdits (fun t h ht => ht.itemApplyEdits h) _ hreceived

theorem reachable_plainTypes {conn : Connection}
    (hreach : Reachable step anyEvent (State.new conn) s) : PlainTypes s := by
  have hinv : Sound s ∧ PlainTypes s := by
    refine hreach.invariant (I := fun s => Sound s ∧ PlainTypes s)
      ⟨sound_new conn, fun _ h item hitem => ?_⟩ ?_
    · cases hitem
    · rintro s e s' ⟨hsound, hs⟩ _ hstep
      obtain ⟨_, hturn⟩ := step_turn hsound.atRest hsound.wired (keeps_true s e) trivial hstep
      exact ⟨hsound.step hstep, hturn.plainTypes hs⟩
  exact hinv.2

/-- Without Google's roster nobody is blocked. -/
theorem queueAll_not_blocked (item : Item) (qs : List Request)
    (hedits : edits.newGoogleType ≠ some .blocked) :
    (queueAll false item edits qs).newGoogleType ≠ some .blocked := by
  induction qs generalizing edits with
  | nil => exact hedits
  | cons q qs ih =>
    refine ih ?_
    cases q with
    | add =>
      simp only [Request.queue]
      split
      · simp [ItemEdit.add]
      · exact hedits
    | setName _ | setGroups _ | addToGroup _ | removeFromGroup _ | setBlocked _ | remove =>
      exact hedits

theorem queueAll_queued (googleRoster : Bool) (item : Item) (qs : List Request)
    (hedits : edits.Queued) : (queueAll googleRoster item edits qs).Queued := by
  induction qs generalizing edits with
  | nil => exact hedits
  | cons q qs ih => exact ih (q.queue_queued googleRoster item hedits)

/-! ## What the stanza asks for -/

/-- What a roster set makes of the contact. -/
def Stanza.visible (stanza : Stanza) : Option (Option String × Finset Group × GoogleItemType) :=
  stanza.body.map fun body => (body.2.2.1, body.2.2.2, body.1)

/-- What the server has been asked for: the outstanding roster set, or the item as it
was. -/
def State.asked (s : State) (h : Handle) (item : Item) :
    Option (Option String × Finset Group × GoogleItemType) :=
  match s.iqs.find? (·.stanza.handle == h) with
  | some iq => iq.stanza.visible
  | none => item.entry.visible

theorem visible_toMessage {googleRoster : Bool} {stanza : Stanza}
    (hmsg : item.toMessage h googleRoster = some stanza)
    (htype : googleRoster = false → item.googleType = .normal) :
    stanza.visible = item.entry.visible := by
  have htype' : (if googleRoster then item.googleType else .normal) = item.googleType := by
    cases googleRoster with
    | true => rfl
    | false => exact (htype rfl).symm
  unfold Item.toMessage at hmsg
  rw [htype'] at hmsg
  unfold Entry.visible Item.entry
  cases hsub : item.subscription <;> rw [hsub] at hmsg <;> cases hmsg <;> rfl

/-- An edit that alters nothing asks for the item as it is. -/
theorem asks_of_unaltered (hno : edits.alters item = false) :
    (edits.asks item).visible = item.entry.visible := by
  have hcreates : edits.createsItem item = false := by
    simp [ItemEdit.createsItem, hno]
  simp only [ItemEdit.alters, Bool.or_eq_false_iff, decide_eq_false_iff_not, ne_eq,
    Decidable.not_not] at hno
  obtain ⟨⟨⟨⟨⟨_, htype⟩, hchanges⟩, _⟩, hname⟩, hgroups⟩ := hno
  unfold ItemEdit.asks ItemEdit.editedItem
  simp [hcreates, ItemEdit.subscriptionFor, hchanges, htype, hname, hgroups, Item.entry]

/-- What an edit asks for depends on the slots and the subscription of the item only. -/
theorem asks_congr {item' : Item} (hsub : item'.subscription = item.subscription)
    (hslots : item'.slots = item.slots) :
    (edits.asks item').visible = (edits.content.asks item).visible := by
  simp only [Item.slots, Prod.mk.injEq] at hslots
  obtain ⟨hname, hgroups, htype⟩ := hslots
  cases item
  cases item'
  dsimp only at hsub hname hgroups htype
  subst hsub hname hgroups htype
  rfl

theorem entry_congr {item' : Item} (hsub : item'.subscription = item.subscription)
    (hslots : item'.slots = item.slots) : item'.entry = item.entry := by
  simp only [Item.slots, Prod.mk.injEq] at hslots
  simp only [Item.entry, hsub, hslots.1, hslots.2.1, hslots.2.2]

/-- The answered roster set was the only one about its contact. -/
theorem find_dropIq {iq : Iq} (hw : Wired s) (hiq : iq ∈ s.iqs) :
    (s.dropIq iq).iqs.find? (·.stanza.handle == iq.edit.handle) = none := by
  refine List.find?_eq_none.mpr fun iq' hiq' heq => ?_
  obtain ⟨hmem, hid⟩ := List.mem_filter.mp hiq'
  have hhandle : iq'.edit.handle = iq.edit.handle := by
    rw [← hw.stanza iq' hmem]
    simpa using heq
  rw [List.inj_on_of_nodup_map hw.handles hmem hiq hhandle] at hid
  simp at hid

/-- The stanza that is sent with the answer asks for what the collected edit asks for. -/
theorem asked_answered {iq : Iq} {item' : Item} {success : Bool} (hw : Wired s)
    (hiq : iq ∈ s.iqs) (hsub : item'.subscription = item.subscription)
    (hslots : item'.slots = item.slots) (hvalid : item.subscription ≠ .invalid)
    (htype : s.conn.googleRoster = false →
      (item'.edits iq.edit.handle).googleTypeFor item' = .normal) :
    (s.answered iq item' success).asked iq.edit.handle item =
      ((item'.edits iq.edit.handle).content.asks item).visible := by
  have hcore := landed_same s iq item' success
  have hland := landed_item s iq item' success
  have hrec : (s.landed iq item' success).received = true :=
    hcore.received.trans (hw.received (List.ne_nil_of_mem hiq))
  have hnone : (s.landed iq item' success).iqs.find? (·.stanza.handle == iq.edit.handle) =
      none := by
    rw [hcore.iqs]
    exact find_dropIq hw hiq
  rw [← asks_congr hsub hslots]
  unfold State.asked
  rw [answered_iqs]
  rcases itemApplyEdits_cases (s.landed iq item' success) iq.edit.handle with
    ⟨heq, hwait⟩ | ⟨item'', edits, s₁, hitem'', _, _, hedits, hcore₁, hcase⟩
  · -- nothing was collected
    have hno : item'.unsentEdits = none := by
      by_contra hne
      cases hwait hrec _ hland hne
    have hnew : item'.edits iq.edit.handle = ItemEdit.new iq.edit.handle := by
      simp only [Item.edits, hno, Option.getD_none]
    rw [heq, hnone, hnew, (agrees_new item' iq.edit.handle).visible, entry_congr hsub hslots]
  · rw [hland] at hitem''
    cases hitem''
    have hedits' : item'.edits iq.edit.handle = edits := by
      have hsame : item'.unsentEdits = some edits := hedits
      simp only [Item.edits, hsame, Option.getD_some]
    rw [hedits'] at htype ⊢
    rcases hcase with ⟨_, hmsg, _⟩ | ⟨stanza, _, hmsg, heq⟩ | ⟨hno, heq⟩
    · have hinvalid : item'.subscription = .invalid :=
        subscription_of_editedItem ((toMessage_eq_none_iff ..).mp hmsg)
      exact absurd (hsub.symm.trans hinvalid) hvalid
    · have hfind : (s₁.sentEdit iq.edit.handle { item' with editsInFlight := false } edits
          stanza).iqs.find? (·.stanza.handle == iq.edit.handle) =
            some ⟨s₁.nextIq, edits.sent item', stanza⟩ := by
        have hiqs : (s₁.sentEdit iq.edit.handle { item' with editsInFlight := false } edits
          stanza).iqs = s₁.iqs ++ [⟨s₁.nextIq, edits.sent item', stanza⟩] := rfl
        rw [hiqs, List.find?_append, hcore₁.iqs, hnone]
        simp [toMessage_handle hmsg]
      rw [heq, hfind]
      exact visible_toMessage hmsg fun hg => htype (hcore.googleRoster ▸ hg)
    · have hiqs : (s₁.unchangedEdit iq.edit.handle { item' with editsInFlight := false }
          edits).iqs = s₁.iqs := by
        rw [State.unchangedEdit, (itemEditFree_sameItems _ _).iqs]
        rfl
      have hsame : edits.alters item' = false := hno
      rw [heq, hiqs, hcore₁.iqs, hnone, asks_of_unaltered hsame, entry_congr hsub hslots]

/-! ## All requests -/

/-- The requests have been collected, and the answer comes. -/
theorem asked_collected {conn : Connection} {iq : Iq} {item : Item} {qs : List Request}
    {es : List Event} (hreach : Reachable step anyEvent (State.new conn) s)
    (hfault : s.fault = none) (hopen : s.closed = false) (hiq : iq ∈ s.iqs)
    (hitem : s.item iq.edit.handle = some item) (hunsent : item.unsentEdits = none)
    (hvalid : item.subscription ≠ .invalid)
    (hmade : List.Forall₂ (Request.Made iq.edit.handle) qs es) (success : Bool) :
    ∃ s', run step s (es ++ [.iqReply iq.id success]) = some s' ∧
      s'.asked iq.edit.handle item =
        ((queueAll s.conn.googleRoster item (ItemEdit.new iq.edit.handle) qs).asks item).visible := by
  have hflight : item.editsInFlight = true :=
    (InFlight.of_item hitem).mp ((reachable_sound hreach).wired.flying hiq)
  have hc : Collecting s iq.edit.handle item (ItemEdit.new iq.edit.handle) s := by
    refine ⟨rfl, rfl, hopen, hfault, item, hitem, hflight, ?_, rfl, rfl⟩
    simp only [Item.edits, hunsent, Option.getD_none]
    rfl
  obtain ⟨s₁, hrun, hc₁⟩ := hc.run hmade
  have hreach₁ := hreach.trans (reachable_of_run es (admits_anyEvent es) hrun)
  obtain ⟨item', hitem', _, hedits, hsub, hslots⟩ := hc₁.item
  have hiq₁ : iq ∈ s₁.iqs := by
    rw [hc₁.iqs]
    exact hiq
  have hw := (reachable_sound hreach₁).wired
  have hstep : step s₁ (.iqReply iq.id success) = some (s₁.answered iq item' success) := by
    unfold step
    rw [if_neg, operation_iqReply hw hiq₁ hitem']
    simp [hc₁.fault, hc₁.closed, Event.contacts]
  refine ⟨s₁.answered iq item' success, ?_, ?_⟩
  · rw [run_append, hrun]
    simp [run, hstep]
  · rw [asked_answered hw hiq₁ hsub hslots hvalid fun hg => ?_, hedits]
    -- nobody is blocked without Google's roster
    have hplain := reachable_plainTypes hreach₁ hg _ item' hitem'
    have hg₀ : s.conn.googleRoster = false := hc₁.googleRoster.symm.trans hg
    rw [hg₀] at hedits
    have hnew : (item'.edits iq.edit.handle).newGoogleType = (queueAll false item
        (ItemEdit.new iq.edit.handle) qs).newGoogleType := by
      rw [← hedits]
      rfl
    have hq := (queueAll_queued false item qs (queued_new iq.edit.handle)).googleType
    have hblocked : (queueAll false item (ItemEdit.new iq.edit.handle) qs).newGoogleType ≠
        some .blocked := queueAll_not_blocked item qs (by simp [ItemEdit.new])
    rw [← hnew] at hq hblocked
    unfold ItemEdit.googleTypeFor
    rcases hq with hq | hq | hq
    · rw [hq]
      exact hplain
    · rw [hq]
      rfl
    · exact absurd hq hblocked

/-- **Collected requests.**  Requests about a contact are made while a roster set about it
is outstanding.  Whenever the answer comes, the stanza that is sent then asks for what
the requests lead to when they are made one after the other, exactly when every request
fits. -/
theorem requests_coalesced {conn : Connection} {iq : Iq} {item : Item} {qs : List Request}
    {es : List Event} (hreach : Reachable step anyEvent (State.new conn) s)
    (hfault : s.fault = none) (hopen : s.closed = false) (hiq : iq ∈ s.iqs)
    (hitem : s.item iq.edit.handle = some item) (hunsent : item.unsentEdits = none)
    (hvalid : item.subscription ≠ .invalid)
    (hmade : List.Forall₂ (Request.Made iq.edit.handle) qs es) (success : Bool) :
    (∀ k, ∃ s', run step s (es.take k ++ [.iqReply iq.id success]) = some s' ∧
      s'.asked iq.edit.handle item =
        (performAll s.conn.googleRoster item.entry (qs.take k)).visible) ↔
      FitAll s.conn.googleRoster item (ItemEdit.new iq.edit.handle) item.entry qs := by
  rw [← (agrees_new item iq.edit.handle).forall_prefix_iff qs]
  have hasked := fun k => asked_collected hreach hfault hopen hiq hitem hunsent hvalid
    (List.forall₂_take k hmade) success
  constructor
  · intro hall k
    obtain ⟨s', hrun, hvisible⟩ := hall k
    obtain ⟨s'', hrun', hasks⟩ := hasked k
    rw [hrun] at hrun'
    cases hrun'
    exact hasks.symm.trans hvisible
  · intro hall k
    obtain ⟨s', hrun, hasks⟩ := hasked k
    exact ⟨s', hrun, hasks.trans (hall k)⟩

/-- A contact is renamed. -/
def renameRun : List Event := [.rosterResult none [bothNode 1], .setName 1 (some "a")]

/-- The roster set that renames the contact. -/
def renameIq : Iq where
  id := 0
  edit := { ItemEdit.new 1 with newName := some "a" }
  stanza := ⟨1, .both, some (.normal, false, some "a", ∅)⟩

/-- The contact, meanwhile. -/
def renamedItem : Item :=
  { Item.new none with
    subscription := .both, editsInFlight := true, subscribe := .yes, publish := .yes
    stored := true }

/-- Another name, a group, and then a removal. -/
theorem requests_coalesced_renameRun :
    ∃ s s', run step (State.new plainServer) renameRun = some s ∧
      run step s [.setName 1 (some "b"), .addToGroup (some 7) [1], .removeContacts [1],
        .iqReply 0 true] = some s' ∧
      s'.asked 1 renamedItem = (performAll false renamedItem.entry
        [.setName (some "b"), .addToGroup 7, .remove]).visible := by
  have hreach : Reachable step anyEvent (State.new plainServer) _ :=
    reachable_of_run renameRun (admits_anyEvent _) rfl
  have hiq : renameIq ∈ ((run step (State.new plainServer) renameRun).get rfl).iqs := by decide
  have hmade : List.Forall₂ (Request.Made 1) [.setName (some "b"), .addToGroup 7, .remove]
      [.setName 1 (some "b"), .addToGroup (some 7) [1], .removeContacts [1]] :=
    .cons (.setName _) (.cons (.addToGroup 7) (.cons .remove .nil))
  have hfit : FitAll false renamedItem (ItemEdit.new 1) renamedItem.entry
      [.setName (some "b"), .addToGroup 7, .remove] := by
    refine ⟨?_, ?_, ?_, trivial⟩ <;> simp [Request.Fits, ItemEdit.new, Request.queue,
      ItemEdit.setName, ItemEdit.addToGroup, renamedItem]
  have hall := (requests_coalesced hreach rfl rfl hiq rfl rfl (by decide) hmade true).mpr hfit
  obtain ⟨s', hrun, hasked⟩ := hall 3
  exact ⟨_, s', rfl, hrun, hasked⟩

/-- A contact that is removed and then added to a group is not added again. -/
theorem removal_not_taken_back :
    ∃ s s', run step (State.new plainServer) renameRun = some s ∧
      s.item 1 = some renamedItem ∧
      run step s [.removeContacts [1], .addToGroup (some 7) [1], .iqReply 0 true] = some s' ∧
      s'.asked 1 renamedItem = none ∧
      (performAll false renamedItem.entry [.remove, .addToGroup 7]).visible =
        some (none, {7}, .normal) := by
  refine ⟨_, _, rfl, rfl, rfl, rfl, ?_⟩
  decide

end Roster
