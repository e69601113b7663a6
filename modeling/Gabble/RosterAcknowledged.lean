/-
# Acknowledged edits and the edits after them

While an edit is on its way the next ones are queued, and they are sent when the
server has acknowledged it.  What is sent then is the whole item, as the roster
believes it to be.  That is what the server acknowledged only if the push came before
the acknowledgement.
-/
import Gabble.RosterRemoval
import Gabble.RosterValidity

namespace Roster

open Transition

variable {s s' : State} {iq : Iq} {item : Item} {edits : ItemEdit} {stanza : Stanza}

/-! ## What an edit leaves alone -/

/-- The name in a roster set; none in one that removes the item. -/
def Stanza.name (stanza : Stanza) : Option String := stanza.body.bind fun body => body.2.2.1

/-- The groups in a roster set. -/
def Stanza.groups (stanza : Stanza) : Finset Group :=
  stanza.body.elim ∅ fun body => body.2.2.2

/-- The edit is about the name. -/
def ItemEdit.changesName (edits : ItemEdit) : Bool := edits.removeName || edits.newName.isSome

/-- The edit is about whether the contact is in a group. -/
def ItemEdit.changesGroup (edits : ItemEdit) (group : Group) : Bool :=
  edits.removeFromAllOtherGroups || group ∈ edits.addToGroups.getD ∅ ||
    group ∈ edits.removeFromGroups.getD ∅

/-- A name and groups agree with those acknowledged, but for what the edit is about. -/
def ItemEdit.Spares (edits : ItemEdit) (acknowledged : Stanza) (name : Option String)
    (groups : Finset Group) : Prop :=
  (edits.changesName = false → name = acknowledged.name) ∧
    ∀ group ∈ groups ∪ acknowledged.groups, edits.changesGroup group = false →
      (group ∈ groups ↔ group ∈ acknowledged.groups)

instance (edits : ItemEdit) (acknowledged : Stanza) (name : Option String)
    (groups : Finset Group) : Decidable (edits.Spares acknowledged name groups) :=
  inferInstanceAs (Decidable (_ ∧ _))

theorem spares_iff {acknowledged : Stanza} {name : Option String} {groups : Finset Group} :
    edits.Spares acknowledged name groups ↔
      (edits.changesName = false → name = acknowledged.name) ∧
        ∀ group, edits.changesGroup group = false →
          (group ∈ groups ↔ group ∈ acknowledged.groups) := by
  refine and_congr_right fun _ => ⟨fun h group hgroup => ?_, fun h group _ => h group⟩
  by_cases hmem : group ∈ groups ∪ acknowledged.groups
  · exact h group hmem hgroup
  · rw [Finset.mem_union, not_or] at hmem
    exact iff_of_false hmem.1 hmem.2

theorem nameFor_of_not_changesName (h : edits.changesName = false) :
    edits.nameFor item = item.name := by
  rw [ItemEdit.changesName, Bool.or_eq_false_iff, Option.isSome_eq_false_iff,
    Option.isNone_iff_eq_none] at h
  rw [ItemEdit.nameFor, h.1, h.2]
  rfl

theorem mem_groupsFor_of_not_changesGroup {group : Group} (h : edits.changesGroup group = false) :
    group ∈ edits.groupsFor item ↔ group ∈ item.groups := by
  simp only [ItemEdit.changesGroup, Bool.or_eq_false_iff, decide_eq_false_iff_not] at h
  obtain ⟨⟨hall, hadd⟩, hremove⟩ := h
  rw [ItemEdit.groupsFor, hall]
  split
  · simp [hadd, hremove]
  · rfl

/-- **The edited item** agrees with what was acknowledged exactly if the item does. -/
theorem spares_edited_iff {acknowledged : Stanza} :
    edits.Spares acknowledged (edits.nameFor item) (edits.groupsFor item) ↔
      edits.Spares acknowledged item.name item.groups := by
  rw [spares_iff, spares_iff]
  refine and_congr ?_ ?_
  · refine imp_congr_right fun h => ?_
    rw [nameFor_of_not_changesName h]
  · refine forall_congr' fun group => imp_congr_right fun h => ?_
    rw [mem_groupsFor_of_not_changesGroup h]

/-- The name and the groups of what is sent are those of the item, unless it is
removed. -/
theorem toMessage_body {h : Handle} {googleRoster : Bool}
    (hmessage : item.toMessage h googleRoster = some stanza) (hbody : stanza.body ≠ none) :
    stanza.name = item.name ∧ stanza.groups = item.groups := by
  unfold Item.toMessage at hmessage
  split at hmessage
  · cases hmessage
  · cases hmessage
    exact absurd rfl hbody
  · cases hmessage
    exact ⟨rfl, rfl⟩

/-! ## What an acknowledgement releases -/

/-- A queued edit is sent when the roster set before it is acknowledged. -/
structure Release where
  acknowledged : Stanza
  edits : ItemEdit
  sent : Stanza
deriving DecidableEq

/-- The roster set does not undo the one before it.  One that removes the item has no
name and no groups. -/
def Release.Keeps (r : Release) : Prop :=
  r.sent.body ≠ none → r.edits.Spares r.acknowledged r.sent.name r.sent.groups

/-- The roster sets that are sent between two states. -/
def sentBetween (s s' : State) : List Stanza :=
  (s'.iqs.filter fun iq => s.nextIq ≤ iq.id).map Iq.stanza

/-- The edit that waits for an answer to a roster set. -/
def queuedEdit (s : State) (iq : Iq) : Option ItemEdit :=
  (s.item iq.edit.handle).bind Item.unsentEdits

/-- What one event releases. -/
def releases (s : State) (e : Event) : List Release :=
  match e with
  | .iqReply id true =>
    match s.iqs.find? (·.id == id) with
    | none => []
    | some iq =>
      (queuedEdit s iq).elim [] fun edits =>
        (step s e).elim [] fun s' =>
          (sentBetween s s').map fun stanza => ⟨iq.stanza, edits, stanza⟩
  | _ => []

/-- The condition on one event: when a roster set is acknowledged, and a queued edit
alters the item, the item agrees with what is acknowledged. -/
def UpToDate (s : State) : Event → Prop
  | .iqReply id true =>
    ∀ iq ∈ s.iqs.find? (·.id == id), ∀ item ∈ s.item iq.edit.handle,
      ∀ edits ∈ item.unsentEdits, edits.alters item = true →
        ∀ stanza ∈ (edits.editedItem item).toMessage iq.edit.handle s.conn.googleRoster,
          stanza.body ≠ none → edits.Spares iq.stanza item.name item.groups
  | _ => True

instance (s : State) : (e : Event) → Decidable (UpToDate s e)
  | .iqReply id true =>
    inferInstanceAs (Decidable (∀ iq ∈ s.iqs.find? (·.id == id), ∀ item ∈ s.item iq.edit.handle,
      ∀ edits ∈ item.unsentEdits, edits.alters item = true →
        ∀ stanza ∈ (edits.editedItem item).toMessage iq.edit.handle s.conn.googleRoster,
          stanza.body ≠ none → edits.Spares iq.stanza item.name item.groups))
  | .iqReply _ false | .push .. | .rosterResult .. | .presence .. | .flickerTimeout _
  | .setName .. | .requestSubscription .. | .authorizePublication _ | .storeContacts _
  | .removeContacts _ | .unsubscribe _ | .unpublish _ | .blockContacts _ | .unblockContacts _
  | .setContactGroups .. | .setGroupMembers .. | .addToGroup .. | .removeFromGroup ..
  | .removeGroup _ | .complete _ | .aliasChanged .. | .porterLost | .disconnected =>
    .isTrue trivial

theorem sentBetween_landed (hw : Wired s) (item : Item) (success : Bool) :
    sentBetween s (s.landed iq item success) = [] := by
  have hiqs : (s.landed iq item success).iqs = s.iqs.filter (·.id != iq.id) :=
    (landed_same s iq item success).iqs
  rw [sentBetween, hiqs, List.map_eq_nil_iff, List.filter_eq_nil_iff]
  intro iq' hiq'
  exact fun hle => Nat.not_lt.mpr (of_decide_eq_true hle) (hw.bound iq' (List.mem_of_mem_filter hiq'))

/-- **What is sent** after an answer is the queued edit, if it alters the item. -/
theorem sentBetween_answered (hw : Wired s) (hiq : iq ∈ s.iqs) (hedits : item.unsentEdits = some edits)
    (success : Bool) :
    sentBetween s (s.answered iq item success) =
      if edits.alters item = true then
        ((edits.editedItem item).toMessage iq.edit.handle s.conn.googleRoster).toList
      else [] := by
  have hsame := landed_same s iq item success
  have hreceived : (s.landed iq item success).received = true :=
    hsame.received.trans (hw.received (List.ne_nil_of_mem hiq))
  have hold : sentBetween s (s.landed iq item success) = [] := sentBetween_landed hw item success
  rw [sentBetween] at hold
  have hgoogle : (s.landed iq item success).conn.googleRoster = s.conn.googleRoster :=
    hsame.googleRoster
  rw [sentBetween, answered_iqs]
  rcases itemApplyEdits_cases (s.landed iq item success) iq.edit.handle with
    ⟨-, hkept⟩ | ⟨item', edits', s₁, hitem', -, -, hedits', hcore, hcase⟩
  · -- nothing is in flight any more, so that the edit does not wait
    have hflight := hkept hreceived _ (landed_item s iq item success) (by simp [hedits])
    cases hflight
  rw [landed_item] at hitem'
  cases hitem'
  obtain rfl : edits = edits' := Option.some.inj (hedits.symm.trans hedits')
  rcases hcase with ⟨halters, hmessage, heq⟩ | ⟨stanza, halters, hmessage, heq⟩ | ⟨halters, heq⟩
  · have hmessage' : (edits.editedItem item).toMessage iq.edit.handle s.conn.googleRoster =
        none := by
      rw [← hgoogle]
      exact hmessage
    rw [heq, if_pos (show edits.alters item = true from halters), hmessage']
    rw [show ({ s₁ with fault := some .assertNotReached } : State).iqs =
      (s.landed iq item success).iqs from hcore.iqs]
    exact hold
  · have hmessage' : (edits.editedItem item).toMessage iq.edit.handle s.conn.googleRoster =
        some stanza := by
      rw [← hgoogle]
      exact hmessage
    have hnext : s₁.nextIq = s.nextIq := hcore.nextIq.trans hsame.nextIq
    rw [heq, if_pos (show edits.alters item = true from halters), hmessage', State.sentEdit]
    dsimp only
    rw [List.filter_append, List.map_append, hcore.iqs, hold]
    simp [hnext]
  · rw [heq, if_neg (by simpa using show edits.alters item = false from halters),
      State.unchangedEdit, (itemEditFree_sameItems ..).iqs]
    exact (congrArg (fun iqs : List Iq =>
      (iqs.filter fun iq => s.nextIq ≤ iq.id).map Iq.stanza) hcore.iqs).trans hold

/-- An acknowledgement. -/
theorem releases_reply_iff (hs : Sound s) (id : IqId)
    (hstep : step s (.iqReply id true) = some s') :
    (∀ r ∈ releases s (.iqReply id true), r.Keeps) ↔ UpToDate s (.iqReply id true) := by
  simp only [releases, UpToDate]
  cases hfind : s.iqs.find? (·.id == id) with
  | none => simp
  | some iq =>
    have hiq : iq ∈ s.iqs := List.mem_of_find?_eq_some hfind
    obtain rfl : iq.id = id := by simpa using List.find?_some hfind
    obtain ⟨item, hitem, -⟩ := hs.wired.flying hiq
    have hanswered : s' = s.answered iq item true := by
      have hoperation := operation_iqReply hs.wired hiq hitem true
      exact (Option.some.inj (hoperation.symm.trans (operation_of_step hstep).2)).symm
    subst hanswered
    cases hedits : item.unsentEdits with
    | none => simp [queuedEdit, hitem, hedits]
    | some edits =>
      simp only [queuedEdit, hitem, Option.bind_some, hedits, Option.elim_some, hstep,
        sentBetween_answered hs.wired hiq hedits, Option.mem_def, Option.some.injEq, forall_eq']
      by_cases halters : edits.alters item = true
      · cases hmessage : (edits.editedItem item).toMessage iq.edit.handle s.conn.googleRoster with
        | none => simp [halters]
        | some stanza =>
          simp only [halters, if_true, Option.toList_some, List.map_cons, List.map_nil,
            List.forall_mem_singleton, forall_const, Option.some.injEq, forall_eq']
          refine imp_congr_right fun hbody => ?_
          obtain ⟨hname, hgroups⟩ := toMessage_body hmessage hbody
          dsimp only
          rw [hname, hgroups]
          exact spares_edited_iff
      · simp [halters]

/-- **One event** undoes nothing that is acknowledged exactly if it meets the
condition. -/
theorem releases_iff (hs : Sound s) (e : Event) (hstep : step s e = some s') :
    (∀ r ∈ releases s e, r.Keeps) ↔ UpToDate s e := by
  cases e with
  | iqReply id success =>
    cases success with
    | false => simp [releases, UpToDate]
    | true =>
      exact releases_reply_iff hs id hstep
  | _ => simp [releases, UpToDate]

/-- **Acknowledged edits.**  In a run no queued edit undoes what the server acknowledged
before it is sent, exactly if the item agrees with that whenever a queued edit is sent
because of the acknowledgement.  An edit that is made between the answer and the push is
sent at once, and released by no answer. -/
theorem acknowledged_kept_iff (conn : Connection) (events : List Event) (s : State)
    (hrun : run step (State.new conn) events = some s) :
    (∀ r ∈ collect step releases (State.new conn) events, r.Keeps) ↔
      Admits UpToDate step (State.new conn) events :=
  forall_collect_iff_admits (I := Sound) (fun _ _ _ hs hstep => hs.step hstep)
    (fun _ e _ hs hstep => releases_iff hs e hstep) events (sound_new conn) hrun

/-- A contact is renamed, and put into a group before the server has answered.  The push
of the new name comes before the acknowledgement. -/
def renamedRun : List Event :=
  [.rosterResult none [bothNode 1], .setName 1 (some "a"), .addToGroup (some 7) [1],
    .push none [{ bothNode 1 with name := some "a" }], .iqReply 0 true]

theorem acknowledged_kept_iff_renamedRun :
    collect step releases (State.new plainServer) renamedRun =
      [⟨⟨1, .both, some (.normal, false, some "a", ∅)⟩,
        { ItemEdit.new 1 with addToGroups := some {7}, results := [0] },
        ⟨1, .both, some (.normal, false, some "a", {7})⟩⟩] ∧
      ∀ r ∈ collect step releases (State.new plainServer) renamedRun, r.Keeps :=
  ⟨by decide, (acknowledged_kept_iff plainServer renamedRun _ rfl).mpr (by decide)⟩

/-- When the acknowledgement comes before the push, the new name is taken back. -/
theorem acknowledged_name_undone :
    ¬ ∀ conn events s, run step (State.new conn) events = some s →
        ∀ r ∈ collect step releases (State.new conn) events, r.Keeps := by
  intro hall
  have hkeeps := hall plainServer
    [.rosterResult none [bothNode 1], .setName 1 (some "a"), .addToGroup (some 7) [1],
      .iqReply 0 true] _ rfl
    ⟨⟨1, .both, some (.normal, false, some "a", ∅)⟩,
      { ItemEdit.new 1 with addToGroups := some {7}, results := [0] },
      ⟨1, .both, some (.normal, false, none, {7})⟩⟩ (by decide)
  have hname := (hkeeps (by decide)).1 rfl
  cases hname

end Roster
