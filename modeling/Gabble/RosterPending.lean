/-
# Unsent edits

Edits that cannot be sent yet hang off the item of their contact.  Once the roster has
been received they only wait for the answer to a roster set, which keeps the item;
before that they wait for the roster, and the item goes when the contact is taken off
the roster meanwhile: the edits are freed, and their operations succeed.
-/
import Mathlib.Tactic.Common
import Gabble.RosterValidity

open Transition

namespace Roster

variable {keeps : Option ItemEdit → Prop} {s s' : State} {e : Event} {h : Handle} {item : Item}
  {edits : ItemEdit} {exempt : Handle → Prop}

/-! ## Edits that can be sent have been sent -/

/-- Unsent edits wait for an answer, but for those of the exempt contacts and for those
that have just failed an assertion. -/
def AppliedBut (exempt : Handle → Prop) (s : State) : Prop :=
  s.received = true → ∀ h item, s.item h = some item → ¬ exempt h → item.unsentEdits ≠ none →
    item.editsInFlight = true ∨ (s.fault ≠ none ∧ item.subscription = .invalid)

/-- Unsent edits wait for an answer. -/
def Applied (s : State) : Prop := AppliedBut (fun _ => False) s

theorem itemApplyEdits_received (s : State) (h : Handle) :
    (s.itemApplyEdits h).received = s.received := by
  rcases itemApplyEdits_cases s h with
    ⟨heq, _⟩ | ⟨item, edits, s₁, _, _, _, _, hcore, hcase⟩
  · rw [heq]
  · rcases hcase with ⟨_, _, heq⟩ | ⟨stanza, _, _, heq⟩ | ⟨_, heq⟩
    · rw [heq]
      exact hcore.received
    · rw [heq]
      exact hcore.received
    · rw [heq, State.unchangedEdit, (itemEditFree_sameItems _ _).received]
      exact hcore.received

theorem itemApplyEdits_fault_ne_none (h : Handle) (hfault : s.fault ≠ none) :
    (s.itemApplyEdits h).fault ≠ none := by
  rcases itemApplyEdits_cases s h with
    ⟨heq, _⟩ | ⟨item, edits, s₁, _, _, _, _, hcore, hcase⟩
  · rw [heq]
    exact hfault
  · rw [← hcore.fault] at hfault
    rcases hcase with ⟨_, _, heq⟩ | ⟨stanza, _, _, heq⟩ | ⟨_, heq⟩
    · rw [heq]
      simp
    · rw [heq]
      exact hfault
    · rw [heq, State.unchangedEdit, (itemEditFree_sameItems _ _).fault]
      exact hfault

/-- After its edits have been applied, a contact is not exempt any more. -/
theorem AppliedBut.itemApplyEdits (hs : AppliedBut (fun h' => h' = h ∨ exempt h') s) :
    AppliedBut exempt (s.itemApplyEdits h) := by
  intro hrec h' item' hitem' hexempt hedits
  rw [itemApplyEdits_received] at hrec
  by_cases hh : h' = h
  · subst hh
    rcases itemApplyEdits_cases s h' with
      ⟨heq, hwait⟩ | ⟨item, edits, s₁, hitem, _, _, _, hcore, hcase⟩
    · rw [heq] at hitem'
      exact .inl (hwait hrec item' hitem' hedits)
    · rcases hcase with ⟨_, hmsg, heq⟩ | ⟨stanza, _, _, heq⟩ | ⟨_, heq⟩
      · rw [heq] at hitem' ⊢
        have hsame : s₁.item h' = some item' := hitem'
        rw [hcore.item, hitem] at hsame
        cases hsame
        refine .inr ⟨by simp, ?_⟩
        exact subscription_of_editedItem ((toMessage_eq_none_iff ..).mp hmsg)
      · rw [heq] at hitem'
        have hsame : some _ = some item' := (setItem_item_self ..).symm.trans hitem'
        cases hsame
        exact absurd rfl hedits
      · rw [heq, State.unchangedEdit, (itemEditFree_sameItems _ _).item] at hitem'
        have hsame : some _ = some item' := (setItem_item_self ..).symm.trans hitem'
        cases hsame
        exact absurd rfl hedits
  · rcases itemApplyEdits_item s h h' with heq | ⟨heq, _⟩
    · rw [heq] at hitem'
      refine (hs hrec h' item' hitem' (fun hor => hor.elim hh hexempt) hedits).imp_right ?_
      exact fun hcase => ⟨itemApplyEdits_fault_ne_none h hcase.1, hcase.2⟩
    · exact absurd heq hh

theorem SameTable.applied (hsame : SameTable s s') (hs : AppliedBut exempt s) :
    AppliedBut exempt s' := by
  intro hrec h item hitem
  rw [hsame.item] at hitem
  rw [hsame.fault]
  exact hs (hsame.received ▸ hrec) h item hitem

/-- One item changes. -/
theorem AppliedBut.setItem (hs : AppliedBut exempt s) (h : Handle)
    (hitem : s.received = true → ¬ exempt h → item.unsentEdits ≠ none →
      item.editsInFlight = true ∨ (s.fault ≠ none ∧ item.subscription = .invalid)) :
    AppliedBut exempt (s.setItem h item) := by
  intro hrec h' item' hitem' hexempt hedits
  by_cases hh : h' = h
  · subst hh
    rw [setItem_item_self] at hitem'
    cases hitem'
    exact hitem hrec hexempt hedits
  · rw [setItem_item_ne _ _ hh] at hitem'
    exact hs hrec h' item' hitem' hexempt hedits

theorem AppliedBut.removeItem (hs : AppliedBut exempt s) (h : Handle) (item : Item) :
    AppliedBut exempt (s.removeItem h item) := by
  intro hrec h' item' hitem'
  rw [removeItem_item] at hitem'
  rw [(removeItem_kept ..).1] at hrec
  rw [(removeItem_kept ..).2.2.2]
  split at hitem'
  · cases hitem'
  · exact hs hrec h' item' hitem'

/-- Once the roster has been received, an item that goes has no unsent edits. -/
theorem Applied.unsentEdits_eq_none (hs : Applied s) (hrec : s.received = true)
    (hitem : s.item h = some item) (hrem : item.removable = true) : item.unsentEdits = none := by
  obtain ⟨hsub, hflight, _, _⟩ := (Item.removable_iff item).mp hrem
  by_contra hedits
  rcases hs hrec h item hitem not_false hedits with hf | ⟨_, hinvalid⟩
  · rw [hflight] at hf
    cases hf
  · rw [hsub] at hinvalid
    cases hinvalid

theorem Move.applied (hmove : Move keeps s s') (hs : Applied s) : Applied s' := by
  cases hmove with
  | frame hcore => exact hcore.sameTable.applied hs
  | create h name hnone =>
    exact AppliedBut.setItem hs h fun _ _ hedits => absurd rfl hedits
  | adjust h item' hitem hedits hflight hsub hgoogle =>
    refine AppliedBut.setItem hs h fun hrec _ hne => ?_
    rw [hedits] at hne
    rcases hs hrec h _ hitem not_false hne with hf | ⟨hfault, hinvalid⟩
    · exact .inl (hflight.trans hf)
    · rcases hsub with hsub | ⟨_, hnone⟩
      · exact .inr ⟨hfault, hsub.trans hinvalid⟩
      · exact absurd hnone hfault
  | remove h hitem _ _ => exact AppliedBut.removeItem hs h _
  | queue h result hchange _ =>
    refine queueEdit_ind hs fun item hitem => ?_
    -- the contact is exempt until the edit is applied
    have hweak : AppliedBut (fun h' => h' = h ∨ False) s :=
      fun hrec h' item' hit _ => hs hrec h' item' hit not_false
    refine AppliedBut.itemApplyEdits ((collected_same s h item result _).sameTable.applied ?_)
    exact hweak.setItem h fun _ hexempt => absurd (.inl rfl) hexempt

theorem Applied.believeEdited (hs : Applied s) (edit : ItemEdit) :
    Applied (s.believeEdited edit) := by
  rcases believeEdited_cases s edit with heq | ⟨item, hitem, hsub, _, heq⟩
  · rw [heq]
    exact hs
  · rw [heq]
    refine AppliedBut.setItem hs _ fun hrec _ hedits => ?_
    rcases hs hrec _ item hitem not_false hedits with hf | ⟨_, hinvalid⟩
    · exact .inl hf
    · rw [hsub] at hinvalid
      cases hinvalid

theorem Applied.landed {iq : Iq} (hs : Applied s) (item : Item) (success : Bool) :
    AppliedBut (fun h => h = iq.edit.handle ∨ False) (s.landed iq item success) := by
  have hdrop : AppliedBut (fun h => h = iq.edit.handle ∨ False) (s.dropIq iq) :=
    fun hrec h item' hit _ => hs hrec h item' hit not_false
  refine (landed_same s iq item success).sameTable.applied ?_
  exact hdrop.setItem _ fun _ hexempt => absurd (.inl rfl) hexempt

theorem AppliedBut.foldl_itemApplyEdits {l : List Handle} (hs : AppliedBut (· ∈ l) s) :
    Applied (l.foldl State.itemApplyEdits s) := by
  induction l generalizing s with
  | nil => exact fun hrec h item hit _ => hs hrec h item hit (by simp)
  | cons h l ih =>
    refine ih (AppliedBut.itemApplyEdits ?_)
    simpa only [List.mem_cons] using hs

/-- When the roster arrives, the edits that waited for it are applied. -/
theorem applied_receive (s : State) :
    Applied (s.editedItems.foldl State.itemApplyEdits { s with received := true }) := by
  refine AppliedBut.foldl_itemApplyEdits fun _ h item hitem hexempt hedits => absurd ?_ hexempt
  have hit : s.item h = some item := hitem
  refine List.mem_filter.mpr ⟨AList.mem_keys.mpr (AList.lookup_isSome.mp ?_), ?_⟩
  · change (s.item h).isSome = true
    rw [hit]
    rfl
  · rw [hit]
    simpa [Option.isSome_iff_ne_none] using hedits

/-! ## No edit is destroyed -/

/-- No unsent edit was freed together with its item. -/
def NoneDestroyed (s : State) : Prop := ∀ edits, .destroyed edits ∉ s.log

theorem SameTable.noneDestroyed (hsame : SameTable s s') (hs : NoneDestroyed s) :
    NoneDestroyed s' := fun edits hmem => hs edits (hsame.log edits hmem)

theorem itemApplyEdits_log (s : State) (h : Handle) (edits : ItemEdit)
    (hmem : Action.destroyed edits ∈ (s.itemApplyEdits h).log) :
    Action.destroyed edits ∈ s.log := by
  rcases itemApplyEdits_cases s h with
    ⟨heq, _⟩ | ⟨item, edits', s₁, _, _, _, _, hcore, hcase⟩
  · rw [heq] at hmem
    exact hmem
  · refine hcore.sameTable.log edits ?_
    rcases hcase with ⟨_, _, heq⟩ | ⟨stanza, _, _, heq⟩ | ⟨_, heq⟩
    · rw [heq] at hmem
      exact hmem
    · rw [heq] at hmem
      simpa [State.sentEdit, State.setItem] using hmem
    · rw [heq, State.unchangedEdit, (itemEditFree_sameItems _ _).log] at hmem
      simpa [State.record, State.setItem] using hmem

theorem NoneDestroyed.itemApplyEdits (hs : NoneDestroyed s) (h : Handle) :
    NoneDestroyed (s.itemApplyEdits h) :=
  fun edits hmem => hs edits (itemApplyEdits_log s h edits hmem)

theorem removeItem_of_none (s : State) (h : Handle) (hedits : item.unsentEdits = none) :
    s.removeItem h item = { s with items := s.items.erase h } := by
  unfold State.removeItem
  rw [hedits]

theorem Move.noneDestroyed (hmove : Move (· = none) s s') (happlied : Applied s)
    (hs : NoneDestroyed s) : NoneDestroyed s' := by
  cases hmove with
  | frame hcore => exact hcore.sameTable.noneDestroyed hs
  | create h name hnone => exact hs
  | adjust h item' hitem hedits hflight hsub hgoogle => exact hs
  | remove h hitem hrem hkeep =>
    rename_i item
    have hnone : item.unsentEdits = none := by
      cases hrec : s.received with
      | false => exact hkeep hrec
      | true => exact happlied.unsentEdits_eq_none hrec hitem hrem
    rw [removeItem_of_none s h hnone]
    exact hs
  | queue h result hchange _ =>
    refine queueEdit_ind hs fun item hitem => ?_
    refine NoneDestroyed.itemApplyEdits ?_ h
    exact (collected_same s h item result _).sameTable.noneDestroyed hs

theorem Turn.noneDestroyed (hturn : Turn (· = none) s e s') (hw : Wired s)
    (hs : Applied s ∧ NoneDestroyed s) : Applied s' ∧ NoneDestroyed s' := by
  refine hturn.preserves (I := fun s => Applied s ∧ NoneDestroyed s)
    (fun _ _ hsame hs => ⟨hsame.applied hs.1, hsame.noneDestroyed hs.2⟩)
    (fun _ _ hmove hs => ⟨hmove.applied hs.1, hmove.noneDestroyed hs.1 hs.2⟩)
    (fun iq item success _ hiq hitem hs => ?_) (fun s₁ hs₁ => ?_) hs
  · have hrec : (s.landed iq item success).received = true :=
      (landed_same s iq item success).received.trans (hw.received (List.ne_nil_of_mem hiq))
    have hland : NoneDestroyed (s.landed iq item success) :=
      (landed_same s iq item success).sameTable.noneDestroyed hs.2
    set t := (s.landed iq item success).itemApplyEdits iq.edit.handle
    have ht : Applied t := AppliedBut.itemApplyEdits (hs.1.landed item success)
    have htrec : t.received = true := (itemApplyEdits_received ..).trans hrec
    have htnone : NoneDestroyed t := hland.itemApplyEdits _
    have hbelieve := ht.believeEdited iq.edit
    have hsame : (t.believeEdited iq.edit).received = t.received ∧
        (t.believeEdited iq.edit).log = t.log := by
      rcases believeEdited_cases t iq.edit with heq | ⟨_, _, _, _, heq⟩
      · rw [heq]
        exact ⟨rfl, rfl⟩
      · rw [heq]
        exact ⟨rfl, rfl⟩
    have hnone : NoneDestroyed (t.believeEdited iq.edit) := fun edits hmem =>
      htnone edits (hsame.2 ▸ hmem)
    rcases itemMaybeRemove_cases (t.believeEdited iq.edit) iq.edit.handle with
      ⟨heq, _⟩ | ⟨item', hitem', hrem, heq⟩
    · rw [heq]
      exact ⟨hbelieve, hnone⟩
    · rw [heq]
      refine ⟨AppliedBut.removeItem hbelieve _ item', ?_⟩
      rw [removeItem_of_none _ _
        (hbelieve.unsentEdits_eq_none (hsame.1.trans htrec) hitem' hrem)]
      exact hnone
  · refine ⟨applied_receive s₁, ?_⟩
    have hnone : NoneDestroyed { s₁ with received := true } := hs₁.2
    exact foldl_itemApplyEdits (fun t h ht => ht.itemApplyEdits h) _ hnone

/-- No item goes that has unsent edits. -/
def EditsKept (s : State) (e : Event) : Prop := e.Keeps (· = none) s

/-- **No unsent edit is destroyed** in a run that keeps the items with unsent edits until
the roster has been received. -/
theorem edits_not_destroyed {conn : Connection}
    (hreach : Reachable step EditsKept (State.new conn) s) : NoneDestroyed s := by
  have hinv : Sound s ∧ Applied s ∧ NoneDestroyed s := by
    refine hreach.invariant (I := fun s => Sound s ∧ Applied s ∧ NoneDestroyed s)
      ⟨sound_new conn, fun _ h item hitem => ?_, fun edits hmem => ?_⟩ ?_
    · cases hitem
    · cases hmem
    · rintro s e s' ⟨hsound, hs⟩ hok hstep
      have hturn : Turn (· = none) s e s' :=
        (step_turn hsound.atRest hsound.wired hok rfl hstep).2
      exact ⟨hsound.step hstep, hturn.noneDestroyed hsound.wired hs⟩
  exact hinv.2.2

instance [DecidablePred keeps] (acc : State × State.Changes) (node : ItemNode) :
    Decidable (NodeKeeps keeps acc node) :=
  inferInstanceAs (Decidable (∀ item ∈ node.contact.bind acc.1.item, _ → keeps item.unsentEdits))

/-- An edit that waits for the roster is sent when it arrives. -/
theorem edits_not_destroyed_rosterResult :
    ∃ s, run step (State.new plainServer)
        [.addToGroup (some 7) [1], .rosterResult none [bothNode 2], .push none [removeNode 1]] =
          some s ∧ s.iqs.length = 1 ∧ NoneDestroyed s := by
  have hadm : Admits EditsKept step (State.new plainServer)
      [.addToGroup (some 7) [1], .rosterResult none [bothNode 2], .push none [removeNode 1]] := by
    refine admits_cons trivial rfl (admits_cons ?_ rfl (admits_cons ?_ rfl trivial)) <;>
      unfold EditsKept Event.Keeps <;> decide
  exact ⟨_, rfl, by decide, edits_not_destroyed (reachable_of_run _ hadm rfl)⟩

/-- When the contact is taken off the roster before the roster arrives, the edit is gone;
the operation that waits for it succeeds. -/
theorem unsent_edit_destroyed :
    (∃ s edits, run step (State.new plainServer)
        [.setName 1 (some "a"), .push none [removeNode 1]] = some s ∧ .destroyed edits ∈ s.log) ∧
    ∃ s edits, run step (State.new plainServer)
        [.addToGroup (some 7) [1], .push none [removeNode 1], .complete 0] = some s ∧
      .destroyed edits ∈ s.log ∧ 0 ∈ edits.results ∧ .called 0 false ∈ s.log := by
  refine ⟨⟨_, { ItemEdit.new 1 with newName := some "a" }, rfl, by decide⟩, _,
    { ItemEdit.new 1 with addToGroups := some {7}, results := [0] }, rfl, by decide, by decide,
    by decide⟩

end Roster
