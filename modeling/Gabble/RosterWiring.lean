/-
# The roster sets and the items

At any time a contact has at most one roster set that waits for an answer, and its
item says so.  Once the roster has been received, edits stay unsent only while they
wait for such an answer.
-/
import Mathlib.Tactic.Common
import Gabble.RosterMoves

namespace Roster

/-- The item of a contact says that its edits are in flight. -/
def InFlight (s : State) (h : Handle) : Prop :=
  ∃ item, s.item h = some item ∧ item.editsInFlight = true

/-- The contacts with an outstanding roster set. -/
def outstanding (s : State) : List Handle := s.iqs.map fun iq => iq.edit.handle

/-- The items and the roster sets tell the same. -/
structure Wired (s : State) : Prop where
  handles : (outstanding s).Nodup
  ids : (s.iqs.map fun iq => iq.id).Nodup
  bound : ∀ iq ∈ s.iqs, iq.id < s.nextIq
  stanza : ∀ iq ∈ s.iqs, iq.stanza.handle = iq.edit.handle
  flight : ∀ h, h ∈ outstanding s ↔ InFlight s h
  unsent : ∀ h item edits, s.item h = some item → item.unsentEdits = some edits → edits.handle = h
  received : s.iqs ≠ [] → s.received = true

variable {s s' : State} {h : Handle} {item item' : Item} {edits : ItemEdit}

theorem InFlight.of_item (hitem : s.item h = some item) :
    InFlight s h ↔ item.editsInFlight = true := by
  refine ⟨?_, fun hflight => ⟨item, hitem, hflight⟩⟩
  rintro ⟨item', hitem', hflight⟩
  rw [hitem] at hitem'
  cases hitem'
  exact hflight

theorem not_inFlight_of_none (hnone : s.item h = none) : ¬ InFlight s h := by
  rintro ⟨item, hitem, _⟩
  rw [hnone] at hitem
  cases hitem

theorem inFlight_setItem (h' : Handle) : InFlight (s.setItem h item) h' ↔
    if h' = h then item.editsInFlight = true else InFlight s h' := by
  split
  · rename_i heq
    subst heq
    exact InFlight.of_item (setItem_item_self ..)
  · rename_i hne
    unfold InFlight
    rw [setItem_item_ne _ _ hne]

/-- The item of an outstanding roster set. -/
theorem Wired.flying {iq : Iq} (hs : Wired s) (hiq : iq ∈ s.iqs) : InFlight s iq.edit.handle :=
  (hs.flight _).mp (List.mem_map_of_mem hiq)

theorem Wired.congr (hs : Wired s) (hitems : s'.items = s.items) (hiqs : s'.iqs = s.iqs)
    (hnext : s'.nextIq = s.nextIq) (hrec : s'.received = s.received) : Wired s' := by
  have hitem : ∀ h, s'.item h = s.item h := fun h => by simp only [State.item, hitems]
  have hout : outstanding s' = outstanding s := by simp only [outstanding, hiqs]
  refine ⟨hout ▸ hs.handles, hiqs ▸ hs.ids, ?_, hiqs ▸ hs.stanza, fun h => ?_, ?_, ?_⟩
  · rw [hiqs, hnext]
    exact hs.bound
  · rw [hout, hs.flight]
    simp only [InFlight, hitem]
  · intro h item edits hit
    exact hs.unsent h item edits ((hitem h).symm.trans hit)
  · rw [hiqs, hrec]
    exact hs.received

theorem SameCore.wired (hcore : SameCore s s') (hs : Wired s) : Wired s' :=
  hs.congr hcore.items hcore.iqs hcore.nextIq hcore.received

theorem SameItems.wired (hsame : SameItems s s') (hs : Wired s) : Wired s' :=
  hs.congr hsame.items hsame.iqs hsame.nextIq hsame.received

section

variable (hs : Wired s)

include hs

/-- An item is replaced by one that says the same about its edits in flight. -/
theorem Wired.setItem (hflight : item.editsInFlight = true ↔ InFlight s h)
    (hunsent : ∀ edits, item.unsentEdits = some edits → edits.handle = h) :
    Wired (s.setItem h item) := by
  refine ⟨hs.handles, hs.ids, hs.bound, hs.stanza, fun h' => ?_, fun h' item' edits hit hedits => ?_,
    hs.received⟩
  · refine (hs.flight h').trans ?_
    rw [inFlight_setItem]
    split
    · rename_i heq
      subst heq
      exact hflight.symm
    · exact Iff.rfl
  · by_cases heq : h' = h
    · subst heq
      rw [setItem_item_self] at hit
      cases hit
      exact hunsent edits hedits
    · rw [setItem_item_ne _ _ heq] at hit
      exact hs.unsent h' item' edits hit hedits

/-- An item is replaced by one with the same edits. -/
theorem Wired.replaceItem (hitem : s.item h = some item)
    (hedits : item'.unsentEdits = none ∨ item'.unsentEdits = item.unsentEdits)
    (hflight : item'.editsInFlight = item.editsInFlight) : Wired (s.setItem h item') := by
  refine hs.setItem ?_ fun edits hedits' => ?_
  · rw [InFlight.of_item hitem, hflight]
  · rcases hedits with hnone | heq
    · rw [hnone] at hedits'
      cases hedits'
    · exact hs.unsent h item edits hitem (heq ▸ hedits')

theorem Wired.erase (hflight : ¬ InFlight s h) :
    Wired { s with items := s.items.erase h } := by
  have hself : State.item { s with items := s.items.erase h } h = none := AList.lookup_erase ..
  have hother : ∀ h', h' ≠ h → State.item { s with items := s.items.erase h } h' = s.item h' :=
    fun h' hne => AList.lookup_erase_ne hne
  refine ⟨hs.handles, hs.ids, hs.bound, hs.stanza, fun h' => ?_, fun h' item edits hit => ?_,
    hs.received⟩
  · refine (hs.flight h').trans ?_
    by_cases heq : h' = h
    · subst heq
      exact iff_of_false hflight (not_inFlight_of_none hself)
    · unfold InFlight
      rw [hother h' heq]
  · by_cases heq : h' = h
    · subst heq
      rw [hself] at hit
      cases hit
    · rw [hother h' heq] at hit
      exact hs.unsent h' item edits hit

theorem Wired.record (a : Action) : Wired (s.record a) :=
  hs.congr rfl rfl rfl rfl

theorem Wired.itemEditFree (edits : ItemEdit) : Wired (s.itemEditFree edits) :=
  (itemEditFree_sameItems s edits).wired hs

theorem Wired.removeItem (hitem : s.item h = some item)
    (hrem : item.removable = true) : Wired (s.removeItem h item) := by
  have hflight : ¬ InFlight s h := by
    rw [InFlight.of_item hitem, ((Item.removable_iff item).mp hrem).2.1]
    simp
  have herase := hs.erase hflight
  unfold State.removeItem
  split
  · exact herase
  · exact (herase.record _).itemEditFree _

end

theorem sent_handle (edits : ItemEdit) (item : Item) : (edits.sent item).handle = edits.handle := by
  unfold ItemEdit.sent
  split <;> rfl

theorem toMessage_handle {googleRoster : Bool} {stanza : Stanza}
    (hmsg : item.toMessage h googleRoster = some stanza) : stanza.handle = h := by
  unfold Item.toMessage at hmsg
  split at hmsg <;> cases hmsg <;> rfl

/-- An edit is sent for an item without edits in flight. -/
theorem Wired.sentEdit {stanza : Stanza} (hs : Wired s) (hitem : s.item h = some item)
    (hidle : item.editsInFlight = false) (hedits : item.unsentEdits = some edits)
    (hstanza : stanza.handle = h) (hrec : s.received = true) :
    Wired (s.sentEdit h item edits stanza) := by
  have hhandle : edits.handle = h := hs.unsent h item edits hitem hedits
  have hnot : h ∉ outstanding s := by
    rw [hs.flight, InFlight.of_item hitem, hidle]
    simp
  have hout : outstanding (s.sentEdit h item edits stanza) = outstanding s ++ [h] := by
    simp [outstanding, State.sentEdit, State.setItem, sent_handle, hhandle]
  refine ⟨?_, ?_, fun iq hiq => ?_, fun iq hiq => ?_, fun h' => ?_, fun h' item' edits' hit he => ?_,
    fun _ => hrec⟩
  · rw [hout]
    exact List.nodup_append.mpr ⟨hs.handles, List.nodup_singleton h, by
      intro a ha b hb heq
      rw [List.mem_singleton.mp hb] at heq
      exact hnot (heq ▸ ha)⟩
  · have hids : (s.sentEdit h item edits stanza).iqs.map (fun iq => iq.id) =
        s.iqs.map (fun iq => iq.id) ++ [s.nextIq] := by
      simp [State.sentEdit, State.setItem]
    rw [hids]
    refine List.nodup_append.mpr ⟨hs.ids, List.nodup_singleton _, fun a ha b hb heq => ?_⟩
    obtain ⟨iq, hiq, rfl⟩ := List.mem_map.mp ha
    rw [List.mem_singleton.mp hb] at heq
    exact (hs.bound iq hiq).ne heq
  · rcases List.mem_append.mp hiq with hiq | hiq
    · exact (hs.bound iq hiq).trans (Nat.lt_succ_self _)
    · rw [List.mem_singleton.mp hiq]
      exact Nat.lt_succ_self _
  · rcases List.mem_append.mp hiq with hiq | hiq
    · exact hs.stanza iq hiq
    · rw [List.mem_singleton.mp hiq, hstanza]
      exact ((sent_handle edits item).trans hhandle).symm
  · have hfl : InFlight (s.sentEdit h item edits stanza) h' ↔ InFlight (s.setItem h
        { item with unsentEdits := none, editsInFlight := true }) h' := Iff.rfl
    rw [hout, hfl, inFlight_setItem, List.mem_append, List.mem_singleton, hs.flight]
    split
    · rename_i heq
      simp [heq]
    · rename_i hne
      simp [hne]
  · change (s.setItem h _).item h' = some item' at hit
    by_cases heq : h' = h
    · subst heq
      rw [setItem_item_self] at hit
      cases hit
      cases he
    · rw [setItem_item_ne _ _ heq] at hit
      exact hs.unsent h' item' edits' hit he

theorem Wired.itemApplyEdits (hs : Wired s) (h : Handle) : Wired (s.itemApplyEdits h) := by
  rcases itemApplyEdits_cases s h with
    ⟨heq, _⟩ | ⟨item, edits, s₁, hitem, hrec, hidle, hedits, hcore, hcase⟩
  · rw [heq]
    exact hs
  · have hs₁ : Wired s₁ := hcore.wired hs
    have hitem₁ : s₁.item h = some item := (hcore.item h).trans hitem
    rcases hcase with ⟨_, _, heq⟩ | ⟨stanza, _, hmsg, heq⟩ | ⟨_, heq⟩
    · rw [heq]
      exact hs₁.congr rfl rfl rfl rfl
    · rw [heq]
      exact hs₁.sentEdit hitem₁ hidle hedits (toMessage_handle hmsg) (hcore.received.trans hrec)
    · rw [heq]
      have hclear : Wired (s₁.setItem h { item with unsentEdits := none }) :=
        hs₁.replaceItem hitem₁ (.inl rfl) rfl
      exact (hclear.record _).itemEditFree _

theorem edits_handle (hs : Wired s) (hitem : s.item h = some item) : (item.edits h).handle = h := by
  unfold Item.edits
  cases hedits : item.unsentEdits with
  | none => rfl
  | some edits => exact hs.unsent h item edits hitem hedits

theorem Wired.collected {result : Option ResultId} {change : ItemEdit → ItemEdit} (hs : Wired s)
    (hchange : EditChange change) (hitem : s.item h = some item) :
    Wired (s.collected h item result change) := by
  refine (collected_same s h item result change).wired (hs.setItem ?_ fun edits hedits => ?_)
  · exact (InFlight.of_item hitem).symm
  · cases hedits
    rw [hchange.handle]
    exact edits_handle hs hitem

theorem Wired.queueEdit {result : Option ResultId} {change : ItemEdit → ItemEdit} (hs : Wired s)
    (hchange : EditChange change) : Wired (s.queueEdit h result change) := by
  refine queueEdit_ind hs fun item hitem => ?_
  exact (hs.collected hchange hitem).itemApplyEdits h

theorem Move.wired {keeps : Option ItemEdit → Prop} (hmove : Move keeps s s') (hs : Wired s) :
    Wired s' := by
  cases hmove with
  | frame hcore => exact hcore.wired hs
  | create h name hnone =>
    refine hs.setItem ?_ fun edits hedits => ?_
    · exact iff_of_false (by simp [Item.new]) (not_inFlight_of_none hnone)
    · cases hedits
  | adjust h item' hitem hedits hflight _ _ => exact hs.replaceItem hitem (.inr hedits) hflight
  | remove h hitem hrem _ => exact hs.removeItem hitem hrem
  | queue h result hchange _ => exact hs.queueEdit hchange

theorem Moves.wired {keeps : Option ItemEdit → Prop} (hmoves : Moves keeps s s') (hs : Wired s) :
    Wired s' :=
  hmoves.preserves (fun _ _ hmove => hmove.wired) hs

end Roster
