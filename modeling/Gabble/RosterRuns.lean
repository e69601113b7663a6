/-
# The runs of the roster

The invariants of all runs: between two events the counters say how many edits hold
each result, and the items and the roster sets tell the same.
-/
import Mathlib.Tactic.Common
import Gabble.RosterTurns

open Transition

namespace Roster

variable {keeps : Option ItemEdit → Prop} {s s' : State} {e : Event} {r : ResultId} {h : Handle}
  {item : Item}

/-! ## The head and the tail of a turn -/

theorem InStep.callResult (hs : InStep s) (hr : r ∈ s.idle) : InStep (s.callResult r) where
  nonneg := hs.nonneg
  fresh := hs.fresh
  completions := hs.completions
  called r' := by
    have hcalled := hs.called r'
    have hlog : calledResults (s.callResult r).log = calledResults s.log ++ [r] := by
      simp [State.callResult, State.record, calledResults]
    have hidle : (s.callResult r).idle = s.idle.erase r := rfl
    rw [hlog, hidle, List.count_append]
    by_cases heq : r' = r
    · subst heq
      have hpos : 0 < s.idle.count r' := List.count_pos_iff.mpr hr
      have herase : (s.idle.erase r').count r' = s.idle.count r' - 1 := List.count_erase_self
      rw [herase, List.count_singleton_self]
      change _ = (s.results r').completions
      omega
    · rw [List.count_erase_of_ne heq, List.count_singleton, if_neg (by simpa using Ne.symm heq)]
      exact hcalled

theorem InStep.countdownNew (hs : InStep s) (callback : Callback) :
    InStep (s.countdownNew callback) := by
  have hold : ∀ r, r ≠ s.nextResult → (s.countdownNew callback).results r = s.results r := by
    intro r hne
    simp [State.countdownNew, State.setResult, hne]
  have hnew : (s.countdownNew callback).results s.nextResult = ⟨callback, 1, false, 0⟩ := by
    simp [State.countdownNew, State.setResult]
  have hzero : (s.results s.nextResult).completions = 0 := by
    rw [hs.completions]
    simp
  refine ⟨fun r => ?_, fun r hr => ?_, fun r => ?_, fun r => ?_⟩
  · by_cases heq : r = s.nextResult
    · rw [heq, hnew]
      simp
    · rw [hold r heq]
      exact hs.nonneg r
  · have hlt : s.nextResult < r := hr
    rw [hold r hlt.ne']
    exact hs.fresh r hlt.le
  · have hnext : (s.countdownNew callback).nextResult = s.nextResult + 1 := rfl
    rw [hnext]
    by_cases heq : r = s.nextResult
    · rw [heq, hnew]
      simp
    · rw [hold r heq, hs.completions]
      have hiff : r < s.nextResult + 1 ↔ r < s.nextResult :=
        ⟨fun hlt => lt_of_le_of_ne (Nat.lt_succ_iff.mp hlt) heq,
          fun hlt => hlt.trans (Nat.lt_succ_self _)⟩
      simp only [hiff]
  · have hcalled := hs.called r
    change (calledResults s.log).count r + s.idle.count r = _
    by_cases heq : r = s.nextResult
    · rw [heq] at hcalled ⊢
      rw [hnew, hcalled, hzero]
    · rw [hold r heq]
      exact hcalled

theorem AtRest.countdown {s₁ : State} (hs : AtRest s) (callback : Callback)
    (hmoves : Moves keeps (s.countdownNew callback) s₁) :
    AtRest (s₁.countdownDec s.nextResult) := by
  have hnew : Ledger (s.countdownNew callback) := by
    refine ⟨hs.toInStep.countdownNew callback, fun r => ?_⟩
    rw [owed_countdownNew hs]
    split <;> omega
  have hs₁ : Ledger s₁ := hmoves.ledger hnew
  have howed : ∀ r, owed s₁ r = if r = s.nextResult then 1 else 0 := by
    intro r
    rw [hmoves.owed, owed_countdownNew hs]
  have hrun : 1 ≤ (s₁.results s.nextResult).todo := by
    refine todo_of_owed ?_
    rw [howed, if_pos rfl]
  have hzero : ∀ r, owed (s₁.countdownDec s.nextResult) r = 0 := by
    intro r
    have hsame := countdownDec_sameItems s₁ s.nextResult
    have hr := howed r
    unfold owed at hr ⊢
    rw [countdownDec_todo, hsame.heldUnsent, hsame.heldSent]
    split at hr <;> rename_i heq
    · rw [if_pos heq]
      omega
    · rw [if_neg heq]
      omega
  exact ⟨⟨hs₁.toInStep.countdownDec hrun, fun r => (hzero r).ge⟩, hzero⟩

/-- An operation without edits completes at once, like one that had nothing to do. -/
theorem AtRest.succeedOrFailInIdle (hs : AtRest s) (failed : Bool) :
    AtRest (s.succeedOrFailInIdle failed) := by
  have hrefl : Moves (fun _ => True) (s.countdownNew .operation) (s.countdownNew .operation) :=
    .refl _
  have hdec := hs.countdown .operation hrefl
  have htodo : ∀ r, ((s.succeedOrFailInIdle failed).results r).todo =
      (((s.countdownNew .operation).countdownDec s.nextResult).results r).todo := by
    intro r
    rw [countdownDec_todo]
    by_cases heq : r = s.nextResult <;>
      simp [State.succeedOrFailInIdle, State.completeInIdle, State.countdownNew, State.setResult,
        heq]
  have hcompletions : ∀ r, ((s.succeedOrFailInIdle failed).results r).completions =
      (((s.countdownNew .operation).countdownDec s.nextResult).results r).completions := by
    intro r
    rw [countdownDec_completions]
    by_cases heq : r = s.nextResult <;>
      simp [State.succeedOrFailInIdle, State.completeInIdle, State.countdownNew, State.setResult,
        heq]
  have hsame := countdownDec_sameItems (s.countdownNew .operation) s.nextResult
  have hidle : (s.succeedOrFailInIdle failed).idle =
      ((s.countdownNew .operation).countdownDec s.nextResult).idle := by
    rw [countdownDec_idle]
    simp [State.succeedOrFailInIdle, State.completeInIdle, State.countdownNew, State.setResult]
  have hlog : (s.succeedOrFailInIdle failed).log =
      ((s.countdownNew .operation).countdownDec s.nextResult).log := hsame.log.symm
  have howed : ∀ r, owed (s.succeedOrFailInIdle failed) r = 0 := by
    intro r
    rw [← hdec.settled r]
    unfold owed
    rw [htodo, hsame.heldUnsent, hsame.heldSent]
    rfl
  refine ⟨⟨hdec.toInStep.congr htodo hcompletions ?_ hidle (by rw [hlog]), fun r => (howed r).ge⟩,
    howed⟩
  exact hsame.nextResult.symm

theorem AtRest.callResult (hs : AtRest s) (hr : r ∈ s.idle) : AtRest (s.callResult r) :=
  ⟨⟨hs.toInStep.callResult hr, hs.paid⟩, hs.settled⟩

/-! ## The answer to a roster set -/

theorem SameCore.setItem (hcore : SameCore s s') (h : Handle) (item : Item) :
    SameCore (s.setItem h item) (s'.setItem h item) where
  googleRoster := hcore.googleRoster
  items := by simp only [State.setItem, hcore.items]
  iqs := hcore.iqs
  nextIq := hcore.nextIq
  received := hcore.received
  closed := hcore.closed
  todo := hcore.todo
  completions := hcore.completions
  nextResult := hcore.nextResult
  idle := hcore.idle
  fault := hcore.fault
  log := hcore.log

/-- The roster set is forgotten. -/
def State.dropIq (s : State) (iq : Iq) : State :=
  { s with iqs := s.iqs.filter (·.id != iq.id) }

theorem landed_same (s : State) (iq : Iq) (item : Item) (success : Bool) :
    SameCore ((s.dropIq iq).setItem iq.edit.handle { item with editsInFlight := false })
      (s.landed iq item success) := by
  have hrecord : SameCore (s.dropIq iq) ((s.dropIq iq).record (.answered iq.id success)) :=
    record_sameCore _ rfl
  refine SameCore.setItem ?_ _ _
  split
  · exact hrecord
  · exact hrecord.trans (foldl_sameCore _ setFromError_sameCore _ _)

/-- The roster sets are told apart by their ids. -/
theorem filter_id_sum (f : Iq → ℕ) {iqs : List Iq} {iq : Iq} (hiq : iq ∈ iqs)
    (hids : (iqs.map fun iq => iq.id).Nodup) :
    ((iqs.filter (·.id != iq.id)).map f).sum + f iq = (iqs.map f).sum := by
  induction iqs with
  | nil => cases hiq
  | cons iq' iqs ih =>
    rw [List.map_cons, List.nodup_cons] at hids
    obtain ⟨hnot, hids⟩ := hids
    rcases List.mem_cons.mp hiq with heq | hmem
    · subst heq
      have hrest : iqs.filter (·.id != iq.id) = iqs := by
        refine List.filter_eq_self.mpr fun iq' hiq' => ?_
        have hne : iq'.id ≠ iq.id := fun heq => hnot (heq ▸ List.mem_map_of_mem hiq')
        simpa using hne
      rw [List.filter_cons_of_neg (by simp), hrest, List.map_cons, List.sum_cons, Nat.add_comm]
    · have hne : iq'.id ≠ iq.id := fun heq => hnot (heq ▸ List.mem_map_of_mem hmem)
      rw [List.filter_cons_of_pos (by simpa using hne), List.map_cons, List.map_cons,
        List.sum_cons, List.sum_cons, Nat.add_assoc, ih hmem hids]

section

variable {iq : Iq} (success : Bool)

/-- The edit of an answered roster set is owed to its results. -/
theorem owed_landed (hw : Wired s) (hiq : iq ∈ s.iqs) (hitem : s.item iq.edit.handle = some item)
    (r : ResultId) :
    owed (s.landed iq item success) r = owed s r + iq.edit.results.count r := by
  have hitem' : (s.dropIq iq).item iq.edit.handle = some item := hitem
  have hset : owed ((s.dropIq iq).setItem iq.edit.handle { item with editsInFlight := false }) r =
      owed (s.dropIq iq) r := owed_setItem hitem' rfl r
  rw [(landed_same s iq item success).owed, hset]
  have hsent : heldSent (s.dropIq iq) r + iq.edit.results.count r = heldSent s r :=
    filter_id_sum (fun iq => iq.edit.results.count r) hiq hw.ids
  have hunsent : heldUnsent (s.dropIq iq) r = heldUnsent s r := rfl
  have htodo : (s.dropIq iq).results = s.results := rfl
  unfold owed
  rw [← hsent, hunsent, htodo]
  omega

theorem Ledger.landed (hs : Ledger s) (hw : Wired s) (hiq : iq ∈ s.iqs)
    (hitem : s.item iq.edit.handle = some item) : Ledger (s.landed iq item success) := by
  have hdrop : InStep ((s.dropIq iq).setItem iq.edit.handle { item with editsInFlight := false }) :=
    hs.congr (fun _ => rfl) (fun _ => rfl) rfl rfl rfl
  refine ⟨(landed_same s iq item success).inStep hdrop, fun r => ?_⟩
  rw [owed_landed success hw hiq hitem]
  have := hs.paid r
  omega

theorem mem_outstanding_dropIq (hw : Wired s) (hiq : iq ∈ s.iqs) (h : Handle) :
    h ∈ outstanding (s.dropIq iq) ↔ h ∈ outstanding s ∧ h ≠ iq.edit.handle := by
  simp only [outstanding, List.mem_map, State.dropIq, List.mem_filter, bne_iff_ne]
  constructor
  · rintro ⟨iq', ⟨hiq', hne⟩, rfl⟩
    refine ⟨⟨iq', hiq', rfl⟩, fun heq => hne ?_⟩
    rw [List.inj_on_of_nodup_map hw.handles hiq' hiq heq]
  · rintro ⟨⟨iq', hiq', rfl⟩, hne⟩
    refine ⟨iq', ⟨hiq', fun heq => hne ?_⟩, rfl⟩
    rw [List.inj_on_of_nodup_map hw.ids hiq' hiq heq]

theorem Wired.landed (hw : Wired s) (hiq : iq ∈ s.iqs) (hitem : s.item iq.edit.handle = some item) :
    Wired (s.landed iq item success) := by
  refine (landed_same s iq item success).wired ?_
  have hsub : (s.dropIq iq).iqs.Sublist s.iqs := List.filter_sublist
  refine ⟨(hsub.map _).nodup hw.handles, (hsub.map _).nodup hw.ids,
    fun iq' hiq' => hw.bound iq' (hsub.subset hiq'),
    fun iq' hiq' => hw.stanza iq' (hsub.subset hiq'), fun h => ?_, fun h item' edits hit hedits => ?_,
    fun hne => hw.received fun hnil => hne ?_⟩
  · have hout := mem_outstanding_dropIq hw hiq h
    rw [inFlight_setItem]
    refine hout.trans ?_
    rw [hw.flight]
    split
    · rename_i heq
      simp [heq]
    · rename_i hne
      exact and_iff_left hne
  · by_cases heq : h = iq.edit.handle
    · subst heq
      rw [setItem_item_self] at hit
      cases hit
      exact hw.unsent _ item edits hitem hedits
    · rw [setItem_item_ne _ _ heq] at hit
      exact hw.unsent h item' edits hit hedits
  · have hempty : (s.dropIq iq).iqs.Sublist [] := hnil ▸ hsub
    exact List.sublist_nil.mp hempty

end

theorem believeEdited_cases (s : State) (edit : ItemEdit) :
    s.believeEdited edit = s ∨
    ∃ item, s.item edit.handle = some item ∧ item.subscription = .remove ∧
      edit.newSubscription ≠ .remove ∧
      s.believeEdited edit =
        s.setItem edit.handle { item with subscription := edit.newSubscription } := by
  unfold State.believeEdited
  cases hitem : s.item edit.handle with
  | none => exact .inl rfl
  | some item =>
    dsimp only
    split
    · rename_i hcond
      exact .inr ⟨item, rfl, hcond.1, hcond.2, rfl⟩
    · exact .inl rfl

theorem Ledger.believeEdited (hs : Ledger s) (edit : ItemEdit) :
    Ledger (s.believeEdited edit) ∧ ∀ r, owed (s.believeEdited edit) r = owed s r := by
  rcases believeEdited_cases s edit with heq | ⟨item, hitem, _, _, heq⟩
  · rw [heq]
    exact ⟨hs, fun _ => rfl⟩
  · rw [heq]
    have howed : ∀ r, owed (s.setItem edit.handle
        { item with subscription := edit.newSubscription }) r = owed s r := owed_setItem hitem rfl
    exact ⟨hs.of_owed (hs.setItem _ _) howed, howed⟩

theorem Wired.believeEdited (hw : Wired s) (edit : ItemEdit) : Wired (s.believeEdited edit) := by
  rcases believeEdited_cases s edit with heq | ⟨item, hitem, _, _, heq⟩
  · rw [heq]
    exact hw
  · rw [heq]
    exact hw.replaceItem hitem (.inr rfl) rfl

theorem Ledger.itemMaybeRemove (hs : Ledger s) (h : Handle) :
    Ledger (s.itemMaybeRemove h).1 ∧ ∀ r, owed (s.itemMaybeRemove h).1 r = owed s r := by
  rcases itemMaybeRemove_cases s h with ⟨heq, _⟩ | ⟨item, hitem, _, heq⟩
  · rw [heq]
    exact ⟨hs, fun _ => rfl⟩
  · rw [heq]
    exact ⟨hs.removeItem hitem, owed_removeItem hitem⟩

theorem Wired.itemMaybeRemove (hw : Wired s) (h : Handle) : Wired (s.itemMaybeRemove h).1 := by
  rcases itemMaybeRemove_cases s h with ⟨heq, _⟩ | ⟨item, hitem, hrem, heq⟩
  · rw [heq]
    exact hw
  · rw [heq]
    exact hw.removeItem hitem hrem

/-- The answer pays what it owes. -/
theorem AtRest.answer {iq : Iq} (hs : AtRest s) (hw : Wired s) (success : Bool)
    (hiq : iq ∈ s.iqs) (hitem : s.item iq.edit.handle = some item) :
    AtRest (s.answered iq item success) := by
  have hland := hs.toLedger.landed success hw hiq hitem
  have happly := hland.itemApplyEdits iq.edit.handle
  obtain ⟨hbelieve, howed₁⟩ := happly.believeEdited iq.edit
  obtain ⟨hremove, howed₂⟩ := hbelieve.itemMaybeRemove iq.edit.handle
  have howed : ∀ r, owed ((((s.landed iq item success).itemApplyEdits iq.edit.handle).believeEdited
      iq.edit).itemMaybeRemove iq.edit.handle).1 r = iq.edit.results.count r := by
    intro r
    rw [howed₂, howed₁, owed_itemApplyEdits, owed_landed success hw hiq hitem, hs.settled]
    omega
  have hzero : ∀ r, owed (((((s.landed iq item success).itemApplyEdits
      iq.edit.handle).believeEdited iq.edit).itemMaybeRemove iq.edit.handle).1.itemEditFree
        iq.edit) r = 0 := by
    intro r
    rw [owed_itemEditFree, howed]
    omega
  refine ⟨⟨hremove.toInStep.itemEditFree fun r => ?_, fun r => (hzero r).ge⟩, hzero⟩
  have hr := howed r
  unfold owed at hr
  omega

/-! ## All turns -/

theorem AtRest.moves {s₀ : State} (hs : AtRest s) (hmoves : Moves keeps s s₀) : AtRest s₀ := by
  refine ⟨hmoves.ledger hs.toLedger, fun r => ?_⟩
  rw [hmoves.owed]
  exact hs.settled r

theorem AtRest.foldl_itemApplyEdits (hs : AtRest s) (l : List Handle) :
    AtRest (l.foldl State.itemApplyEdits s) := by
  induction l generalizing s with
  | nil => exact hs
  | cons h l ih =>
    refine ih ⟨hs.toLedger.itemApplyEdits h, fun r => ?_⟩
    rw [owed_itemApplyEdits]
    exact hs.settled r

theorem Wired.foldl_itemApplyEdits (hw : Wired s) (l : List Handle) :
    Wired (l.foldl State.itemApplyEdits s) := by
  induction l generalizing s with
  | nil => exact hw
  | cons h l ih => exact ih (hw.itemApplyEdits h)

theorem Turn.atRest (hturn : Turn keeps s e s') (hs : AtRest s) (hw : Wired s) : AtRest s' := by
  cases hturn with
  | moves hhead hmoves htail =>
    rename_i s₀ s₁
    have hs₀ : AtRest s₀ := by
      rcases hhead with rfl | ⟨r, hr, rfl⟩
      · exact hs
      · exact hs.callResult hr
    have hs₁ := hs₀.moves hmoves
    rcases htail with rfl | ⟨failed, rfl⟩
    · exact hs₁
    · exact hs₁.succeedOrFailInIdle failed
  | operation callback hmoves => exact hs.countdown callback hmoves
  | answer he hiq hitem => exact hs.answer hw _ hiq hitem
  | receive hrec hmoves =>
    rename_i s₁
    have hs₁ := hs.moves hmoves
    have hreceived : AtRest { s₁ with received := true } :=
      ⟨⟨hs₁.congr (fun _ => rfl) (fun _ => rfl) rfl rfl rfl, hs₁.paid⟩, hs₁.settled⟩
    exact hreceived.foldl_itemApplyEdits _
  | close => exact ⟨⟨hs.congr (fun _ => rfl) (fun _ => rfl) rfl rfl rfl, hs.paid⟩, hs.settled⟩

theorem Turn.wired (hturn : Turn keeps s e s') (hw : Wired s) : Wired s' := by
  refine hturn.preserves (fun s s' hsame hw => ?_) (fun _ _ hmove => hmove.wired)
    (fun iq item success _ hiq hitem hw => ?_) (fun s₁ hw₁ => ?_) hw
  · exact hw.congr hsame.items hsame.iqs hsame.nextIq hsame.received
  · have hland := hw.landed success hiq hitem
    exact ((hland.itemApplyEdits _).believeEdited _).itemMaybeRemove _
  · have hreceived : Wired { s₁ with received := true } :=
      ⟨hw₁.handles, hw₁.ids, hw₁.bound, hw₁.stanza, hw₁.flight, hw₁.unsent, fun _ => rfl⟩
    exact hreceived.foldl_itemApplyEdits _

/-- The invariants that hold between two events. -/
structure Sound (s : State) : Prop where
  atRest : AtRest s
  wired : Wired s

theorem sound_new (conn : Connection) : Sound (State.new conn) where
  atRest := by
    have howed : ∀ r, owed (State.new conn) r = 0 := fun r => rfl
    refine ⟨⟨⟨fun _ => le_rfl, fun _ _ => rfl, fun r => ?_, fun _ => rfl⟩, fun r => (howed r).ge⟩,
      howed⟩
    simp [State.new]
  wired := by
    refine ⟨List.nodup_nil, List.nodup_nil, fun _ hiq => ?_, fun _ hiq => ?_, fun h => ?_,
      fun h item edits hit => ?_, fun hne => absurd rfl hne⟩
    · cases hiq
    · cases hiq
    · refine iff_of_false (by simp [outstanding, State.new]) ?_
      rintro ⟨item, hitem, _⟩
      cases hitem
    · cases hit

theorem keeps_true (s : State) (e : Event) : e.Keeps (fun _ => True) s := by
  cases e <;> first
    | exact trivial
    | exact admits_of_forall (fun _ _ _ _ _ => trivial) _

theorem Sound.step (hs : Sound s) (hstep : step s e = some s') : Sound s' := by
  obtain ⟨_, hturn⟩ := step_turn hs.atRest hs.wired (keeps_true s e) trivial hstep
  exact ⟨hturn.atRest hs.atRest hs.wired, hturn.wired hs.wired⟩

theorem reachable_sound {ok : State → Event → Prop} {conn : Connection}
    (hreach : Reachable step ok (State.new conn) s) : Sound s :=
  hreach.invariant (sound_new conn) fun _ _ _ hs _ => hs.step

/-! ## The results of the operations -/

/-- An edit that is not finished holds the result. -/
def Held (s : State) (r : ResultId) : Prop :=
  (∃ h item edits, s.item h = some item ∧ item.unsentEdits = some edits ∧ r ∈ edits.results) ∨
    ∃ iq ∈ s.iqs, r ∈ iq.edit.results

theorem heldUnsent_pos_iff : 0 < heldUnsent s r ↔
    ∃ h item edits, s.item h = some item ∧ item.unsentEdits = some edits ∧ r ∈ edits.results := by
  refine Tally.total_pos_iff.trans ⟨?_, ?_⟩
  · rintro ⟨h, item, hitem, hpos⟩
    have hmem : r ∈ item.waiting := List.count_pos_iff.mp hpos
    unfold Item.waiting at hmem
    cases hedits : item.unsentEdits with
    | none =>
      rw [hedits] at hmem
      cases hmem
    | some edits =>
      rw [hedits] at hmem
      exact ⟨h, item, edits, hitem, hedits, hmem⟩
  · rintro ⟨h, item, edits, hitem, hedits, hmem⟩
    refine ⟨h, item, hitem, List.count_pos_iff.mpr ?_⟩
    rw [waiting_some hedits]
    exact hmem

theorem heldSent_pos_iff : 0 < heldSent s r ↔ ∃ iq ∈ s.iqs, r ∈ iq.edit.results := by
  unfold heldSent
  rw [List.sum_pos_iff_exists_pos_nat]
  simp only [List.mem_map, exists_exists_and_eq_and, List.count_pos_iff]

/-- A counter is zero when no edit holds the result. -/
theorem AtRest.todo_eq_zero_iff (hs : AtRest s) (r : ResultId) :
    (s.results r).todo = 0 ↔ ¬ Held s r := by
  have hsettled := hs.settled r
  unfold owed at hsettled
  unfold Held
  rw [← heldUnsent_pos_iff, ← heldSent_pos_iff]
  omega

/-- A server without Google's extensions. -/
def plainServer : Connection := ⟨0, false, true, fun _ => none⟩

/-- Two contacts are stored, and one of the roster sets is answered. -/
def storeRun : List Event :=
  [.rosterResult none [], .storeContacts [1, 2], .iqReply 0 true]

end Roster
