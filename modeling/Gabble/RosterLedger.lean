/-
# The counters of the asynchronous operations

An asynchronous operation of the contact list counts the edits that it waits for.
Each of these edits is unsent, and hangs off an item, or it waits for the answer to a
roster set.  What the counter says beyond that is owed by the code that runs: the
moves do not change it, and between two events it is zero.
-/
import Mathlib.Algebra.BigOperators.Group.List.Basic
import Mathlib.Tactic.Common
import Gabble.RosterMoves

open Transition

namespace Roster

variable {change : ItemEdit → ItemEdit} {keeps : Option ItemEdit → Prop}

/-! ## What the edits hold -/

/-- The results that wait for the unsent edits of an item. -/
def Item.waiting (item : Item) : List ResultId :=
  match item.unsentEdits with
  | none => []
  | some edits => edits.results

/-- The number of unsent edits that a result waits for. -/
def heldUnsent (s : State) (r : ResultId) : ℕ :=
  Tally.total (fun entry => entry.2.waiting.count r) s.items

/-- The number of roster sets that a result waits for. -/
def heldSent (s : State) (r : ResultId) : ℕ :=
  (s.iqs.map fun iq => iq.edit.results.count r).sum

/-- What the counter of a result says beyond the edits that hold it. -/
def owed (s : State) (r : ResultId) : ℤ := (s.results r).todo - (heldUnsent s r + heldSent s r)

variable {s s' : State} {h : Handle} {item : Item} {edits : ItemEdit} {r : ResultId}

theorem SameCore.owed (hcore : SameCore s s') (r : ResultId) : owed s' r = owed s r := by
  unfold Roster.owed heldUnsent heldSent
  rw [hcore.items, hcore.iqs, hcore.todo]

theorem SameItems.heldUnsent (hsame : SameItems s s') (r : ResultId) :
    heldUnsent s' r = heldUnsent s r := by
  unfold Roster.heldUnsent
  rw [hsame.items]

theorem SameItems.heldSent (hsame : SameItems s s') (r : ResultId) :
    heldSent s' r = heldSent s r := by
  unfold Roster.heldSent
  rw [hsame.iqs]

/-- What an item holds changes by the difference. -/
theorem heldUnsent_setItem (hitem : s.item h = some item) (item' : Item) (r : ResultId) :
    heldUnsent (s.setItem h item') r + item.waiting.count r =
      heldUnsent s r + item'.waiting.count r :=
  Tally.total_replace hitem

theorem heldUnsent_erase (hitem : s.item h = some item) (r : ResultId) :
    heldUnsent { s with items := s.items.erase h } r + item.waiting.count r = heldUnsent s r :=
  Tally.total_erase hitem

/-- An item that is created adds what it holds. -/
theorem heldUnsent_create (hnone : s.item h = none) (item : Item) (r : ResultId) :
    heldUnsent (s.setItem h item) r = heldUnsent s r + item.waiting.count r :=
  Tally.total_insert hnone

/-- One item holds no more than all of them. -/
theorem waiting_le_heldUnsent (hitem : s.item h = some item) (r : ResultId) :
    item.waiting.count r ≤ heldUnsent s r := by
  have herase := heldUnsent_erase hitem r
  omega

/-- An edit that is freed counts down its results. -/
theorem itemEditFree_todo (s : State) (edits : ItemEdit) (r : ResultId) :
    ((s.itemEditFree edits).results r).todo = (s.results r).todo - edits.results.count r := by
  unfold State.itemEditFree
  rw [foldl_countdownDec_todo, List.count_reverse]

/-- Freeing an edit pays what is owed for it. -/
theorem owed_itemEditFree (s : State) (edits : ItemEdit) (r : ResultId) :
    owed (s.itemEditFree edits) r = owed s r - edits.results.count r := by
  have hsame := itemEditFree_sameItems s edits
  unfold owed
  rw [itemEditFree_todo, hsame.heldUnsent, hsame.heldSent]
  omega

/-! ## The moves do not change what is owed -/

/-- An item is replaced by one with the same unsent edits. -/
theorem owed_setItem {item' : Item} (hitem : s.item h = some item)
    (hedits : item'.unsentEdits = item.unsentEdits) (r : ResultId) :
    owed (s.setItem h item') r = owed s r := by
  have hset := heldUnsent_setItem hitem item' r
  have hwait : item'.waiting = item.waiting := by simp only [Item.waiting, hedits]
  rw [hwait] at hset
  have heq : heldUnsent (s.setItem h item') r = heldUnsent s r := by omega
  unfold owed
  rw [heq]
  rfl

theorem owed_create (hnone : s.item h = none) (name : Option String) (r : ResultId) :
    owed (s.setItem h (Item.new name)) r = owed s r := by
  unfold owed
  rw [heldUnsent_create hnone]
  rfl

@[simp] theorem owed_record (s : State) (a : Action) (r : ResultId) :
    owed (s.record a) r = owed s r := rfl

theorem waiting_some (hedits : item.unsentEdits = some edits) : item.waiting = edits.results := by
  simp only [Item.waiting, hedits]

/-- Nothing is lost with an item: its edit is freed first. -/
theorem owed_removeItem (hitem : s.item h = some item) (r : ResultId) :
    owed (s.removeItem h item) r = owed s r := by
  have herase := heldUnsent_erase hitem r
  have howed : owed { s with items := s.items.erase h } r = owed s r + item.waiting.count r := by
    have hsent : heldSent { s with items := s.items.erase h } r = heldSent s r := rfl
    unfold owed
    rw [← herase, hsent]
    dsimp only
    omega
  unfold State.removeItem
  cases hedits : item.unsentEdits with
  | none =>
    have hwait : item.waiting = [] := by simp only [Item.waiting, hedits]
    rw [hwait, List.count_nil] at howed
    simpa using howed
  | some edits =>
    dsimp only
    rw [owed_itemEditFree, owed_record, howed, waiting_some hedits]
    omega

/-- The unsent edits leave the item. -/
theorem owed_clear {item' : Item} (hitem : s.item h = some item)
    (hedits : item.unsentEdits = some edits) (hnone : item'.unsentEdits = none) (r : ResultId) :
    owed (s.setItem h item') r = owed s r + edits.results.count r := by
  have hset := heldUnsent_setItem hitem item' r
  have hwait : item'.waiting = [] := by simp only [Item.waiting, hnone]
  rw [hwait, List.count_nil, waiting_some hedits] at hset
  have hsent : heldSent (s.setItem h item') r = heldSent s r := rfl
  unfold owed
  rw [hsent]
  dsimp only [State.setItem] at hset ⊢
  omega

theorem sent_results (edits : ItemEdit) (item : Item) :
    (edits.sent item).results = edits.results := by
  unfold ItemEdit.sent
  split <;> rfl

/-- The results go from the item to the IQ. -/
theorem owed_sentEdit (hitem : s.item h = some item) (hedits : item.unsentEdits = some edits)
    (stanza : Stanza) (r : ResultId) : owed (s.sentEdit h item edits stanza) r = owed s r := by
  have hset := heldUnsent_setItem hitem
    { item with unsentEdits := none, editsInFlight := true } r
  rw [waiting_some hedits] at hset
  have hunsent : heldUnsent (s.sentEdit h item edits stanza) r + edits.results.count r =
      heldUnsent s r := hset
  have hsent : heldSent (s.sentEdit h item edits stanza) r =
      heldSent s r + edits.results.count r := by
    simp [heldSent, State.sentEdit, State.setItem, sent_results]
  have htodo : (s.sentEdit h item edits stanza).results = s.results := rfl
  unfold owed
  rw [hsent, ← hunsent, htodo]
  omega

/-- An edit that changes nothing is freed at once. -/
theorem owed_unchangedEdit (hitem : s.item h = some item)
    (hedits : item.unsentEdits = some edits) (r : ResultId) :
    owed (s.unchangedEdit h item edits) r = owed s r := by
  unfold State.unchangedEdit
  rw [owed_itemEditFree, owed_record, owed_clear hitem hedits rfl]
  omega

theorem owed_itemApplyEdits (s : State) (h : Handle) (r : ResultId) :
    owed (s.itemApplyEdits h) r = owed s r := by
  rcases itemApplyEdits_cases s h with ⟨heq, _⟩ | ⟨item, edits, s₁, hitem, _, _, hedits, hcore, hcase⟩
  · rw [heq]
  · have hitem₁ : s₁.item h = some item := (hcore.item h).trans hitem
    rw [← hcore.owed r]
    rcases hcase with ⟨_, _, heq⟩ | ⟨stanza, _, _, heq⟩ | ⟨_, heq⟩
    · rw [heq]
      rfl
    · rw [heq, owed_sentEdit hitem₁ hedits]
    · rw [heq, owed_unchangedEdit hitem₁ hedits]

/-- One more is owed to the operation. -/
theorem owed_countdownInc (hrun : 1 ≤ (s.results r).todo) (r' : ResultId) :
    owed (s.countdownInc r) r' = owed s r' + if r' = r then 1 else 0 := by
  have hsame := countdownInc_sameItems s r
  unfold owed
  rw [hsame.heldUnsent, hsame.heldSent]
  simp only [State.countdownInc, if_pos hrun, State.setResult]
  by_cases heq : r' = r
  · subst heq
    simp
    omega
  · simp [heq]

/-- More results wait for the unsent edits of an item. -/
theorem owed_collect {item' : Item} {rs : List ResultId} (hitem : s.item h = some item)
    (hwait : item'.waiting = rs ++ item.waiting) (r : ResultId) :
    owed (s.setItem h item') r = owed s r - rs.count r := by
  have hset := heldUnsent_setItem hitem item' r
  rw [hwait, List.count_append] at hset
  have hunsent : heldUnsent (s.setItem h item') r = heldUnsent s r + rs.count r := by omega
  have hsent : heldSent (s.setItem h item') r = heldSent s r := rfl
  have htodo : (s.setItem h item').results = s.results := rfl
  unfold owed
  rw [hunsent, hsent, htodo]
  omega

theorem waiting_queue (hchange : EditChange change)
    (item : Item) (h : Handle) (result : Option ResultId) :
    Item.waiting { item with
      unsentEdits := some (change ((item.edits h).addResult result)) } =
      result.toList ++ item.waiting := by
  have hnew : Item.waiting { item with
      unsentEdits := some (change ((item.edits h).addResult result)) } =
      ((item.edits h).addResult result).results := hchange.results _
  rw [hnew]
  unfold ItemEdit.addResult Item.edits Item.waiting
  cases item.unsentEdits <;> rfl

/-- The result of a request waits for the edit that collects it. -/
theorem owed_collected {result : Option ResultId}
    (hchange : EditChange change) (hrun : ∀ r, result = some r → 1 ≤ (s.results r).todo)
    (hitem : s.item h = some item) (r : ResultId) :
    owed (s.collected h item result change) r = owed s r := by
  have hwait := waiting_queue hchange item h result
  unfold State.collected
  cases result with
  | none =>
    rw [owed_collect hitem hwait]
    simp
  | some r₀ =>
    have hitem' : (s.countdownInc r₀).item h = some item := by
      rw [(countdownInc_sameItems s r₀).item, hitem]
    dsimp only
    rw [owed_collect hitem' hwait, owed_countdownInc (hrun r₀ rfl)]
    by_cases heq : r = r₀
    · subst heq
      simp
    · simp [heq, Ne.symm heq]

/-- A queued edit holds the result that waits for it. -/
theorem owed_queueEdit {result : Option ResultId}
    (hchange : EditChange change) (hrun : ∀ r, result = some r → 1 ≤ (s.results r).todo)
    (r : ResultId) : owed (s.queueEdit h result change) r = owed s r := by
  cases hitem : s.item h with
  | none => rw [queueEdit_of_none hitem]
  | some item =>
    rw [queueEdit_eq hitem, owed_itemApplyEdits, owed_collected hchange hrun hitem]

theorem Move.owed (hmove : Move keeps s s') (r : ResultId) :
    owed s' r = owed s r := by
  cases hmove with
  | frame hcore => exact hcore.owed r
  | create h name hnone => exact owed_create hnone name r
  | adjust h item' hitem hedits _ _ _ => exact owed_setItem hitem hedits r
  | remove h hitem _ _ => exact owed_removeItem hitem r
  | queue h result hchange hrun => exact owed_queueEdit hchange hrun r

theorem Moves.owed (hmoves : Moves keeps s s') (r : ResultId) :
    owed s' r = owed s r :=
  hmoves.preserves (I := fun t => Roster.owed t r = Roster.owed s r)
    (fun _ _ hmove ht => (hmove.owed r).trans ht) rfl

/-! ## The moves keep the counters in step -/

/-- The counters are in step, and none of them is too low for the edits that hold its
result. -/
structure Ledger (s : State) : Prop extends InStep s where
  paid : ∀ r, 0 ≤ owed s r

theorem InStep.congr (hs : InStep s) (htodo : ∀ r, (s'.results r).todo = (s.results r).todo)
    (hcompletions : ∀ r, (s'.results r).completions = (s.results r).completions)
    (hnext : s'.nextResult = s.nextResult) (hidle : s'.idle = s.idle)
    (hcalled : calledResults s'.log = calledResults s.log) : InStep s' where
  nonneg r := by
    rw [htodo]
    exact hs.nonneg r
  fresh r hr := by
    rw [htodo]
    exact hs.fresh r (hnext ▸ hr)
  completions r := by
    rw [hcompletions, htodo, hnext]
    exact hs.completions r
  called r := by
    rw [hcalled, hidle, hcompletions]
    exact hs.called r

theorem calledResults_append (log log' : List Action) :
    calledResults (log ++ log') = calledResults log ++ calledResults log' :=
  List.filterMap_append ..

theorem calledResults_quiet {acts : List Action} (hq : ∀ a ∈ acts, a.quiet = true) :
    calledResults acts = [] := by
  refine List.filterMap_eq_nil_iff.mpr fun a ha => ?_
  have := hq a ha
  cases a <;> simp_all [Action.quiet]

theorem SameCore.calledResults (hcore : SameCore s s') :
    calledResults s'.log = calledResults s.log := by
  obtain ⟨acts, hlog, hq⟩ := hcore.log
  rw [hlog, calledResults_append, calledResults_quiet hq, List.append_nil]

theorem SameCore.inStep (hcore : SameCore s s') (hs : InStep s) : InStep s' :=
  hs.congr hcore.todo hcore.completions hcore.nextResult hcore.idle hcore.calledResults

theorem InStep.setItem (hs : InStep s) (h : Handle) (item : Item) : InStep (s.setItem h item) :=
  hs.congr (fun _ => rfl) (fun _ => rfl) rfl rfl rfl

/-- Freeing an edit keeps the operations in step. -/
theorem InStep.itemEditFree (hs : InStep s)
    (hcount : ∀ r, (edits.results.count r : ℤ) ≤ (s.results r).todo) :
    InStep (s.itemEditFree edits) := by
  refine hs.foldl_countdownDec _ fun r => ?_
  rw [List.count_reverse]
  exact hcount r

/-- The counters are high enough for the unsent edits of an item. -/
theorem Ledger.count_le (hs : Ledger s) (hitem : s.item h = some item)
    (hedits : item.unsentEdits = some edits) (r : ResultId) :
    (edits.results.count r : ℤ) ≤ (s.results r).todo := by
  have hle := waiting_le_heldUnsent hitem r
  have hpaid := hs.paid r
  rw [waiting_some hedits] at hle
  unfold owed at hpaid
  omega

/-- The counters are in step, and nothing else is owed. -/
theorem Ledger.of_owed (hs : Ledger s) (hs' : InStep s') (howed : ∀ r, owed s' r = owed s r) :
    Ledger s' where
  toInStep := hs'
  paid r := by
    rw [howed]
    exact hs.paid r

theorem SameCore.ledger (hcore : SameCore s s') (hs : Ledger s) : Ledger s' :=
  hs.of_owed (hcore.inStep hs.toInStep) hcore.owed

theorem Ledger.removeItem (hs : Ledger s) (hitem : s.item h = some item) :
    Ledger (s.removeItem h item) := by
  refine hs.of_owed ?_ (owed_removeItem hitem)
  unfold State.removeItem
  cases hedits : item.unsentEdits with
  | none => exact hs.congr (fun _ => rfl) (fun _ => rfl) rfl rfl rfl
  | some edits =>
    refine InStep.itemEditFree ?_ (hs.count_le hitem hedits)
    refine hs.congr (fun _ => rfl) (fun _ => rfl) rfl rfl ?_
    simp [State.record, calledResults]

/-- An edit is applied, and sent or freed. -/
theorem Ledger.itemApplyEdits (hs : Ledger s) (h : Handle) : Ledger (s.itemApplyEdits h) := by
  refine hs.of_owed ?_ (owed_itemApplyEdits s h)
  rcases itemApplyEdits_cases s h with
    ⟨heq, _⟩ | ⟨item, edits, s₁, hitem, _, _, hedits, hcore, hcase⟩
  · rw [heq]
    exact hs.toInStep
  · have hs₁ : Ledger s₁ := hcore.ledger hs
    have hitem₁ : s₁.item h = some item := (hcore.item h).trans hitem
    rcases hcase with ⟨_, _, heq⟩ | ⟨stanza, _, _, heq⟩ | ⟨_, heq⟩
    · rw [heq]
      exact hs₁.congr (fun _ => rfl) (fun _ => rfl) rfl rfl rfl
    · rw [heq]
      refine hs₁.congr (fun _ => rfl) (fun _ => rfl) rfl rfl ?_
      simp [State.sentEdit, State.setItem, calledResults]
    · rw [heq]
      refine InStep.itemEditFree ?_ (hs₁.count_le hitem₁ hedits)
      refine hs₁.congr (fun _ => rfl) (fun _ => rfl) rfl rfl ?_
      simp [State.record, State.setItem, calledResults]

/-- An operation that runs may count up. -/
theorem InStep.countdownInc (hs : InStep s) (hrun : 1 ≤ (s.results r).todo) :
    InStep (s.countdownInc r) := by
  have hlt : r < s.nextResult := by
    by_contra hge
    have hzero := hs.fresh r (Nat.le_of_not_lt hge)
    omega
  have htodo : ∀ r', ((s.countdownInc r).results r').todo =
      (s.results r').todo + if r' = r then 1 else 0 := by
    intro r'
    by_cases heq : r' = r <;> simp [State.countdownInc, hrun, State.setResult, heq]
  have hcompletions : ∀ r', ((s.countdownInc r).results r').completions =
      (s.results r').completions := by
    intro r'
    by_cases heq : r' = r <;> simp [State.countdownInc, hrun, State.setResult, heq]
  have hsame := countdownInc_sameItems s r
  refine ⟨fun r' => ?_, fun r' hr' => ?_, fun r' => ?_, fun r' => ?_⟩
  · rw [htodo]
    have := hs.nonneg r'
    split <;> omega
  · rw [hsame.nextResult] at hr'
    rw [htodo, hs.fresh r' hr', if_neg (hlt.trans_le hr').ne']
    rfl
  · rw [hcompletions, htodo, hsame.nextResult, hs.completions r']
    by_cases heq : r' = r
    · subst heq
      rw [if_pos rfl, if_neg (by omega), if_neg (by omega)]
    · simp [heq]
  · have hidle : (s.countdownInc r).idle = s.idle := by
      simp [State.countdownInc, hrun, State.setResult]
    rw [hsame.log, hidle, hcompletions]
    exact hs.called r'

theorem Ledger.queueEdit {result : Option ResultId} (hs : Ledger s) (hchange : EditChange change)
    (hrun : ∀ r, result = some r → 1 ≤ (s.results r).todo) (h : Handle) :
    Ledger (s.queueEdit h result change) := by
  refine queueEdit_ind hs fun item hitem => ?_
  refine Ledger.itemApplyEdits (hs.of_owed ?_ (owed_collected hchange hrun hitem)) h
  unfold State.collected
  cases result with
  | none => exact hs.setItem h _
  | some r => exact (hs.countdownInc (hrun r rfl)).setItem h _

theorem Move.ledger (hmove : Move keeps s s') (hs : Ledger s) :
    Ledger s' := by
  cases hmove with
  | frame hcore => exact hcore.ledger hs
  | create h name hnone => exact hs.of_owed (hs.setItem h _) (owed_create hnone name)
  | adjust h item' hitem hedits _ _ _ =>
    exact hs.of_owed (hs.setItem h _) (owed_setItem hitem hedits)
  | remove h hitem _ _ => exact hs.removeItem hitem
  | queue h result hchange hrun => exact hs.queueEdit hchange hrun h

theorem Moves.ledger (hmoves : Moves keeps s s')
    (hs : Ledger s) : Ledger s' :=
  hmoves.preserves (fun _ _ hmove => hmove.ledger) hs

end Roster
