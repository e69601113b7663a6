/-
# What the operations of the roster do

Every operation is a sequence of a few moves on the items, the roster sets and the
results: an item is created, adjusted or removed, an edit is queued and sent or
found to change nothing.  The invariants of the runs are proved for the moves.
-/
import Mathlib.Logic.Relation
import Mathlib.Tactic.Common
import Gabble.Roster
import Gabble.Tally

open Transition

namespace Roster

/-! ## The results -/

/-- The results whose callback was called. -/
def calledResults (log : List Action) : List ResultId :=
  log.filterMap fun
    | .called r _ => some r
    | _ => none

/-- An entry of the history that says nothing about edits and results. -/
def Action.quiet : Action → Bool
  | .destroyed _ => false
  | .called _ _ => false
  | _ => true

/-- What concerns the items, the roster sets and the counters is the same. -/
structure SameCore (s s' : State) : Prop where
  googleRoster : s'.conn.googleRoster = s.conn.googleRoster
  items : s'.items = s.items
  iqs : s'.iqs = s.iqs
  nextIq : s'.nextIq = s.nextIq
  received : s'.received = s.received
  closed : s'.closed = s.closed
  todo : ∀ r, (s'.results r).todo = (s.results r).todo
  completions : ∀ r, (s'.results r).completions = (s.results r).completions
  nextResult : s'.nextResult = s.nextResult
  idle : s'.idle = s.idle
  fault : s'.fault = s.fault
  log : ∃ acts, s'.log = s.log ++ acts ∧ ∀ a ∈ acts, a.quiet = true

variable {s s' s'' : State}

theorem SameCore.refl (s : State) : SameCore s s := by
  constructor <;> intros <;> first | rfl | exact ⟨[], by simp, by simp⟩

theorem SameCore.trans (h : SameCore s s') (h' : SameCore s' s'') : SameCore s s'' where
  googleRoster := h'.googleRoster.trans h.googleRoster
  items := h'.items.trans h.items
  iqs := h'.iqs.trans h.iqs
  nextIq := h'.nextIq.trans h.nextIq
  received := h'.received.trans h.received
  closed := h'.closed.trans h.closed
  todo r := (h'.todo r).trans (h.todo r)
  completions r := (h'.completions r).trans (h.completions r)
  nextResult := h'.nextResult.trans h.nextResult
  idle := h'.idle.trans h.idle
  fault := h'.fault.trans h.fault
  log := by
    obtain ⟨acts, hacts, hq⟩ := h.log
    obtain ⟨acts', hacts', hq'⟩ := h'.log
    refine ⟨acts ++ acts', by rw [hacts', hacts, List.append_assoc], fun a ha => ?_⟩
    exact (List.mem_append.mp ha).elim (hq a) (hq' a)

theorem SameCore.item (h : SameCore s s') (c : Handle) : s'.item c = s.item c := by
  simp only [State.item, h.items]

theorem record_sameCore (s : State) {a : Action} (ha : a.quiet = true) :
    SameCore s (s.record a) := by
  refine ⟨rfl, rfl, rfl, rfl, rfl, rfl, fun _ => rfl, fun _ => rfl, rfl, rfl, rfl, [a], rfl, ?_⟩
  intro b hb
  rw [List.mem_singleton.mp hb]
  exact ha

theorem setFromError_sameCore (s : State) (r : ResultId) : SameCore s (s.setFromError r) := by
  refine ⟨rfl, rfl, rfl, rfl, rfl, rfl, fun r' => ?_, fun r' => ?_, rfl, rfl, rfl, [], by
    simp [State.setFromError, State.setResult], by simp⟩ <;>
    by_cases hr : r' = r <;> simp [State.setFromError, State.setResult, hr]

/-- By induction on the list. -/
theorem foldl_sameCore {α : Type} (f : State → α → State) (hf : ∀ s a, SameCore s (f s a))
    (l : List α) (s : State) : SameCore s (l.foldl f s) := by
  induction l generalizing s with
  | nil => exact .refl s
  | cons a l ih => exact (hf s a).trans (ih (f s a))

theorem sendPresence_sameCore (s : State) (type : PresenceType) (contact : Handle)
    (status : String) : SameCore s (s.sendPresence type contact status).1 := by
  unfold State.sendPresence
  split
  · exact record_sameCore s rfl
  · exact .refl s

theorem itemCancelSubscriptions_sameCore (s : State) (contact : Handle) (item : Item) :
    SameCore s (s.itemCancelSubscriptions contact item).1 := by
  unfold State.itemCancelSubscriptions
  generalize hp : (if item.subscription = .from_ ∨ item.subscription = .both then
    s.sendPresence .unsubscribed contact "" else (s, true)) = p
  have h : SameCore s p.1 := by
    rw [← hp]
    split
    · exact sendPresence_sameCore ..
    · exact .refl s
  obtain ⟨s₁, ret⟩ := p
  dsimp only
  split
  · exact h.trans (sendPresence_sameCore ..)
  · exact h

/-- Presences are sent, and a failure is left in the results. -/
theorem applyCancel_sameCore (s : State) (contact : Handle) (item : Item) (edits : ItemEdit) :
    SameCore s (s.applyCancel contact item edits) := by
  unfold State.applyCancel
  split
  · have h := itemCancelSubscriptions_sameCore s contact item
    dsimp only
    split
    · exact h
    · exact h.trans (foldl_sameCore _ setFromError_sameCore _ _)
  · exact .refl s

/-! ## Counting down -/

section

variable (s) (r : ResultId)

/-- One less is to do. -/
theorem countdownDec_todo (r' : ResultId) : ((s.countdownDec r).results r').todo =
    (s.results r').todo - if r' = r then 1 else 0 := by
  unfold State.countdownDec
  dsimp only
  split <;> by_cases hr : r' = r <;>
    simp [State.completeInIdle, State.setResult, hr]

theorem countdownDec_completions (r' : ResultId) :
    ((s.countdownDec r).results r').completions = (s.results r').completions +
      if r' = r ∧ (s.results r).todo ≤ 1 then 1 else 0 := by
  unfold State.countdownDec
  dsimp only
  split <;> rename_i h <;> simp only [State.setResult, Function.update_self] at h <;>
    by_cases hr : r' = r <;> simp [State.completeInIdle, State.setResult, hr] <;> omega

/-- The operation completes when nothing is left. -/
theorem countdownDec_idle : (s.countdownDec r).idle =
    s.idle ++ if (s.results r).todo ≤ 1 then [r] else [] := by
  unfold State.countdownDec
  dsimp only
  split <;> rename_i h <;> simp only [State.setResult, Function.update_self] at h
  · rw [if_pos (by omega)]
    rfl
  · rw [if_neg (by omega)]
    exact (List.append_nil _).symm

end

/-- Only the results differ. -/
structure SameItems (s s' : State) : Prop where
  conn : s'.conn = s.conn
  items : s'.items = s.items
  iqs : s'.iqs = s.iqs
  nextIq : s'.nextIq = s.nextIq
  received : s'.received = s.received
  closed : s'.closed = s.closed
  nextResult : s'.nextResult = s.nextResult
  fault : s'.fault = s.fault
  log : s'.log = s.log

theorem SameItems.refl (s : State) : SameItems s s := by
  constructor <;> rfl

theorem SameItems.trans (h : SameItems s s') (h' : SameItems s' s'') : SameItems s s'' where
  conn := h'.conn.trans h.conn
  items := h'.items.trans h.items
  iqs := h'.iqs.trans h.iqs
  nextIq := h'.nextIq.trans h.nextIq
  received := h'.received.trans h.received
  closed := h'.closed.trans h.closed
  nextResult := h'.nextResult.trans h.nextResult
  fault := h'.fault.trans h.fault
  log := h'.log.trans h.log

theorem SameItems.item (h : SameItems s s') (c : Handle) : s'.item c = s.item c := by
  simp only [State.item, h.items]

theorem countdownDec_sameItems (s : State) (r : ResultId) : SameItems s (s.countdownDec r) := by
  unfold State.countdownDec
  dsimp only
  split <;> constructor <;> rfl

theorem countdownInc_sameItems (s : State) (r : ResultId) : SameItems s (s.countdownInc r) := by
  unfold State.countdownInc
  split <;> constructor <;> rfl

/-- The counters, the results that complete and the callbacks are in step: a result is
scheduled once, when nothing is left to do. -/
structure InStep (s : State) : Prop where
  nonneg : ∀ r, 0 ≤ (s.results r).todo
  fresh : ∀ r, s.nextResult ≤ r → (s.results r).todo = 0
  completions : ∀ r, (s.results r).completions =
    if r < s.nextResult ∧ (s.results r).todo = 0 then 1 else 0
  called : ∀ r, (calledResults s.log).count r + s.idle.count r = (s.results r).completions

theorem InStep.countdownDec (h : InStep s) {r : ResultId} (hr : 1 ≤ (s.results r).todo) :
    InStep (s.countdownDec r) := by
  have hsame := countdownDec_sameItems s r
  have hlt : r < s.nextResult := by
    by_contra hge
    have hzero := h.fresh r (Nat.le_of_not_lt hge)
    omega
  refine ⟨fun r' => ?_, fun r' hr' => ?_, fun r' => ?_, fun r' => ?_⟩
  · rw [countdownDec_todo]
    have := h.nonneg r'
    split
    · rename_i heq
      subst heq
      omega
    · omega
  · rw [hsame.nextResult] at hr'
    have hne : r' ≠ r := (hlt.trans_le hr').ne'
    rw [countdownDec_todo, h.fresh r' hr', if_neg hne]
    rfl
  · rw [countdownDec_completions, countdownDec_todo, hsame.nextResult, h.completions r']
    by_cases heq : r' = r
    · subst heq
      simp only [hlt, true_and, if_true]
      split <;> split <;> split <;> omega
    · simp [heq]
  · rw [hsame.log, countdownDec_idle, countdownDec_completions, ← h.called r', List.count_append]
    by_cases heq : r' = r
    · subst heq
      split <;> rename_i hle <;> simp [hle, Nat.add_assoc]
    · split <;> simp [heq, Ne.symm heq]

/-- Several counters are decremented at once. -/
theorem foldl_countdownDec_todo (rs : List ResultId) (s : State) (r : ResultId) :
    ((rs.foldl State.countdownDec s).results r).todo = (s.results r).todo - rs.count r := by
  induction rs generalizing s with
  | nil => simp
  | cons r' rs ih =>
    rw [List.foldl_cons, ih, countdownDec_todo, List.count_cons]
    by_cases heq : r = r'
    · subst heq
      simp
      omega
    · simp [heq, Ne.symm heq]

theorem foldl_countdownDec_sameItems (rs : List ResultId) (s : State) :
    SameItems s (rs.foldl State.countdownDec s) := by
  induction rs generalizing s with
  | nil => exact .refl s
  | cons r rs ih => exact (countdownDec_sameItems s r).trans (ih _)

theorem itemEditFree_sameItems (s : State) (edits : ItemEdit) :
    SameItems s (s.itemEditFree edits) :=
  foldl_countdownDec_sameItems _ s

/-- By induction on the results. -/
theorem InStep.foldl_countdownDec (rs : List ResultId) (h : InStep s)
    (hrs : ∀ r, (rs.count r : ℤ) ≤ (s.results r).todo) :
    InStep (rs.foldl State.countdownDec s) := by
  induction rs generalizing s with
  | nil => exact h
  | cons r rs ih =>
    have hr := hrs r
    rw [List.count_cons_self] at hr
    refine ih (h.countdownDec (by omega)) fun r' => ?_
    have hr' := hrs r'
    rw [countdownDec_todo]
    rw [List.count_cons] at hr'
    by_cases heq : r' = r
    · subst heq
      simp at hr' ⊢
      omega
    · simp [heq, Ne.symm heq] at hr' ⊢
      omega

/-! ## The items -/

@[simp] theorem setItem_item_self (s : State) (h : Handle) (item : Item) :
    (s.setItem h item).item h = some item := by
  simp [State.setItem, State.item]

@[simp] theorem setItem_item_ne (s : State) (item : Item) {h h' : Handle} (hne : h' ≠ h) :
    (s.setItem h item).item h' = s.item h' := by
  simp [State.setItem, State.item, AList.lookup_insert_ne hne]

/-- The server has removed it, and no edit and neither list holds it. -/
theorem Item.removable_iff (item : Item) : item.removable = true ↔
    item.subscription = .remove ∧ item.editsInFlight = false ∧ item.publish = .no ∧
      item.subscribe = .no := by
  simp [Item.removable, and_assoc]

/-- The item leaves the table, and its unsent edits are freed. -/
def State.removeItem (s : State) (h : Handle) (item : Item) : State :=
  match item.unsentEdits with
  | none => { s with items := s.items.erase h }
  | some edits =>
    ({ s with items := s.items.erase h }.record (.destroyed edits)).itemEditFree edits

theorem removeItem_item (s : State) (h h' : Handle) (item : Item) :
    (s.removeItem h item).item h' = if h' = h then none else s.item h' := by
  have herase : State.item { s with items := s.items.erase h } h' =
      if h' = h then none else s.item h' := by
    split
    · rename_i heq
      rw [heq]
      exact AList.lookup_erase ..
    · rename_i hne
      exact AList.lookup_erase_ne hne
  unfold State.removeItem
  split
  · exact herase
  · rw [(itemEditFree_sameItems _ _).item]
    exact herase

/-- But for the items and the results the state stays. -/
theorem removeItem_kept (s : State) (h : Handle) (item : Item) :
    (s.removeItem h item).received = s.received ∧ (s.removeItem h item).iqs = s.iqs ∧
      (s.removeItem h item).conn = s.conn ∧ (s.removeItem h item).fault = s.fault := by
  unfold State.removeItem
  split
  · exact ⟨rfl, rfl, rfl, rfl⟩
  next edits _ =>
    have hsame := itemEditFree_sameItems
      ({ s with items := s.items.erase h }.record (.destroyed edits)) edits
    exact ⟨hsame.received, hsame.iqs, hsame.conn, hsame.fault⟩

/-- An item is removed or left alone. -/
theorem itemMaybeRemove_cases (s : State) (h : Handle) :
    (s.itemMaybeRemove h = (s, false) ∧ ∀ item, s.item h = some item → item.removable = false) ∨
    ∃ item, s.item h = some item ∧ item.removable = true ∧
      s.itemMaybeRemove h = (s.removeItem h item, true) := by
  unfold State.itemMaybeRemove
  cases hitem : s.item h with
  | none => exact .inl ⟨rfl, fun _ heq => by cases heq⟩
  | some item =>
    cases hrem : item.removable with
    | false => exact .inl ⟨by simp [hrem], fun item' heq => Option.some.inj heq ▸ hrem⟩
    | true =>
      refine .inr ⟨item, rfl, hrem, ?_⟩
      unfold State.removeItem
      cases hedits : item.unsentEdits <;> simp [hrem, hedits]

/-- The edit is sent. -/
def State.sentEdit (s : State) (contact : Handle) (item : Item) (edits : ItemEdit)
    (stanza : Stanza) : State :=
  { s.setItem contact { item with unsentEdits := none, editsInFlight := true } with
    iqs := s.iqs ++ [⟨s.nextIq, edits.sent item, stanza⟩]
    nextIq := s.nextIq + 1
    log := s.log ++ [.rosterSet s.nextIq stanza] }

/-- The edit changes nothing, and is freed. -/
def State.unchangedEdit (s : State) (contact : Handle) (item : Item) (edits : ItemEdit) : State :=
  ((s.setItem contact { item with unsentEdits := none }).record (.unchanged edits)).itemEditFree
    edits

/-- `roster_item_apply_edits` by cases. -/
theorem itemApplyEdits_cases (s : State) (h : Handle) :
    (s.itemApplyEdits h = s ∧ (s.received = true → ∀ item, s.item h = some item →
      item.unsentEdits ≠ none → item.editsInFlight = true)) ∨
    ∃ item edits s₁, s.item h = some item ∧ s.received = true ∧ item.editsInFlight = false ∧
      item.unsentEdits = some edits ∧ SameCore s s₁ ∧
      ((edits.alters item = true ∧
          (edits.editedItem item).toMessage h s.conn.googleRoster = none ∧
          s.itemApplyEdits h = { s₁ with fault := some .assertNotReached }) ∨
        (∃ stanza, edits.alters item = true ∧
          (edits.editedItem item).toMessage h s.conn.googleRoster = some stanza ∧
          s.itemApplyEdits h = s₁.sentEdit h item edits stanza) ∨
        (edits.alters item = false ∧ s.itemApplyEdits h = s₁.unchangedEdit h item edits)) := by
  unfold State.itemApplyEdits
  cases hitem : s.item h with
  | none => exact .inl ⟨rfl, fun _ _ heq => by cases heq⟩
  | some item =>
    by_cases hskip : s.received = false ∨ item.editsInFlight = true
    · refine .inl ⟨?_, fun hrec item' heq _ => ?_⟩
      · rcases hskip with hs | hs <;> simp [hs]
      · cases heq
        exact hskip.resolve_left (by simp [hrec])
    · push Not at hskip
      obtain ⟨hrec, hflight⟩ := hskip
      simp only [ne_eq, Bool.not_eq_false, Bool.not_eq_true] at hrec hflight
      cases hedits : item.unsentEdits with
      | none =>
        refine .inl ⟨by simp [hrec, hflight, hedits], fun _ item' heq hne => ?_⟩
        cases heq
        exact absurd hedits hne
      | some edits =>
        have hcore := applyCancel_sameCore s h item edits
        refine .inr ⟨item, edits, _, rfl, hrec, hflight, hedits, hcore, ?_⟩
        have hcond : ¬ (!s.received || item.editsInFlight) = true := by simp [hrec, hflight]
        simp only [if_neg hcond, hedits]
        cases hal : edits.alters item with
        | false => exact .inr (.inr ⟨rfl, rfl⟩)
        | true =>
          simp only [if_true, State.sendEdits, hcore.googleRoster]
          cases hmsg : (edits.editedItem item).toMessage h s.conn.googleRoster with
          | none => exact .inl ⟨trivial, rfl, rfl⟩
          | some stanza => exact .inr (.inl ⟨stanza, trivial, rfl, rfl⟩)

/-- The edit is collected, and not yet applied. -/
def State.collected (s : State) (contact : Handle) (item : Item) (result : Option ResultId)
    (change : ItemEdit → ItemEdit) : State :=
  (match result with
    | none => s
    | some r => s.countdownInc r).setItem contact { item with
      unsentEdits := some (change ((item.edits contact).addResult result)) }

/-- The edit is collected, and applied if no IQ is outstanding. -/
theorem queueEdit_eq {h : Handle} {item : Item} (hitem : s.item h = some item)
    (result : Option ResultId) (change : ItemEdit → ItemEdit) :
    s.queueEdit h result change = (s.collected h item result change).itemApplyEdits h := by
  unfold State.queueEdit
  rw [hitem]
  rfl

/-- Collecting an edit changes one item and one counter. -/
theorem collected_same (s : State) (h : Handle) (item : Item) (result : Option ResultId)
    (change : ItemEdit → ItemEdit) :
    SameItems (s.setItem h { item with
      unsentEdits := some (change ((item.edits h).addResult result)) })
      (s.collected h item result change) := by
  unfold State.collected
  cases result with
  | none => exact .refl _
  | some r =>
    have hinc := countdownInc_sameItems s r
    constructor <;> first
      | exact hinc.conn | exact hinc.iqs | exact hinc.nextIq | exact hinc.received
      | exact hinc.closed | exact hinc.nextResult | exact hinc.fault | exact hinc.log
      | (simp only [State.setItem]; rw [hinc.items])

theorem queueEdit_of_none {h : Handle} (hnone : s.item h = none) (result : Option ResultId)
    (change : ItemEdit → ItemEdit) : s.queueEdit h result change = s := by
  unfold State.queueEdit
  rw [hnone]

/-- Only an edit for a contact that has an item does anything. -/
theorem queueEdit_ind {P : State → Prop} {h : Handle} {result : Option ResultId}
    {change : ItemEdit → ItemEdit} (hs : P s)
    (hitem : ∀ item, s.item h = some item → P ((s.collected h item result change).itemApplyEdits h)) :
    P (s.queueEdit h result change) := by
  cases hcase : s.item h with
  | none => exact (queueEdit_of_none hcase result change).symm ▸ hs
  | some item => exact (queueEdit_eq hcase result change).symm ▸ hitem item hcase

/-! ## The moves -/

/-- What a request may do to the edit that collects the changes. -/
structure EditChange (change : ItemEdit → ItemEdit) : Prop where
  results : ∀ edits, (change edits).results = edits.results
  handle : ∀ edits, (change edits).handle = edits.handle
  subscription : ∀ edits, (change edits).newSubscription = edits.newSubscription ∨
    (change edits).newSubscription = .remove

/-- One move.  `keeps` is asked of the unsent edits of an item that is removed before the
roster has been received. -/
inductive Move (keeps : Option ItemEdit → Prop) (s : State) : State → Prop where
  | frame {s' : State} (h : SameCore s s') : Move keeps s s'
  | create (h : Handle) (name : Option String) (hnone : s.item h = none) :
      Move keeps s (s.setItem h (Item.new name))
  | adjust (h : Handle) {item : Item} (item' : Item) (hitem : s.item h = some item)
      (hedits : item'.unsentEdits = item.unsentEdits)
      (hflight : item'.editsInFlight = item.editsInFlight)
      (hsub : item'.subscription = item.subscription ∨
        (item'.subscription ≠ .invalid ∧ s.fault = none))
      (hgoogle : item'.googleType = item.googleType ∨ s.conn.googleRoster = true) :
      Move keeps s (s.setItem h item')
  | remove (h : Handle) {item : Item} (hitem : s.item h = some item)
      (hrem : item.removable = true) (hkeep : s.received = false → keeps item.unsentEdits) :
      Move keeps s (s.removeItem h item)
  | queue (h : Handle) (result : Option ResultId) {change : ItemEdit → ItemEdit}
      (hchange : EditChange change)
      (hrun : ∀ r, result = some r → 1 ≤ (s.results r).todo) :
      Move keeps s (s.queueEdit h result change)

/-- A sequence of moves. -/
def Moves (keeps : Option ItemEdit → Prop) : State → State → Prop :=
  Relation.ReflTransGen (Move keeps)

variable {keeps : Option ItemEdit → Prop}

theorem Moves.refl (s : State) : Moves keeps s s := Relation.ReflTransGen.refl

theorem Moves.trans (h : Moves keeps s s') (h' : Moves keeps s' s'') : Moves keeps s s'' :=
  Relation.ReflTransGen.trans h h'

theorem Move.moves (h : Move keeps s s') : Moves keeps s s' := Relation.ReflTransGen.single h

theorem Moves.move (h : Moves keeps s s') (h' : Move keeps s' s'') : Moves keeps s s'' :=
  Relation.ReflTransGen.tail h h'

theorem Moves.frame (h : Moves keeps s s') (h' : SameCore s' s'') : Moves keeps s s'' :=
  h.move (.frame h')

/-- What every move preserves, a sequence of moves preserves. -/
theorem Moves.preserves {I : State → Prop} (hI : ∀ s s', Move keeps s s' → I s → I s')
    (h : Moves keeps s s') (hs : I s) : I s' := by
  induction h with
  | refl => exact hs
  | tail _ hmove ih => exact hI _ _ hmove ih

/-! ## Operations on one contact -/

theorem moves_itemEnsure (s : State) (h : Handle) : Moves keeps s (s.itemEnsure h) := by
  unfold State.itemEnsure
  cases hitem : s.item h with
  | some item => exact .refl s
  | none => exact (Move.create h _ hitem).moves

/-- Afterwards there is an item, the old one or a new one. -/
theorem itemEnsure_item (s : State) (h : Handle) :
    ∃ item, (s.itemEnsure h).item h = some item ∧
      (s.item h = some item ∨ (s.item h = none ∧ item = Item.new (s.conn.cachedAlias h))) := by
  unfold State.itemEnsure
  cases hitem : s.item h with
  | some item => exact ⟨item, hitem, .inl rfl⟩
  | none => exact ⟨_, setItem_item_self .., .inr ⟨rfl, rfl⟩⟩

theorem itemEnsure_same (s : State) (h : Handle) :
    (s.itemEnsure h).results = s.results ∧ (s.itemEnsure h).conn = s.conn ∧
      (s.itemEnsure h).received = s.received ∧ (s.itemEnsure h).fault = s.fault := by
  unfold State.itemEnsure
  split <;> exact ⟨rfl, rfl, rfl, rfl⟩

theorem moves_itemMaybeRemove (s : State) (h : Handle)
    (hkeep : ∀ item, s.item h = some item → item.removable = true → s.received = false →
      keeps item.unsentEdits) :
    Moves keeps s (s.itemMaybeRemove h).1 := by
  rcases itemMaybeRemove_cases s h with ⟨heq, _⟩ | ⟨item, hitem, hrem, heq⟩
  · rw [heq]
    exact .refl s
  · rw [heq]
    exact (Move.remove h hitem hrem (hkeep item hitem hrem)).moves

/-- The changes of the requests. -/
theorem editChange_setBlocked (blocked : Bool) :
    EditChange fun edits => edits.setBlocked blocked :=
  ⟨fun _ => rfl, fun _ => rfl, fun _ => .inl rfl⟩

theorem editChange_setName (name : Option String) : EditChange fun edits => edits.setName name :=
  ⟨fun _ => rfl, fun _ => rfl, fun _ => .inl rfl⟩

theorem editChange_remove : EditChange ItemEdit.remove :=
  ⟨fun _ => rfl, fun _ => rfl, fun _ => .inr rfl⟩

theorem editChange_add : EditChange ItemEdit.add :=
  ⟨fun _ => rfl, fun _ => rfl, fun _ => .inl rfl⟩

theorem editChange_addToGroup (group : Group) :
    EditChange fun edits => edits.addToGroup group :=
  ⟨fun _ => rfl, fun _ => rfl, fun _ => .inl rfl⟩

theorem editChange_removeFromGroup (group : Group) :
    EditChange fun edits => edits.removeFromGroup group :=
  ⟨fun _ => rfl, fun _ => rfl, fun _ => .inl rfl⟩

theorem editChange_setGroups (groups : Finset Group) :
    EditChange fun edits => edits.setGroups groups :=
  ⟨fun _ => rfl, fun _ => rfl, fun _ => .inl rfl⟩

/-- An edit is queued on an item that is made if need be. -/
theorem moves_ensure_queueEdit (h : Handle) (result : Option ResultId)
    {change : ItemEdit → ItemEdit} (hchange : EditChange change)
    (hrun : ∀ r, result = some r → 1 ≤ (s.results r).todo) :
    Moves keeps s ((s.itemEnsure h).queueEdit h result change) := by
  refine (moves_itemEnsure s h).move (.queue h result hchange fun r hr => ?_)
  rw [(itemEnsure_same s h).1]
  exact hrun r hr

/-- The item of a contact that is to be removed keeps its edits. -/
def RemoveKeeps (keeps : Option ItemEdit → Prop) (s : State) (h : Handle) : Prop :=
  ∀ item ∈ s.item h, s.received = false ∧ item.subscription = .remove ∧
    item.editsInFlight = false → keeps item.unsentEdits

section

variable {r : ResultId} (h : Handle) (hrun : 1 ≤ (s.results r).todo)

include hrun

theorem running_of_eq : ∀ r', some r = some r' → 1 ≤ (s.results r').todo := by
  intro r' heq
  cases heq
  exact hrun

theorem moves_handleSetBlocked (blocked : Bool) :
    Moves keeps s (s.handleSetBlocked h blocked r) := by
  unfold State.handleSetBlocked
  split
  · exact moves_ensure_queueEdit h _ (editChange_setBlocked blocked) (running_of_eq hrun)
  · exact .refl s

theorem moves_handleAddToGroup (group : Group) :
    Moves keeps s (s.handleAddToGroup h group r) :=
  moves_ensure_queueEdit h _ (editChange_addToGroup group) (running_of_eq hrun)

theorem moves_handleRemoveFromGroup (group : Group) :
    Moves keeps s (s.handleRemoveFromGroup h group r) :=
  moves_ensure_queueEdit h _ (editChange_removeFromGroup group) (running_of_eq hrun)

theorem moves_handleAdd : Moves keeps s (s.handleAdd h r) := by
  obtain ⟨item, hitem, _⟩ := itemEnsure_item s h
  unfold State.handleAdd
  simp only [hitem]
  split
  · exact moves_ensure_queueEdit h _ editChange_add (running_of_eq hrun)
  · exact moves_itemEnsure s h

theorem moves_handleRemove (hkeep : RemoveKeeps keeps s h) :
    Moves keeps s (s.handleRemove h r) := by
  unfold State.handleRemove
  cases hitem : s.item h with
  | none => exact .refl s
  | some item =>
    by_cases hsub : item.subscription = .remove
    · -- the states are cleared, then the item goes or the removal is queued
      set item' : Item := ((item.setPublish .no none).2.setSubscribe .no).2 with hitem'
      have hadjust : Moves keeps s (s.setItem h item') :=
        (Move.adjust h item' hitem rfl rfl (.inl rfl) (.inl rfl)).moves
      have htrans : s.handleRemoveTransient h item =
          (s.setItem h item').itemMaybeRemove h := by
        simp only [State.handleRemoveTransient, if_pos hsub, hitem']
      simp only [htrans]
      rcases itemMaybeRemove_cases (s.setItem h item') h with ⟨heq, _⟩ | ⟨item'', hit, hrem, heq⟩
      · simp only [heq, Bool.false_eq_true, if_false]
        exact hadjust.move (.queue h _ editChange_remove (running_of_eq hrun))
      · rw [setItem_item_self] at hit
        cases hit
        simp only [heq, if_true]
        have hflight : item.editsInFlight = false := ((Item.removable_iff _).mp hrem).2.1
        refine (hadjust.move (.remove h (setItem_item_self ..) hrem fun hrec => ?_)).frame
          (record_sameCore _ rfl)
        exact hkeep item hitem ⟨hrec, hsub, hflight⟩
    · have htrans : s.handleRemoveTransient h item = (s, false) := by
        simp only [State.handleRemoveTransient, if_neg hsub]
      simp only [htrans, Bool.false_eq_true, if_false]
      exact (Move.queue h _ editChange_remove (running_of_eq hrun)).moves

end

theorem moves_handleSetName (h : Handle) (name : Option String) :
    Moves keeps s (s.handleSetName h name) :=
  moves_ensure_queueEdit h _ (editChange_setName name) (fun _ heq => by cases heq)

/-! ## Pushes and presence -/

theorem updateGroups_sameCore (s : State) (contact : Handle) (old new : Finset Group) :
    SameCore s (s.updateGroups contact old new) := by
  have hgroups : SameCore s { s with groups := s.groups ∪ new } := by
    constructor <;> intros <;> first | rfl | exact ⟨[], by simp, by simp⟩
  unfold State.updateGroups
  dsimp only
  split <;> split
  · exact (hgroups.trans (record_sameCore _ rfl)).trans (record_sameCore _ rfl)
  · exact hgroups.trans (record_sameCore _ rfl)
  · exact hgroups.trans (record_sameCore _ rfl)
  · exact hgroups

/-- No item of a push has an invalid subscription. -/
theorem parseItemSubscription_ne_invalid (value : Option String) :
    parseItemSubscription value ≠ .invalid := by
  unfold parseItemSubscription
  split <;> simp

section

variable (item : Item) (googleRoster : Bool)

/-- The lists do not look at the edits. -/
theorem publishChanges_same : (item.publishChanges googleRoster).2 =
    { item with
      publish := (item.publishChanges googleRoster).2.publish
      publishRequest := (item.publishChanges googleRoster).2.publishRequest } := by
  unfold Item.publishChanges
  split <;> (try split) <;> rfl

theorem subscribeChanges_same : (item.subscribeChanges googleRoster).2 =
    { item with
      subscribe := (item.subscribeChanges googleRoster).2.subscribe
      flickerPrevention := (item.subscribeChanges googleRoster).2.flickerPrevention } := by
  unfold Item.subscribeChanges
  split
  · rfl
  · rfl
  · split
    · split <;> rfl
    · split <;> rfl
  · split
    · split <;> rfl
    · split <;> rfl
  · rfl
  · rfl

/-- A removal leaves a request for our presence, or a remote removal, alone. -/
theorem publishChanges_remove (hsub : item.subscription = .remove)
    (hno : (item.publishChanges googleRoster).2.publish = .no) :
    item.publish = .no ∨ item.publish = .yes := by
  unfold Item.publishChanges at hno
  rw [hsub] at hno
  dsimp only at hno
  split at hno
  · rename_i hyes
    exact .inr hyes
  · exact .inl hno

/-- An item of the roster is taken over. -/
theorem processItem_fst (contact : Handle) (sets : State.Changes) :
    (State.processItem contact item googleRoster sets).1 =
      { ((item.publishChanges googleRoster).2.subscribeChanges googleRoster).2 with
        stored := ((item.publishChanges googleRoster).2.subscribeChanges googleRoster).2.keepsStored
          googleRoster
        blocked := ((item.publishChanges googleRoster).2.subscribeChanges googleRoster).2.isBlocked
          googleRoster } := rfl

end

/-- The item that a pushed item is about keeps its edits. -/
def NodeKeeps (keeps : Option ItemEdit → Prop) (acc : State × State.Changes) (node : ItemNode) :
    Prop :=
  ∀ item ∈ node.contact.bind acc.1.item, acc.1.received = false ∧
    parseItemSubscription node.subscription = .remove ∧ item.editsInFlight = false ∧
    (item.publish = .no ∨ item.publish = .yes) → keeps item.unsentEdits

/-- **One item of a push.** -/
theorem moves_processNode (googleRoster : Bool) (acc : State × State.Changes) (node : ItemNode)
    (hg : googleRoster = true → acc.1.conn.googleRoster = true) (hfault : acc.1.fault = none)
    (hkeepNone : keeps none) (hkeep : NodeKeeps keeps acc node) :
    Moves keeps acc.1 (State.processNode googleRoster acc node).1 := by
  unfold State.processNode
  cases hc : node.contact with
  | none => exact .refl _
  | some h =>
    obtain ⟨old, hold, horigin⟩ := itemEnsure_item acc.1 h
    simp only [hold]
    set s₁ := (acc.1.itemEnsure h).updateGroups h old.groups node.groups.toFinset
    have hcore : SameCore (acc.1.itemEnsure h) s₁ := updateGroups_sameCore ..
    set sets : State.Changes := { acc.2 with
      updatedNicknames :=
        if old.name ≠ (old.update node googleRoster).name then acc.2.updatedNicknames ++ [h]
        else acc.2.updatedNicknames }
    set item := (State.processItem h (old.update node googleRoster) googleRoster sets).1 with hitem
    have hsame : item.unsentEdits = old.unsentEdits ∧ item.editsInFlight = old.editsInFlight ∧
        item.subscription = parseItemSubscription node.subscription ∧
        item.googleType = (old.update node googleRoster).googleType ∧
        item.publish = ((old.update node googleRoster).publishChanges googleRoster).2.publish := by
      rw [hitem, processItem_fst, subscribeChanges_same, publishChanges_same]
      exact ⟨rfl, rfl, rfl, rfl, rfl⟩
    obtain ⟨hedits, hflight, hsub, htype, hpublish⟩ := hsame
    have hadjust : Moves keeps acc.1 (s₁.setItem h item) := by
      refine ((moves_itemEnsure _ h).frame hcore).move
        (.adjust h item ((hcore.item h).trans hold) hedits hflight (.inr ⟨?_, ?_⟩) ?_)
      · rw [hsub]
        exact parseItemSubscription_ne_invalid _
      · rw [hcore.fault, (itemEnsure_same ..).2.2.2]
        exact hfault
      · rw [htype]
        cases googleRoster with
        | false => exact .inl rfl
        | true =>
          refine .inr ?_
          rw [hcore.googleRoster, (itemEnsure_same ..).2.1]
          exact hg rfl
    refine hadjust.trans (moves_itemMaybeRemove _ h fun item' hit hrem hrec => ?_)
    rw [setItem_item_self] at hit
    cases hit
    have hrec₀ : acc.1.received = false := by
      rw [← (itemEnsure_same acc.1 h).2.2.1, ← hcore.received]
      exact hrec
    rw [hedits]
    rcases horigin with horigin | ⟨_, hnew⟩
    · obtain ⟨hremove, hidle, hno, _⟩ := (Item.removable_iff _).mp hrem
      rw [hsub] at hremove
      rw [hflight] at hidle
      refine hkeep old (by simp [hc, horigin]) ⟨hrec₀, hremove, hidle, ?_⟩
      refine publishChanges_remove (old.update node googleRoster) googleRoster hremove ?_
      rw [← hpublish]
      exact hno
    · rw [hnew]
      exact hkeepNone

theorem sendPresenceAck_sameCore (s : State) (contact : Handle) (type : PresenceType) :
    SameCore s (s.sendPresenceAck contact type) := by
  cases type with
  | subscribe => exact .refl s
  | subscribed => exact sendPresence_sameCore ..
  | unsubscribe => exact sendPresence_sameCore ..
  | unsubscribed => exact sendPresence_sameCore ..

/-- The publish and subscribe states of an item change. -/
theorem moves_setStates {h : Handle} {item : Item} (item' : Item)
    (hitem : s.item h = some item) (hedits : item'.unsentEdits = item.unsentEdits)
    (hflight : item'.editsInFlight = item.editsInFlight)
    (hsub : item'.subscription = item.subscription) (htype : item'.googleType = item.googleType) :
    Moves keeps s (s.setItem h item') :=
  (Move.adjust h item' hitem hedits hflight (.inl hsub) (.inl htype)).moves

theorem moves_presenceCb (s : State) (contact : Handle) (type : Option PresenceType)
    (status : Option String) : Moves keeps s (s.presenceCb contact type status) := by
  unfold State.presenceCb
  split
  · exact .refl s
  · obtain ⟨item, hitem, _⟩ := itemEnsure_item s contact
    have hens : Moves keeps s (s.itemEnsure contact) := moves_itemEnsure s contact
    have hset : ∀ item' : Item, item'.unsentEdits = item.unsentEdits →
        item'.editsInFlight = item.editsInFlight → item'.subscription = item.subscription →
        item'.googleType = item.googleType →
        Moves keeps s (((s.itemEnsure contact).setItem contact item').record
          (.contactsChanged {contact} ∅)) := fun item' h1 h2 h3 h4 =>
      (hens.trans (moves_setStates item' hitem h1 h2 h3 h4)).frame (record_sameCore _ rfl)
    simp only [hitem]
    rcases type with _ | type
    · exact hens
    · cases type with
      | subscribe =>
        simp only [State.presenceSwitch]
        split
        · exact (hset (item.setPublish .ask status).2 rfl rfl rfl rfl).frame
            (sendPresence_sameCore ..)
        · exact hset (item.setPublish .ask status).2 rfl rfl rfl rfl
      | unsubscribe =>
        simp only [State.presenceSwitch]
        split
        · exact (hset (item.setPublish .removedRemotely none).2 rfl rfl rfl rfl).frame
            (sendPresenceAck_sameCore ..)
        · exact hens
      | subscribed =>
        simp only [State.presenceSwitch]
        split
        · exact (hset { item with subscribe := .yes } rfl rfl rfl rfl).frame
            (sendPresenceAck_sameCore ..)
        · exact hens
      | unsubscribed =>
        simp only [State.presenceSwitch]
        split
        · exact (hset { item with subscribe := .removedRemotely } rfl rfl rfl rfl).frame
            (sendPresenceAck_sameCore ..)
        · exact hens

theorem moves_flickerPreventionTimeout {contact : Handle} {item : Item}
    (hitem : s.item contact = some item) :
    Moves keeps s (s.flickerPreventionTimeout contact item) := by
  unfold State.flickerPreventionTimeout
  split
  · exact (moves_setStates { item with subscribe := .no, flickerPrevention := false } hitem
      rfl rfl rfl rfl).frame (record_sameCore _ rfl)
  · exact moves_setStates { item with flickerPrevention := false } hitem rfl rfl rfl rfl

theorem moves_leaveGroup (group : Group) (s : State) (contact : Handle) :
    Moves keeps s (State.leaveGroup group s contact) := by
  unfold State.leaveGroup
  cases hitem : s.item contact with
  | none => exact .refl s
  | some item =>
    exact moves_setStates { item with groups := item.groups.erase group } hitem rfl rfl rfl rfl

/-! ## The loops -/

theorem sameCore_loopWhile {body : State → Handle → State × Bool}
    (hbody : ∀ s c, SameCore s (body s c).1) (contacts : List Handle) (s : State) :
    SameCore s (State.loopWhile body s contacts).1 := by
  induction contacts generalizing s with
  | nil => exact .refl s
  | cons c contacts ih =>
    unfold State.loopWhile
    dsimp only
    split
    · exact (hbody s c).trans (ih _)
    · exact hbody s c

theorem requestSubscriptionOne_sameCore (message : String) (s : State) (c : Handle) :
    SameCore s (State.requestSubscriptionOne message s c).1 := by
  unfold State.requestSubscriptionOne
  split
  · exact .refl s
  · exact sendPresence_sameCore ..

theorem authorizePublicationOne_sameCore (s : State) (c : Handle) :
    SameCore s (s.authorizePublicationOne c).1 := by
  have hpre : SameCore s { s with preAuthorized := insert c s.preAuthorized } := by
    constructor <;> intros <;> first | rfl | exact ⟨[], by simp, by simp⟩
  unfold State.authorizePublicationOne
  split
  · exact hpre
  · split
    · exact hpre
    · split
      · exact sendPresence_sameCore ..
      · exact .refl s

/-- The item of a contact whose remote removal is acknowledged keeps its edits. -/
def UnsubscribeKeeps (keeps : Option ItemEdit → Prop) (acc : State × State.Changes)
    (c : Handle) : Prop :=
  ∀ item ∈ acc.1.item c, acc.1.received = false ∧ item.subscribe = .removedRemotely ∧
    item.subscription = .remove ∧ item.editsInFlight = false ∧ item.publish = .no →
    keeps item.unsentEdits

/-- A contact whose subscription is given up. -/
theorem moves_unsubscribeOne (acc : State × State.Changes) (c : Handle)
    (hkeep : UnsubscribeKeeps keeps acc c) :
    Moves keeps acc.1 (State.unsubscribeOne acc c).1.1 := by
  unfold State.unsubscribeOne
  cases hitem : acc.1.item c with
  | none => exact .refl _
  | some item =>
    dsimp only
    split
    · exact .refl _
    · split
      · rename_i _ hrem
        refine (moves_setStates (item.setSubscribe .no).2 hitem rfl rfl rfl rfl).trans
          (moves_itemMaybeRemove _ c fun item' hit hrem' hrec => ?_)
        rw [setItem_item_self] at hit
        cases hit
        obtain ⟨hsub, hflight, hpublish, _⟩ := (Item.removable_iff _).mp hrem'
        exact hkeep item hitem ⟨hrec, hrem, hsub, hflight, hpublish⟩
      · exact (Move.frame (sendPresence_sameCore ..)).moves

/-- The item of a contact whose request or remote removal is forgotten keeps its
edits. -/
def UnpublishKeeps (keeps : Option ItemEdit → Prop) (acc : State × State.Changes)
    (c : Handle) : Prop :=
  ∀ item ∈ acc.1.item c, acc.1.received = false ∧
    (item.publish = .ask ∨ item.publish = .removedRemotely) ∧
    item.subscription = .remove ∧ item.editsInFlight = false ∧ item.subscribe = .no →
    keeps item.unsentEdits

/-- A contact that is shown nothing any more. -/
theorem moves_unpublishOne (acc : State × State.Changes) (c : Handle)
    (hkeep : UnpublishKeeps keeps acc c) :
    Moves keeps acc.1 (State.unpublishOne acc c).1.1 := by
  unfold State.unpublishOne
  cases hitem : acc.1.item c with
  | none => exact .refl _
  | some item =>
    have hforget : Moves keeps acc.1 (State.unpublishForget acc c item).1 := by
      unfold State.unpublishForget
      split
      · rename_i hask
        have hmoves : Moves keeps acc.1
            ((acc.1.setItem c (item.setPublish .no none).2).itemMaybeRemove c).1 := by
          refine (moves_setStates (item.setPublish .no none).2 hitem rfl rfl rfl rfl).trans
            (moves_itemMaybeRemove _ c fun item' hit hrem' hrec => ?_)
          rw [setItem_item_self] at hit
          cases hit
          obtain ⟨hsub, hflight, _, hsubscribe⟩ := (Item.removable_iff _).mp hrem'
          exact hkeep item hitem ⟨hrec, hask, hsub, hflight, hsubscribe⟩
        dsimp only
        split
        · exact hmoves.frame (record_sameCore _ rfl)
        · exact hmoves
      · exact .refl _
    dsimp only
    split
    · exact hforget.frame (sendPresence_sameCore ..)
    · exact hforget

end Roster
