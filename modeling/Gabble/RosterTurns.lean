/-
# What one event does to the roster

Each event is a sequence of moves, perhaps on behalf of an operation whose result is
made before them and counted down after them.  Only the answer to a roster set and the
arrival of the roster do more (`Turn`).
-/
import Mathlib.Tactic.Common
import Gabble.RosterLedger
import Gabble.RosterWiring

open Transition

namespace Roster

/-! ## The loops -/

variable {keeps : Option ItemEdit → Prop} {s s' : State} {e : Event} {r : ResultId}

/-- A loop whose rounds are moves, as long as they meet a condition. -/
theorem moves_foldl_admits {α β : Type} {f : β → α → β} (view : β → State) (I : β → Prop)
    (ok : β → α → Prop)
    (hround : ∀ acc a, I acc → ok acc a → Moves keeps (view acc) (view (f acc a)) ∧ I (f acc a))
    (l : List α) (acc : β) (hI : I acc)
    (hadm : Admits ok (fun acc a => some (f acc a)) acc l) :
    Moves keeps (view acc) (view (l.foldl f acc)) ∧ I (l.foldl f acc) := by
  induction l generalizing acc with
  | nil => exact ⟨.refl _, hI⟩
  | cons a l ih =>
    obtain ⟨hok, hrest⟩ := hadm
    obtain ⟨hmoves, hI'⟩ := hround acc a hI hok
    obtain ⟨hmoves', hI''⟩ := ih (f acc a) hI' (hrest _ rfl)
    exact ⟨hmoves.trans hmoves', hI''⟩

theorem todo_of_owed (hs : 1 ≤ owed s r) : 1 ≤ (s.results r).todo := by
  unfold owed at hs
  omega

/-- A loop on behalf of an operation that is not finished. -/
theorem moves_foldl_running {α : Type} {f : State → α → State} (ok : State → α → Prop)
    (hf : ∀ s a, 1 ≤ (s.results r).todo → ok s a → Moves keeps s (f s a)) (l : List α) (s : State)
    (hs : 1 ≤ owed s r) (hadm : Admits ok (fun s a => some (f s a)) s l) :
    Moves keeps s (l.foldl f s) := by
  refine (moves_foldl_admits id (fun s => 1 ≤ owed s r) ok ?_ l s hs hadm).1
  intro s a hs hok
  have hmoves := hf s a (todo_of_owed hs) hok
  refine ⟨hmoves, ?_⟩
  rw [hmoves.owed]
  exact hs

/-- One round of a loop that stops at a failure. -/
def loopStep {σ : Type} (body : σ → Handle → σ × Bool) (acc : σ) (c : Handle) : Option σ :=
  if (body acc c).2 then some (body acc c).1 else none

theorem moves_loopWhile {σ : Type} {ok : σ → Handle → Prop} {body : σ → Handle → σ × Bool}
    (view : σ → State) (hround : ∀ acc c, ok acc c → Moves keeps (view acc) (view (body acc c).1))
    (l : List Handle) (acc : σ) (hadm : Admits ok (loopStep body) acc l) :
    Moves keeps (view acc) (view (State.loopWhile body acc l).1) := by
  induction l generalizing acc with
  | nil => exact .refl _
  | cons c l ih =>
    obtain ⟨hok, hrest⟩ := hadm
    unfold State.loopWhile
    dsimp only
    split
    · rename_i hcont
      exact (hround acc c hok).trans (ih _ (hrest _ (if_pos hcont)))
    · exact hround acc c hok

/-! ## The turns -/

/-- The callback of a result is called. -/
def State.callResult (s : State) (r : ResultId) : State :=
  { s with idle := s.idle.erase r }.record (.called r (s.results r).failed)

/-- The answer to a roster set has arrived, and nothing is in flight any more. -/
def State.landed (s : State) (iq : Iq) (item : Item) (success : Bool) : State :=
  let s₀ := { s with iqs := s.iqs.filter (·.id != iq.id) }.record (.answered iq.id success)
  (if success then s₀ else iq.edit.results.foldl State.setFromError s₀).setItem iq.edit.handle
    { item with editsInFlight := false }

/-- The roster after the answer to a roster set. -/
def State.answered (s : State) (iq : Iq) (item : Item) (success : Bool) : State :=
  (((s.landed iq item success).itemApplyEdits iq.edit.handle).believeEdited
    iq.edit).itemMaybeRemove iq.edit.handle |>.1.itemEditFree iq.edit

/-- What one event does. -/
inductive Turn (keeps : Option ItemEdit → Prop) (s : State) (e : Event) : State → Prop where
  | moves {s₀ s₁ s' : State} (hhead : s₀ = s ∨ ∃ r ∈ s.idle, s₀ = s.callResult r)
      (hmoves : Moves keeps s₀ s₁)
      (htail : s' = s₁ ∨ ∃ failed, s' = s₁.succeedOrFailInIdle failed) : Turn keeps s e s'
  | operation (callback : Callback) {s₁ : State}
      (hmoves : Moves keeps (s.countdownNew callback) s₁) :
      Turn keeps s e (s₁.countdownDec s.nextResult)
  | answer {iq : Iq} {item : Item} {success : Bool} (he : e = .iqReply iq.id success)
      (hiq : iq ∈ s.iqs)
      (hitem : s.item iq.edit.handle = some item) :
      Turn keeps s e (s.answered iq item success)
  | receive {s₁ : State} (hrec : s.received = false) (hmoves : Moves keeps s s₁) :
      Turn keeps s e (s₁.editedItems.foldl State.itemApplyEdits { s₁ with received := true })
  | close : Turn keeps s e { s with closed := true, groups := ∅, preAuthorized := ∅ }

theorem Turn.of_moves (hmoves : Moves keeps s s') : Turn keeps s e s' :=
  .moves (.inl rfl) hmoves (.inl rfl)

theorem Turn.of_sameCore (hcore : SameCore s s') : Turn keeps s e s' :=
  .of_moves (Move.frame hcore).moves

theorem Turn.finish {s₁ : State} (hmoves : Moves keeps s s₁) (failed : Bool) :
    Turn keeps s e (s₁.succeedOrFailInIdle failed) :=
  .moves (.inl rfl) hmoves (.inr ⟨failed, rfl⟩)

/-- The items and the roster sets are the same, and no edit is destroyed. -/
structure SameTable (s s' : State) : Prop where
  googleRoster : s'.conn.googleRoster = s.conn.googleRoster
  items : s'.items = s.items
  iqs : s'.iqs = s.iqs
  nextIq : s'.nextIq = s.nextIq
  received : s'.received = s.received
  fault : s'.fault = s.fault
  log : ∀ edits, .destroyed edits ∈ s'.log → .destroyed edits ∈ s.log

theorem SameTable.item (hsame : SameTable s s') (h : Handle) : s'.item h = s.item h := by
  simp only [State.item, hsame.items]

theorem SameItems.sameTable (hsame : SameItems s s') : SameTable s s' :=
  ⟨by rw [hsame.conn], hsame.items, hsame.iqs, hsame.nextIq, hsame.received, hsame.fault,
    fun _ hmem => hsame.log ▸ hmem⟩

theorem SameCore.sameTable (hcore : SameCore s s') : SameTable s s' := by
  refine ⟨hcore.googleRoster, hcore.items, hcore.iqs, hcore.nextIq, hcore.received, hcore.fault,
    fun edits hmem => ?_⟩
  obtain ⟨acts, hlog, hq⟩ := hcore.log
  rw [hlog] at hmem
  rcases List.mem_append.mp hmem with hmem | hmem
  · exact hmem
  · cases hq _ hmem

/-- **The rule for the turns.**  What the moves preserve is preserved by every event
but for the answers to roster sets and the arrival of the roster. -/
theorem Turn.preserves {I : State → Prop} (hsame : ∀ s s', SameTable s s' → I s → I s')
    (hmove : ∀ s s', Move keeps s s' → I s → I s')
    (hanswer : ∀ iq item success, e = .iqReply iq.id success → iq ∈ s.iqs →
      s.item iq.edit.handle = some item → I s →
      I (((s.landed iq item success).itemApplyEdits iq.edit.handle).believeEdited
        iq.edit |>.itemMaybeRemove iq.edit.handle).1)
    (hreceive : ∀ s₁, I s₁ →
      I (s₁.editedItems.foldl State.itemApplyEdits { s₁ with received := true }))
    (hturn : Turn keeps s e s') (hs : I s) : I s' := by
  cases hturn with
  | moves hhead hmoves htail =>
    rename_i s₀ s₁
    have hs₀ : I s₀ := by
      rcases hhead with rfl | ⟨r, hr, rfl⟩
      · exact hs
      · refine hsame s _ ⟨rfl, rfl, rfl, rfl, rfl, rfl, fun edits hmem => ?_⟩ hs
        simpa [State.callResult, State.record] using hmem
    have hs₁ := hmoves.preserves hmove hs₀
    rcases htail with rfl | ⟨failed, rfl⟩
    · exact hs₁
    · exact hsame s₁ _ ⟨rfl, rfl, rfl, rfl, rfl, rfl, fun _ hmem => hmem⟩ hs₁
  | operation callback hmoves =>
    have hnew : I (s.countdownNew callback) :=
      hsame s _ ⟨rfl, rfl, rfl, rfl, rfl, rfl, fun _ hmem => hmem⟩ hs
    exact hsame _ _ (countdownDec_sameItems _ _).sameTable (hmoves.preserves hmove hnew)
  | answer he hiq hitem =>
    exact hsame _ _ (itemEditFree_sameItems _ _).sameTable (hanswer _ _ _ he hiq hitem hs)
  | receive hrec hmoves => exact hreceive _ (hmoves.preserves hmove hs)
  | close => exact hsame s _ ⟨rfl, rfl, rfl, rfl, rfl, rfl, fun _ hmem => hmem⟩ hs

/-- What `item_apply_edits` preserves is preserved when the edits of many items are
applied. -/
theorem foldl_itemApplyEdits {I : State → Prop} (happly : ∀ s h, I s → I (s.itemApplyEdits h))
    (l : List Handle) (hs : I s) : I (l.foldl State.itemApplyEdits s) :=
  List.foldlRecOn l _ hs fun t ht h _ => happly t h ht

/-- The rounds of an event keep the edits of the items they remove. -/
def Event.Keeps (keeps : Option ItemEdit → Prop) (s : State) : Event → Prop
  | .push ext nodes | .rosterResult ext nodes =>
    Admits (NodeKeeps keeps)
      (fun acc node =>
        some (State.processNode (s.conn.googleRoster && ext == some "2") acc node))
      (s, ⟨∅, ∅, ∅, []⟩) nodes
  | .removeContacts contacts =>
    Admits (RemoveKeeps keeps) (fun s' c => some (s'.handleRemove c s.nextResult))
      (s.countdownNew .operation) contacts
  | .unsubscribe contacts =>
    Admits (UnsubscribeKeeps keeps) (loopStep State.unsubscribeOne) (s, ⟨∅, ∅, ∅, []⟩) contacts
  | .unpublish contacts =>
    Admits (UnpublishKeeps keeps) (loopStep State.unpublishOne) (s, ⟨∅, ∅, ∅, []⟩) contacts
  | _ => True

/-! ## Every event is a turn -/

/-- Between two events every counter says how many edits hold its result. -/
structure AtRest (s : State) : Prop extends Ledger s where
  settled : ∀ r, owed s r = 0

theorem owed_countdownNew (hs : AtRest s) (callback : Callback) (r : ResultId) :
    owed (s.countdownNew callback) r = if r = s.nextResult then 1 else 0 := by
  have hunsent : heldUnsent (s.countdownNew callback) r = heldUnsent s r := rfl
  have hsent : heldSent (s.countdownNew callback) r = heldSent s r := rfl
  have hsettled := hs.settled r
  unfold owed at hsettled ⊢
  rw [hunsent, hsent]
  split
  · rename_i heq
    subst heq
    have hfresh := hs.fresh s.nextResult le_rfl
    have htodo : ((s.countdownNew callback).results s.nextResult).todo = 1 := by
      simp [State.countdownNew, State.setResult]
    omega
  · rename_i hne
    have htodo : ((s.countdownNew callback).results r).todo = (s.results r).todo := by
      simp [State.countdownNew, State.setResult, hne]
    omega

/-- The new operation is not finished before its loop. -/
theorem AtRest.running (hs : AtRest s) (callback : Callback) :
    1 ≤ owed (s.countdownNew callback) s.nextResult := by
  rw [owed_countdownNew hs, if_pos rfl]

theorem createGroups_sameCore (s : State) (groups : Finset Group) :
    SameCore s (s.createGroups groups) := by
  have hgroups : SameCore s { s with groups := s.groups ∪ groups } := by
    constructor <;> intros <;> first | rfl | exact ⟨[], by simp, by simp⟩
  unfold State.createGroups
  dsimp only
  split
  · exact hgroups.trans (record_sameCore _ rfl)
  · exact hgroups

section

variable (hs : AtRest s)

include hs

/-- The operations that store contacts. -/
theorem turn_handleAdd (callback : Callback) (contacts : List Handle) :
    Turn keeps s e (s.countdown callback fun result s =>
      contacts.foldl (fun s contact => s.handleAdd contact result) s) := by
  refine .operation callback (moves_foldl_running anyEvent ?_ contacts _ (hs.running callback)
    (admits_anyEvent contacts))
  exact fun s c hrun _ => moves_handleAdd c hrun

theorem turn_removeContacts {contacts : List Handle}
    (hkeep : (Event.removeContacts contacts).Keeps keeps s) :
    Turn keeps s e (s.removeContactsAsync contacts) := by
  refine .operation .operation (moves_foldl_running (RemoveKeeps keeps) ?_ contacts _
    (hs.running .operation) hkeep)
  exact fun s c hrun hok => moves_handleRemove c hrun hok

theorem turn_setBlocked (contacts : List Handle) (blocked : Bool) :
    Turn keeps s e (s.setBlockedAsync contacts blocked) := by
  refine .operation .operation (moves_foldl_running anyEvent ?_ contacts _ (hs.running .operation)
    (admits_anyEvent contacts))
  exact fun s c hrun _ => moves_handleSetBlocked c hrun blocked

theorem turn_setContactGroups (contact : Handle) (groups : List (Option Group)) :
    Turn keeps s e (s.setContactGroupsAsync contact groups) := by
  -- the item is made before the result
  have hcomm : (s.itemEnsure contact).countdownNew .operation =
      (s.countdownNew .operation).itemEnsure contact := by
    have hitem : (s.countdownNew .operation).item contact = s.item contact := rfl
    unfold State.itemEnsure
    rw [hitem]
    cases s.item contact <;> rfl
  have hnext : (s.itemEnsure contact).nextResult = s.nextResult := by
    unfold State.itemEnsure
    split <;> rfl
  have hens : Moves keeps (s.countdownNew .operation)
      ((s.countdownNew .operation).itemEnsure contact) := moves_itemEnsure ..
  unfold State.setContactGroupsAsync State.countdown
  dsimp only
  rw [hcomm, hnext]
  have hgroups := hens.frame (createGroups_sameCore _ (groups.filterMap id).toFinset)
  refine .operation .operation (hgroups.move (.queue contact _ (editChange_setGroups _) ?_))
  refine running_of_eq (todo_of_owed ?_)
  rw [hgroups.owed]
  exact hs.running .operation

theorem turn_groupCountdown (group : Option Group) {body : Group → ResultId → State → State}
    (hbody : ∀ g s', 1 ≤ owed s' s.nextResult → Moves keeps s' (body g s.nextResult s')) :
    Turn keeps s e (s.groupCountdown group body) := by
  refine .operation .operation ?_
  cases group with
  | none => exact (Move.frame (setFromError_sameCore ..)).moves
  | some g =>
    have hgroups : Moves keeps _ _ :=
      (Move.frame (createGroups_sameCore (s.countdownNew .operation) {g})).moves
    refine hgroups.trans (hbody g _ ?_)
    rw [hgroups.owed]
    exact hs.running .operation

theorem turn_setGroupMembers (group : Option Group) (contacts : List Handle) :
    Turn keeps s e (s.setGroupMembersAsync group contacts) := by
  refine turn_groupCountdown hs group fun g s' hrun => ?_
  refine moves_foldl_running anyEvent (fun s c hrun _ => ?_) _ s' hrun (admits_anyEvent _)
  split
  · exact moves_handleAddToGroup c hrun g
  · exact moves_handleRemoveFromGroup c hrun g

theorem turn_addToGroup (group : Option Group) (contacts : List Handle) :
    Turn keeps s e (s.addToGroupAsync group contacts) := by
  refine turn_groupCountdown hs group fun g s' hrun => ?_
  refine moves_foldl_running anyEvent (fun s c hrun _ => ?_) _ s' hrun (admits_anyEvent _)
  exact moves_handleAddToGroup c hrun g

/-- The operations that take contacts out of a group. -/
theorem turn_handleRemoveFromGroup (callback : Callback) (group : Option Group)
    (contacts : List Handle) :
    Turn keeps s e (s.countdown callback fun result s =>
      match group with
      | none => s
      | some group =>
        contacts.foldl (fun s contact => s.handleRemoveFromGroup contact group result) s) := by
  refine .operation callback ?_
  cases group with
  | none => exact .refl _
  | some g =>
    refine moves_foldl_running anyEvent (fun s c hrun _ => ?_) contacts _ (hs.running callback)
      (admits_anyEvent _)
    exact moves_handleRemoveFromGroup c hrun g

end

theorem turn_authorizePublication (s : State) (contacts : List Handle) :
    Turn keeps s e (s.authorizePublicationAsync contacts) :=
  .finish (Move.frame (sameCore_loopWhile authorizePublicationOne_sameCore contacts s)).moves _

theorem turn_unsubscribe {contacts : List Handle}
    (hkeep : (Event.unsubscribe contacts).Keeps keeps s) :
    Turn keeps s e (s.unsubscribeAsync contacts) := by
  have hloop := moves_loopWhile Prod.fst moves_unsubscribeOne contacts (s, ⟨∅, ∅, ∅, []⟩) hkeep
  exact .finish (hloop.frame (record_sameCore _ rfl)) _

theorem turn_unpublish {contacts : List Handle}
    (hkeep : (Event.unpublish contacts).Keeps keeps s) :
    Turn keeps s e (s.unpublishAsync contacts) := by
  have hloop := moves_loopWhile Prod.fst moves_unpublishOne contacts (s, ⟨∅, ∅, ∅, []⟩) hkeep
  exact .finish (hloop.frame (record_sameCore _ rfl)) _

theorem moves_removeGroupRemovedCb (s : State) (group : Option Group) (contacts : List Handle) :
    Moves keeps s (s.removeGroupRemovedCb group contacts) := by
  unfold State.removeGroupRemovedCb
  cases group with
  | none => exact .refl _
  | some g =>
    dsimp only
    split
    · have hgroups : SameCore s { s with groups := s.groups.erase g } := by
        constructor <;> intros <;> first | rfl | exact ⟨[], by simp, by simp⟩
      have hrecord := hgroups.trans (record_sameCore { s with groups := s.groups.erase g }
        (a := .groupsRemoved g) rfl)
      refine (Move.frame hrecord).moves.trans ?_
      exact (moves_foldl_admits id (fun _ => True) anyEvent
        (fun s c _ _ => ⟨moves_leaveGroup g s c, trivial⟩) _ _ trivial (admits_anyEvent _)).1
    · exact .refl _

theorem turn_completeResult (hr : r ∈ s.idle) : Turn keeps s e (s.completeResult r) := by
  have hhead : s.callResult r = s ∨ ∃ r' ∈ s.idle, s.callResult r = s.callResult r' :=
    .inr ⟨r, hr, rfl⟩
  rw [State.completeResult]
  split
  case h_1 => exact .moves hhead (.refl _) (.inl rfl)
  case h_2 contacts message _ =>
      have hloop := sameCore_loopWhile (requestSubscriptionOne_sameCore message) contacts
        (s.callResult r)
      exact .moves hhead (Move.frame hloop).moves (.inr ⟨_, rfl⟩)
  case h_3 group contacts _ =>
      exact .moves hhead (moves_removeGroupRemovedCb _ group contacts) (.inl rfl)

/-! ## The roster query -/

theorem itemMaybeRemove_same (s : State) (h : Handle) :
    (s.itemMaybeRemove h).1.fault = s.fault ∧
      (s.itemMaybeRemove h).1.conn = s.conn := by
  rcases itemMaybeRemove_cases s h with ⟨heq, _⟩ | ⟨item, _, _, heq⟩
  · rw [heq]
    exact ⟨rfl, rfl⟩
  · rw [heq]
    unfold State.removeItem
    split
    · exact ⟨rfl, rfl⟩
    · have hsame := itemEditFree_sameItems
        (({ s with items := s.items.erase h }).record (.destroyed ‹_›)) ‹_›
      exact ⟨hsame.fault, hsame.conn⟩

/-- A pushed item breaks no assertion. -/
theorem processNode_same (googleRoster : Bool) (acc : State × State.Changes) (node : ItemNode) :
    (State.processNode googleRoster acc node).1.fault = acc.1.fault ∧
      (State.processNode googleRoster acc node).1.conn.googleRoster =
        acc.1.conn.googleRoster := by
  unfold State.processNode
  split
  · exact ⟨rfl, rfl⟩
  · rename_i h _
    have hens := itemEnsure_same acc.1 h
    dsimp only
    split
    · exact ⟨hens.2.2.2, by rw [hens.2.1]⟩
    · rename_i old _
      have hcore := updateGroups_sameCore (acc.1.itemEnsure h) h old.groups node.groups.toFinset
      rw [(itemMaybeRemove_same ..).1, (itemMaybeRemove_same ..).2]
      exact ⟨hcore.fault.trans hens.2.2.2, hcore.googleRoster.trans (by rw [hens.2.1])⟩

theorem moves_processRoster {ext : Option String} {nodes : List ItemNode} (hfault : s.fault = none)
    (hnone : keeps none) (hkeep : (Event.push ext nodes).Keeps keeps s) :
    Moves keeps s (s.processRoster ext nodes) := by
  set g := s.conn.googleRoster && ext == some "2" with hg
  have hround : ∀ acc node,
      acc.1.fault = none ∧ acc.1.conn.googleRoster = s.conn.googleRoster →
      NodeKeeps keeps acc node →
      Moves keeps acc.1 (State.processNode g acc node).1 ∧
        ((State.processNode g acc node).1.fault = none ∧
          (State.processNode g acc node).1.conn.googleRoster = s.conn.googleRoster) := by
    intro acc node hacc hok
    have hsame := processNode_same g acc node
    refine ⟨moves_processNode g acc node (fun hgt => ?_) hacc.1 hnone hok,
      hsame.1.trans hacc.1, hsame.2.trans hacc.2⟩
    rw [hacc.2]
    simp only [hg, Bool.and_eq_true] at hgt
    exact hgt.1
  have hloop : Moves keeps s (nodes.foldl (State.processNode g) (s, ⟨∅, ∅, ∅, []⟩)).1 :=
    (moves_foldl_admits Prod.fst
      (fun acc => acc.1.fault = none ∧ acc.1.conn.googleRoster = s.conn.googleRoster)
      (NodeKeeps keeps) hround nodes (s, ⟨∅, ∅, ∅, []⟩) ⟨hfault, rfl⟩ hkeep).1
  unfold State.processRoster
  dsimp only
  rw [← hg]
  split <;> split <;> repeat first
    | exact hloop
    | refine Moves.frame ?_ (record_sameCore _ rfl)

theorem rosterEditedCb_eq {iq : Iq} {item : Item} (success : Bool)
    (hitem : s.item iq.edit.handle = some item) :
    ({ s with iqs := s.iqs.filter (·.id != iq.id) }.record
      (.answered iq.id success)).rosterEditedCb iq.edit success =
        s.answered iq item success := by
  have hitem' : State.item (if success then
      { s with iqs := s.iqs.filter (·.id != iq.id) }.record (.answered iq.id success)
      else iq.edit.results.foldl State.setFromError
        ({ s with iqs := s.iqs.filter (·.id != iq.id) }.record (.answered iq.id success)))
      iq.edit.handle = some item := by
    split
    · exact hitem
    · rw [(foldl_sameCore _ setFromError_sameCore _ _).item]
      exact hitem
  unfold State.rosterEditedCb State.itemEdited
  dsimp only
  rw [hitem']
  rfl

theorem find_iq {iq : Iq} (hw : Wired s) (hiq : iq ∈ s.iqs) :
    s.iqs.find? (·.id == iq.id) = some iq := by
  cases hfind : s.iqs.find? (·.id == iq.id) with
  | none => exact absurd (by simp) (List.find?_eq_none.mp hfind iq hiq)
  | some iq' =>
    have hid : iq'.id = iq.id := by simpa using List.find?_some hfind
    rw [List.inj_on_of_nodup_map hw.ids (List.mem_of_find?_eq_some hfind) hiq hid]

/-- The answer to a roster set. -/
theorem operation_iqReply {iq : Iq} {item : Item} (hw : Wired s) (hiq : iq ∈ s.iqs)
    (hitem : s.item iq.edit.handle = some item) (success : Bool) :
    operation s (.iqReply iq.id success) = some (s.answered iq item success) := by
  simp only [operation, find_iq hw hiq]
  rw [rosterEditedCb_eq success hitem]

theorem operation_turn (hs : AtRest s) (hw : Wired s) (hfault : s.fault = none)
    (hnone : keeps none) (hkeep : e.Keeps keeps s) (hop : operation s e = some s') :
    Turn keeps s e s' := by
  cases e <;> simp only [operation, Option.some.injEq] at hop
  case push ext nodes =>
    subst hop
    exact .of_moves (moves_processRoster hfault hnone hkeep)
  case rosterResult ext nodes =>
    subst hop
    unfold State.gotRosterResult
    split
    · exact .of_moves (.refl s)
    · rename_i hrec
      exact .receive (by simpa using hrec) (moves_processRoster hfault hnone hkeep)
  case presence contact type status =>
    subst hop
    exact .of_moves (moves_presenceCb s contact type status)
  case iqReply id success =>
    cases hfind : s.iqs.find? (·.id == id) with
    | none =>
      rw [hfind] at hop
      cases hop
    | some iq =>
      rw [hfind] at hop
      cases hop
      have hiq : iq ∈ s.iqs := List.mem_of_find?_eq_some hfind
      have hid : iq.id = id := by simpa using List.find?_some hfind
      subst hid
      -- the item whose edit this IQ carried is still there
      obtain ⟨item, hitem, _⟩ := hw.flying hiq
      rw [rosterEditedCb_eq success hitem]
      exact .answer rfl hiq hitem
  case flickerTimeout contact =>
    cases hitem : s.item contact with
    | none =>
      rw [hitem] at hop
      cases hop
    | some item =>
      rw [hitem] at hop
      dsimp only at hop
      split at hop
      · cases hop
        exact .of_moves (moves_flickerPreventionTimeout hitem)
      · cases hop
  case setName contact name =>
    subst hop
    exact .of_moves (moves_handleSetName contact name)
  case requestSubscription contacts message =>
    subst hop
    exact turn_handleAdd hs _ contacts
  case authorizePublication contacts =>
    subst hop
    exact turn_authorizePublication s contacts
  case storeContacts contacts =>
    subst hop
    exact turn_handleAdd hs _ contacts
  case removeContacts contacts =>
    subst hop
    exact turn_removeContacts hs hkeep
  case unsubscribe contacts =>
    subst hop
    exact turn_unsubscribe hkeep
  case unpublish contacts =>
    subst hop
    exact turn_unpublish hkeep
  case blockContacts contacts =>
    subst hop
    exact turn_setBlocked hs contacts true
  case unblockContacts contacts =>
    subst hop
    exact turn_setBlocked hs contacts false
  case setContactGroups contact groups =>
    subst hop
    exact turn_setContactGroups hs contact groups
  case setGroupMembers group contacts =>
    subst hop
    exact turn_setGroupMembers hs group contacts
  case addToGroup group contacts =>
    subst hop
    exact turn_addToGroup hs group contacts
  case removeFromGroup group contacts =>
    subst hop
    exact turn_handleRemoveFromGroup hs _ group contacts
  case removeGroup group =>
    subst hop
    exact turn_handleRemoveFromGroup hs _ group _
  case complete r =>
    split at hop
    · rename_i hr
      cases hop
      exact turn_completeResult hr
    · cases hop
  case aliasChanged contact name =>
    subst hop
    refine .of_sameCore ?_
    constructor <;> intros <;> first | rfl | exact ⟨[], by simp, by simp⟩
  case porterLost =>
    subst hop
    refine .of_sameCore ?_
    constructor <;> intros <;> first | rfl | exact ⟨[], by simp, by simp⟩
  case disconnected =>
    subst hop
    exact .close

/-- A step is the operation of its event, and nothing has failed before it. -/
theorem operation_of_step (hstep : step s e = some s') :
    s.fault = none ∧ operation s e = some s' := by
  unfold step at hstep
  split at hstep
  · cases hstep
  · rename_i hcond
    push Not at hcond
    exact ⟨by simpa using hcond.1, hstep⟩

/-- **Every event is a turn.** -/
theorem step_turn (hs : AtRest s) (hw : Wired s) (hkeep : e.Keeps keeps s) (hnone : keeps none)
    (hstep : step s e = some s') : s.fault = none ∧ Turn keeps s e s' := by
  obtain ⟨hfault, hop⟩ := operation_of_step hstep
  exact ⟨hfault, operation_turn hs hw hfault hnone hkeep hop⟩

end Roster
