/-
# Withdrawing publication (`src/roster.c`)

`gabble_roster_unpublish_async` tells the contacts whose requests were granted that they
are not any more, and forgets the requests that were not answered and the contacts that
have unsubscribed.  It does both for one contact after the other, and looks at the item
again when it may have been freed.

* `unpublished_loop`: what the loop sends, reports and reads;
* `unpublishes_iff`: so this is when it does what it is for;
* `unpublish_request_unanswered`: a request that is refused is not answered, and the item
  is read when it has been freed.
-/
import Gabble.RosterSteady

namespace Roster

open Transition

variable {s : State} {acc : State × State.Changes} {c : Handle} {item : Item}
  {contacts done : List Handle}

/-! ## One contact -/

/-- The contact has asked, or has unsubscribed: its state is forgotten. -/
def Item.forgets (item : Item) : Bool := item.publish = .ask || item.publish = .removedRemotely

/-- The item when its state has been forgotten. -/
def Item.forgotten (item : Item) : Item := (item.setPublish .no none).2

def State.forgets (s : State) (c : Handle) : Bool := (s.item c).any Item.forgets

/-- The item goes when its state has been forgotten. -/
def State.frees (s : State) (c : Handle) : Bool :=
  (s.item c).any fun item => item.forgets && item.forgotten.removable

/-- The contact sees the presence, or has asked to. -/
def State.publishes (s : State) (c : Handle) : Bool :=
  (s.item c).any fun item => item.publish = .ask || item.publish = .yes

def State.grants (s : State) (c : Handle) : Bool := (s.item c).any fun item => item.publish = .yes

/-- What one round of the loop adds to the history. -/
def State.unpublishLog (s : State) (c : Handle) : List Action :=
  match s.item c with
  | none => []
  | some item =>
    if item.forgets && item.forgotten.removable then
      item.unsentEdits.toList.map Action.destroyed ++ [Action.readFreed c]
    else if item.publish = .yes then [Action.presence .unsubscribed c ""]
    else []

theorem unpublishLog_of_item (hitem : s.item c = some item) :
    s.unpublishLog c =
      if item.forgets && item.forgotten.removable then
        item.unsentEdits.toList.map Action.destroyed ++ [Action.readFreed c]
      else if item.publish = .yes then [Action.presence .unsubscribed c ""]
      else [] := by
  rw [State.unpublishLog, hitem]

theorem removeItem_log (s : State) (h : Handle) (item : Item) :
    (s.removeItem h item).log = s.log ++ item.unsentEdits.toList.map Action.destroyed := by
  unfold State.removeItem
  cases item.unsentEdits with
  | none => exact (List.append_nil _).symm
  | some edits => rw [(itemEditFree_sameItems _ _).log]; rfl

theorem itemMaybeRemove_setItem (s : State) (h : Handle) (item : Item) :
    (s.setItem h item).itemMaybeRemove h =
      if item.removable then ((s.setItem h item).removeItem h item, true)
      else (s.setItem h item, false) := by
  rcases itemMaybeRemove_cases (s.setItem h item) h with ⟨heq, hkept⟩ | ⟨item', hitem, hrem, heq⟩
  · rw [heq, hkept item (setItem_item_self ..), if_neg Bool.false_ne_true]
  · rw [setItem_item_self] at hitem
    cases hitem
    rw [heq, if_pos hrem]

theorem unpublishOne_of_none (hitem : acc.1.item c = none) :
    State.unpublishOne acc c = (acc, true) := by
  unfold State.unpublishOne
  rw [hitem]

/-- The state is forgotten, and the item may be freed: then it is read. -/
theorem unpublishOne_forgets (hitem : acc.1.item c = some item) (hforgets : item.forgets = true) :
    State.unpublishOne acc c =
      ((if item.forgotten.removable then
          ((acc.1.setItem c item.forgotten).removeItem c item.forgotten).record (.readFreed c)
        else acc.1.setItem c item.forgotten,
        State.reportRemoval acc.2 c item.forgotten.removable), true) := by
  have hask : item.publish = .ask ∨ item.publish = .removedRemotely := by
    simpa [Item.forgets] using hforgets
  have hyes : item.publish ≠ .yes := by
    rcases hask with hask | hask <;> rw [hask] <;> exact SubscriptionState.noConfusion
  have hmaybe := itemMaybeRemove_setItem acc.1 c item.forgotten
  unfold State.unpublishOne
  simp only [hitem, State.unpublishForget, if_pos hask, if_neg hyes]
  rw [show (item.setPublish .no none).2 = item.forgotten from rfl, hmaybe]
  cases hrem : item.forgotten.removable with
  | true => rfl
  | false => rfl

/-- The contact is told, or there is nothing to do. -/
theorem unpublishOne_told (hitem : acc.1.item c = some item) (hforgets : item.forgets = false)
    (hporter : acc.1.conn.porter = true) :
    State.unpublishOne acc c =
      ((if item.publish = .yes then acc.1.record (.presence .unsubscribed c "") else acc.1,
        acc.2), true) := by
  have hask : ¬ (item.publish = .ask ∨ item.publish = .removedRemotely) := by
    simpa [Item.forgets] using hforgets
  unfold State.unpublishOne
  simp only [hitem, State.unpublishForget, if_neg hask, State.sendPresence, hporter, if_true]
  split <;> rfl

/-! ## The loop -/

/-- The contacts `done` have been gone through since `s`. -/
structure Unpublished (s : State) (done : List Handle) (acc : State × State.Changes) : Prop where
  porter : acc.1.conn.porter = true
  log : acc.1.log = s.log ++ done.flatMap s.unpublishLog
  item : ∀ c, c ∉ done ∨ s.forgets c = false → acc.1.item c = s.item c
  changed : ∀ c, c ∈ acc.2.changed ↔ c ∈ done ∧ s.forgets c = true ∧ s.frees c = false
  removed : ∀ c, c ∈ acc.2.removed ↔ c ∈ done ∧ s.frees c = true

theorem mem_append_singleton_and {p : Handle → Prop} {c' : Handle} :
    c' ∈ done ++ [c] ∧ p c' ↔ (c' ∈ done ∧ p c') ∨ (c' = c ∧ p c) := by
  rw [List.mem_append, List.mem_singleton, or_and_right]
  refine or_congr_right (and_congr_right ?_)
  rintro rfl
  rfl

section

variable (h : Unpublished s done acc)

include h

/-- A contact that is left out of both sets. -/
theorem Unpublished.skip (hforgets : s.forgets c = false)
    {s' : State} (hporter : s'.conn.porter = true) (hitem : ∀ c, s'.item c = acc.1.item c)
    (hlog : s'.log = acc.1.log ++ s.unpublishLog c) :
    Unpublished s (done ++ [c]) (s', acc.2) where
  porter := hporter
  log := by
    rw [hlog, h.log, List.append_assoc, List.flatMap_append, List.flatMap_singleton]
  item c' hc' := by
    rw [hitem]
    refine h.item c' (hc'.imp_left fun hnot hmem => hnot ?_)
    exact List.mem_append_left _ hmem
  changed c' := by
    rw [mem_append_singleton_and (p := fun c => s.forgets c = true ∧ s.frees c = false), hforgets]
    simpa using h.changed c'
  removed c' := by
    have hfrees : s.frees c = false := by
      unfold State.forgets at hforgets
      unfold State.frees
      cases hitem : s.item c with
      | none => rfl
      | some item =>
        rw [hitem, Option.any_some] at hforgets
        rw [Option.any_some, hforgets]
        rfl
    rw [mem_append_singleton_and (p := fun c => s.frees c = true), hfrees]
    simpa using h.removed c'

/-- A contact whose state is forgotten, and that is reported. -/
theorem Unpublished.forget (hitem : s.item c = some item)
    (hforgets : item.forgets = true) {s' : State} (hporter : s'.conn.porter = true)
    (hkept : ∀ c', c' ≠ c → s'.item c' = acc.1.item c')
    (hlog : s'.log = acc.1.log ++ s.unpublishLog c) :
    Unpublished s (done ++ [c]) (s', State.reportRemoval acc.2 c item.forgotten.removable) where
  porter := hporter
  log := by
    rw [hlog, h.log, List.append_assoc, List.flatMap_append, List.flatMap_singleton]
  item c' hc' := by
    have hne : c' ≠ c := by
      rintro rfl
      rcases hc' with hnot | hnot
      · exact hnot (List.mem_append_right _ (List.mem_singleton.mpr rfl))
      · rw [State.forgets, hitem, Option.any_some, hforgets] at hnot
        cases hnot
    rw [hkept c' hne]
    refine h.item c' (hc'.imp_left fun hnot hmem => hnot ?_)
    exact List.mem_append_left _ hmem
  changed c' := by
    rw [mem_append_singleton_and (p := fun c => s.forgets c = true ∧ s.frees c = false),
      ← h.changed, State.forgets, State.frees, hitem, State.reportRemoval]
    cases hrem : item.forgotten.removable with
    | true => simp [hforgets, hrem]
    | false => simp [hforgets, hrem, or_comm]
  removed c' := by
    rw [mem_append_singleton_and (p := fun c => s.frees c = true), ← h.removed, State.frees, hitem,
      State.reportRemoval]
    cases hrem : item.forgotten.removable with
    | true => simp [hforgets, hrem, or_comm]
    | false => simp [hforgets, hrem]

/-- One round. -/
theorem Unpublished.round (hnew : c ∉ done) :
    (State.unpublishOne acc c).2 = true ∧
      Unpublished s (done ++ [c]) (State.unpublishOne acc c).1 := by
  -- the rounds before were about other contacts
  have hsame : acc.1.item c = s.item c := h.item c (.inl hnew)
  cases hitem : s.item c with
  | none =>
    have hlog : s.unpublishLog c = [] := by rw [State.unpublishLog, hitem]
    have hforgets : s.forgets c = false := by rw [State.forgets, hitem]; rfl
    rw [unpublishOne_of_none (hsame.trans hitem)]
    refine ⟨rfl, h.skip hforgets h.porter (fun _ => rfl) ?_⟩
    rw [hlog, List.append_nil]
  | some item =>
    have hitem' := hsame.trans hitem
    have hlog := unpublishLog_of_item hitem
    cases hforgets : item.forgets with
    | false =>
      have hforgets' : s.forgets c = false := by rw [State.forgets, hitem]; exact hforgets
      simp only [hforgets, Bool.false_and, Bool.false_eq_true, if_false] at hlog
      rw [unpublishOne_told hitem' hforgets h.porter]
      refine ⟨rfl, h.skip hforgets' ?_ ?_ ?_⟩
      · split
        · exact h.porter
        · exact h.porter
      · intro c'
        split <;> rfl
      · rw [hlog]
        split
        · rfl
        · exact (List.append_nil _).symm
    | true =>
      cases hrem : item.forgotten.removable with
      | true =>
        -- the freed item is gone, and that it was read is in the history
        simp only [hforgets, hrem, Bool.and_self, if_true] at hlog
        rw [unpublishOne_forgets hitem' hforgets, if_pos hrem]
        refine ⟨rfl, h.forget hitem hforgets ?_ ?_ ?_⟩
        · exact (congrArg Connection.porter (removeItem_kept ..).2.2.1).trans h.porter
        · intro c' hne
          have hgone := removeItem_item (acc.1.setItem c item.forgotten) c c' item.forgotten
          rw [if_neg hne, setItem_item_ne _ _ hne] at hgone
          exact hgone
        · rw [hlog, ← List.append_assoc]
          exact congrArg (· ++ [Action.readFreed c]) (removeItem_log ..)
      | false =>
        -- the item that stays is looked at again, and its publish state is NO by now
        have hyes : item.publish ≠ .yes := by
          intro hyes
          rw [Item.forgets, hyes] at hforgets
          exact absurd hforgets (by decide)
        simp only [hforgets, hrem, Bool.and_false, Bool.false_eq_true, if_false,
          if_neg hyes] at hlog
        rw [unpublishOne_forgets hitem' hforgets, if_neg (ne_true_of_eq_false hrem)]
        refine ⟨rfl, h.forget hitem hforgets h.porter ?_ ?_⟩
        · exact fun c' hne => setItem_item_ne _ _ hne
        · rw [hlog]
          exact (List.append_nil _).symm

/-- **The loop** goes through all the contacts. -/
theorem unpublished_loop (hnodup : (done ++ contacts).Nodup) :
    (State.loopWhile State.unpublishOne acc contacts).2 = true ∧
      Unpublished s (done ++ contacts) (State.loopWhile State.unpublishOne acc contacts).1 := by
  induction contacts generalizing done acc with
  | nil => exact ⟨rfl, by rwa [List.append_nil]⟩
  | cons c contacts ih =>
    have hnew : c ∉ done := by
      intro hmem
      exact (List.disjoint_of_nodup_append hnodup) hmem List.mem_cons_self
    obtain ⟨hok, hround⟩ := h.round hnew
    have hsplit : done ++ c :: contacts = (done ++ [c]) ++ contacts := by simp
    rw [hsplit] at hnodup ⊢
    unfold State.loopWhile
    dsimp only
    rw [hok, if_pos rfl]
    exact ih hround hnodup

end

/-! ## The operation -/

/-- The history since `s`. -/
def logSince (s s' : State) : List Action := s'.log.drop s.log.length

/-- The presences that were sent. -/
def presencesSent (log : List Action) : List (PresenceType × Handle) :=
  log.filterMap fun
    | .presence type contact _ => some (type, contact)
    | _ => none

/-- The sets that were reported. -/
def contactsReported (log : List Action) : List (Finset Handle × Finset Handle) :=
  log.filterMap fun
    | .contactsChanged changed removed => some (changed, removed)
    | _ => none

/-- What the operation is for. -/
structure Unpublishes (s s' : State) (contacts : List Handle) : Prop where
  /-- The contacts that see the presence or have asked to are told. -/
  sent : presencesSent (logSince s s') =
    (contacts.filter s.publishes).map fun c => (PresenceType.unsubscribed, c)
  /-- What is forgotten is reported once, as changed or as removed, and nothing else. -/
  reported : ∃ changed removed, contactsReported (logSince s s') = [(changed, removed)] ∧
    (∀ c ∈ contacts, s.forgets c = true → (c ∈ changed ↔ c ∉ removed)) ∧
    ∀ c, ¬ (c ∈ contacts ∧ s.forgets c = true) → c ∉ changed ∧ c ∉ removed
  /-- The others are left to the server. -/
  kept : ∀ c, ¬ (c ∈ contacts ∧ s.forgets c = true) → s'.item c = s.item c
  /-- No item is read that has been freed. -/
  unread : ∀ c, Action.readFreed c ∉ logSince s s'

/-- The history of the operation. -/
theorem unpublishAsync_log (hporter : s.conn.porter = true) (hnodup : contacts.Nodup) :
    ∃ acc, Unpublished s contacts acc ∧
      logSince s (s.unpublishAsync contacts) =
        contacts.flatMap s.unpublishLog ++ [.contactsChanged acc.2.changed acc.2.removed] ∧
      ∀ c, (s.unpublishAsync contacts).item c = acc.1.item c := by
  have hstart : Unpublished s [] (s, ⟨∅, ∅, ∅, []⟩) :=
    ⟨hporter, (List.append_nil _).symm, fun _ _ => rfl, by simp, by simp⟩
  have hloop : Unpublished s contacts
      (State.loopWhile State.unpublishOne (s, ⟨∅, ∅, ∅, []⟩) contacts).1 :=
    (unpublished_loop hstart hnodup).2
  refine ⟨_, hloop, ?_, fun c => rfl⟩
  have hlog : (s.unpublishAsync contacts).log =
      (State.loopWhile State.unpublishOne (s, ⟨∅, ∅, ∅, []⟩) contacts).1.1.log ++ _ := rfl
  rw [logSince, hlog, hloop.log, List.append_assoc, List.drop_left]

/-- What one round adds: the item is freed and read, or the contact may be told. -/
theorem unpublishLog_cases (s : State) (c : Handle) :
    (s.frees c = true ∧ s.grants c = false ∧ ∃ edits : List ItemEdit,
      s.unpublishLog c = edits.map Action.destroyed ++ [Action.readFreed c]) ∨
    (s.frees c = false ∧
      s.unpublishLog c = if s.grants c then [Action.presence .unsubscribed c ""] else []) := by
  unfold State.frees State.grants
  cases hitem : s.item c with
  | none => exact .inr ⟨rfl, by rw [State.unpublishLog, hitem]; rfl⟩
  | some item =>
    rw [unpublishLog_of_item hitem, Option.any_some, Option.any_some]
    cases hfrees : item.forgets && item.forgotten.removable with
    | false => exact .inr ⟨rfl, by simp⟩
    | true =>
      refine .inl ⟨rfl, ?_, _, rfl⟩
      have hforgets := (Bool.and_eq_true _ _ ▸ hfrees).1
      refine decide_eq_false fun hyes => ?_
      rw [Item.forgets, hyes] at hforgets
      exact absurd hforgets (by decide)

theorem presencesSent_unpublishLog (s : State) (c : Handle) :
    presencesSent (s.unpublishLog c) =
      if s.grants c then [(PresenceType.unsubscribed, c)] else [] := by
  rcases unpublishLog_cases s c with ⟨-, hgrants, edits, hlog⟩ | ⟨-, hlog⟩
  · simp [presencesSent, hlog, hgrants, List.filterMap_map]
  · rw [hlog]
    split <;> rfl

theorem contactsReported_unpublishLog (s : State) (c : Handle) :
    contactsReported (s.unpublishLog c) = [] := by
  rcases unpublishLog_cases s c with ⟨-, -, edits, hlog⟩ | ⟨-, hlog⟩
  · simp [contactsReported, hlog, List.filterMap_map]
  · rw [hlog]
    split <;> rfl

theorem readFreed_mem_unpublishLog {c' : Handle} :
    Action.readFreed c' ∈ s.unpublishLog c ↔ c' = c ∧ s.frees c = true := by
  rcases unpublishLog_cases s c with ⟨hfrees, -, edits, hlog⟩ | ⟨hfrees, hlog⟩
  · simp [hlog, hfrees]
  · rw [hlog, hfrees]
    split <;> simp

/-- The presences of the whole loop. -/
theorem presencesSent_flatMap (s : State) (contacts : List Handle) :
    presencesSent (contacts.flatMap s.unpublishLog) =
      (contacts.filter s.grants).map fun c => (PresenceType.unsubscribed, c) := by
  induction contacts with
  | nil => rfl
  | cons c contacts ih =>
    have happend : presencesSent ((c :: contacts).flatMap s.unpublishLog) =
        presencesSent (s.unpublishLog c) ++ presencesSent (contacts.flatMap s.unpublishLog) := by
      rw [List.flatMap_cons]
      exact List.filterMap_append
    rw [happend, ih, presencesSent_unpublishLog, List.filter_cons]
    split <;> rfl

theorem contactsReported_flatMap (s : State) (contacts : List Handle) :
    contactsReported (contacts.flatMap s.unpublishLog) = [] := by
  unfold contactsReported
  rw [List.filterMap_flatMap, List.flatMap_eq_nil_iff]
  exact fun c _ => contactsReported_unpublishLog s c

/-- Who has asked is told only if the presence had been granted. -/
theorem publishes_eq_grants_iff :
    s.publishes c = s.grants c ↔ ∀ item, s.item c = some item → item.publish ≠ .ask := by
  unfold State.publishes State.grants
  cases hitem : s.item c with
  | none => simp
  | some item =>
    simp only [Option.any_some, Option.some.injEq, forall_eq']
    cases item.publish <;> decide

theorem frees_eq_true_iff :
    s.frees c = true ↔ ∃ item, s.item c = some item ∧
      (item.publish = .ask ∨ item.publish = .removedRemotely) ∧
        item.forgotten.removable = true := by
  unfold State.frees
  cases hitem : s.item c with
  | none => simp
  | some item => simp [Item.forgets]

/-- **When publication is withdrawn as it should be.**  No contact waits for an answer to
its request, and no item goes when it is forgotten that its contact has unsubscribed. -/
theorem unpublishes_iff (hporter : s.conn.porter = true) (hnodup : contacts.Nodup) :
    Unpublishes s (s.unpublishAsync contacts) contacts ↔
      ∀ c ∈ contacts, ∀ item, s.item c = some item → item.publish ≠ .ask ∧
        (item.publish = .removedRemotely → item.forgotten.removable = false) := by
  obtain ⟨acc, hdone, hlog, hitem⟩ := unpublishAsync_log hporter hnodup
  have hsent : presencesSent (logSince s (s.unpublishAsync contacts)) =
      (contacts.filter s.grants).map fun c => (PresenceType.unsubscribed, c) := by
    rw [hlog, ← presencesSent_flatMap]
    exact List.filterMap_append.trans (List.append_nil _)
  have hreported : contactsReported (logSince s (s.unpublishAsync contacts)) =
      [(acc.2.changed, acc.2.removed)] := by
    rw [hlog]
    refine List.filterMap_append.trans ?_
    exact congrArg (· ++ [(acc.2.changed, acc.2.removed)]) (contactsReported_flatMap s contacts)
  have hread : ∀ c, Action.readFreed c ∈ logSince s (s.unpublishAsync contacts) ↔
      c ∈ contacts ∧ s.frees c = true := by
    intro c
    rw [hlog, List.mem_append, List.mem_flatMap]
    simp only [readFreed_mem_unpublishLog, List.mem_singleton, reduceCtorEq, or_false]
    constructor
    · rintro ⟨c', hc', rfl, hfrees⟩
      exact ⟨hc', hfrees⟩
    · rintro ⟨hc, hfrees⟩
      exact ⟨c, hc, rfl, hfrees⟩
  constructor
  · rintro ⟨htold, -, -, hunread⟩ c hc item hitem
    constructor
    · -- the request would have been answered
      have hfilter : contacts.filter s.grants = contacts.filter s.publishes := by
        rw [hsent] at htold
        exact (List.map_injective_iff.mpr (Prod.mk_right_injective _)) htold
      have hsame : s.publishes c = s.grants c := by
        have hmem := congrArg (c ∈ ·) hfilter
        simp only [List.mem_filter, hc, true_and, eq_iff_iff] at hmem
        exact (Bool.eq_iff_iff.mpr hmem).symm
      exact publishes_eq_grants_iff.mp hsame item hitem
    · intro hgone
      refine eq_false_of_ne_true fun hrem => hunread c ((hread c).mpr ⟨hc, ?_⟩)
      exact frees_eq_true_iff.mpr ⟨item, hitem, .inr hgone, hrem⟩
  · intro hok
    have hstays : ∀ c ∈ contacts, s.frees c = false := by
      intro c hc
      refine eq_false_of_ne_true fun hfrees => ?_
      obtain ⟨item, hitem, hask | hgone, hrem⟩ := frees_eq_true_iff.mp hfrees
      · exact (hok c hc item hitem).1 hask
      · rw [(hok c hc item hitem).2 hgone] at hrem
        cases hrem
    refine ⟨?_, ⟨_, _, hreported, ?_, ?_⟩, ?_, ?_⟩
    · rw [hsent]
      refine congrArg _ (List.filter_congr fun c hc => ?_)
      exact (publishes_eq_grants_iff.mpr fun item hitem => (hok c hc item hitem).1).symm
    · intro c hc hforgets
      rw [hdone.changed, hdone.removed]
      simp [hc, hforgets, hstays c hc]
    · intro c hnot
      rw [hdone.changed, hdone.removed]
      refine ⟨fun h => hnot ⟨h.1, h.2.1⟩, fun h => ?_⟩
      rw [hstays c h.1] at h
      cases h.2
    · intro c hnot
      rw [hitem]
      refine hdone.item c ?_
      by_cases hc : c ∈ contacts
      · exact .inr (eq_false_of_ne_true fun hforgets => hnot ⟨hc, hforgets⟩)
      · exact .inl hc
    · intro c hmem
      obtain ⟨hc, hfrees⟩ := (hread c).mp hmem
      rw [hstays c hc] at hfrees
      cases hfrees

/-- One contact sees the presence, and another has unsubscribed. -/
def unsubscribedFrom : State :=
  (run step (State.new plainServer)
    [.rosterResult none [bothNode 1, bothNode 2], .presence 2 (some .unsubscribe) none]).getD
    (State.new plainServer)

theorem unpublishes_unsubscribedFrom :
    (unsubscribedFrom.item 2).any (fun item => item.publish = .removedRemotely) = true ∧
      Unpublishes unsubscribedFrom (unsubscribedFrom.unpublishAsync [1, 2]) [1, 2] :=
  ⟨by decide, (unpublishes_iff rfl (by decide)).mpr (by decide)⟩

/-- A contact that is not on the roster has asked to see the presence. -/
def requestedBy : State :=
  (run step (State.new plainServer)
    [.rosterResult none [], .presence 3 (some .subscribe) none]).getD (State.new plainServer)

/-- **A request that is refused is not answered.**  The item is freed, and read to decide
that there is nothing to answer. -/
theorem unpublish_request_unanswered :
    run step (State.new plainServer)
        [.rosterResult none [], .presence 3 (some .subscribe) none] = some requestedBy ∧
      logSince requestedBy (requestedBy.unpublishAsync [3]) =
        [.readFreed 3, .contactsChanged ∅ {3}] ∧
      ¬ Unpublishes requestedBy (requestedBy.unpublishAsync [3]) [3] := by
  have hlog : logSince requestedBy (requestedBy.unpublishAsync [3]) =
      [.readFreed 3, .contactsChanged ∅ {3}] := by decide
  refine ⟨rfl, hlog, fun h => h.unread 3 ?_⟩
  rw [hlog]
  exact List.mem_cons_self

end Roster
