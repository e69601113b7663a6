/-
# The flicker timeout (`src/roster.c`)

When a contact whose subscription was requested is pushed without `ask="subscribe"`
while the flicker timeout is pending, `process_roster` leaves the subscribe state
alone, and `flicker_prevention_timeout` is to make up for it.

* `subscribe_settles_iff`: it does exactly when the item settles on the subscription
  `none`, when no timeout was pending, or when the state was NO already; and a push that
  restores `ask="subscribe"` leaves the state at ASK;
* `from_stays_ask`: with the subscription `from` the state stays at ASK.
-/
import Mathlib.Data.List.Induction
import Gabble.RosterSteady

open Transition

namespace Roster

variable {s s' : State} {h : Handle} {item old : Item} {node : ItemNode}

/-! ## Settling -/

/-- We are not subscribed to the contact, and have not asked for it either. -/
def Item.Settled (item : Item) : Prop :=
  (item.subscription = .none ∨ item.subscription = .from_) ∧ item.askSubscribe = false

/-- The `<item/>` says that we have asked for a subscription that we do not have. -/
def ItemNode.RestoresAsk (node : ItemNode) : Prop :=
  (parseItemSubscription node.subscription = .none ∨
    parseItemSubscription node.subscription = .from_) ∧ node.ask = some "subscribe"

/-- Whatever else happens, the subscribe state is NO once the timeout is not pending. -/
def SettlesToNo (s : State) (h : Handle) : Prop :=
  ∀ after s', run step s after = some s' →
    (∀ e ∈ after, e = .flickerTimeout h ∨ e.Spares h) →
    ∃ item, s'.item h = some item ∧ (item.flickerPrevention = false → item.subscribe = .no)

/-- A push that restores `ask="subscribe"` leaves the subscribe state at ASK. -/
def KeepsAsk (s : State) (h : Handle) : Prop :=
  ∀ ext nodes s' item, step s (.push ext nodes) = some s' → s.item h = some item →
    item.subscribe = .ask → (∀ node ∈ nodes, node.contact = some h → node.RestoresAsk) →
    ∃ item', s'.item h = some item' ∧ item'.subscribe = .ask

/-! ## One pushed item -/

/-- What is left for the timeout to do is all that is missing. -/
def Item.Timed (item : Item) : Prop :=
  item.Settled → item.flickerPrevention = true ∨ item.subscribe = .no

theorem publishChanges_frame (item : Item) (googleRoster : Bool) :
    (item.publishChanges googleRoster).2.subscription = item.subscription ∧
      (item.publishChanges googleRoster).2.askSubscribe = item.askSubscribe ∧
      (item.publishChanges googleRoster).2.subscribe = item.subscribe ∧
      (item.publishChanges googleRoster).2.flickerPrevention = item.flickerPrevention := by
  rw [publishChanges_same]
  exact ⟨rfl, rfl, rfl, rfl⟩

theorem subscribeChanges_frame (item : Item) (googleRoster : Bool) :
    (item.subscribeChanges googleRoster).2.subscription = item.subscription ∧
      (item.subscribeChanges googleRoster).2.askSubscribe = item.askSubscribe := by
  rw [subscribeChanges_same]
  exact ⟨rfl, rfl⟩

/-- Without a pending timeout the state changes at once. -/
theorem timed_subscribeChanges (item : Item) (googleRoster : Bool) :
    (item.subscribeChanges googleRoster).2.Timed := by
  obtain ⟨hsub, hask⟩ := subscribeChanges_frame item googleRoster
  rintro ⟨hnone, hno⟩
  rw [hsub] at hnone
  rw [hask] at hno
  unfold Item.subscribeChanges
  rcases hnone with hnone | hfrom
  · rw [hnone]
    cases hflicker : item.flickerPrevention <;> simp [hno, hflicker, Item.setSubscribe]
  · rw [hfrom]
    cases hflicker : item.flickerPrevention <;> simp [hno, hflicker, Item.setSubscribe]

/-- While we ask for a subscription that we do not have, the state stays at ASK. -/
theorem subscribe_subscribeChanges (googleRoster : Bool)
    (hsub : item.subscription = .none ∨ item.subscription = .from_)
    (hask : item.askSubscribe = true) (hsubscribe : item.subscribe = .ask) :
    (item.subscribeChanges googleRoster).2.subscribe = .ask := by
  unfold Item.subscribeChanges
  rcases hsub with hnone | hfrom
  · rw [hnone]
    simp [hask, hsubscribe, Item.setSubscribe]
  · rw [hfrom]
    simp [hask, hsubscribe, Item.setSubscribe]

/-- The subscription of an item after the push. -/
def Item.pushed (old : Item) (node : ItemNode) (googleRoster : Bool) : Item :=
  (((old.update node googleRoster).publishChanges googleRoster).2.subscribeChanges googleRoster).2

theorem pushed_subscription (old : Item) (node : ItemNode) (googleRoster : Bool) :
    (old.pushed node googleRoster).subscription = parseItemSubscription node.subscription :=
  (subscribeChanges_frame _ googleRoster).1.trans (publishChanges_frame _ googleRoster).1

/-- The item of the contact that an `<item/>` is about, unless it is removed. -/
theorem processNode_item (googleRoster : Bool) (acc : State × State.Changes)
    (hcontact : node.contact = some h) :
    (State.processNode googleRoster acc node).1.item h = none ∧
        parseItemSubscription node.subscription = .remove ∨
      ∃ old stored blocked, (acc.1.itemEnsure h).item h = some old ∧
        (State.processNode googleRoster acc node).1.item h =
          some { old.pushed node googleRoster with stored := stored, blocked := blocked } := by
  obtain ⟨old, hold, _⟩ := itemEnsure_item acc.1 h
  unfold State.processNode
  rw [hcontact]
  simp only [hold]
  generalize hset : (State.setItem _ h _) = s₁
  have hitem : ∃ stored blocked, s₁.item h =
      some { old.pushed node googleRoster with stored := stored, blocked := blocked } := by
    rw [← hset, setItem_item_self, processItem_fst]
    exact ⟨_, _, rfl⟩
  obtain ⟨stored, blocked, hitem⟩ := hitem
  rcases itemMaybeRemove_cases s₁ h with ⟨heq, _⟩ | ⟨item, hitem', hrem, heq⟩
  · rw [heq]
    exact .inr ⟨old, stored, blocked, rfl, hitem⟩
  · rw [hitem] at hitem'
    cases hitem'
    refine .inl ⟨?_, ?_⟩
    · rw [heq, removeItem_item, if_pos rfl]
    · rw [← pushed_subscription old node googleRoster]
      exact ((Item.removable_iff _).mp hrem).1

/-- The push leaves nothing to do but for the timeout. -/
theorem timed_processNode (googleRoster : Bool) (acc : State × State.Changes)
    (hcontact : node.contact = some h) :
    ∀ item, (State.processNode googleRoster acc node).1.item h = some item → item.Timed := by
  intro item hitem
  rcases processNode_item googleRoster acc hcontact with ⟨hnone, _⟩ | ⟨old, _, _, _, heq⟩
  · rw [hnone] at hitem
    cases hitem
  · rw [heq] at hitem
    cases hitem
    exact timed_subscribeChanges _ googleRoster

/-- The push restores `ask="subscribe"`, or is about another contact. -/
theorem ask_processNode (googleRoster : Bool) (acc : State × State.Changes)
    (hrestores : node.contact = some h → node.RestoresAsk)
    (hask : ∃ item, acc.1.item h = some item ∧ item.subscribe = .ask) :
    ∃ item, (State.processNode googleRoster acc node).1.item h = some item ∧
      item.subscribe = .ask := by
  by_cases hcontact : node.contact = some h
  · obtain ⟨hsub, hnode⟩ := hrestores hcontact
    obtain ⟨item, hitem, hsubscribe⟩ := hask
    rcases processNode_item googleRoster acc hcontact with
      ⟨_, hremove⟩ | ⟨old, stored, blocked, hold, heq⟩
    · rw [hremove] at hsub
      simp at hsub
    · have hens : acc.1.itemEnsure h = acc.1 := by
        unfold State.itemEnsure
        rw [hitem]
      rw [hens, hitem] at hold
      cases hold
      obtain ⟨hsub', hask', hsubscribe', _⟩ :=
        publishChanges_frame (item.update node googleRoster) googleRoster
      refine ⟨_, heq, subscribe_subscribeChanges googleRoster ?_ ?_ ?_⟩
      · rw [hsub']
        exact hsub
      · rw [hask']
        exact decide_eq_true hnode
      · rw [hsubscribe']
        exact hsubscribe
  · rw [processNode_item_ne googleRoster acc hcontact]
    exact hask

/-! ## One push -/

/-- The last `<item/>` about the contact decides. -/
theorem timed_processRoster (s : State) (ext : Option String) {nodes : List ItemNode}
    (hnamed : ∃ node ∈ nodes, node.contact = some h) :
    ∀ item, (s.processRoster ext nodes).item h = some item → item.Timed := by
  rw [processRoster_item]
  generalize (s.conn.googleRoster && ext == some "2") = googleRoster
  generalize (s, (⟨∅, ∅, ∅, []⟩ : State.Changes)) = acc
  induction nodes using List.reverseRecOn with
  | nil =>
    obtain ⟨node, hmem, _⟩ := hnamed
    cases hmem
  | append_singleton nodes last ih =>
    rw [List.foldl_append, List.foldl_cons, List.foldl_nil]
    by_cases hcontact : last.contact = some h
    · exact timed_processNode googleRoster _ hcontact
    · rw [processNode_item_ne googleRoster _ hcontact]
      apply ih
      obtain ⟨node, hmem, hnode⟩ := hnamed
      rcases List.mem_append.mp hmem with hmem | hmem
      · exact ⟨node, hmem, hnode⟩
      · rw [List.mem_singleton.mp hmem] at hnode
        exact absurd hnode hcontact

theorem keepsAsk (s : State) (h : Handle) : KeepsAsk s h := by
  intro ext nodes s' item hstep hitem hask hrestores
  have heq : s' = s.processRoster ext nodes := (Option.some.inj (operation_of_step hstep).2).symm
  rw [heq, processRoster_item]
  generalize (s.conn.googleRoster && ext == some "2") = googleRoster
  have hacc : ∃ item, (s, (⟨∅, ∅, ∅, []⟩ : State.Changes)).1.item h = some item ∧
      item.subscribe = .ask := ⟨item, hitem, hask⟩
  clear hstep heq
  generalize (s, (⟨∅, ∅, ∅, []⟩ : State.Changes)) = acc at hacc ⊢
  induction nodes generalizing acc with
  | nil => exact hacc
  | cons node nodes ih =>
    rw [List.foldl_cons]
    refine ih (fun node' hmem => hrestores node' (List.mem_cons_of_mem _ hmem)) _ ?_
    exact ask_processNode googleRoster acc (hrestores node List.mem_cons_self) hacc

/-- A push breaks no assertion. -/
theorem processRoster_fault (s : State) (ext : Option String) (nodes : List ItemNode) :
    (s.processRoster ext nodes).fault = s.fault := by
  have hloop : ∀ (googleRoster : Bool) (acc : State × State.Changes),
      (nodes.foldl (State.processNode googleRoster) acc).1.fault = acc.1.fault := by
    intro googleRoster
    induction nodes with
    | nil => intro acc; rfl
    | cons node nodes ih =>
      intro acc
      rw [List.foldl_cons, ih]
      exact (processNode_same googleRoster acc node).1
  rw [← hloop (s.conn.googleRoster && ext == some "2") (s, ⟨∅, ∅, ∅, []⟩)]
  unfold State.processRoster
  dsimp only
  split <;> split <;> rfl

/-! ## The timeout -/

/-- The state is NO, or the timeout is going to make it NO. -/
def Item.Due (item : Item) : Prop :=
  item.Settled ∧
    (item.subscribe = .no ∨ item.flickerPrevention = true ∧ item.subscription = .none)

/-- The item after the timeout. -/
def Item.timedOut (item : Item) : Item :=
  if (item.subscription = .remove ∨ item.subscription = .none) ∧ item.askSubscribe = false then
    { item with subscribe := .no, flickerPrevention := false }
  else { item with flickerPrevention := false }

theorem flickerPreventionTimeout_item (s : State) (h : Handle) (item : Item) :
    (s.flickerPreventionTimeout h item).item h = some item.timedOut := by
  unfold State.flickerPreventionTimeout Item.timedOut
  split
  · exact setItem_item_self ..
  · exact setItem_item_self ..

/-- The timeout does what is due. -/
theorem Item.Due.timedOut (hdue : item.Due) : item.timedOut.Due := by
  obtain ⟨⟨hsub, hask⟩, hno⟩ := hdue
  unfold Item.timedOut
  split
  · exact ⟨⟨hsub, hask⟩, .inl rfl⟩
  · rename_i hkeep
    refine ⟨⟨hsub, hask⟩, .inl ?_⟩
    rcases hno with hno | ⟨_, hnone⟩
    · exact hno
    · exact absurd ⟨.inr hnone, hask⟩ hkeep

theorem Item.Due.steady {item' : Item} (hdue : item.Due) (hsteady : item.Steady item') :
    item'.Due := by
  obtain ⟨⟨hsub, hask⟩, hno⟩ := hdue
  refine ⟨⟨?_, hsteady.ask.trans hask⟩, ?_⟩
  · rw [hsteady.subscription]
    exact hsub
  · rcases hsteady.subscribe with heq | hno'
    · rw [heq, hsteady.flicker, hsteady.subscription]
      exact hno
    · exact .inl hno'

/-- What is due stays due, whatever happens but for stanzas about the contact. -/
theorem due_step {e : Event} (hstep : step s e = some s')
    (he : e = .flickerTimeout h ∨ e.Spares h)
    (hdue : ∃ item, s.item h = some item ∧ item.Due) :
    ∃ item, s'.item h = some item ∧ item.Due := by
  obtain ⟨item, hitem, hdue⟩ := hdue
  obtain ⟨-, hop⟩ := operation_of_step hstep
  rcases he with rfl | hspares
  · simp only [operation, hitem] at hop
    split at hop
    · cases hop
      exact ⟨_, flickerPreventionTimeout_item s h item, hdue.timedOut⟩
    · cases hop
  · have hremove : item.subscription ≠ .remove := by
      rcases hdue.1.1 with hsub | hsub <;> simp [hsub]
    obtain ⟨item', hitem', hsteady⟩ := steady_operation hspares hop item hitem hremove
    exact ⟨item', hitem', hdue.steady hsteady⟩

theorem due_run {after : List Event} (hrun : run step s after = some s')
    (hafter : ∀ e ∈ after, e = .flickerTimeout h ∨ e.Spares h)
    (hdue : ∃ item, s.item h = some item ∧ item.Due) :
    ∃ item, s'.item h = some item ∧ item.Due := by
  induction after generalizing s with
  | nil =>
    cases hrun
    exact hdue
  | cons e after ih =>
    obtain ⟨s₁, hstep, hrun⟩ := Option.bind_eq_some_iff.mp hrun
    refine ih hrun (fun e' hmem => hafter e' (List.mem_cons_of_mem _ hmem)) ?_
    exact due_step hstep (hafter e List.mem_cons_self) hdue

/-- **The flicker timeout.**  A push that restores `ask="subscribe"` leaves the state at
ASK.  When a push leaves the contact without it, the state gets NO once the timeout is
over exactly when the subscription is `none`, no timeout is pending, or it is NO. -/
theorem subscribe_settles_iff (s s₁ : State) (h : Handle) (ext : Option String)
    (nodes : List ItemNode) (item : Item) (hpush : step s (.push ext nodes) = some s₁)
    (hnamed : ∃ node ∈ nodes, node.contact = some h) (hitem : s₁.item h = some item)
    (hsettled : item.Settled) :
    KeepsAsk s h ∧ (SettlesToNo s₁ h ↔
      item.subscription = .none ∨ item.flickerPrevention = false ∨ item.subscribe = .no) := by
  refine ⟨keepsAsk s h, ?_⟩
  obtain ⟨hfault, hop⟩ := operation_of_step hpush
  have heq : s₁ = s.processRoster ext nodes := (Option.some.inj hop).symm
  have htimed : item.Timed := timed_processRoster s ext hnamed item (heq ▸ hitem)
  constructor
  · intro hsettles
    by_contra hnot
    push Not at hnot
    obtain ⟨hsub, hflicker, hsubscribe⟩ := hnot
    -- the timeout fires, and the subscription is `from`
    have hfrom : item.subscription = .from_ := hsettled.1.resolve_left hsub
    have hstep : step s₁ (.flickerTimeout h) = some (s₁.flickerPreventionTimeout h item) := by
      unfold step
      rw [if_neg]
      · simp only [operation, hitem]
        rw [if_pos (eq_true_of_ne_false hflicker)]
      · rw [heq, processRoster_fault, hfault]
        simp [Event.afterClose, Event.contacts]
    have hrun : run step s₁ [.flickerTimeout h] = some (s₁.flickerPreventionTimeout h item) :=
      Option.bind_eq_some_iff.mpr ⟨_, hstep, rfl⟩
    obtain ⟨item', hitem', hno⟩ := hsettles _ _ hrun (by simp)
    rw [flickerPreventionTimeout_item] at hitem'
    cases hitem'
    have hout : item.timedOut = { item with flickerPrevention := false } := by
      unfold Item.timedOut
      rw [if_neg]
      simp [hfrom]
    rw [hout] at hno
    exact hsubscribe (hno rfl)
  · intro hcond after s' hrun hafter
    have hdue : item.Due := by
      refine ⟨hsettled, ?_⟩
      rcases htimed hsettled with hpending | hno
      · rcases hcond with hnone | hidle | hno
        · exact .inr ⟨hpending, hnone⟩
        · rw [hpending] at hidle
          cases hidle
        · exact .inl hno
      · exact .inl hno
    obtain ⟨item', hitem', _, hno⟩ := due_run hrun hafter ⟨item, hitem, hdue⟩
    refine ⟨item', hitem', fun hidle => ?_⟩
    rcases hno with hno | ⟨hpending, _⟩
    · exact hno
    · rw [hidle] at hpending
      cases hpending

/-- Our subscription to the contact, as the server pushes it. -/
def pushNode (h : Handle) (subscription : String) (ask : Option String) : ItemNode :=
  ⟨some h, some subscription, ask, none, none, none, []⟩

/-- A subscription is requested, and the server says so. -/
def requestRun (subscription : String) : List Event :=
  [.rosterResult none [], .requestSubscription [1] "Hello", .iqReply 0 true, .complete 0,
    .push none [pushNode 1 subscription (some "subscribe")]]

/-- The roster after the request. -/
def requested (subscription : String) : State :=
  (run step (State.new plainServer) (requestRun subscription)).getD (State.new plainServer)

/-- The request is rescinded while the timeout is pending. -/
theorem subscribe_settles_iff_requestRun :
    run step (State.new plainServer) (requestRun "none") = some (requested "none") ∧
    ∃ s₁, step (requested "none") (.push none [pushNode 1 "none" none]) = some s₁ ∧
      (s₁.item 1).any (fun item => item.flickerPrevention) = true ∧ SettlesToNo s₁ 1 := by
  refine ⟨rfl, _, rfl, by decide, ?_⟩
  refine (subscribe_settles_iff (requested "none") _ 1 none [pushNode 1 "none" none] _ rfl
    ⟨_, List.mem_singleton.mpr rfl, rfl⟩ rfl ?_).2.mpr (.inl rfl)
  exact ⟨.inl rfl, rfl⟩

/-- The contact is subscribed to us: our request is rescinded, and the state is still
ASK after the timeout. -/
theorem from_stays_ask :
    run step (State.new plainServer) (requestRun "from") = some (requested "from") ∧
    ∃ s₁ s₂, step (requested "from") (.push none [pushNode 1 "from" none]) = some s₁ ∧
      run step s₁ [.flickerTimeout 1] = some s₂ ∧ ¬ SettlesToNo s₁ 1 ∧
      (s₂.item 1).map (fun item => (item.subscription, item.askSubscribe,
        item.flickerPrevention, item.subscribe)) = some (.from_, false, false, .ask) := by
  refine ⟨rfl, _, _, rfl, rfl, fun hsettles => ?_, by decide⟩
  obtain ⟨item, hitem, hno⟩ := hsettles [.flickerTimeout 1] _ rfl (by simp)
  cases hitem
  have hask := hno rfl
  revert hask
  decide

end Roster
