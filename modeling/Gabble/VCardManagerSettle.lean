/-
# Edit requests are settled

`EditsSettle` is the condition on one event under which every edit request is
settled: its callback is called once, with the outcome of the SET its edits were
sent in.  `SetAlone`, the part of it about a GET that fails while a SET is in the
pipeline, is all that is needed for the SET to stay in step with
`edit_pipeline_item` and `patched_vcard`.
-/
import Mathlib.Tactic.Common
import Gabble.VCardManagerEdits

open Transition

namespace VCardManager

variable {β : Type} [DecidableEq β]
variable {i : ItemId} {item : SetItem β}

/-! ## The conditions -/

/-- A GET of the own vCard does not fail while there is a SET and more edits are
queued: `pipeline_reply_cb` would call `replace_reply_cb` for the SET. -/
def SetAlone (s : State β) (e : Event β) : Prop :=
  CarriersKept s e ∧
    (s.answer e = some (s.conn.selfHandle, .error) → s.editPipelineItem ≠ none → s.edits = [])

/-- The vCard to which an event makes the queued edits. -/
def State.patchBase (s : State β) (e : Event β) : Option (VCard β) :=
  match e, s.answer e with
  | .setReply _ true, _ => s.patchedVCard
  | _, some (h, .success node) =>
    if h = s.conn.selfHandle ∧ s.editPipelineItem = none then some (node.getD []) else none
  | _, some (h, .itemNotFound node) =>
    if h = s.conn.selfHandle ∧ s.editPipelineItem = none then some (node.getD []) else none
  | _, _ => none

/-- Also, queued edits change something when there are requests for them:
`manager_patch_vcard` would mark the requests as sent without a SET. -/
structure EditsMade (s : State β) (e : Event β) : Prop where
  setAlone : SetAlone s e
  changed : ∀ node, s.patchBase e = some node → Unsent s → s.edits ≠ [] →
    (applyEdits s.conn (s.edits.map Edit.info) node).1 = true

/-- Also, the own vCard, or the failure to get it, finds no request without an edit:
nothing would be done for it. -/
structure EditsSettle (s : State β) (e : Event β) : Prop extends EditsMade s e where
  queued : s.patchBase e ≠ none ∨
    (s.answer e = some (s.conn.selfHandle, .error) ∧ s.editPipelineItem = none) →
    Unsent s → s.edits ≠ []

instance (s : State β) : Decidable (Unsent s) :=
  inferInstanceAs (Decidable (∃ q ∈ s.editRequests, q.setInPipeline = false))

instance (s : State β) (e : Event β) : Decidable (SetAlone s e) :=
  inferInstanceAs (Decidable (CarriersKept s e ∧ (_ → s.editPipelineItem ≠ none → s.edits = [])))

instance (s : State β) (e : Event β) : Decidable (EditsMade s e) :=
  decidable_of_iff (SetAlone s e ∧ ∀ node ∈ s.patchBase e, Unsent s → s.edits ≠ [] →
      (applyEdits s.conn (s.edits.map Edit.info) node).1 = true)
    ⟨fun h => ⟨h.1, h.2⟩, fun h => ⟨h.1, h.2⟩⟩

instance (s : State β) (e : Event β) : Decidable (EditsSettle s e) :=
  decidable_of_iff (EditsMade s e ∧ (s.patchBase e ≠ none ∨
      (s.answer e = some (s.conn.selfHandle, .error) ∧ s.editPipelineItem = none) →
      Unsent s → s.edits ≠ []))
    ⟨fun h => ⟨h.1, h.2⟩, fun h => ⟨h.toEditsMade, h.queued⟩⟩

/-! ## The SET -/

section

variable {s s' : State β} {e : Event β}

omit [DecidableEq β] in
/-- The only SET there is. -/
theorem InStep.answered (h : InStep s) (hi : ∃ item ∈ s.sets, item.id = i) :
    ∃ item node, item.id = i ∧ s.editPipelineItem = some i ∧ s.sets = [item] ∧
      s.patchedVCard = some node := by
  obtain ⟨item, hmem, rfl⟩ := hi
  rcases h with ⟨_, hsets, _⟩ | ⟨item', node, hitem, hsets, hnode⟩
  · simp [hsets] at hmem
  · have heq : item = item' := by simpa [hsets] using hmem
    exact ⟨item, node, rfl, heq ▸ hitem, heq ▸ hsets, hnode⟩

omit [DecidableEq β] in
theorem answerSet_sets (hsets : s.sets = [item]) (success : Bool) :
    (s.answerSet item.id success).sets = [] := by
  simp [State.answerSet, hsets]

omit [DecidableEq β] in
/-- After the SET, or without one, everything is cleared. -/
theorem InStep.failEdits (hsets : s.sets = []) : InStep s.failEdits := .inl ⟨rfl, hsets, rfl⟩

/-- The answer of a GET, by what it does to the edits. -/
theorem editEffect_cases (s : State β) (handle : Handle) (result : GetResult β) :
    s.editEffect handle result = s ∧
      (handle = s.conn.selfHandle → result ≠ .wait → result = .error ∧ s.edits = []) ∨
    handle = s.conn.selfHandle ∧ (result = .error ∧ s.edits ≠ [] ∧
        s.editEffect handle result = s.failEdits ∨
      ∃ node, (result = .success node ∨ result = .itemNotFound node) ∧
        s.editEffect handle result = s.managerPatchVCard (node.getD [])) := by
  by_cases hself : handle = s.conn.selfHandle
  · cases result with
    | wait => exact .inl ⟨rfl, fun _ hw => absurd rfl hw⟩
    | error =>
      by_cases hedits : s.edits = []
      · exact .inl ⟨by simp [State.editEffect, hedits], fun _ _ => ⟨rfl, hedits⟩⟩
      · exact .inr ⟨hself, .inl ⟨rfl, hedits, by simp [State.editEffect, hself, hedits]⟩⟩
    | itemNotFound node =>
      exact .inr ⟨hself, .inr ⟨node, .inr rfl, by simp [State.editEffect, hself]⟩⟩
    | success node =>
      exact .inr ⟨hself, .inr ⟨node, .inl rfl, by simp [State.editEffect, hself]⟩⟩
  · exact .inl ⟨editEffect_of_ne result hself, fun hh => absurd hh hself⟩

theorem InStep.editEffect (h : InStep s) (handle : Handle) (result : GetResult β)
    (halone : handle = s.conn.selfHandle → result = .error → s.editPipelineItem ≠ none →
      s.edits = []) : InStep (s.editEffect handle result) := by
  rcases editEffect_cases s handle result with ⟨heq, _⟩ | ⟨hself, ⟨herr, hne, heq⟩ | ⟨_, _, heq⟩⟩
  · rw [heq]
    exact h
  · rw [heq]
    exact .failEdits (h.idle (by_contra fun hitem => hne (halone hself herr hitem))).1
  · rw [heq]
    exact h.managerPatchVCard _

theorem InStep.acceptEdits (hsets : s.sets = [item]) (node : VCard β) :
    InStep ((s.answerSet item.id true).acceptEdits node) := by
  unfold State.acceptEdits
  refine InStep.managerPatchVCard (.inl ⟨rfl, ?_, rfl⟩) node
  exact answerSet_sets hsets true

/-- One step keeps the SET in step. -/
theorem InStep.effect (h : InStep s) (hok : SetAlone s e) (heff : Effect s e s') : InStep s' := by
  cases heff with
  | same _ _ hsame _ => exact h.congr hsame
  | environment _ _ _ _ => exact h
  | connected unsent _ hsame _ =>
    exact InStep.congr (s := { s with status := .connected, edits := s.edits ++ unsent }) h hsame
  | get _ hans hsame hsame' _ =>
    refine (InStep.editEffect (h.congr hsame) _ _ fun hself herr => ?_).congr hsame'
    rw [hsame.editPipelineItem, hsame.edits]
    refine hok.2 ?_
    rw [hans, hself, herr, hsame.conn]
  | edit hsame _ =>
    have h₁ := h.congr hsame
    exact h₁
  | remove _ _ _ => exact h
  | setFailed hi =>
    obtain ⟨item, _, rfl, _, hsets, _⟩ := h.answered hi
    exact .failEdits (answerSet_sets hsets false)
  | setDone hi _ hsame _ =>
    obtain ⟨item, _, rfl, _, hsets, _⟩ := h.answered hi
    exact (InStep.acceptEdits hsets _).congr hsame
  | dispose hsame _ _ =>
    refine InStep.congr ?_ hsame
    unfold State.disposeEdits
    rcases h with ⟨hnone, hsets, hpatched⟩ | ⟨item, _, hitem, hsets, _⟩
    · simp only [hnone]
      exact .inl ⟨rfl, hsets, hpatched⟩
    · simp only [hitem]
      refine .failEdits ?_
      simp [State.answerSet, hsets]

/-- A SET in step can be answered: the assertion of `replace_reply_cb` holds. -/
theorem InStep.step (h : InStep s) (hv : Served s) (hok : SetAlone s e)
    (hs : step s e = some s') : Served s' ∧ InStep s' ∧ Effect s e s' := by
  obtain ⟨hv', heff | ⟨_, hpatched, i, rfl⟩⟩ := hv.step hok.1 hs
  · exact ⟨hv', h.effect hok heff, heff⟩
  · have hi : ∃ item ∈ s.sets, item.id = i := by
      obtain ⟨_, _, ⟨_, hop, _⟩ | ⟨_, hop, _⟩⟩ := step_cases hs <;>
        simp only [operation, Option.ite_none_right_eq_some] at hop <;>
        simpa using hop.1
    obtain ⟨_, node, _, _, _, hnode⟩ := h.answered hi
    rw [hpatched] at hnode
    cases hnode

/-- **The SET, over whole runs.** -/
theorem inStep_of_reachable {conn : Connection β}
    (h : Reachable step SetAlone (State.new conn) s) :
    Served s ∧ InStep s ∧ s.fault = none := by
  refine h.invariant (I := fun s => Served s ∧ InStep s ∧ s.fault = none)
    ⟨served_new conn, .inl ⟨rfl, rfl, rfl⟩, rfl⟩ ?_
  rintro s e s' ⟨hv, hstep, _⟩ hok hs
  obtain ⟨hv', hstep', heff⟩ := hstep.step hv hok hs
  exact ⟨hv', hstep', heff.fault.trans (step_cases hs).1⟩

/-! ## The requests -/

omit [DecidableEq β] in
/-- Without a SET no request is marked as sent. -/
theorem Accounted.unmarked (h : Accounted s) (hstep : InStep s)
    (hnone : s.editPipelineItem = none) : ∀ q ∈ s.editRequests, q.setInPipeline = false := by
  intro q hq
  by_contra hmark
  obtain ⟨item, hitem, _⟩ := h.sent q hq (by simpa using hmark)
  rw [(hstep.idle hnone).1] at hitem
  cases hitem

omit [DecidableEq β] in
theorem Accounted.failEdits (h : Accounted s) (hsets : s.sets = []) : Accounted s.failEdits :=
  h.giveUp [] nofun (by simp [State.failEdits]) hsets rfl rfl rfl (Nat.le_refl _)

omit [DecidableEq β] in
/-- The SET is refused. -/
theorem Accounted.refuse (h : Accounted s) (hsets : s.sets = [item]) :
    Accounted (s.answerSet item.id false).failEdits := by
  refine h.giveUp [.answered item.id false] ?_ ?_ (answerSet_sets hsets false) rfl
    rfl rfl (Nat.le_refl _)
  · simp [hsets]
  · simp [State.failEdits, State.answerSet]

/-- After the SET the requests that are left were not sent. -/
theorem Accounted.acceptEdits (h : Accounted s) (hsets : s.sets = [item])
    (node : VCard β) (hchange : Unsent s → s.edits ≠ [] →
      (applyEdits s.conn (s.edits.map Edit.info) node).1 = true) :
    Accounted ((s.answerSet item.id true).acceptEdits node) := by
  refine Accounted.managerPatchVCard (h.accept hsets) (.inl ⟨rfl, ?_, rfl⟩) node
    (fun _ q hq => ?_) fun _ ⟨q, hq, hmark⟩ => hchange ⟨q, (List.mem_filter.mp hq).1, hmark⟩
  · exact answerSet_sets hsets true
  · simpa using (List.mem_filter.mp hq).2

omit [DecidableEq β] in
/-- Where the answer of a GET makes the queued edits. -/
theorem patchBase_answer {node : Option (VCard β)} {result : GetResult β}
    (hres : result = .success node ∨ result = .itemNotFound node)
    (hans : s.answer e = some (s.conn.selfHandle, result)) (hnone : s.editPipelineItem = none) :
    s.patchBase e = some (node.getD []) := by
  unfold State.patchBase
  rw [hans]
  rcases hres with rfl | rfl <;> cases e <;> first | cases hans | simp [hnone]

omit [DecidableEq β] in
theorem Unsent.congr (h : Unsent s') (hs : s'.editRequests = s.editRequests) : Unsent s := by
  unfold Unsent
  rw [← hs]
  exact h

/-- The conditions say the same of a state with the same edits. -/
theorem EditsMade.changed_answer (hok : EditsMade s e) (hsame : SameEdits s s')
    {node : Option (VCard β)} {result : GetResult β}
    (hres : result = .success node ∨ result = .itemNotFound node)
    (hans : s.answer e = some (s.conn.selfHandle, result)) (hnone : s'.editPipelineItem = none)
    (hun : Unsent s') (hne : s'.edits ≠ []) :
    (applyEdits s'.conn (s'.edits.map Edit.info) (node.getD [])).1 = true := by
  rw [hsame.conn, hsame.edits]
  rw [hsame.editPipelineItem] at hnone
  rw [hsame.edits] at hne
  exact hok.changed _ (patchBase_answer hres hans hnone) (hun.congr hsame.editRequests) hne

/-- One step accounts for the edit requests. -/
theorem Accounted.effect (h : Accounted s) (hstep : InStep s) (hok : EditsMade s e)
    (heff : Effect s e s') : Accounted s' := by
  cases heff with
  | same _ _ hsame _ => exact h.congr hsame
  | environment _ _ _ _ => exact { h with setLog := { h.setLog with } }
  | connected unsent howner hsame _ => exact (h.addEdits unsent howner .connected).congr hsame
  | @get _ handle result s₁ _ _ hans hsame hsame' _ =>
    have h₁ := h.congr hsame
    have hstep₁ := hstep.congr hsame
    refine Accounted.congr ?_ hsame'
    rcases editEffect_cases s₁ handle result with ⟨heq, _⟩ | ⟨hself, hcase⟩
    · rw [heq]
      exact h₁
    · rw [hself, hsame.conn] at hans
      rcases hcase with ⟨rfl, hne, heq⟩ | ⟨node, hres, heq⟩
      · rw [heq]
        refine h₁.failEdits (hstep₁.idle (by_contra fun hitem => hne ?_)).1
        rw [hsame.edits]
        exact hok.setAlone.2 hans (hsame.editPipelineItem ▸ hitem)
      · rw [heq]
        exact h₁.managerPatchVCard hstep₁ _ (h₁.unmarked hstep₁)
          (hok.changed_answer hsame hres hans)
  | @edit infos bound s₁ hsame hown => exact (h.congr hsame).addEditRequest infos bound
  | remove _ q _ => exact h.removeEditRequest q
  | setFailed hi =>
    obtain ⟨item, _, rfl, _, hsets, _⟩ := hstep.answered hi
    exact h.refuse hsets
  | @setDone i node _ hi hnode hsame _ =>
    obtain ⟨item, _, rfl, _, hsets, _⟩ := hstep.answered hi
    exact (h.acceptEdits hsets node (hok.changed node hnode)).congr hsame
  | dispose hsame _ _ =>
    refine Accounted.congr ?_ hsame
    unfold State.disposeEdits
    rcases hstep with ⟨hnone, hsets, _⟩ | ⟨item, _, hitem, hsets, _⟩
    · simp only [hnone]
      exact h.giveUp [] nofun (by simp [State.cancelAllEditRequests]) hsets rfl rfl
        rfl (Nat.le_refl _)
    · simp only [hitem]
      refine h.giveUp [.answered item.id false] (by simp [hsets]) ?_ ?_ rfl rfl rfl
        (Nat.le_refl _)
      · simp [State.failEdits, State.answerSet]
      · simp [State.failEdits, State.answerSet, hsets]

/-- A request that was not sent waits for the SET or for the own vCard. -/
def UnsentServed (s : State β) : Prop := Unsent s → s.editPipelineItem ≠ none ∨ OwnWaiting s

/-- One step does not strand an edit request. -/
theorem UnsentServed.effect (h : UnsentServed s) (hok : EditsSettle s e) (heff : Effect s e s') :
    UnsentServed s' := by
  cases heff with
  | same _ _ hsame hown =>
    intro hun
    rw [hsame.editPipelineItem]
    exact (h (hun.congr hsame.editRequests)).imp id hown
  | environment _ _ _ _ => exact h
  | connected _ _ _ hown => exact fun _ => .inr hown
  | @get _ handle result s₁ _ _ hans hsame hsame' hown =>
    intro hun'
    rw [hsame'.editPipelineItem]
    have hun₁ := hun'.congr hsame'.editRequests
    rcases editEffect_cases s₁ handle result with ⟨heq, hcase⟩ | ⟨hself, hcase⟩
    · rw [heq] at hun₁ ⊢
      have hun := hun₁.congr hsame.editRequests
      by_cases hother : handle ≠ s.conn.selfHandle ∨ result = .wait
      · rw [hsame.editPipelineItem]
        exact (h hun).imp id (hown hother)
      · -- a GET that failed with nothing queued
        push Not at hother
        obtain ⟨rfl, hnil⟩ := hcase (hother.1.trans hsame.selfHandle.symm) hother.2
        refine .inl fun hnone => hok.queued (.inr ⟨?_, ?_⟩) hun (hsame.edits ▸ hnil)
        · rw [hans, hother.1]
        · exact hsame.editPipelineItem ▸ hnone
    · rw [hself, hsame.conn] at hans
      rcases hcase with ⟨_, _, heq⟩ | ⟨node, hres, heq⟩
      · rw [heq] at hun₁
        obtain ⟨_, hq, _⟩ := hun₁
        cases hq
      · rw [heq] at hun₁ ⊢
        refine .inl (managerPatchVCard_waiting _ (fun hnone hun => ?_) hun₁)
        rw [hsame.edits]
        rw [hsame.editPipelineItem] at hnone
        refine hok.queued (.inl ?_) (hun.congr hsame.editRequests)
        rw [patchBase_answer hres hans hnone]
        exact nofun
  | edit _ hown => exact fun _ => hown
  | remove _ q _ =>
    exact fun ⟨request, hmem, hmark⟩ => h ⟨request, (List.mem_filter.mp hmem).1, hmark⟩
  | setFailed _ => exact fun ⟨_, hq, _⟩ => by cases hq
  | @setDone i node _ _ hnode hsame _ =>
    intro hun'
    refine .inl ?_
    rw [hsame.editPipelineItem]
    refine managerPatchVCard_waiting _ (fun _ ⟨q, hq, hmark⟩ => ?_)
      (hun'.congr hsame.editRequests)
    exact hok.queued (.inl (by simp [State.patchBase, hnode])) ⟨q, (List.mem_filter.mp hq).1, hmark⟩
  | dispose hsame _ _ =>
    rintro ⟨q, hq, _⟩
    have hnil : { s with disposed := true }.disposeEdits.editRequests = [] := by
      unfold State.disposeEdits
      split <;> rfl
    rw [hsame.editRequests, hnil] at hq
    cases hq

/-! ## The main results about edits -/

/-- The edit requests, over whole runs. -/
theorem accounted_of_reachable {conn : Connection β}
    (h : Reachable step EditsMade (State.new conn) s) :
    Served s ∧ InStep s ∧ Accounted s := by
  have hnew : Accounted (State.new conn) := by
    constructor
    · constructor <;> simp [State.new]
    all_goals simp [State.new, calledEdits]
  refine h.invariant (I := fun s => Served s ∧ InStep s ∧ Accounted s)
    ⟨served_new conn, .inl ⟨rfl, rfl, rfl⟩, hnew⟩ ?_
  rintro s e s' ⟨hv, hstep, hacc⟩ hok hs
  obtain ⟨hv', hstep', heff⟩ := hstep.step hv hok.setAlone hs
  exact ⟨hv', hstep', hacc.effect hstep hok heff⟩

theorem unsentServed_of_reachable {conn : Connection β}
    (h : Reachable step EditsSettle (State.new conn) s) : UnsentServed s := by
  have hinv : (Served s ∧ InStep s) ∧ UnsentServed s := by
    refine h.invariant (I := fun s => (Served s ∧ InStep s) ∧ UnsentServed s)
      ⟨⟨served_new conn, .inl ⟨rfl, rfl, rfl⟩⟩, fun ⟨_, hq, _⟩ => by cases hq⟩ ?_
    rintro s e s' ⟨⟨hv, hstep⟩, hserved⟩ hok hs
    obtain ⟨hv', hstep', heff⟩ := hstep.step hv hok.setAlone hs
    exact ⟨⟨hv', hstep'⟩, hserved.effect hok heff⟩
  exact hinv.2

/-- No GET and no SET of the own vCard is outstanding. -/
def Quiet (s : State β) : Prop :=
  s.sets = [] ∧ ∀ e, s.entry s.conn.selfHandle = some e →
    e.pipelineItem = none ∧ e.suspended = none

omit [DecidableEq β] in
/-- When it is quiet no SET is made. -/
theorem Quiet.noSet (hq : Quiet s) (hstep : InStep s) :
    s.editPipelineItem = none ∧ s.patchedVCard = none := by
  rcases hstep with ⟨hnone, _, hpatched⟩ | ⟨_, _, _, hsets, _⟩
  · exact ⟨hnone, hpatched⟩
  · rw [hq.1] at hsets
    cases hsets

omit [DecidableEq β] in
/-- When it is quiet nobody waits for the own vCard. -/
theorem Quiet.not_ownWaiting (hq : Quiet s) (hv : Served s) : ¬ OwnWaiting s := by
  rintro ⟨entry, he, hpend⟩
  obtain ⟨hpipeline, hsuspended⟩ := hq.2 entry he
  exact hpend (hv.carried.idle he hpipeline hsuspended)

omit [DecidableEq β] in
/-- When it is quiet no edit request is left. -/
theorem editRequests_of_quiet (hv : Served s) (hstep : InStep s) (hacc : Accounted s)
    (hserved : UnsentServed s) (hq : Quiet s) : s.editRequests = [] := by
  obtain ⟨hnone, -⟩ := hq.noSet hstep
  refine List.eq_nil_iff_forall_not_mem.mpr fun q hmem => ?_
  rcases hserved ⟨q, hmem, hacc.unmarked hstep hnone q hmem⟩ with hitem | hwaiting
  · exact hitem hnone
  · exact hq.not_ownWaiting hv hwaiting

/-- **Edits are settled.**  In every run whose steps meet the condition: the
callback of an edit request is called at most once, and exactly once by the time
no GET or SET of the own vCard is outstanding, unless the request was removed; it
is called with success only if all its edits were part of a SET that the server
acknowledged, and with an error only if no SET with an edit of it was. -/
theorem edits_called_once {conn : Connection β}
    (h : Reachable step EditsSettle (State.new conn) s) :
    ∀ q infos, .requested q infos ∈ s.editLog →
      (calledEdits s.editLog).count q ≤ 1 ∧
      (Quiet s → q ∉ removedEdits s.editLog → (calledEdits s.editLog).count q = 1) ∧
      (.called q true ∈ s.editLog → Acknowledged s.editLog q infos) ∧
      (.called q false ∈ s.editLog → ∀ i edits, .sent i edits ∈ s.editLog →
        (∃ edit ∈ edits, edit.owner = some q) → .answered i true ∉ s.editLog) := by
  obtain ⟨hv, hstep, hacc⟩ := accounted_of_reachable (h.mono fun _ _ hok => hok.toEditsMade)
  have hserved := unsentServed_of_reachable h
  intro q infos hreq
  refine ⟨List.nodup_iff_count_le_one.mp hacc.calledNodup q, fun hquiet hrem => ?_,
    fun hcall => hacc.success q hcall infos hreq,
    fun hcall i edits hsent hown => (hacc.failure q hcall i edits hsent hown).1⟩
  have hnil := editRequests_of_quiet hv hstep hacc hserved hquiet
  refine List.count_eq_one_of_mem hacc.calledNodup ?_
  rcases hacc.account q (hacc.requestedLt q infos hreq) with hm | hm | hm
  · rw [hnil] at hm
    cases hm
  · exact hm
  · exact absurd hm hrem

/-- An edit is made, sent and acknowledged. -/
def acknowledgedRun : List (Event String) :=
  [.connected, .getReply 0 (.success none) 0, .edit [.append ⟨"NICKNAME", "n"⟩] false,
    .getReply 1 (.success none) 0, .setReply 2 true]

theorem edits_called_once_acknowledgedRun :
    ∃ s, run step (State.new plainConnection) acknowledgedRun = some s ∧
      .requested 0 [.append ⟨"NICKNAME", "n"⟩] ∈ s.editLog ∧ .called 0 true ∈ s.editLog ∧
      Quiet s ∧ (calledEdits s.editLog).count 0 = 1 ∧
      Acknowledged s.editLog 0 [.append ⟨"NICKNAME", "n"⟩] := by
  have hadm : Admits EditsSettle step (State.new plainConnection) acknowledgedRun := by decide
  obtain ⟨_, hone, hack, _⟩ := edits_called_once (reachable_of_run acknowledgedRun hadm rfl) 0
    [.append ⟨"NICKNAME", "n"⟩] (by decide)
  have hquiet : Quiet ((run step (State.new plainConnection) acknowledgedRun).get rfl) := by
    refine ⟨rfl, fun e he => ?_⟩
    cases he
    exact ⟨rfl, rfl⟩
  exact ⟨_, rfl, by decide, by decide, hquiet, hone hquiet (by decide), hack (by decide)⟩

/-- An edit that changes nothing is forgotten, and its request never called. -/
theorem unchanged_edit_not_called :
    ∃ s, run step (State.new plainConnection)
        [.connected, .getReply 0 (.success none) 0, .edit [.delete "PHOTO"] false,
          .getReply 1 (.success none) 0] = some s ∧
      Quiet s ∧ s.fault = none ∧ .requested 0 [.delete "PHOTO"] ∈ s.editLog ∧
      0 ∉ removedEdits s.editLog ∧ (calledEdits s.editLog).count 0 = 0 := by
  refine ⟨_, rfl, ⟨rfl, fun e he => ?_⟩, rfl, by decide, by decide, by decide⟩
  cases he
  exact ⟨rfl, rfl⟩

/-- An acknowledged SET calls the requests that were marked as sent, then the edits
that came meanwhile are made. -/
theorem called_of_setDone {node : VCard β}
    (hsame : SameEdits ((s.answerSet i true).acceptEdits node) s') {q : EditId} {success : Bool}
    (hcall : .called q success ∈ s'.editLog)
    (hold : .called q success ∉ s.editLog) :
    success = true ∧ ∃ request ∈ s.editRequests, request.id = q ∧ request.setInPipeline = true := by
  set s₀ : State β := ({ s.answerSet i true with editPipelineItem := none, patchedVCard := none }
    : State β).completeEditRequests true
  have hlog : s₀.editLog = s.editLog ++ [EditAction.answered i true] ++
      (s.editRequests.filter fun q => q.setInPipeline || !true).map
        fun q => EditAction.called q.id true := rfl
  have hmem : .called q success ∈ s₀.editLog := by
    rw [hsame.editLog] at hcall
    rcases managerPatchVCard_cases s₀ node with ⟨heq, _⟩ | ⟨_, _, ⟨_, heq⟩ | ⟨_, heq⟩⟩
    · exact heq ▸ hcall
    · have hcall' : .called q success ∈ (s₀.managerPatchVCard node).editLog := hcall
      rw [heq] at hcall'
      exact hcall'
    · have hcall' : .called q success ∈ (s₀.managerPatchVCard node).editLog := hcall
      rw [heq] at hcall'
      exact (List.mem_append.mp hcall').resolve_right (by simp)
  simp only [hlog, List.mem_append, hold, List.mem_singleton, reduceCtorEq, or_false, false_or,
    List.mem_map, List.mem_filter, EditAction.called.injEq, Bool.not_true, Bool.or_false] at hmem
  obtain ⟨request, ⟨hreq, hmark⟩, hid, hsucc⟩ := hmem
  exact ⟨hsucc.symm, request, hreq, hid, hmark⟩

theorem operation_setReply {success : Bool} (hs : step s (.setReply i success) = some s') :
    (∃ item ∈ s.sets, item.id = i) ∧
      operation s (.setReply i success) = some ((s.answerSet i success).replaceReplyCb success) := by
  obtain ⟨_, _, ⟨_, hop, _⟩ | ⟨_, hop, _⟩⟩ := step_cases hs <;>
    obtain ⟨hi, -⟩ := Option.ite_none_right_eq_some.mp hop <;>
    exact ⟨by simpa using hi, if_pos hi⟩

/-- A SET that fails. -/
theorem step_setFailed (hs : step s (.setReply i false) = some s') :
    s' = (s.answerSet i false).failEdits := by
  obtain ⟨hf, hd, _⟩ := step_cases hs
  obtain ⟨_, hop⟩ := operation_setReply hs
  rw [replaceReplyCb_false] at hop
  rw [step_of_ok hf hd hop] at hs
  exact (Option.some.inj hs).symm

/-- A SET that is acknowledged. -/
theorem step_setDone {node : VCard β} (hv : Served s)
    (hnode : s.patchedVCard = some node) (hs : step s (.setReply i true) = some s') :
    SameEdits ((s.answerSet i true).acceptEdits node) s' := by
  obtain ⟨hf, hd, _⟩ := step_cases hs
  obtain ⟨_, hop⟩ := operation_setReply hs
  have hc : Carried none (s.answerSet i true) := hv.carried.congr (by constructor <;> rfl)
  obtain ⟨s₁, hs₁, _, hsame, _⟩ := hc.replaceReplyCb hnode
  rw [hs₁] at hop
  rw [step_of_ok hf hd hop] at hs
  exact Option.some.inj hs ▸ hsame

/-- **The SET stays in step.**  In every run in which no GET of the own vCard fails
while there is a SET and edits are queued: there is at most one SET, and
`edit_pipeline_item` and `patched_vcard` are there exactly when it is, so no
assertion fails; when it fails, all requests are called with an error, the ones
whose edits came later too, and all edits are forgotten.  When, also, queued
edits always change something, a SET that succeeds calls the requests whose
edits it carried and no other. -/
theorem set_in_step {conn : Connection β} (h : Reachable step SetAlone (State.new conn) s) :
    s.sets.length ≤ 1 ∧ (s.editPipelineItem ≠ none ↔ s.sets ≠ []) ∧
    (s.patchedVCard ≠ none ↔ s.sets ≠ []) ∧
    (∀ item ∈ s.sets, s.editPipelineItem = some item.id) ∧ s.fault = none ∧
    (∀ i s', step s (.setReply i false) = some s' →
      s'.editLog = s.editLog ++ [.answered i false] ++
        s.editRequests.map (fun q => .called q.id false) ∧
      s'.editRequests = [] ∧ s'.edits = []) ∧
    (Reachable step EditsMade (State.new conn) s → ∀ i s', step s (.setReply i true) = some s' →
      ∀ q success, .called q success ∈ s'.editLog → .called q success ∉ s.editLog →
        success = true ∧ ∃ edits, .sent i edits ∈ s.editLog ∧
          ∀ infos, .requested q infos ∈ s.editLog → ∀ info ∈ infos,
            (⟨some q, info⟩ : Edit β) ∈ edits) := by
  obtain ⟨hv, hstep, hfault⟩ := inStep_of_reachable h
  have hin : s.sets.length ≤ 1 ∧ (s.editPipelineItem ≠ none ↔ s.sets ≠ []) ∧
      (s.patchedVCard ≠ none ↔ s.sets ≠ []) ∧
      ∀ item ∈ s.sets, s.editPipelineItem = some item.id := by
    rcases hstep with ⟨h1, h2, h3⟩ | ⟨item, node, h1, h2, h3⟩ <;> simp [h1, h2, h3]
  refine ⟨hin.1, hin.2.1, hin.2.2.1, hin.2.2.2, hfault, fun i s' hs => ?_,
    fun hmade i s' hs q success hcall hold => ?_⟩
  · rw [step_setFailed hs]
    exact ⟨rfl, rfl, rfl⟩
  · obtain ⟨_, _, hacc⟩ := accounted_of_reachable hmade
    obtain ⟨item, node, rfl, _, hsets, hnode⟩ := hstep.answered (operation_setReply hs).1
    obtain ⟨hsucc, request, hreq, rfl, hmark⟩ :=
      called_of_setDone (step_setDone hv hnode hs) hcall hold
    obtain ⟨item', hitem, hcarried, _⟩ := hacc.sent request hreq hmark
    rw [hsets, List.mem_singleton] at hitem
    subst hitem
    exact ⟨hsucc, item'.edits, (hacc.setLog.outstanding item' (by simp [hsets])).1, hcarried⟩

/-- The run up to the SET, and its answer. -/
theorem set_in_step_acknowledgedRun :
    ∃ s s', run step (State.new plainConnection) (acknowledgedRun.take 4) = some s ∧
      step s (.setReply 2 true) = some s' ∧ s.sets.length = 1 ∧ s.sets.length ≤ 1 ∧
      s.patchedVCard ≠ none ∧ .called 0 true ∈ s'.editLog ∧
      ∃ edits, .sent 2 edits ∈ s.editLog ∧ ∀ infos, .requested 0 infos ∈ s.editLog →
        ∀ info ∈ infos, (⟨some 0, info⟩ : Edit String) ∈ edits := by
  have halone : Admits SetAlone step (State.new plainConnection) (acknowledgedRun.take 4) := by
    decide
  have hmade : Admits EditsMade step (State.new plainConnection) (acknowledgedRun.take 4) := by
    decide
  obtain ⟨hone, _, hpatched, _, _, _, hcall⟩ :=
    set_in_step (reachable_of_run (acknowledgedRun.take 4) halone rfl)
  refine ⟨_, _, rfl, rfl, rfl, hone, hpatched.mpr (by decide), by decide, ?_⟩
  exact (hcall (reachable_of_run (acknowledgedRun.take 4) hmade rfl) 2 _ rfl 0 true (by decide)
    (by decide)).2

/-- Two edits, the second one after the first has been sent. -/
def twoEditsRun : List (Event String) :=
  [.connected, .getReply 0 (.success none) 0, .edit [.append ⟨"NICKNAME", "n"⟩] false,
    .getReply 1 (.success none) 0, .edit [.append ⟨"URL", "u"⟩] false]

/-- The error of a SET is reported to the request whose edits it did not carry; when
a GET fails first, the SET is still there while `edit_pipeline_item` and
`patched_vcard` are not, and the assertion fails when it is acknowledged; and after
an edit that changes nothing a SET calls the request of that edit. -/
theorem set_out_of_step :
    (∃ s s', run step (State.new plainConnection) twoEditsRun = some s ∧
      step s (.setReply 2 false) = some s' ∧ .called 1 false ∈ s'.editLog ∧
      ∀ i edits, .sent i edits ∈ s.editLog → ∀ edit ∈ edits, edit.owner ≠ some 1) ∧
    (∃ s s', run step (State.new plainConnection)
        (twoEditsRun ++ [.request 1 0 false, .getReply 3 .error 0]) = some s ∧
      s.sets ≠ [] ∧ s.editPipelineItem = none ∧ s.patchedVCard = none ∧
      step s (.setReply 2 true) = some s' ∧ s'.fault = some .assertPatchedVCard) ∧
    (∃ s s', run step (State.new plainConnection)
        [.connected, .getReply 0 (.success none) 0, .edit [.delete "PHOTO"] false,
          .getReply 1 (.success none) 0, .edit [.append ⟨"NICKNAME", "n"⟩] false,
          .getReply 2 (.success none) 0] = some s ∧
      step s (.setReply 3 true) = some s' ∧ .called 0 true ∈ s'.editLog ∧
      ∀ i edits, .sent i edits ∈ s.editLog → ∀ edit ∈ edits, edit.owner ≠ some 0) := by
  refine ⟨⟨_, _, rfl, rfl, by decide, ?_⟩, ⟨_, _, rfl, by decide, rfl, rfl, rfl, rfl⟩,
    _, _, rfl, rfl, by decide, ?_⟩
  · intro i edits hm
    have hmem : .sent i edits ∈ [EditAction.requested 0 [.append ⟨"NICKNAME", "n"⟩],
      .sent 2 [⟨some 0, .append ⟨"NICKNAME", "n"⟩⟩],
      .requested 1 [.append ⟨"URL", "u"⟩]] := hm
    simp only [List.mem_cons, reduceCtorEq, EditAction.sent.injEq, List.not_mem_nil, or_false,
      false_or] at hmem
    simp [hmem.2]
  · intro i edits hm
    have hmem : .sent i edits ∈ [EditAction.requested 0 [.delete "PHOTO"],
      .requested 1 [.append ⟨"NICKNAME", "n"⟩],
      .sent 3 [⟨some 1, .append ⟨"NICKNAME", "n"⟩⟩]] := hm
    simp only [List.mem_cons, reduceCtorEq, EditAction.sent.injEq, List.not_mem_nil, or_false,
      false_or] at hmem
    simp [hmem.2]

end

end VCardManager
