/-
# Replies, timers, and the runs of the vCard manager

What the answer of a GET does, how the loops of `cache_entry_timeout` and
`dispose` end, and from these the invariant along every run that keeps the
requests that carry a GET.
-/
import Mathlib.Tactic.Common
import Gabble.VCardManagerRequests

open Transition

namespace VCardManager

variable {β : Type}

/-! ## Replies -/

/-- All the edits and edit requests are given up. -/
def State.failEdits (s : State β) : State β :=
  { s with
    editPipelineItem := none
    patchedVCard := none
    edits := []
    editRequests := []
    editLog := s.editLog ++ s.editRequests.map fun q => .called q.id false }

theorem failEdits_sameRequests (s : State β) : SameRequests s s.failEdits := by
  constructor <;> rfl

theorem completeEditRequests_sameRequests (s : State β) (success : Bool) :
    SameRequests s (s.completeEditRequests success) := by
  constructor <;> rfl

section

variable [DecidableEq β] {x : Option Handle} {s s' : State β} {h : Handle} {r : RequestId}
  {e : Entry β}

section

variable (s)

/-- `replace_reply_cb`, after an error. -/
theorem replaceReplyCb_false : s.replaceReplyCb false = .ok s.failEdits := by
  simp [State.replaceReplyCb, State.completeEditRequests, State.failEdits]

theorem managerPatchVCard_sameRequests (node : VCard β) :
    SameRequests s (s.managerPatchVCard node) := by
  unfold State.managerPatchVCard
  split
  · constructor <;> rfl
  · dsimp only
    split
    · constructor <;> first | rfl | exact Nat.le_succ _
    · constructor <;> rfl

theorem managerPatchVCard_status (node : VCard β) :
    (s.managerPatchVCard node).status = s.status ∧
      (s.managerPatchVCard node).disposed = s.disposed ∧
      (s.managerPatchVCard node).fault = s.fault := by
  unfold State.managerPatchVCard
  split
  · exact ⟨rfl, rfl, rfl⟩
  · dsimp only
    split <;> exact ⟨rfl, rfl, rfl⟩

/-- `manager_patch_vcard` leaves no edit without a SET. -/
theorem managerPatchVCard_edits (node : VCard β) :
    (s.managerPatchVCard node).editPipelineItem = none → (s.managerPatchVCard node).edits = [] := by
  unfold State.managerPatchVCard
  split
  · rename_i hc
    exact fun hnone => hc.elim (fun he => List.isEmpty_iff.mp he) fun hne => absurd hnone hne
  · exact fun _ => rfl

end

/-- What the answer of a GET does to the edits. -/
def State.editEffect (s : State β) (h : Handle) : GetResult β → State β
  | .wait => s
  | .error => if h = s.conn.selfHandle ∧ s.edits ≠ [] then s.failEdits else s
  | .itemNotFound node => if h = s.conn.selfHandle then s.managerPatchVCard (node.getD []) else s
  | .success node => if h = s.conn.selfHandle then s.managerPatchVCard (node.getD []) else s

theorem Carried.pipelineReplyError (hc : Carried (some h) s) (he : s.entry h = some e)
    (hp : e.pipelineItem = none) (hsus : e.suspended = none) :
    ∃ s', s.pipelineReplyError h = .ok s' ∧ Carried none s' ∧
      SameEdits (s.editEffect h .error) s' ∧ s'.gets = s.gets ∧
      (∀ r ∈ e.pendingRequests, s'.requests r = none) ∧ (∀ h' ≠ h, s'.entry h' = s.entry h') := by
  obtain ⟨s₁, hs₁, heff, hsame, hedits⟩ : ∃ s₁, s.failPendingEdits h = .ok s₁ ∧
      s₁ = s.editEffect h .error ∧ SameRequests s s₁ ∧
      (h = s₁.conn.selfHandle → s₁.editPipelineItem = none → s₁.edits = []) := by
    unfold State.failPendingEdits
    by_cases hown : h = s.conn.selfHandle ∧ s.edits ≠ []
    · refine ⟨s.failEdits, ?_, ?_, failEdits_sameRequests s, fun _ _ => rfl⟩
      · rw [if_pos ⟨hown.1, by simpa using hown.2⟩]
        exact replaceReplyCb_false { s with edits := [] }
      · rw [State.editEffect, if_pos hown]
    · refine ⟨s, ?_, ?_, by constructor <;> rfl, fun hh _ => by_contra fun hne => hown ⟨hh, hne⟩⟩
      · rw [if_neg]
        exact fun hc' => hown ⟨hc'.1, by simpa using hc'.2⟩
      · rw [State.editEffect, if_neg hown]
  have he₁ : s₁.entry h = some e := (entry_congr hsame.cache h).trans he
  obtain ⟨s', hs', hc', hsame', hgets, hreqs, hne, _⟩ :=
    (hc.congr hsame).completeRequests he₁ hp hsus hedits (.error .getFailed)
  refine ⟨s', ?_, hc', heff ▸ hsame', hgets.trans hsame.gets, fun r hr => ?_,
    fun h' hh => (hne h' hh).trans (entry_congr hsame.cache h')⟩
  · unfold State.pipelineReplyError
    rw [hs₁]
    simp only [bind, Except.bind, State.cacheEntryCompleteRequests, he₁]
    exact hs'
  · rw [hreqs r, if_pos hr]

theorem Carried.pipelineReplySuccess (hc : Carried (some h) s) (he : s.entry h = some e)
    (hp : e.pipelineItem = none) (hsus : e.suspended = none) (hnt : h ∉ s.timedCache) (now : ℕ)
    (node : VCard β) :
    ∃ s₁ s', s.pipelineReplySuccess h e now node = .ok s' ∧ Carried none s' ∧ SameEdits s s₁ ∧
      SameEdits (s₁.editEffect h (.success (some node))) s' ∧ s'.gets = s.gets ∧
      (∀ r ∈ e.pendingRequests, s'.requests r = none) ∧ (∀ h' ≠ h, s'.entry h' = s.entry h') := by
  -- the vCard goes into the cache, then the edits are made
  let s₁ : State β := { s.setEntry h { e with
      vcardNode := some node, expires := now + vcardCacheEntryTtl } with
    timedCache := s.timedCache ++ [h], cacheTimer := true }
  have hself : s₁.entry h = some { e with
      vcardNode := some node, expires := now + vcardCacheEntryTtl } := setEntry_entry_self s h _
  have hc₁ : Carried (some h) s₁ :=
    (hc.setVCard (fun h' hh heq => hh (Option.some.inj heq)) he (some node)
      (now + vcardCacheEntryTtl) nofun).addTimed (setEntry_entry_self s h _) (by simp) hp hnt true
  have hsame : SameRequests s₁ (s₁.editEffect h (.success (some node))) := by
    unfold State.editEffect
    dsimp only
    split
    · exact managerPatchVCard_sameRequests s₁ node
    · constructor <;> rfl
  have hedits : h = (s₁.editEffect h (.success (some node))).conn.selfHandle →
      (s₁.editEffect h (.success (some node))).editPipelineItem = none →
      (s₁.editEffect h (.success (some node))).edits = [] := by
    intro hh
    rw [hsame.selfHandle] at hh
    simp only [State.editEffect, if_pos hh]
    exact managerPatchVCard_edits s₁ node
  have he₂ := (entry_congr hsame.cache h).trans hself
  obtain ⟨s', hs', hc', hsame', hgets, hreqs, hne, _⟩ :=
    (hc₁.congr hsame).completeRequests he₂ hp hsus hedits (.ok (some node))
  refine ⟨s₁, s', ?_, hc', by constructor <;> rfl, hsame', hgets.trans hsame.gets, fun r hr => ?_,
    fun h' hh => ?_⟩
  · have heq : s.pipelineReplySuccess h e now node =
        (s₁.editEffect h (.success (some node))).cacheEntryCompleteRequests h none := rfl
    rw [heq, State.cacheEntryCompleteRequests, he₂]
    exact hs'
  · rw [hreqs r, if_pos hr]
  · rw [hne h' hh, entry_congr hsame.cache]
    exact setEntry_entry_ne _ _ hh

theorem editEffect_of_ne (result : GetResult β) (hne : h ≠ s.conn.selfHandle) :
    s.editEffect h result = s := by
  cases result <;> simp [State.editEffect, hne]

/-- After an answer other than "wait" for the own vCard no edit is without a SET. -/
theorem editEffect_edits (s : State β) {result : GetResult β} (hw : result ≠ .wait) :
    (s.editEffect s.conn.selfHandle result).editPipelineItem = none →
      (s.editEffect s.conn.selfHandle result).edits = [] := by
  cases result with
  | wait => exact absurd rfl hw
  | error =>
    simp only [State.editEffect, true_and]
    split
    · exact fun _ => rfl
    · rename_i hnil
      exact fun _ => by simpa using hnil
  | itemNotFound node =>
    simp only [State.editEffect, if_true]
    exact managerPatchVCard_edits s _
  | success node =>
    simp only [State.editEffect, if_true]
    exact managerPatchVCard_edits s _

theorem editEffect_selfHandle (s : State β) (h : Handle) (result : GetResult β) :
    (s.editEffect h result).conn.selfHandle = s.conn.selfHandle := by
  cases result <;> simp only [State.editEffect] <;> try split <;> try rfl
  all_goals exact (managerPatchVCard_sameRequests ..).selfHandle

theorem editEffect_status (s : State β) (h : Handle) (result : GetResult β) :
    (s.editEffect h result).status = s.status ∧
      (s.editEffect h result).disposed = s.disposed ∧
      (s.editEffect h result).fault = s.fault := by
  cases result with
  | wait => exact ⟨rfl, rfl, rfl⟩
  | error =>
    simp only [State.editEffect]
    split <;> exact ⟨rfl, rfl, rfl⟩
  | itemNotFound node =>
    simp only [State.editEffect]
    split
    · exact managerPatchVCard_status s _
    · exact ⟨rfl, rfl, rfl⟩
  | success node =>
    simp only [State.editEffect]
    split
    · exact managerPatchVCard_status s _
    · exact ⟨rfl, rfl, rfl⟩

/-- **A GET is answered.**  `pipeline_reply_cb` finds its request, and unless the
server asks to wait it completes all the requests of the entry. -/
theorem Carried.pipelineReplyCb (hc : Carried none s) {get : GetItem} (hget : get ∈ s.gets)
    (result : GetResult β) (now : ℕ) :
    ∃ request e s₁ s', s.requests get.userData = some request ∧
      s.entry request.handle = some e ∧
      { s with gets := s.gets.erase get }.pipelineReplyCb get.userData result now = .ok s' ∧
      Carried none s' ∧ SameEdits s s₁ ∧ SameEdits (s₁.editEffect request.handle result) s' ∧
      (request.handle ≠ s.conn.selfHandle ∨ result = .wait → OwnWaiting s → OwnWaiting s') ∧
      (result ≠ .wait → ∀ r ∈ e.pendingRequests, s'.requests r = none) := by
  obtain ⟨request, e, hreq, he, hitem⟩ := hc.gets get hget
  have hsome : e.pipelineItem ≠ none := by simp [hitem]
  have hsus := hc.suspended_none he hsome
  have hnt := hc.not_timed he (.inl hsome)
  have hc₀ := hc.takeGet hget hreq he
  have hunf : ∀ f : Except Fault (State β),
      (if e.pipelineItem.isNone then Except.error Fault.assertPipelineItem
        else if e.suspended.isSome then .error .assertSuspendedTimer else f) = f := by
    intro f
    rw [if_neg (by simp [hitem]), if_neg (by simp [hsus])]
  set s₀ := { s with gets := s.gets.erase get }.setEntry request.handle { e with pipelineItem := none }
  have hself : s₀.entry request.handle = some { e with pipelineItem := none } :=
    setEntry_entry_self ..
  have hne₀ : ∀ h' ≠ request.handle, s₀.entry h' = s.entry h' := fun h' hh =>
    setEntry_entry_ne _ _ hh
  have hs₀ : SameEdits s s₀ := by constructor <;> rfl
  have hrun : { s with gets := s.gets.erase get }.pipelineReplyCb get.userData result now =
      match result with
      | .wait => .ok ((s₀.setRequest get.userData (some { request with timer := false })).setEntry
          request.handle { e with pipelineItem := none, suspended := some get.userData })
      | .error => s₀.pipelineReplyError request.handle
      | .itemNotFound node =>
        s₀.pipelineReplySuccess request.handle { e with pipelineItem := none } now (node.getD [])
      | .success node =>
        s₀.pipelineReplySuccess request.handle { e with pipelineItem := none } now
          (node.getD []) := by
    have he' : { s with gets := s.gets.erase get }.entry request.handle = some e := he
    unfold State.pipelineReplyCb
    simp only [hreq, he']
    exact hunf _
  -- an answer for somebody else does not touch the own entry
  have hother : ∀ (s₁ s' : State β), result ≠ .wait → SameEdits s s₁ →
      SameEdits (s₁.editEffect request.handle result) s' →
      (∀ h' ≠ request.handle, s'.entry h' = s₀.entry h') →
      (request.handle ≠ s.conn.selfHandle ∨ result = .wait → OwnWaiting s → OwnWaiting s') := by
    intro s₁ s' hw hsame₁ hsame' hne hcase hown
    have hself := hcase.resolve_right hw
    refine hown.congr ?_ ?_
    · rw [hsame'.selfHandle, editEffect_selfHandle, hsame₁.selfHandle]
    · rw [hne _ hself.symm, hne₀ _ hself.symm]
  refine ⟨request, e, ?_⟩
  rw [hrun]
  cases result with
  | wait =>
    have hr : get.userData ∈ e.pendingRequests := by
      obtain ⟨_, e', he', hm⟩ := hc.live _ request hreq
      rw [he] at he'
      cases he'
      exact hm
    have hc₁ : Carried (some request.handle)
        (s₀.setRequest get.userData (some { request with timer := false })) :=
      hc₀.clearTimer hreq
    refine ⟨s, _, hreq, he, rfl, ?_, .refl s, by constructor <;> rfl,
      fun _ hown => ?_, fun hw => absurd rfl hw⟩
    · refine hc₁.setSuspended (fun h' hh heq => hh (Option.some.inj heq)) hself rfl hnt
        (some get.userData) (fun r heq => Option.some.inj heq ▸ hr) (by simp) ?_
      intro _ r request' hr' hh
      by_cases hrr : r = get.userData
      · subst hrr
        cases (Function.update_self ..).symm.trans hr'
        rfl
      · have hr'' : s.requests r = some request' := (Function.update_of_ne hrr ..).symm.trans hr'
        refine hc.timer_false hr'' fun get' hget' heq => hrr ?_
        rw [← heq, hc.get_eq hget hget' hreq (heq.symm ▸ hr'') hh]
    · exact hown.update rfl (fun h' hh => (setEntry_entry_ne _ _ hh).trans (hne₀ h' hh))
        ⟨_, setEntry_entry_self .., List.ne_nil_of_mem hr⟩
  | error =>
    obtain ⟨s', hs', hc', hsame, _, hreqs, hne⟩ := hc₀.pipelineReplyError hself rfl hsus
    exact ⟨s₀, s', hreq, he, hs', hc', hs₀, hsame,
      hother s₀ s' (by rintro ⟨⟩) hs₀ hsame hne, fun _ => hreqs⟩
  | itemNotFound node =>
    obtain ⟨s₁, s', hs', hc', hsame₁, hsame, _, hreqs, hne⟩ :=
      hc₀.pipelineReplySuccess hself rfl hsus hnt now (node.getD [])
    exact ⟨s₁, s', hreq, he, hs', hc', hs₀.trans hsame₁, hsame,
      hother s₁ s' (by rintro ⟨⟩) (hs₀.trans hsame₁) hsame hne, fun _ => hreqs⟩
  | success node =>
    obtain ⟨s₁, s', hs', hc', hsame₁, hsame, _, hreqs, hne⟩ :=
      hc₀.pipelineReplySuccess hself rfl hsus hnt now (node.getD [])
    exact ⟨s₁, s', hreq, he, hs', hc', hs₀.trans hsame₁, hsame,
      hother s₁ s' (by rintro ⟨⟩) (hs₀.trans hsame₁) hsame hne, fun _ => hreqs⟩

omit [DecidableEq β] in
/-- A GET is found by its item. -/
theorem Carried.find_get (hc : Carried none s) {get : GetItem} (hget : get ∈ s.gets) :
    s.gets.find? (fun get' => get'.id == get.id) = some get := by
  cases hf : s.gets.find? (fun get' => get'.id == get.id) with
  | none =>
    have hno := List.find?_eq_none.mp hf get hget
    simp at hno
  | some get' =>
    have hid : get'.id = get.id := by simpa using List.find?_some hf
    rw [List.inj_on_of_nodup_map hc.getIds (List.mem_of_find?_eq_some hf) hget hid]

/-- `gabble_request_pipeline_item_cancel` for the GET of an entry. -/
theorem Carried.cancelGet (hc : Carried none s) {g : ItemId} (he : s.entry h = some e)
    (hp : e.pipelineItem = some g) :
    ∃ get ∈ s.gets, (∃ request, s.requests get.userData = some request ∧ request.handle = h) ∧
      s.cancelGet g =
        { s with gets := s.gets.erase get }.pipelineReplyCb get.userData .error 0 := by
  obtain ⟨get, hget, rfl, hmem⟩ := (hc.entries h e he).pipeline g hp
  have hfind := hc.find_get hget
  refine ⟨get, hget, (hc.entries h e he).pending _ hmem, ?_⟩
  simp only [State.cancelGet, hfind]

omit [DecidableEq β] in
/-- The loop of `cache_entry_timeout`: with a round for every entry of the heap
only entries that have not expired are left in it. -/
theorem Carried.cacheEntryTimeoutLoop (now : ℕ) (rounds : ℕ) (hc : Carried none s)
    (hed : EditsServed s) :
    ∃ s', s.cacheEntryTimeoutLoop now rounds = .ok s' ∧ Carried none s' ∧ SameEdits s s' ∧
      (OwnWaiting s → OwnWaiting s') ∧
      (s.timedCache.length ≤ rounds →
        ∀ h e, s'.peekFirst = some h → s'.entry h = some e → now < e.expires) := by
  induction rounds generalizing s with
  | zero =>
    refine ⟨s, rfl, hc, .refl s, id, fun hlen h e hpeek => ?_⟩
    have hmem : h ∈ s.timedCache := List.argmin_mem hpeek
    simp [List.length_eq_zero_iff.mp (Nat.le_zero.mp hlen)] at hmem
  | succ rounds ih =>
    unfold State.cacheEntryTimeoutLoop
    cases hpeek : s.peekFirst with
    | none =>
      refine ⟨s, rfl, hc, .refl s, id, fun _ h e hpeek' => ?_⟩
      rw [hpeek] at hpeek'
      cases hpeek'
    | some h =>
      have hmem : h ∈ s.timedCache := List.argmin_mem hpeek
      obtain ⟨e, he, _, hp, _⟩ := hc.timed h hmem
      simp only [he, hp]
      by_cases hexp : e.expires > now
      · refine ⟨s, by simp [hexp], hc, .refl s, id, fun _ h' e' hpeek' he' => ?_⟩
        rw [hpeek] at hpeek'
        cases hpeek'
        rw [he] at he'
        cases he'
        exact hexp
      · obtain ⟨s₁, hs₁, hc₁, hsame₁, hown₁, _, _, hlt, _⟩ := hc.invalidateCache hed h
        obtain ⟨s', hs', hc', hsame', hown', hdone⟩ := ih hc₁ (hed.mono hsame₁ hown₁)
        have hlt₁ := hlt hmem
        refine ⟨s', ?_, hc', hsame₁.trans hsame', fun hw => hown' (hown₁ hw),
          fun hlen => hdone (by omega)⟩
        simp only [hexp, if_false, hs₁]
        exact hs'

/-! ## Dispose -/

omit [DecidableEq β] in
/-- In an entry without a GET or a timer nobody is waiting. -/
theorem Carried.idle (hc : Carried none s) (he : s.entry h = some e) (hp : e.pipelineItem = none)
    (hs : e.suspended = none) : e.pendingRequests = [] := by
  by_contra hne
  exact (hc.served h e he (by simp) hne).elim (fun h' => h' hp) fun h' => h' hs

/-- `disconnect_entry_foreach` has nothing to do for such an entry. -/
theorem disconnectEntry_idle (he : s.entry h = some e) (hp : e.pipelineItem = none)
    (hs : e.suspended = none) (hr : e.pendingRequests = []) :
    s.disconnectEntry h = .ok (s.setEntry h e) := by
  obtain ⟨item, pending, suspended, node, expires⟩ := e
  cases hp
  cases hs
  cases hr
  simp [State.disconnectEntry, he, State.cacheEntryCompleteRequests, pure, Except.pure, bind,
    Except.bind]

theorem disconnectEntry_fold (hs : List Handle) (hidle : ∀ h ∈ hs, ∃ e, s.entry h = some e ∧
      e.pipelineItem = none ∧ e.suspended = none ∧ e.pendingRequests = []) :
    ∃ cache, hs.foldlM State.disconnectEntry s = .ok { s with cache := cache } := by
  -- by induction on the entries; every round leaves all entries as they are
  suffices hgen : ∀ s' : State β, (∀ h, s'.entry h = s.entry h) →
      ∃ cache, hs.foldlM State.disconnectEntry s' = .ok { s' with cache := cache } from
    hgen s fun _ => rfl
  induction hs with
  | nil => exact fun s' _ => ⟨s'.cache, rfl⟩
  | cons h hs ih =>
    intro s' hsame
    obtain ⟨e, he, hp, hsus, hr⟩ := hidle h List.mem_cons_self
    have hrun := disconnectEntry_idle ((hsame h).trans he) hp hsus hr
    obtain ⟨cache, hcache⟩ := ih (fun h' hh => hidle h' (List.mem_cons_of_mem _ hh))
      (s'.setEntry h e) fun h' => by
        by_cases hh : h' = h
        · rw [hh, setEntry_entry_self, he]
        · rw [setEntry_entry_ne _ _ hh, hsame]
    refine ⟨cache, ?_⟩
    rw [List.foldlM_cons, hrun]
    exact hcache

/-- What dispose does to the edits. -/
def State.disposeEdits (s : State β) : State β :=
  match s.editPipelineItem with
  | none => { s with edits := [] }.cancelAllEditRequests
  | some i => ({ s with edits := [] }.answerSet i false).failEdits

/-- `gabble_vcard_manager_dispose`, with no GET under way. -/
theorem Carried.dispose (hc : Carried none s)
    (hidle : ∀ h e, s.entry h = some e → e.pipelineItem = none ∧ e.suspended = none) :
    ∃ s', s.dispose = .ok s' ∧ Carried none s' ∧
      SameEdits { s with disposed := true }.disposeEdits s' ∧ (∀ r, s'.requests r = none) ∧
      (∀ h, s'.entry h = none) := by
  have hpend : ∀ h e, s.entry h = some e → e.pendingRequests = [] := fun h e he =>
    hc.idle he (hidle h e he).1 (hidle h e he).2
  have hnoreq : ∀ r, s.requests r = none := by
    intro r
    by_contra hne
    obtain ⟨request, hr⟩ := Option.ne_none_iff_exists'.mp hne
    obtain ⟨_, e, he, hm⟩ := hc.live r request hr
    simp [hpend _ e he] at hm
  have hnoget : s.gets = [] := by
    refine List.eq_nil_iff_forall_not_mem.mpr fun get hget => ?_
    obtain ⟨request, _, hr, _⟩ := hc.gets get hget
    rw [hnoreq] at hr
    cases hr
  let s₀ : State β := { s with disposed := true, edits := [], cacheTimer := false }
  obtain ⟨cache, hcache⟩ := disconnectEntry_fold (s := s₀) s.cache.keys fun h hh => by
    obtain ⟨e, he⟩ := Option.isSome_iff_exists.mp (AList.lookup_isSome.mpr (AList.mem_keys.mp hh))
    exact ⟨e, he, (hidle h e he).1, (hidle h e he).2, hpend h e he⟩
  have hcarried : ∀ s' : State β, s'.cache = ∅ → s'.timedCache = [] → s'.gets = s.gets →
      s'.requests = s.requests → s'.nextRequest = s.nextRequest → s'.log = s.log →
      Carried none s' := by
    intro s' h1 h2 h3 h4 h5 h6
    have hempty : ∀ h, s'.entry h = none := fun h => by
      simp [State.entry, h1]
    constructor
    case entries =>
      intro h e he
      rw [hempty] at he
      cases he
    case served =>
      intro h e he
      rw [hempty] at he
      cases he
    case live =>
      intro r request hr
      rw [h4, hnoreq] at hr
      cases hr
    case timers =>
      intro r request hr
      rw [h4, hnoreq] at hr
      cases hr
    case gets => simp [h3, hnoget]
    case getIds => simp [h3, hnoget]
    case getLt => simp [h3, hnoget]
    case timed => simp [h2]
    case timedNodup => simp [h2]
    case finished =>
      rw [h4, h5, h6]
      exact hc.finished
  have hrun : s.dispose =
      (State.cancelSet { s₀ with timedCache := [], cache := ∅ }).map
        State.cancelAllEditRequests := by
    unfold State.dispose
    simp only [bind, Except.bind]
    erw [hcache]
    rfl
  let s₁ : State β := { s with disposed := true }
  let s₂ : State β := { s₀ with timedCache := [], cache := ∅ }
  rcases Option.eq_none_or_eq_some s.editPipelineItem with hitem | ⟨i, hitem⟩
  · have hset : s₂.cancelSet = .ok s₂ := by
      simp only [State.cancelSet, show s₂.editPipelineItem = none from hitem]
    have hedits : s₁.disposeEdits = { s₁ with edits := [] }.cancelAllEditRequests := by
      simp only [State.disposeEdits, show s₁.editPipelineItem = none from hitem]
    refine ⟨s₂.cancelAllEditRequests, by rw [hrun, hset]; rfl, hcarried _ rfl rfl rfl rfl rfl rfl, ?_⟩
    change SameEdits s₁.disposeEdits _ ∧ _
    rw [hedits]
    exact ⟨by constructor <;> rfl, hnoreq, fun _ => rfl⟩
  · have hset : s₂.cancelSet = .ok (s₂.answerSet i false).failEdits := by
      simp only [State.cancelSet, show s₂.editPipelineItem = some i from hitem,
        replaceReplyCb_false]
    have hedits : s₁.disposeEdits = ({ s₁ with edits := [] }.answerSet i false).failEdits := by
      simp only [State.disposeEdits, show s₁.editPipelineItem = some i from hitem]
    refine ⟨(s₂.answerSet i false).failEdits, ?_, hcarried _ rfl rfl rfl rfl rfl rfl, ?_⟩
    · rw [hrun, hset]
      simp [Except.map, State.cancelAllEditRequests, State.failEdits]
    · change SameEdits s₁.disposeEdits _ ∧ _
      rw [hedits]
      exact ⟨by constructor <;> rfl, hnoreq, fun _ => rfl⟩

/-! ## Edits -/

omit [DecidableEq β] in
/-- `gabble_vcard_manager_edit`: the own vCard is going to come, or a SET is. -/
theorem Carried.edit (hc : Carried none s) (hed : EditsServed s) (infos : List (EditInfo β))
    (bound : Bool) (hstatus : s.status = .connected) :
    ∃ s₁, s.edit infos bound = .ok (s₁.addEditRequest infos bound) ∧ Carried none s₁ ∧
      SameEdits s s₁ ∧ (s₁.editPipelineItem ≠ none ∨ OwnWaiting s₁) := by
  obtain ⟨s₁, hs₁, hc₁, hsame₁, hown₁, _, _, _, hv₁, _⟩ :=
    hc.invalidateCache hed s.conn.selfHandle
  set h := s.conn.selfHandle
  have hc₂ := hc₁.cacheEntryGet h
  have hsame₂ := hsame₁.trans (cacheEntryGet_sameEdits s₁ h)
  obtain ⟨e, he, hold⟩ := cacheEntryGet_entry s₁ h
  have hrun : s.edit infos bound =
      ((s₁.cacheEntryGet h).ensureGet h).map fun s' => s'.addEditRequest infos bound := by
    unfold State.edit
    simp only [hstatus, ne_eq, not_true, if_false, bind, Except.bind]
    erw [hs₁]
    rfl
  rw [hrun]
  set s₂ := s₁.cacheEntryGet h
  have hv₂ : ∀ e', s₂.entry h = some e' → e'.vcardNode = none := by
    intro e' he'
    rw [he] at he'
    cases he'
    rcases hold with hold | ⟨_, rfl⟩
    · exact hv₁ e hold
    · rfl
  by_cases hidle : s₂.editPipelineItem = none ∧ e.pendingRequests = []
  · -- nobody asked for the vCard: the GET without a callback does
    obtain ⟨s₃, hs₃, hc₃, hsame₃, _, hwait⟩ :=
      hc₂.request 0 false (hsame₂.status.trans hstatus) hv₂
    have hget : s₂.ensureGet h = .ok s₃ := by
      simp only [State.ensureGet, he, Option.any_some, hidle.1, hidle.2]
      exact hs₃
    have hconn : s₃.conn = s.conn := (hsame₂.trans hsame₃).conn
    refine ⟨s₃, by rw [hget]; rfl, hc₃, hsame₂.trans hsame₃, .inr ?_⟩
    unfold OwnWaiting
    rw [hconn]
    exact hwait
  · have hget : s₂.ensureGet h = .ok s₂ := by
      have hcond : (s₂.editPipelineItem.isNone &&
          (s₂.entry h).any fun entry => entry.pendingRequests.isEmpty) = false := by
        rw [he, Bool.and_eq_false_iff]
        by_cases hitem : s₂.editPipelineItem = none
        · exact .inr (by simpa using fun hnil => hidle ⟨hitem, hnil⟩)
        · exact .inl (by simpa using Option.isSome_iff_ne_none.mpr hitem)
      simp only [State.ensureGet, hcond]
      rfl
    refine ⟨s₂, by rw [hget]; rfl, hc₂, hsame₂, ?_⟩
    by_cases hitem : s₂.editPipelineItem = none
    · exact .inr ⟨e, by rw [hsame₂.conn]; exact he, fun hnil => hidle ⟨hitem, hnil⟩⟩
    · exact .inl hitem

/-- The SET is done: the patched vCard is the new one, and more edits are sent. -/
def State.acceptEdits (s : State β) (node : VCard β) : State β :=
  ({ s with editPipelineItem := none, patchedVCard := none }.completeEditRequests true
    ).managerPatchVCard node

theorem acceptEdits_status (s : State β) (node : VCard β) :
    (s.acceptEdits node).status = s.status ∧ (s.acceptEdits node).disposed = s.disposed ∧
      (s.acceptEdits node).fault = s.fault :=
  managerPatchVCard_status _ node

/-- `managerPatchVCard` does not look at the requests. -/
theorem managerPatchVCard_sameEdits (hs : SameEdits s s') (hi : s'.nextItem = s.nextItem)
    (node : VCard β) : SameEdits (s.managerPatchVCard node) (s'.managerPatchVCard node) := by
  unfold State.managerPatchVCard
  rw [hs.edits, hs.editPipelineItem, hs.conn, hi]
  split
  · exact hs
  · dsimp only
    split
    · constructor <;> simp [hs.status, hs.disposed, hs.editRequests, hs.nextEdit, hs.sets,
        hs.editLog, hs.fault]
    · constructor <;> simp [hs.conn, hs.status, hs.disposed, hs.editRequests, hs.nextEdit, hs.sets,
        hs.editLog, hs.fault, hs.editPipelineItem, hs.patchedVCard, hi]

/-- `replace_reply_cb`, when the SET succeeded. -/
theorem Carried.replaceReplyCb (hc : Carried none s) {node : VCard β}
    (hnode : s.patchedVCard = some node) :
    ∃ s', s.replaceReplyCb true = .ok s' ∧ Carried none s' ∧ SameEdits (s.acceptEdits node) s' ∧
      (OwnWaiting s → OwnWaiting s') := by
  let s₀ : State β := { s with editPipelineItem := none }
  set h := s.conn.selfHandle
  have hc₀ : Carried none s₀ := hc.congr (by constructor <;> rfl)
  have hc₁ := hc₀.cacheEntryGet h
  have hsame₁ := cacheEntryGet_sameEdits s₀ h
  obtain ⟨e, he, hold⟩ := cacheEntryGet_entry s₀ h
  have hitem₁ : (s₀.cacheEntryGet h).nextItem = s.nextItem := by
    unfold State.cacheEntryGet
    split <;> rfl
  have hne₁ : ∀ h' ≠ h, (s₀.cacheEntryGet h).entry h' = s.entry h' := fun h' hh =>
    cacheEntryGet_entry_ne s₀ hh
  generalize hs₁ : s₀.cacheEntryGet h = s₁ at *
  let s₂ : State β := { s₁ with patchedVCard := none }.setEntry h { e with vcardNode := some node }
  have hc₂ : Carried none s₂ :=
    (hc₁.setVCard (by simp) he (some node) e.expires nofun).congr (by constructor <;> rfl)
  have hsame₂ : SameEdits { s with editPipelineItem := none, patchedVCard := none } s₂ :=
    { hsame₁ with patchedVCard := rfl }
  have hcomplete : SameEdits
      ({ s with editPipelineItem := none, patchedVCard := none }.completeEditRequests true)
      (s₂.completeEditRequests true) :=
    { hsame₂ with
      editRequests := by simp only [State.completeEditRequests, hsame₂.editRequests]
      editLog := by simp only [State.completeEditRequests, hsame₂.editRequests, hsame₂.editLog] }
  have hsameReq := managerPatchVCard_sameRequests (s₂.completeEditRequests true) node
  have hreq := completeEditRequests_sameRequests s₂ true
  refine ⟨(s₂.completeEditRequests true).managerPatchVCard node, ?_,
    (hc₂.congr hreq).congr hsameReq, managerPatchVCard_sameEdits hcomplete hitem₁ node, ?_⟩
  · have hp₁ : s₁.patchedVCard = some node := hsame₁.patchedVCard.trans hnode
    have hconn : s₁.conn.selfHandle = h := hsame₁.selfHandle
    unfold State.replaceReplyCb
    simp only [Bool.not_true, Bool.false_eq_true, if_false]
    erw [hs₁]
    simp only [hp₁, hconn, he]
    rfl
  · rintro ⟨e', he', hp⟩
    have he₂ : ((s₂.completeEditRequests true).managerPatchVCard node).entry h =
        some { e with vcardNode := some node } :=
      (entry_congr hsameReq.cache h).trans (setEntry_entry_self _ _ _)
    refine ⟨{ e with vcardNode := some node }, ?_, ?_⟩
    · rw [hsameReq.selfHandle]
      exact (congrArg _ hsame₁.selfHandle).trans he₂
    · rcases hold with hold | ⟨hnone, _⟩
      · cases (show s.entry h = some e from hold).symm.trans he'
        exact hp
      · cases (show s.entry h = none from hnone).symm.trans he'

end

end VCardManager
