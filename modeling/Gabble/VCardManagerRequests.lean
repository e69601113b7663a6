/-
# Requests for vCards are answered once

Many requests share one GET, and the GET's user data is the request that sent
it.  The invariant `Carried` says that this request is still waiting; it holds
in the runs where such a request is not cancelled or orphaned, where a vCard is
only requested when none is cached, as `gabble_vcard_manager_request` asks its
callers to, and where `dispose` finds no GET under way (`CarriersKept`).
-/
import Mathlib.Data.List.Nodup
import Mathlib.Tactic.Common
import Gabble.VCardManager

open Transition

namespace VCardManager

variable {β : Type}

/-- The request is the user data of a GET or of a timer that will replay one. -/
def Carries (s : State β) (r : RequestId) : Prop :=
  (∃ get ∈ s.gets, get.userData = r) ∨
    ∃ h e, s.entry h = some e ∧ e.suspended = some r

/-- The condition on one event. -/
def CarriersKept (s : State β) : Event β → Prop
  | .cancelRequest r => ¬ Carries s r
  | .orphan r => ¬ Carries s r
  | .request h _ _ => ∀ e, s.entry h = some e → e.vcardNode = none
  | .dispose => ∀ h e, s.entry h = some e → e.pipelineItem = none ∧ e.suspended = none
  | _ => True

/-- A property of all entries, as the table lists them. -/
theorem forall_entry_iff (s : State β) (P : Handle → Entry β → Prop) :
    (∀ h e, s.entry h = some e → P h e) ↔ ∀ x ∈ s.cache.entries, P x.1 x.2 := by
  refine ⟨fun h x hx => h x.1 x.2 (AList.mem_lookup_iff.mpr hx), fun h e he => ?_⟩
  exact fun hs => h ⟨e, he⟩ (AList.mem_lookup_iff.mp hs)

instance (s : State β) (r : RequestId) : Decidable (¬ Carries s r) :=
  decidable_of_iff
    ((∀ get ∈ s.gets, get.userData ≠ r) ∧ ∀ x ∈ s.cache.entries, x.2.suspended ≠ some r) <| by
    rw [← forall_entry_iff s fun _ e => e.suspended ≠ some r]
    simp [Carries]

instance (s : State β) : (e : Event β) → Decidable (CarriersKept s e)
  | .cancelRequest r => inferInstanceAs (Decidable (¬ Carries s r))
  | .orphan r => inferInstanceAs (Decidable (¬ Carries s r))
  | .request h _ _ =>
    decidable_of_iff (∀ e ∈ s.entry h, e.vcardNode.isNone = true) <| by
      simp [CarriersKept]
  | .dispose =>
    decidable_of_iff (∀ x ∈ s.cache.entries, x.2.pipelineItem = none ∧ x.2.suspended = none)
      (forall_entry_iff s fun _ e => e.pipelineItem = none ∧ e.suspended = none).symm
  | .connected | .disconnected | .aliasChanged _ | .edit _ _ | .removeEditRequest _
  | .orphanEdit _ | .invalidate _ | .getReply _ _ _ | .setReply _ _ | .requestTimeout _
  | .suspendedTimeout _ | .cacheTimeout _ => .isTrue trivial

/-- The request an entry of the history is about. -/
def Action.request : Action β → RequestId
  | .called r _ => r
  | .orphaned r => r

/-- The requests whose callback was called. -/
def calledIds (log : List (Action β)) : List RequestId :=
  log.filterMap fun
    | .called r _ => some r
    | .orphaned _ => none

/-- The requests whose bound object died first. -/
def orphanedIds (log : List (Action β)) : List RequestId :=
  log.filterMap fun
    | .called _ _ => none
    | .orphaned r => some r

/-- Every request that is over is called or orphaned, once. -/
theorem count_request (log : List (Action β)) (r : RequestId) :
    (log.map Action.request).count r = (calledIds log).count r + (orphanedIds log).count r := by
  induction log with
  | nil => rfl
  | cons a log ih =>
    cases a <;>
      simp only [List.map_cons, List.count_cons, calledIds, orphanedIds, List.filterMap_cons,
        Action.request] at ih ⊢ <;> omega

/-! ## The invariant -/

/-- What holds of a cache entry. -/
structure EntryOk (s : State β) (h : Handle) (e : Entry β) : Prop where
  nodup : e.pendingRequests.Nodup
  pending : ∀ r ∈ e.pendingRequests, ∃ request, s.requests r = some request ∧ request.handle = h
  pipeline : ∀ g, e.pipelineItem = some g →
    ∃ get ∈ s.gets, get.id = g ∧ get.userData ∈ e.pendingRequests
  suspended : ∀ r, e.suspended = some r → r ∈ e.pendingRequests ∧ e.pipelineItem = none

/-- The invariant of the requests.  While the requests of an entry `x` are being
completed nothing serves them any more. -/
structure Carried (x : Option Handle) (s : State β) : Prop where
  entries : ∀ h e, s.entry h = some e → EntryOk s h e
  served : ∀ h e, s.entry h = some e → some h ≠ x → e.pendingRequests ≠ [] →
    e.pipelineItem ≠ none ∨ e.suspended ≠ none
  live : ∀ r request, s.requests r = some request →
    r < s.nextRequest ∧ ∃ e, s.entry request.handle = some e ∧ r ∈ e.pendingRequests
  timers : ∀ r request, s.requests r = some request → request.timer = true →
    some request.handle ≠ x → ∃ get ∈ s.gets, get.userData = r
  gets : ∀ get ∈ s.gets, ∃ request e, s.requests get.userData = some request ∧
    s.entry request.handle = some e ∧ e.pipelineItem = some get.id
  getIds : (s.gets.map GetItem.id).Nodup
  getLt : ∀ get ∈ s.gets, get.id < s.nextItem
  timed : ∀ h ∈ s.timedCache, ∃ e, s.entry h = some e ∧ e.vcardNode ≠ none ∧
    e.pipelineItem = none ∧ (e.pendingRequests = [] ∨ some h = x)
  timedNodup : s.timedCache.Nodup
  finished : ∀ r, (s.log.map Action.request).count r =
    if r < s.nextRequest ∧ s.requests r = none then 1 else 0

/-- There are requests for the own vCard. -/
def OwnWaiting (s : State β) : Prop :=
  ∃ e, s.entry s.conn.selfHandle = some e ∧ e.pendingRequests ≠ []

/-- Queued edits are not forgotten: a SET will be answered, or the own vCard will
come. -/
def EditsServed (s : State β) : Prop :=
  s.edits ≠ [] → s.editPipelineItem ≠ none ∨ OwnWaiting s

/-! ## Frames -/

/-- What the operations on requests leave alone. -/
structure SameEdits (s s' : State β) : Prop where
  conn : s'.conn = s.conn
  status : s'.status = s.status
  disposed : s'.disposed = s.disposed
  edits : s'.edits = s.edits
  editPipelineItem : s'.editPipelineItem = s.editPipelineItem
  editRequests : s'.editRequests = s.editRequests
  patchedVCard : s'.patchedVCard = s.patchedVCard
  nextEdit : s'.nextEdit = s.nextEdit
  sets : s'.sets = s.sets
  editLog : s'.editLog = s.editLog
  fault : s'.fault = s.fault
  nextItem : s.nextItem ≤ s'.nextItem

/-- What the operations on edits leave alone. -/
structure SameRequests (s s' : State β) : Prop where
  selfHandle : s'.conn.selfHandle = s.conn.selfHandle
  cache : s'.cache = s.cache
  timedCache : s'.timedCache = s.timedCache
  requests : s'.requests = s.requests
  nextRequest : s'.nextRequest = s.nextRequest
  gets : s'.gets = s.gets
  log : s'.log = s.log
  nextItem : s.nextItem ≤ s'.nextItem

theorem SameEdits.selfHandle {s s' : State β} (h : SameEdits s s') :
    s'.conn.selfHandle = s.conn.selfHandle := by
  rw [h.conn]

theorem SameEdits.refl (s : State β) : SameEdits s s := by
  constructor <;> rfl

theorem SameEdits.trans {s₁ s₂ s₃ : State β} (h : SameEdits s₁ s₂) (h' : SameEdits s₂ s₃) :
    SameEdits s₁ s₃ where
  conn := h'.conn.trans h.conn
  status := h'.status.trans h.status
  disposed := h'.disposed.trans h.disposed
  edits := h'.edits.trans h.edits
  editPipelineItem := h'.editPipelineItem.trans h.editPipelineItem
  editRequests := h'.editRequests.trans h.editRequests
  patchedVCard := h'.patchedVCard.trans h.patchedVCard
  nextEdit := h'.nextEdit.trans h.nextEdit
  sets := h'.sets.trans h.sets
  editLog := h'.editLog.trans h.editLog
  fault := h'.fault.trans h.fault
  nextItem := h.nextItem.trans h'.nextItem

section

variable {x : Option Handle} {s s' : State β} {h h' : Handle} {r : RequestId} {e : Entry β}

@[simp] theorem setEntry_entry_self (s : State β) (h : Handle) (e : Entry β) :
    (s.setEntry h e).entry h = some e := by
  simp [State.setEntry, State.entry]

@[simp] theorem setEntry_entry_ne (s : State β) (e : Entry β) (hne : h' ≠ h) :
    (s.setEntry h e).entry h' = s.entry h' := by
  simp [State.setEntry, State.entry, AList.lookup_insert_ne hne]

theorem entry_congr (hc : s'.cache = s.cache) (h : Handle) : s'.entry h = s.entry h := by
  simp only [State.entry, hc]

/-- The operations on edits keep the invariant of the requests. -/
theorem Carried.congr (hc : Carried x s) (hs : SameRequests s s') : Carried x s' where
  entries h e he := by
    have hok := hc.entries h e ((entry_congr hs.cache h).symm.trans he)
    exact ⟨hok.nodup, hs.requests ▸ hok.pending, hs.gets ▸ hok.pipeline, hok.suspended⟩
  served h e he := hc.served h e ((entry_congr hs.cache h).symm.trans he)
  live := by
    simp only [hs.requests, hs.nextRequest, entry_congr hs.cache]
    exact hc.live
  timers := by
    simp only [hs.requests, hs.gets]
    exact hc.timers
  gets := by
    simp only [hs.requests, hs.gets, entry_congr hs.cache]
    exact hc.gets
  getIds := hs.gets ▸ hc.getIds
  getLt get hg := (hc.getLt get (hs.gets ▸ hg)).trans_le hs.nextItem
  timed := by
    simp only [hs.timedCache, entry_congr hs.cache]
    exact hc.timed
  timedNodup := hs.timedCache ▸ hc.timedNodup
  finished := by
    simp only [hs.requests, hs.nextRequest, hs.log]
    exact hc.finished

/-! ## Consequences -/

/-- An entry without a GET or a timer has no request that carries one. -/
theorem Carried.not_carries (hc : Carried x s) (he : s.entry h = some e)
    (hp : e.pipelineItem = none) (hs : e.suspended = none) (hr : r ∈ e.pendingRequests) :
    ¬ Carries s r := by
  obtain ⟨request, hreq, rfl⟩ := (hc.entries h e he).pending r hr
  rintro (⟨get, hget, rfl⟩ | ⟨h', e', he', hsus⟩)
  · obtain ⟨request', e', hreq', he', hitem⟩ := hc.gets get hget
    rw [hreq] at hreq'
    cases hreq'
    rw [he] at he'
    cases he'
    rw [hp] at hitem
    cases hitem
  · have hmem := ((hc.entries h' e' he').suspended r hsus).1
    obtain ⟨request', hreq', rfl⟩ := (hc.entries h' e' he').pending r hmem
    rw [hreq] at hreq'
    cases hreq'
    rw [he] at he'
    cases he'
    rw [hs] at hsus
    cases hsus

/-- A request that carries nothing shares its entry with one that does. -/
theorem Carried.exists_carrier (hc : Carried none s) (he : s.entry h = some e)
    (hr : r ∈ e.pendingRequests) (hn : ¬ Carries s r) : e.pendingRequests.erase r ≠ [] := by
  have hne : e.pendingRequests ≠ [] := List.ne_nil_of_mem hr
  obtain ⟨c, hcm, hcr⟩ : ∃ c ∈ e.pendingRequests, c ≠ r := by
    rcases hc.served h e he (by simp) hne with hp | hs
    · obtain ⟨g, hg⟩ := Option.ne_none_iff_exists'.mp hp
      obtain ⟨get, hget, _, hmem⟩ := (hc.entries h e he).pipeline g hg
      exact ⟨_, hmem, fun heq => hn (.inl ⟨get, hget, heq⟩)⟩
    · obtain ⟨c, hsc⟩ := Option.ne_none_iff_exists'.mp hs
      exact ⟨c, ((hc.entries h e he).suspended c hsc).1,
        fun heq => hn (.inr ⟨h, e, he, heq ▸ hsc⟩)⟩
  exact List.ne_nil_of_mem ((List.mem_erase_of_ne hcr).mpr hcm)

/-- An entry with a GET in the pipeline has no timer. -/
theorem Carried.suspended_none (hc : Carried x s) (he : s.entry h = some e)
    (hp : e.pipelineItem ≠ none) : e.suspended = none := by
  by_contra hs
  obtain ⟨c, hsc⟩ := Option.ne_none_iff_exists'.mp hs
  exact hp ((hc.entries h e he).suspended c hsc).2

/-- Nor is it in the timed cache, and nor is an entry that has no vCard. -/
theorem Carried.not_timed (hc : Carried x s) (he : s.entry h = some e)
    (hp : e.pipelineItem ≠ none ∨ e.vcardNode = none) : h ∉ s.timedCache := by
  intro hh
  obtain ⟨e', he', hv, hp', _⟩ := hc.timed h hh
  rw [he] at he'
  cases he'
  exact hp.elim (fun hne => hne hp') fun hnone => hv hnone

/-- A request that carries no GET has no timer. -/
theorem Carried.timer_false {request : Request} (hc : Carried none s)
    (hreq : s.requests r = some request) (hno : ∀ get ∈ s.gets, get.userData ≠ r) :
    request.timer = false := by
  by_contra ht
  obtain ⟨get, hget, heq⟩ := hc.timers r request hreq (by simpa using ht) (by simp)
  exact hno get hget heq

/-- The GET of an entry. -/
theorem Carried.get_eq {get get' : GetItem} {request request' : Request} (hc : Carried x s)
    (hget : get ∈ s.gets) (hget' : get' ∈ s.gets) (hreq : s.requests get.userData = some request)
    (hreq' : s.requests get'.userData = some request') (hh : request'.handle = request.handle) :
    get' = get := by
  obtain ⟨r₁, e₁, hr₁, he₁, hi₁⟩ := hc.gets get hget
  obtain ⟨r₂, e₂, hr₂, he₂, hi₂⟩ := hc.gets get' hget'
  rw [hreq] at hr₁
  cases hr₁
  rw [hreq'] at hr₂
  cases hr₂
  rw [hh, he₁] at he₂
  cases he₂
  rw [hi₁] at hi₂
  exact List.inj_on_of_nodup_map hc.getIds hget' hget (Option.some.inj hi₂).symm

/-- When no request is left, nothing is being completed. -/
theorem Carried.settle (hc : Carried (some h) s)
    (hnil : ∀ e, s.entry h = some e → e.pendingRequests = []) : Carried none s where
  entries := hc.entries
  served h' e he _ hne := by
    refine hc.served h' e he ?_ hne
    rintro ⟨⟩
    exact hne (hnil e he)
  live := hc.live
  timers r request hr ht _ := by
    refine hc.timers r request hr ht ?_
    intro heq
    obtain ⟨_, e, he, hmem⟩ := hc.live r request hr
    rw [Option.some.inj heq] at he
    simp [hnil e he] at hmem
  gets := hc.gets
  getIds := hc.getIds
  getLt := hc.getLt
  timed h' hh := by
    obtain ⟨e, he, hv, hp, hpend⟩ := hc.timed h' hh
    refine ⟨e, he, hv, hp, .inl (hpend.elim id fun heq => hnil e ?_)⟩
    rwa [← Option.some.inj heq]
  timedNodup := hc.timedNodup
  finished := hc.finished

/-! ## One entry at a time -/

/-- The states differ at the handle `h` only. -/
structure LocalTo (h : Handle) (s s' : State β) : Prop where
  entry : ∀ h' ≠ h, s'.entry h' = s.entry h'
  request : ∀ r request, request.handle ≠ h →
    (s'.requests r = some request ↔ s.requests r = some request)
  get : ∀ get request, s.requests get.userData = some request → request.handle ≠ h →
    (get ∈ s'.gets ↔ get ∈ s.gets)
  timed : ∀ h' ≠ h, h' ∈ s'.timedCache → h' ∈ s.timedCache
  nextRequest : s.nextRequest ≤ s'.nextRequest

/-- The invariant at the handle `h`. -/
structure CarriedAt (x : Option Handle) (h : Handle) (s : State β) : Prop where
  entry : ∀ e, s.entry h = some e → EntryOk s h e
  served : ∀ e, s.entry h = some e → some h ≠ x → e.pendingRequests ≠ [] →
    e.pipelineItem ≠ none ∨ e.suspended ≠ none
  live : ∀ r request, s.requests r = some request → request.handle = h →
    r < s.nextRequest ∧ ∃ e, s.entry h = some e ∧ r ∈ e.pendingRequests
  timers : ∀ r request, s.requests r = some request → request.handle = h →
    request.timer = true → some h ≠ x → ∃ get ∈ s.gets, get.userData = r
  timed : h ∈ s.timedCache → ∃ e, s.entry h = some e ∧ e.vcardNode ≠ none ∧
    e.pipelineItem = none ∧ (e.pendingRequests = [] ∨ some h = x)

/-- **Locality.**  An operation on one entry has to re-establish the invariant
there, and for the GETs of that entry. -/
theorem Carried.of_local {x' : Option Handle} (hc : Carried x s) (hx : ∀ h' ≠ h, some h' ≠ x)
    (hl : LocalTo h s s') (hat : CarriedAt x' h s')
    (hgets : ∀ get ∈ s'.gets, (∃ request, s.requests get.userData = some request ∧
        request.handle ≠ h) ∨
      ∃ request e, s'.requests get.userData = some request ∧ request.handle = h ∧
        s'.entry h = some e ∧ e.pipelineItem = some get.id)
    (hids : (s'.gets.map GetItem.id).Nodup) (hlt : ∀ get ∈ s'.gets, get.id < s'.nextItem)
    (htn : s'.timedCache.Nodup)
    (hfin : ∀ r, (s'.log.map Action.request).count r =
      if r < s'.nextRequest ∧ s'.requests r = none then 1 else 0) : Carried x' s' where
  entries h' e he := by
    by_cases hne : h' = h
    · subst hne
      exact hat.entry e he
    · have hok := hc.entries h' e ((hl.entry h' hne).symm.trans he)
      refine ⟨hok.nodup, fun r hr => ?_, fun g hg => ?_, hok.suspended⟩
      · obtain ⟨request, hreq, rfl⟩ := hok.pending r hr
        exact ⟨request, (hl.request r request hne).mpr hreq, rfl⟩
      · obtain ⟨get, hget, hid, hmem⟩ := hok.pipeline g hg
        obtain ⟨request, hreq, rfl⟩ := hok.pending _ hmem
        exact ⟨get, (hl.get get request hreq hne).mpr hget, hid, hmem⟩
  served h' e he hx' hp := by
    by_cases hne : h' = h
    · subst hne
      exact hat.served e he hx' hp
    · exact hc.served h' e ((hl.entry h' hne).symm.trans he) (hx h' hne) hp
  live r request hr := by
    by_cases hne : request.handle = h
    · obtain ⟨hlt', e, he, hmem⟩ := hat.live r request hr hne
      exact ⟨hlt', e, by rwa [hne], hmem⟩
    · obtain ⟨hlt', e, he, hmem⟩ := hc.live r request ((hl.request r request hne).mp hr)
      exact ⟨hlt'.trans_le hl.nextRequest, e, (hl.entry _ hne).trans he, hmem⟩
  timers r request hr ht hx' := by
    by_cases hne : request.handle = h
    · exact hat.timers r request hr hne ht (by rwa [hne] at hx')
    · have hreq := (hl.request r request hne).mp hr
      obtain ⟨get, hget, rfl⟩ := hc.timers r request hreq ht (hx _ hne)
      exact ⟨get, (hl.get get request hreq hne).mpr hget, rfl⟩
  gets get hget := by
    rcases hgets get hget with ⟨request, hreq, hne⟩ | ⟨request, e, hreq, rfl, he, hitem⟩
    · obtain ⟨request', e, hreq', he, hitem⟩ := hc.gets get ((hl.get get request hreq hne).mp hget)
      rw [hreq] at hreq'
      cases hreq'
      exact ⟨request, e, (hl.request _ request hne).mpr hreq, (hl.entry _ hne).trans he, hitem⟩
    · exact ⟨request, e, hreq, he, hitem⟩
  getIds := hids
  getLt := hlt
  timed h' hh := by
    by_cases hne : h' = h
    · subst hne
      exact hat.timed hh
    · obtain ⟨e, he, hv, hp, hpend⟩ := hc.timed h' (hl.timed h' hne hh)
      exact ⟨e, (hl.entry h' hne).trans he, hv, hp,
        .inl (hpend.resolve_right fun heq => hx h' hne heq)⟩
  timedNodup := htn
  finished := hfin

/-- The GETs of the other entries, for an operation that keeps all GETs. -/
theorem Carried.gets_local (hc : Carried x s)
    (hother : ∀ get request, s.requests get.userData = some request → request.handle = h →
      get ∈ s.gets → ∃ e, s'.requests get.userData = some request ∧
        s'.entry h = some e ∧ e.pipelineItem = some get.id) :
    ∀ get ∈ s.gets, (∃ request, s.requests get.userData = some request ∧ request.handle ≠ h) ∨
      ∃ request e, s'.requests get.userData = some request ∧ request.handle = h ∧
        s'.entry h = some e ∧ e.pipelineItem = some get.id := by
  intro get hget
  obtain ⟨request, _, hreq, _, _⟩ := hc.gets get hget
  by_cases hne : request.handle = h
  · obtain ⟨e, h1, h2, h3⟩ := hother get request hreq hne hget
    exact .inr ⟨request, e, h1, hne, h2, h3⟩
  · exact .inl ⟨request, hreq, hne⟩

/-! ## The operations on requests -/

/-- `cache_entry_attempt_to_free` frees an entry that is not used any more. -/
theorem attemptToFree_ok (he : s.entry h = some e)
    (hfree : e.vcardNode = none → e.pipelineItem = none → e.pendingRequests = [] →
      e.suspended = none ∧ (h = s.conn.selfHandle → s.editPipelineItem = none → s.edits = [])) :
    s.cacheEntryAttemptToFree h = .ok s ∨
    (e.vcardNode = none ∧ e.pipelineItem = none ∧ e.pendingRequests = [] ∧
      s.cacheEntryAttemptToFree h = .ok (s.cacheEntryFree h)) := by
  unfold State.cacheEntryAttemptToFree
  rw [he]
  by_cases hv : e.vcardNode = none
  · by_cases hp : e.pipelineItem = none
    · by_cases hr : e.pendingRequests = []
      · obtain ⟨hsus, hedits⟩ := hfree hv hp hr
        exact .inr ⟨hv, hp, hr, by simpa [hv, hp, hr, hsus] using hedits⟩
      · exact .inl (by simp [hv, hp, hr])
    · exact .inl (by simp [hv, Option.isSome_iff_ne_none.mpr hp])
  · exact .inl (by simp [Option.isSome_iff_ne_none.mpr hv])

@[simp] theorem cacheEntryFree_entry_self (s : State β) (h : Handle) :
    (s.cacheEntryFree h).entry h = none := by
  simp [State.cacheEntryFree, State.entry]

@[simp] theorem cacheEntryFree_entry_ne (s : State β) (hne : h' ≠ h) :
    (s.cacheEntryFree h).entry h' = s.entry h' := by
  simp [State.cacheEntryFree, State.entry, AList.lookup_erase_ne hne]

theorem deleteRequest_eq {request : Request} (hr : s.requests r = some request)
    (he : s.entry request.handle = some e) :
    s.deleteRequest r =
      ((s.setEntry request.handle { e with pendingRequests := e.pendingRequests.erase r }
        ).cacheEntryAttemptToFree request.handle).map fun s' => s'.setRequest r none := by
  simp only [State.deleteRequest, hr, he]
  rfl

/-- One more request is over. -/
theorem finished_append {a : Action β} {request : Request} (hc : Carried x s)
    (hr : s.requests r = some request) (ha : a.request = r) (r' : RequestId) :
    ((s.log ++ [a]).map Action.request).count r' =
      if r' < s.nextRequest ∧ Function.update s.requests r none r' = none then 1 else 0 := by
  rw [List.map_append, List.count_append, hc.finished r']
  by_cases hrr : r' = r
  · subst hrr
    simp [hr, ha, (hc.live r' request hr).1]
  · have : a.request ≠ r' := fun heq => hrr (heq.symm.trans ha)
    simp [Function.update_of_ne hrr, this]

/-- A request that carries nothing leaves its entry. -/
theorem Carried.remove {a : Action β} (hc : Carried x s) (hx : ∀ h' ≠ h, some h' ≠ x)
    (he : s.entry h = some e) (hr : r ∈ e.pendingRequests) (hn : ¬ Carries s r)
    (ha : a.request = r) :
    Carried x (((s.record a).setEntry h
      { e with pendingRequests := e.pendingRequests.erase r }).setRequest r none) := by
  have hok := hc.entries h e he
  obtain ⟨request, hreq, hhandle⟩ := hok.pending r hr
  have hupd : ∀ r' request', Function.update s.requests r none r' = some request' ↔
      r' ≠ r ∧ s.requests r' = some request' := by
    intro r' request'
    by_cases hrr : r' = r
    · simp [hrr]
    · simp [hrr]
  have hcarry : ∀ get ∈ s.gets, get.userData ≠ r := fun get hget heq =>
    hn (.inl ⟨get, hget, heq⟩)
  have hmem : ∀ r' ∈ e.pendingRequests.erase r, r' ≠ r ∧ r' ∈ e.pendingRequests := fun r' hr' =>
    (hok.nodup.mem_erase_iff).mp hr'
  have hself := setEntry_entry_self (s.record a) h
    { e with pendingRequests := e.pendingRequests.erase r }
  refine hc.of_local hx ⟨fun h' hh => setEntry_entry_ne _ _ hh, ?_, fun _ _ _ _ => Iff.rfl,
    fun _ _ hh => hh, le_rfl⟩ ⟨?_, ?_, ?_, ?_, ?_⟩ ?_ hc.getIds hc.getLt hc.timedNodup
    (finished_append hc hreq ha)
  · intro r' request' hne
    refine (hupd r' request').trans ⟨And.right, fun hr' => ⟨?_, hr'⟩⟩
    rintro rfl
    rw [hreq] at hr'
    cases hr'
    exact hne hhandle
  · intro e' he'
    cases hself.symm.trans he'
    refine ⟨hok.nodup.erase r, fun r' hr' => ?_, fun g hg => ?_, fun c hsc => ?_⟩
    · obtain ⟨hne, hr'⟩ := hmem r' hr'
      obtain ⟨request', hreq', hh⟩ := hok.pending r' hr'
      exact ⟨request', (hupd _ _).mpr ⟨hne, hreq'⟩, hh⟩
    · obtain ⟨get, hget, hid, hm⟩ := hok.pipeline g hg
      exact ⟨get, hget, hid, (List.mem_erase_of_ne (hcarry get hget)).mpr hm⟩
    · obtain ⟨hm, hp⟩ := hok.suspended c hsc
      have hcr : c ≠ r := fun heq => hn (.inr ⟨h, e, he, heq ▸ hsc⟩)
      exact ⟨(List.mem_erase_of_ne hcr).mpr hm, hp⟩
  · intro e' he' hx' _
    cases hself.symm.trans he'
    exact hc.served h e he hx' (List.ne_nil_of_mem hr)
  · intro r' request' hr' hh
    obtain ⟨hne, hr'⟩ := (hupd _ _).mp hr'
    obtain ⟨hlt, e', he', hm⟩ := hc.live r' request' hr'
    rw [hh, he] at he'
    cases he'
    exact ⟨hlt, _, hself, (List.mem_erase_of_ne hne).mpr hm⟩
  · intro r' request' hr' hh ht hx'
    exact hc.timers r' request' ((hupd _ _).mp hr').2 ht (by rwa [hh])
  · intro hh
    obtain ⟨e', he', hv, hp, hpend⟩ := hc.timed h hh
    rw [he] at he'
    cases he'
    exact ⟨_, hself, hv, hp, hpend.imp (fun hnil => by simp [hnil]) id⟩
  · refine hc.gets_local fun get request' hreq' hh hget => ?_
    obtain ⟨request'', e', hreq'', he', hit⟩ := hc.gets get hget
    rw [hreq'] at hreq''
    cases hreq''
    rw [hh, he] at he'
    cases he'
    exact ⟨_, (hupd _ _).mpr ⟨hcarry get hget, hreq'⟩, hself, hit⟩

/-- An entry without requests is freed. -/
theorem Carried.cacheEntryFree (hc : Carried x s) (hx : ∀ h' ≠ h, some h' ≠ x)
    (he : s.entry h = some e) (hnil : e.pendingRequests = []) : Carried x (s.cacheEntryFree h) := by
  have hnone := cacheEntryFree_entry_self s h
  have hnoreq : ∀ r request, s.requests r = some request → request.handle ≠ h := by
    rintro r request hr rfl
    obtain ⟨_, e', he', hm⟩ := hc.live r request hr
    rw [he] at he'
    cases he'
    simp [hnil] at hm
  refine hc.of_local hx ⟨fun h' hh => cacheEntryFree_entry_ne _ hh, fun _ _ _ => Iff.rfl,
    fun _ _ _ _ => Iff.rfl, fun _ _ hh => List.mem_of_mem_erase hh, le_rfl⟩ ⟨?_, ?_, ?_, ?_, ?_⟩ ?_
    hc.getIds hc.getLt (hc.timedNodup.erase _) hc.finished
  · intro e' he'
    cases hnone.symm.trans he'
  · intro e' he'
    cases hnone.symm.trans he'
  · exact fun r request hr hh => absurd hh (hnoreq r request hr)
  · exact fun r request hr hh => absurd hh (hnoreq r request hr)
  · exact fun hh => absurd rfl ((hc.timedNodup.mem_erase_iff).mp hh).1
  · exact hc.gets_local fun get request hreq hh _ => absurd hh (hnoreq _ request hreq)

/-- `delete_request`, for a request that carries nothing. -/
theorem Carried.deleteRequest {a : Action β} (hc : Carried x s) (hx : ∀ h' ≠ h, some h' ≠ x)
    (he : s.entry h = some e) (hr : r ∈ e.pendingRequests) (hn : ¬ Carries s r)
    (ha : a.request = r)
    (hfree : e.pipelineItem = none → e.pendingRequests.erase r = [] →
      e.suspended = none ∧ (h = s.conn.selfHandle → s.editPipelineItem = none → s.edits = [])) :
    ∃ s', (s.record a).deleteRequest r = .ok s' ∧ Carried x s' ∧ SameEdits s s' ∧
      s'.gets = s.gets ∧ s'.requests = Function.update s.requests r none ∧
      (∀ h' ≠ h, s'.entry h' = s.entry h') ∧
      (s'.entry h = some { e with pendingRequests := e.pendingRequests.erase r } ∨
        (s'.entry h = none ∧ e.vcardNode = none ∧ e.pendingRequests.erase r = [])) := by
  obtain ⟨request, hreq, rfl⟩ := (hc.entries h e he).pending r hr
  have hdel := deleteRequest_eq (s := s.record a) (r := r) hreq he
  have hrem := hc.remove hx he hr hn ha
  -- the state in which the entry is freed or not
  set s₁ := (s.record a).setEntry request.handle
    { e with pendingRequests := e.pendingRequests.erase r }
  have hself : s₁.entry request.handle =
      some { e with pendingRequests := e.pendingRequests.erase r } :=
    setEntry_entry_self ..
  have hne : ∀ h' ≠ request.handle, s₁.entry h' = s.entry h' := fun h' hh =>
    setEntry_entry_ne _ _ hh
  rcases attemptToFree_ok hself (fun _ hp hnil => hfree hp hnil) with hfr | ⟨hv, hp, hnil, hfr⟩
  · rw [hdel, hfr]
    exact ⟨s₁.setRequest r none, rfl, hrem, by constructor <;> rfl, rfl, rfl, hne, .inl hself⟩
  · rw [hdel, hfr]
    have hnone := cacheEntryFree_entry_self s₁ request.handle
    exact ⟨(s₁.setRequest r none).cacheEntryFree request.handle, rfl,
      hrem.cacheEntryFree hx hself hnil, by constructor <;> rfl, rfl, rfl,
      fun h' hh => (cacheEntryFree_entry_ne _ hh).trans (hne h' hh), .inr ⟨hnone, hv, hnil⟩⟩

/-- `cache_entry_complete_requests`, for an entry without a GET or a timer. -/
theorem Carried.completeRequests (hc : Carried (some h) s) (he : s.entry h = some e)
    (hp : e.pipelineItem = none) (hsus : e.suspended = none)
    (hedits : h = s.conn.selfHandle → s.editPipelineItem = none → s.edits = [])
    (result : Except Error (Option (VCard β))) :
    ∃ s', e.pendingRequests.foldlM (State.completeOneRequest result) s = .ok s' ∧
      Carried none s' ∧ SameEdits s s' ∧ s'.gets = s.gets ∧
      (∀ r, s'.requests r = if r ∈ e.pendingRequests then none else s.requests r) ∧
      (∀ h' ≠ h, s'.entry h' = s.entry h') ∧
      (∀ e', s'.entry h = some e' → e' = { e with pendingRequests := [] }) := by
  -- by induction on the requests that are left
  induction hrs : e.pendingRequests generalizing s e with
  | nil =>
    refine ⟨s, rfl, hc.settle fun e' he' => ?_, .refl s, rfl, by simp, fun _ _ => rfl,
      fun e' he' => ?_⟩ <;> rw [he] at he' <;> cases he'
    · exact hrs
    · rw [← hrs]
  | cons r rs ih =>
    have hr : r ∈ e.pendingRequests := hrs ▸ List.mem_cons_self
    have herase : e.pendingRequests.erase r = rs := by simp [hrs]
    obtain ⟨s₁, hs₁, hc₁, hsame, hgets, hreqs, hne, hself⟩ :=
      hc.deleteRequest (a := .called r result) (fun h' hh heq => hh (Option.some.inj heq)) he hr
        (hc.not_carries he hp hsus hr) rfl (fun _ _ => ⟨hsus, hedits⟩)
    have hfold : (r :: rs).foldlM (State.completeOneRequest result) s =
        rs.foldlM (State.completeOneRequest result) s₁ := by
      rw [List.foldlM_cons]
      exact congrArg (· >>= _) hs₁
    have hreqs' : ∀ (s' : State β), (∀ r', s'.requests r' =
        if r' ∈ rs then none else s₁.requests r') →
        ∀ r', s'.requests r' = if r' ∈ r :: rs then none else s.requests r' := by
      intro s' h' r'
      rw [h', hreqs]
      by_cases hrr : r' = r
      · simp [hrr]
      · simp [hrr]
    rw [herase] at hself
    rcases hself with hself | ⟨hnone, _, hnil⟩
    · obtain ⟨s', hs', hc', hsame', hgets', hreqs₂, hne', hself'⟩ :=
        ih hc₁ hself hp hsus (by rw [hsame.conn, hsame.editPipelineItem, hsame.edits]; exact hedits)
          rfl
      exact ⟨s', hfold.trans hs', hc', hsame.trans hsame', hgets'.trans hgets, hreqs' s' hreqs₂,
        fun h' hh => (hne' h' hh).trans (hne h' hh), hself'⟩
    · -- the entry went with its last request
      subst hnil
      refine ⟨s₁, hfold, hc₁.settle fun e' he' => ?_, hsame, hgets, hreqs' s₁ (by simp), hne,
        fun e' he' => ?_⟩ <;> rw [hnone] at he' <;> cases he'

/-- A GET is answered: it leaves the pipeline and its entry. -/
theorem Carried.takeGet (hc : Carried none s) {get : GetItem} (hget : get ∈ s.gets)
    {request : Request} (hreq : s.requests get.userData = some request)
    (he : s.entry request.handle = some e) :
    Carried (some request.handle)
      ({ s with gets := s.gets.erase get }.setEntry request.handle
        { e with pipelineItem := none }) := by
  obtain ⟨request', e', hreq', he', hitem⟩ := hc.gets get hget
  rw [hreq] at hreq'
  cases hreq'
  rw [he] at he'
  cases he'
  have hok := hc.entries _ e he
  have hnodup : s.gets.Nodup := hc.getIds.of_map _
  have hmem : ∀ g, g ∈ s.gets.erase get → g ≠ get ∧ g ∈ s.gets := fun g hg =>
    (hnodup.mem_erase_iff).mp hg
  -- the other GETs belong to other entries
  have hother : ∀ g ∈ s.gets.erase get, ∃ request', s.requests g.userData = some request' ∧
      request'.handle ≠ request.handle := by
    intro g hg
    obtain ⟨hne, hg⟩ := hmem g hg
    obtain ⟨request', _, hreq', _, _⟩ := hc.gets g hg
    exact ⟨request', hreq', fun hh => hne (hc.get_eq hget hg hreq hreq' hh)⟩
  have hsus := hc.suspended_none he (by simp [hitem])
  have hnt := hc.not_timed he (.inl (by simp [hitem]))
  refine hc.of_local (h := request.handle) (by simp)
    ⟨fun h' hh => setEntry_entry_ne _ _ hh, fun _ _ _ => Iff.rfl, ?_, fun _ _ hh => hh,
      le_rfl⟩ ⟨?_, ?_, ?_, ?_, ?_⟩ (fun g hg => .inl (hother g hg)) ?_
    (fun g hg => hc.getLt g (hmem g hg).2) hc.timedNodup hc.finished
  · intro g request' hreq' hne
    refine ⟨fun hg => (hmem g hg).2, fun hg => (hnodup.mem_erase_iff).mpr ⟨?_, hg⟩⟩
    rintro rfl
    rw [hreq] at hreq'
    cases hreq'
    exact hne rfl
  · intro e' he'
    rw [setEntry_entry_self] at he'
    cases he'
    exact ⟨hok.nodup, hok.pending, nofun, fun c hsc => by rw [hsus] at hsc; cases hsc⟩
  · intro _ _ hx
    exact absurd rfl hx
  · intro r request' hr hh
    obtain ⟨hlt, e', he', hm⟩ := hc.live r request' hr
    rw [hh, he] at he'
    cases he'
    exact ⟨hlt, _, setEntry_entry_self .., hm⟩
  · intro _ _ _ _ _ hx
    exact absurd rfl hx
  · exact fun hh => absurd hh hnt
  · exact (hc.getIds.sublist ((List.erase_sublist).map _))

/-- The vCard of an entry changes. -/
theorem Carried.setVCard (hc : Carried x s) (hx : ∀ h' ≠ h, some h' ≠ x)
    (he : s.entry h = some e) (node : Option (VCard β)) (expires : ℕ)
    (hnode : node = none → h ∉ s.timedCache) :
    Carried x (s.setEntry h { e with vcardNode := node, expires := expires }) := by
  have hok := hc.entries h e he
  have hself := setEntry_entry_self s h { e with vcardNode := node, expires := expires }
  refine hc.of_local hx ⟨fun h' hh => setEntry_entry_ne _ _ hh, fun _ _ _ => Iff.rfl,
    fun _ _ _ _ => Iff.rfl, fun _ _ hh => hh, le_rfl⟩ ⟨?_, ?_, ?_, ?_, ?_⟩ ?_ hc.getIds hc.getLt
    hc.timedNodup hc.finished
  · intro e' he'
    cases hself.symm.trans he'
    exact ⟨hok.nodup, hok.pending, hok.pipeline, hok.suspended⟩
  · intro e' he'
    cases hself.symm.trans he'
    exact hc.served h e he
  · intro r request hr hh
    obtain ⟨hlt, e', he', hm⟩ := hc.live r request hr
    rw [hh, he] at he'
    cases he'
    exact ⟨hlt, _, hself, hm⟩
  · intro r request hr hh ht hx'
    exact hc.timers r request hr ht (by rwa [hh])
  · intro hh
    obtain ⟨e', he', _, hp, hpend⟩ := hc.timed h hh
    rw [he] at he'
    cases he'
    exact ⟨_, hself, fun hnone => hnode hnone hh, hp, hpend⟩
  · refine hc.gets_local fun get request hreq hh hget => ?_
    obtain ⟨request', e', hreq', he', hit⟩ := hc.gets get hget
    rw [hreq] at hreq'
    cases hreq'
    rw [hh, he] at he'
    cases he'
    exact ⟨_, hreq, hself, hit⟩

/-- The heap changes. -/
theorem Carried.setTimed (hc : Carried x s) {timed : List Handle} (timer : Bool)
    (htimed : ∀ h ∈ timed, ∃ e, s.entry h = some e ∧ e.vcardNode ≠ none ∧
      e.pipelineItem = none ∧ (e.pendingRequests = [] ∨ some h = x)) (hnodup : timed.Nodup) :
    Carried x { s with timedCache := timed, cacheTimer := timer } :=
  { hc with
    entries := fun h' e' he' => { hc.entries h' e' he' with }
    timed := htimed
    timedNodup := hnodup }

/-- The entry whose requests are being completed enters the heap. -/
theorem Carried.addTimed (hc : Carried (some h) s) (he : s.entry h = some e)
    (hv : e.vcardNode ≠ none) (hp : e.pipelineItem = none) (hnt : h ∉ s.timedCache)
    (timer : Bool) :
    Carried (some h) { s with timedCache := s.timedCache ++ [h], cacheTimer := timer } := by
  refine hc.setTimed timer (fun h' hh => ?_)
    (hc.timedNodup.append (List.nodup_singleton h) (by simpa using hnt))
  rcases List.mem_append.mp hh with hh | hh
  · exact hc.timed h' hh
  · rw [List.mem_singleton.mp hh]
    exact ⟨e, he, hv, hp, .inr rfl⟩

/-- An entry leaves the heap. -/
theorem Carried.eraseTimed (hc : Carried x s) (h : Handle) :
    Carried x { s with timedCache := s.timedCache.erase h } :=
  hc.setTimed s.cacheTimer (fun h' hh => hc.timed h' (List.mem_of_mem_erase hh))
    (hc.timedNodup.erase _)

/-- `gabble_vcard_manager_invalidate_cache`. -/
theorem Carried.invalidateCache (hc : Carried none s) (hedits : EditsServed s) (h : Handle) :
    ∃ s', s.invalidateCache h = .ok s' ∧ Carried none s' ∧ SameEdits s s' ∧
      (OwnWaiting s → OwnWaiting s') ∧ s'.gets = s.gets ∧
      s'.timedCache.length ≤ s.timedCache.length ∧
      (h ∈ s.timedCache → s'.timedCache.length < s.timedCache.length) ∧
      (∀ e', s'.entry h = some e' → e'.vcardNode = none) ∧
      (∀ h' ≠ h, s'.entry h' = s.entry h') := by
  unfold State.invalidateCache
  cases he : s.entry h with
  | none =>
    refine ⟨s, rfl, hc, .refl s, id, rfl, le_rfl, fun hh => ?_, fun e' he' => ?_, fun _ _ => rfl⟩
    · obtain ⟨e', he', _⟩ := hc.timed h hh
      rw [he] at he'
      cases he'
    · rw [he] at he'
      cases he'
  | some e =>
    have hc₁ : Carried none ({ s with timedCache := s.timedCache.erase h }.setEntry h
        { e with vcardNode := none }) :=
      (hc.eraseTimed h).setVCard (by simp) he none e.expires
        fun _ hh => ((hc.timedNodup.mem_erase_iff).mp hh).1 rfl
    set s₁ := { s with timedCache := s.timedCache.erase h }.setEntry h { e with vcardNode := none }
    have hself : s₁.entry h = some { e with vcardNode := none } := setEntry_entry_self ..
    have hne : ∀ h' ≠ h, s₁.entry h' = s.entry h' := fun h' hh => setEntry_entry_ne _ _ hh
    have hlen : s₁.timedCache.length ≤ s.timedCache.length := List.length_erase_le
    have hlt : h ∈ s.timedCache → s₁.timedCache.length < s.timedCache.length := by
      intro hh
      have hpos := List.length_pos_of_mem hh
      have : s₁.timedCache.length = s.timedCache.length - 1 := List.length_erase_of_mem hh
      omega
    -- the requests of the own entry stay
    have hown : OwnWaiting s → OwnWaiting s₁ := by
      rintro ⟨e', he', hp⟩
      by_cases hh : s.conn.selfHandle = h
      · rw [hh, he] at he'
        cases he'
        exact ⟨_, (congrArg s₁.entry hh).trans hself, hp⟩
      · exact ⟨e', (hne _ hh).trans he', hp⟩
    have hunused : e.pendingRequests = [] → e.suspended = none ∧
        (h = s.conn.selfHandle → s.editPipelineItem = none → s.edits = []) := by
      intro hnil
      refine ⟨?_, ?_⟩
      · by_contra hs
        obtain ⟨c, hsc⟩ := Option.ne_none_iff_exists'.mp hs
        have hm := ((hc.entries h e he).suspended c hsc).1
        simp [hnil] at hm
      · rintro rfl hitem
        by_contra hne'
        obtain hne'' | ⟨e', he', hp'⟩ := hedits hne'
        · exact hne'' hitem
        · cases he.symm.trans he'
          exact hp' hnil
    rcases attemptToFree_ok hself (fun _ _ hnil => hunused hnil) with hfr | ⟨_, _, hnil, hfr⟩
    · refine ⟨s₁, hfr, hc₁, by constructor <;> rfl, hown, rfl, hlen, hlt, fun e' he' => ?_, hne⟩
      cases hself.symm.trans he'
      rfl
    · have hlen' : (s₁.cacheEntryFree h).timedCache.length ≤ s₁.timedCache.length :=
        List.length_erase_le
      refine ⟨s₁.cacheEntryFree h, hfr, hc₁.cacheEntryFree (by simp) hself hnil,
        by constructor <;> rfl, fun hw => ?_, rfl, hlen'.trans hlen,
        fun hh => hlen'.trans_lt (hlt hh), fun e' he' => ?_,
        fun h' hh => (cacheEntryFree_entry_ne _ hh).trans (hne h' hh)⟩
      · obtain ⟨e', he', hp⟩ := hown hw
        refine ⟨e', (cacheEntryFree_entry_ne s₁ fun hh => hp ?_).trans he', hp⟩
        have he'' : s₁.entry h = some e' := hh ▸ he'
        cases hself.symm.trans he''
        exact hnil
      · cases (cacheEntryFree_entry_self s₁ h).symm.trans he'

/-- `cache_entry_get`. -/
theorem Carried.cacheEntryGet (hc : Carried none s) (h : Handle) :
    Carried none (s.cacheEntryGet h) := by
  unfold State.cacheEntryGet
  cases he : s.entry h with
  | some e => exact hc
  | none =>
    have hself := setEntry_entry_self s h (Entry.new β)
    have hnoreq : ∀ r request, s.requests r = some request → request.handle ≠ h := by
      rintro r request hr rfl
      obtain ⟨_, e', he', _⟩ := hc.live r request hr
      rw [he] at he'
      cases he'
    refine hc.of_local (by simp) ⟨fun h' hh => setEntry_entry_ne _ _ hh, fun _ _ _ => Iff.rfl,
      fun _ _ _ _ => Iff.rfl, fun _ _ hh => hh, le_rfl⟩ ⟨?_, ?_, ?_, ?_, ?_⟩ ?_ hc.getIds hc.getLt
      hc.timedNodup hc.finished
    · intro e' he'
      cases hself.symm.trans he'
      exact ⟨List.nodup_nil, by simp [Entry.new], nofun, nofun⟩
    · intro e' he' _ hp
      cases hself.symm.trans he'
      exact absurd rfl hp
    · exact fun r request hr hh => absurd hh (hnoreq r request hr)
    · exact fun r request hr hh => absurd hh (hnoreq r request hr)
    · intro hh
      obtain ⟨e', he', _⟩ := hc.timed h hh
      rw [he] at he'
      cases he'
    · exact hc.gets_local fun get request hreq hh _ => absurd hh (hnoreq _ request hreq)

theorem cacheEntryGet_entry (s : State β) (h : Handle) :
    ∃ e, (s.cacheEntryGet h).entry h = some e ∧
      (s.entry h = some e ∨ s.entry h = none ∧ e = Entry.new β) := by
  unfold State.cacheEntryGet
  cases he : s.entry h with
  | some e => exact ⟨e, he, .inl rfl⟩
  | none => exact ⟨_, setEntry_entry_self .., .inr ⟨rfl, rfl⟩⟩

theorem cacheEntryGet_entry_ne (s : State β) (hne : h' ≠ h) :
    (s.cacheEntryGet h).entry h' = s.entry h' := by
  unfold State.cacheEntryGet
  split
  · rfl
  · exact setEntry_entry_ne _ _ hne

theorem cacheEntryGet_sameEdits (s : State β) (h : Handle) : SameEdits s (s.cacheEntryGet h) := by
  unfold State.cacheEntryGet
  split <;> constructor <;> rfl

/-- The state after the first half of `gabble_vcard_manager_request`: there is a
new request in the list of its entry. -/
def State.addRequest (s : State β) (h : Handle) (e : Entry β) (request : Request) : State β :=
  { (s.setRequest s.nextRequest (some request)).setEntry h
      { e with pendingRequests := s.nextRequest :: e.pendingRequests } with
    nextRequest := s.nextRequest + 1 }

theorem addRequest_sameEdits (s : State β) (h : Handle) (e : Entry β) (request : Request) :
    SameEdits s (s.addRequest h e request) := by
  constructor <;> rfl

/-- A new request joins the others of its entry. -/
theorem Carried.addRequest (hc : Carried none s) (he : s.entry h = some e)
    (hv : e.vcardNode = none) {request : Request} (hh : request.handle = h)
    (ht : request.timer = false)
    (hx : x = some h ∨ (x = none ∧ (e.pipelineItem ≠ none ∨ e.suspended ≠ none))) :
    Carried x (s.addRequest h e request) := by
  have hok := hc.entries h e he
  have hself : (s.addRequest h e request).entry h =
      some { e with pendingRequests := s.nextRequest :: e.pendingRequests } :=
    setEntry_entry_self (s.setRequest s.nextRequest (some request)) h _
  have hnew : s.requests s.nextRequest = none := by
    by_contra hne
    obtain ⟨request', hr⟩ := Option.ne_none_iff_exists'.mp hne
    exact absurd (hc.live _ request' hr).1 (lt_irrefl _)
  have hold : ∀ r request', s.requests r = some request' →
      (s.addRequest h e request).requests r = some request' := by
    intro r request' hr
    refine (Function.update_of_ne ?_ ..).trans hr
    rintro rfl
    rw [hnew] at hr
    cases hr
  have hself' : (s.addRequest h e request).requests s.nextRequest = some request :=
    Function.update_self ..
  have hreq : ∀ r request', (s.addRequest h e request).requests r = some request' →
      (r = s.nextRequest ∧ request' = request) ∨ s.requests r = some request' := by
    intro r request' hr
    by_cases hrr : r = s.nextRequest
    · subst hrr
      rw [hself'] at hr
      exact .inl ⟨rfl, (Option.some.inj hr).symm⟩
    · exact .inr ((Function.update_of_ne hrr ..).symm.trans hr)
  refine hc.of_local (h := h) (by simp) ⟨fun h' hh => setEntry_entry_ne _ _ hh, ?_,
    fun _ _ _ _ => Iff.rfl, fun _ _ hh => hh, Nat.le_succ _⟩ ⟨?_, ?_, ?_, ?_, ?_⟩ ?_ hc.getIds
    hc.getLt hc.timedNodup ?_
  · intro r request' hne
    refine ⟨fun hr => ?_, hold r request'⟩
    rcases hreq r request' hr with ⟨_, rfl⟩ | hr
    · exact absurd hh hne
    · exact hr
  · -- the new request is the first of the entry; the identifier was not in use
    intro e' he'
    cases hself.symm.trans he'
    refine ⟨List.nodup_cons.mpr ⟨fun hm => ?_, hok.nodup⟩, fun r hr => ?_, fun g hg => ?_,
      fun c hsc => ⟨List.mem_cons_of_mem _ (hok.suspended c hsc).1, (hok.suspended c hsc).2⟩⟩
    · obtain ⟨request', hr, _⟩ := hok.pending _ hm
      rw [hnew] at hr
      cases hr
    · rcases List.mem_cons.mp hr with rfl | hr
      · exact ⟨request, hself', hh⟩
      · obtain ⟨request', hr', hh'⟩ := hok.pending r hr
        exact ⟨request', hold r request' hr', hh'⟩
    · obtain ⟨get, hget, hid, hm⟩ := hok.pipeline g hg
      exact ⟨get, hget, hid, List.mem_cons_of_mem _ hm⟩
  · -- somebody serves the entry already, or it is the one being worked on
    intro e' he' hne _
    cases hself.symm.trans he'
    rcases hx with rfl | ⟨_, hserved⟩
    · exact absurd rfl hne
    · exact hserved
  · intro r request' hr hh'
    rcases hreq r request' hr with ⟨rfl, rfl⟩ | hr
    · exact ⟨Nat.lt_succ_self _, _, hself, List.mem_cons_self⟩
    · obtain ⟨hlt, e', he', hm⟩ := hc.live r request' hr
      rw [hh', he] at he'
      cases he'
      exact ⟨hlt.trans (Nat.lt_succ_self _), _, hself, List.mem_cons_of_mem _ hm⟩
  · intro r request' hr hh' ht' _
    rcases hreq r request' hr with ⟨rfl, rfl⟩ | hr
    · rw [ht] at ht'
      cases ht'
    · exact hc.timers r request' hr ht' (by simp)
  · exact fun hm => absurd hm (hc.not_timed he (.inr hv))
  · refine hc.gets_local fun get request' hreq' hh' hget => ?_
    obtain ⟨request'', e', hreq'', he', hit⟩ := hc.gets get hget
    rw [hreq'] at hreq''
    cases hreq''
    rw [hh', he] at he'
    cases he'
    exact ⟨_, hold _ _ hreq', hself, hit⟩
  · intro r
    have hfin := hc.finished r
    by_cases hrr : r = s.nextRequest
    · subst hrr
      simpa [State.addRequest, State.setRequest, State.setEntry] using hfin
    · have hlt : r < s.nextRequest + 1 ↔ r < s.nextRequest :=
        ⟨fun hl => (Nat.lt_succ_iff.mp hl).lt_of_ne hrr, Nat.lt_succ_of_lt⟩
      simpa [State.addRequest, State.setRequest, State.setEntry, Function.update_of_ne hrr, hlt]
        using hfin

/-- The state after `request_send` has sent a GET. -/
def State.sendGet (s : State β) (r : RequestId) (request : Request) (e : Entry β) : State β :=
  { (s.setRequest r (some { request with timer := true })).setEntry request.handle
      { e with pipelineItem := some s.nextItem } with
    gets := s.gets ++ [⟨s.nextItem, r, request.timeout⟩]
    nextItem := s.nextItem + 1 }

theorem sendGet_sameEdits (s : State β) (r : RequestId) (request : Request) (e : Entry β) :
    SameEdits s (s.sendGet r request e) := by
  constructor <;> first | rfl | exact Nat.le_succ _

theorem sendGet_entry_self (s : State β) (r : RequestId) (request : Request) (e : Entry β) :
    (s.sendGet r request e).entry request.handle = some { e with pipelineItem := some s.nextItem } :=
  setEntry_entry_self (s.setRequest r (some { request with timer := true })) request.handle _

theorem sendGet_entry_ne {request : Request} (hne : h' ≠ request.handle) :
    (s.sendGet r request e).entry h' = s.entry h' :=
  setEntry_entry_ne (s.setRequest r (some { request with timer := true })) _ hne

/-- A GET is sent for an entry that has requests. -/
theorem Carried.sendGet {request : Request} (hc : Carried (some request.handle) s)
    (hreq : s.requests r = some request) (he : s.entry request.handle = some e)
    (hp : e.pipelineItem = none) (hsus : e.suspended = none) (hnt : request.handle ∉ s.timedCache)
    (ht : ∀ r' request', s.requests r' = some request' → request'.handle = request.handle →
      request'.timer = false) :
    Carried none (s.sendGet r request e) := by
  have hok := hc.entries _ e he
  have hself := sendGet_entry_self s r request e
  have hr : r ∈ e.pendingRequests := by
    obtain ⟨_, e', he', hm⟩ := hc.live r request hreq
    rw [he] at he'
    cases he'
    exact hm
  have hself' : (s.sendGet r request e).requests r = some { request with timer := true } :=
    Function.update_self ..
  have hold : ∀ r' ≠ r, (s.sendGet r request e).requests r' = s.requests r' := fun r' hne =>
    Function.update_of_ne hne ..
  have hfresh : ∀ get ∈ s.gets, get.id ≠ s.nextItem := fun get hget => (hc.getLt get hget).ne
  have hgets : ∀ get ∈ s.gets, ∃ request', s.requests get.userData = some request' ∧
      request'.handle ≠ request.handle := by
    intro get hget
    obtain ⟨request', e', hreq', he', hit⟩ := hc.gets get hget
    refine ⟨request', hreq', fun hh => ?_⟩
    rw [hh, he] at he'
    cases he'
    rw [hp] at hit
    cases hit
  have hupd : ∀ r' request', request'.handle ≠ request.handle →
      ((s.sendGet r request e).requests r' = some request' ↔ s.requests r' = some request') := by
    intro r' request' hne
    by_cases hrr : r' = r
    · subst hrr
      rw [hself', hreq]
      refine ⟨fun heq => ?_, fun heq => ?_⟩
      · cases heq
        exact absurd rfl hne
      · cases heq
        exact absurd rfl hne
    · rw [hold r' hrr]
  refine hc.of_local (h := request.handle) (fun h' hh heq => hh (Option.some.inj heq))
    ⟨fun h' hh => setEntry_entry_ne _ _ hh, hupd, ?_, fun _ _ hh => hh, le_rfl⟩
    ⟨?_, ?_, ?_, ?_, ?_⟩ ?_ ?_ ?_ hc.timedNodup ?_
  · -- the GETs of other entries stay the same
    intro get request' hreq' hne
    refine ⟨fun hg => ?_, fun hg => List.mem_append_left _ hg⟩
    rcases List.mem_append.mp hg with hg | hg
    · exact hg
    · rw [List.mem_singleton.mp hg] at hreq'
      rw [hreq] at hreq'
      cases hreq'
      exact absurd rfl hne
  · -- the item of the entry is the new GET, and one of its requests carries it
    intro e' he'
    cases hself.symm.trans he'
    refine ⟨hok.nodup, fun r' hr' => ?_, fun g hg => ?_, fun c hsc => ?_⟩
    · by_cases hrr : r' = r
      · subst hrr
        exact ⟨_, hself', rfl⟩
      · obtain ⟨request', hr', hh⟩ := hok.pending r' hr'
        exact ⟨request', (hold r' hrr).trans hr', hh⟩
    · cases hg
      exact ⟨⟨s.nextItem, r, request.timeout⟩, by simp [State.sendGet], rfl, hr⟩
    · rw [hsus] at hsc
      cases hsc
  · intro e' he' _ _
    cases hself.symm.trans he'
    exact .inl (by simp)
  · intro r' request' hr' hh
    by_cases hrr : r' = r
    · subst hrr
      exact ⟨(hc.live r' request hreq).1, _, hself, hr⟩
    · obtain ⟨hlt, e', he', hm⟩ := hc.live r' request' ((hold r' hrr).symm.trans hr')
      rw [hh, he] at he'
      cases he'
      exact ⟨hlt, _, hself, hm⟩
  · -- no other request of the entry has a timer
    intro r' request' hr' hh ht' _
    by_cases hrr : r' = r
    · exact ⟨⟨s.nextItem, r, request.timeout⟩, by simp [State.sendGet], hrr.symm⟩
    · rw [ht r' request' ((hold r' hrr).symm.trans hr') hh] at ht'
      cases ht'
  · exact fun hm => absurd hm hnt
  · intro get hget
    rcases List.mem_append.mp hget with hget | hget
    · exact .inl (hgets get hget)
    · rw [List.mem_singleton.mp hget]
      exact .inr ⟨_, _, hself', rfl, hself, rfl⟩
  · simp only [State.sendGet, List.map_append, List.map_cons, List.map_nil]
    refine hc.getIds.append (List.nodup_singleton _) ?_
    simpa using hfresh
  · intro get hget
    rcases List.mem_append.mp hget with hget | hget
    · exact (hc.getLt get hget).trans (Nat.lt_succ_self _)
    · rw [List.mem_singleton.mp hget]
      exact Nat.lt_succ_self _
  · intro r'
    have hfin := hc.finished r'
    by_cases hrr : r' = r
    · subst hrr
      simpa [State.sendGet, State.setRequest, State.setEntry, hreq] using hfin
    · simpa [State.sendGet, State.setRequest, State.setEntry, Function.update_of_ne hrr] using hfin

/-- The timer of a request is removed. -/
theorem Carried.clearTimer {request : Request} (hc : Carried x s)
    (hreq : s.requests r = some request) :
    Carried x (s.setRequest r (some { request with timer := false })) := by
  have hupd : ∀ r' request', (s.setRequest r (some { request with timer := false })).requests r' =
      some request' → ∃ request₀, s.requests r' = some request₀ ∧
        request₀.handle = request'.handle ∧ (request'.timer = true → request₀.timer = true) := by
    intro r' request' hr'
    by_cases hrr : r' = r
    · subst hrr
      cases (Function.update_self ..).symm.trans hr'
      exact ⟨request, hreq, rfl, nofun⟩
    · exact ⟨request', (Function.update_of_ne hrr ..).symm.trans hr', rfl, id⟩
  have hkeep : ∀ r' request₀, s.requests r' = some request₀ →
      ∃ request', (s.setRequest r (some { request with timer := false })).requests r' =
        some request' ∧ request'.handle = request₀.handle := by
    intro r' request₀ hr'
    by_cases hrr : r' = r
    · subst hrr
      rw [hreq] at hr'
      cases hr'
      exact ⟨_, Function.update_self .., rfl⟩
    · exact ⟨request₀, (Function.update_of_ne hrr ..).trans hr', rfl⟩
  refine { hc with entries := ?_, live := ?_, timers := ?_, gets := ?_, finished := ?_ }
  · intro h e he
    have hok := hc.entries h e he
    refine ⟨hok.nodup, fun r' hr' => ?_, hok.pipeline, hok.suspended⟩
    obtain ⟨request₀, hr₀, rfl⟩ := hok.pending r' hr'
    exact hkeep r' request₀ hr₀
  · intro r' request' hr'
    obtain ⟨request₀, hr₀, hh, _⟩ := hupd r' request' hr'
    exact hh ▸ hc.live r' request₀ hr₀
  · intro r' request' hr' ht hx
    obtain ⟨request₀, hr₀, hh, ht₀⟩ := hupd r' request' hr'
    exact hc.timers r' request₀ hr₀ (ht₀ ht) (by rwa [hh])
  · intro get hget
    obtain ⟨request₀, e, hr₀, he, hit⟩ := hc.gets get hget
    obtain ⟨request', hr', hh⟩ := hkeep _ request₀ hr₀
    exact ⟨request', e, hr', hh ▸ he, hit⟩
  · intro r'
    have hfin := hc.finished r'
    by_cases hrr : r' = r
    · subst hrr
      simpa [State.setRequest, hreq] using hfin
    · simpa [State.setRequest, Function.update_of_ne hrr] using hfin

/-- The timer that will replay the GET of an entry is set or removed. -/
theorem Carried.setSuspended {x' : Option Handle} (hc : Carried x s)
    (hx : ∀ h' ≠ h, some h' ≠ x) (he : s.entry h = some e) (hp : e.pipelineItem = none)
    (hv : h ∉ s.timedCache) (c : Option RequestId) (hmem : ∀ r, c = some r → r ∈ e.pendingRequests)
    (hserved : some h ≠ x' → c ≠ none)
    (ht : some h ≠ x' → ∀ r request, s.requests r = some request → request.handle = h →
      request.timer = false) :
    Carried x' (s.setEntry h { e with suspended := c }) := by
  have hok := hc.entries h e he
  have hself := setEntry_entry_self s h { e with suspended := c }
  refine hc.of_local hx ⟨fun h' hh => setEntry_entry_ne _ _ hh, fun _ _ _ => Iff.rfl,
    fun _ _ _ _ => Iff.rfl, fun _ _ hh => hh, le_rfl⟩ ⟨?_, ?_, ?_, ?_, ?_⟩ ?_ hc.getIds hc.getLt
    hc.timedNodup hc.finished
  · intro e' he'
    cases hself.symm.trans he'
    exact ⟨hok.nodup, hok.pending, hok.pipeline, fun r hr => ⟨hmem r hr, hp⟩⟩
  · intro e' he' hx' _
    cases hself.symm.trans he'
    exact .inr (hserved hx')
  · intro r request hr hh
    obtain ⟨hlt, e', he', hm⟩ := hc.live r request hr
    rw [hh, he] at he'
    cases he'
    exact ⟨hlt, _, hself, hm⟩
  · intro r request hr hh htimer hx'
    rw [ht hx' r request hr hh] at htimer
    cases htimer
  · exact fun hh => absurd hh hv
  · refine hc.gets_local fun get request hreq hh hget => ?_
    obtain ⟨request', e', hreq', he', hit⟩ := hc.gets get hget
    rw [hreq] at hreq'
    cases hreq'
    rw [hh, he] at he'
    cases he'
    rw [hp] at hit
    cases hit

/-- `OwnWaiting` only looks at the own entry. -/
theorem OwnWaiting.congr (hw : OwnWaiting s) (hconn : s'.conn.selfHandle = s.conn.selfHandle)
    (he : s'.entry s.conn.selfHandle = s.entry s.conn.selfHandle) : OwnWaiting s' := by
  obtain ⟨e, hs, hp⟩ := hw
  exact ⟨e, by rw [hconn, he, hs], hp⟩

theorem EditsServed.mono (hed : EditsServed s) (hsame : SameEdits s s')
    (hown : OwnWaiting s → OwnWaiting s') : EditsServed s' := by
  unfold EditsServed
  rw [hsame.edits, hsame.editPipelineItem]
  exact fun hne => (hed hne).imp id hown

/-- The requests for the own vCard, when one entry gets or keeps requests. -/
theorem OwnWaiting.update (hw : OwnWaiting s) (hconn : s'.conn.selfHandle = s.conn.selfHandle)
    (hne : ∀ h' ≠ h, s'.entry h' = s.entry h')
    (hself : ∃ e', s'.entry h = some e' ∧ e'.pendingRequests ≠ []) : OwnWaiting s' := by
  by_cases hh : s.conn.selfHandle = h
  · obtain ⟨e', he', hp⟩ := hself
    exact ⟨e', by rw [hconn, hh, he'], hp⟩
  · exact hw.congr hconn (hne _ hh)

theorem requestSend_joined {request : Request} (hreq : s.requests r = some request)
    (ht : request.timer = false) (he : s.entry request.handle = some e)
    (hp : e.pipelineItem ≠ none ∨ e.suspended ≠ none) : s.requestSend r = .ok s := by
  unfold State.requestSend
  simp only [hreq, ht, he, Option.isSome_iff_ne_none]
  by_cases h1 : e.pipelineItem ≠ none
  · simp [h1]
  · simp [h1, hp.resolve_left h1]

theorem requestSend_sent {request : Request} (hreq : s.requests r = some request)
    (ht : request.timer = false) (he : s.entry request.handle = some e)
    (hp : e.pipelineItem = none) (hsus : e.suspended = none) :
    s.requestSend r = .ok (s.sendGet r request e) := by
  unfold State.requestSend
  simp only [hreq, he]
  rw [if_neg (by simp [ht]), if_neg (by simp [hp]), if_neg (by simp [hsus])]
  rfl

/-- `gabble_vcard_manager_request`, when no vCard is cached. -/
theorem Carried.request (hc : Carried none s) (timeout : ℕ) (bound : Bool)
    (hstatus : s.status = .connected) (hv : ∀ e, s.entry h = some e → e.vcardNode = none) :
    ∃ s', s.request h timeout bound = .ok s' ∧ Carried none s' ∧ SameEdits s s' ∧
      (∀ h' ≠ h, s'.entry h' = s.entry h') ∧
      ∃ e, s'.entry h = some e ∧ e.pendingRequests ≠ [] := by
  obtain ⟨e, he, hold⟩ := cacheEntryGet_entry s h
  have hc₀ := hc.cacheEntryGet h
  have hsame₀ := cacheEntryGet_sameEdits s h
  have hne₀ : ∀ h' ≠ h, (s.cacheEntryGet h).entry h' = s.entry h' := fun h' hh =>
    cacheEntryGet_entry_ne s hh
  have hv₀ : e.vcardNode = none := by
    rcases hold with hold | ⟨_, rfl⟩
    · exact hv e hold
    · rfl
  set s₀ := s.cacheEntryGet h with hs₀
  let q : Request :=
    { handle := h, timer := false, timeout := if timeout = 0 then defaultRequestTimeout else timeout
      bound := bound }
  have hrun : s.request h timeout bound = (s₀.addRequest h e q).requestSend s₀.nextRequest := by
    unfold State.request
    simp only [← hs₀, hsame₀.status, hstatus, ne_eq, not_true, if_false, he]
    rw [if_neg (by simp [hv₀])]
    rfl
  have hreq : (s₀.addRequest h e q).requests s₀.nextRequest = some q := Function.update_self ..
  have hself : (s₀.addRequest h e q).entry h =
      some { e with pendingRequests := s₀.nextRequest :: e.pendingRequests } :=
    setEntry_entry_self (s₀.setRequest s₀.nextRequest (some q)) h _
  by_cases hserved : e.pipelineItem ≠ none ∨ e.suspended ≠ none
  · rw [hrun, requestSend_joined hreq rfl hself hserved]
    exact ⟨_, rfl, hc₀.addRequest he hv₀ rfl rfl (.inr ⟨rfl, hserved⟩),
      hsame₀.trans (addRequest_sameEdits s₀ h e q),
      fun h' hh => (setEntry_entry_ne _ _ hh).trans (hne₀ h' hh), _, hself, by simp⟩
  · -- nobody was waiting: a GET is sent
    push Not at hserved
    have hnil : e.pendingRequests = [] := by
      by_contra hne
      rcases hc₀.served h e he (by simp) hne with hp | hp
      · exact hp hserved.1
      · exact hp hserved.2
    rw [hrun, requestSend_sent hreq rfl hself hserved.1 hserved.2]
    have hc₁ : Carried (some q.handle) (s₀.addRequest h e q) :=
      hc₀.addRequest he hv₀ rfl rfl (.inl rfl)
    have hsame₁ := addRequest_sameEdits s₀ h e q
    have hne₁ : ∀ h' ≠ h, (s₀.addRequest h e q).entry h' = s.entry h' := fun h' hh =>
      (setEntry_entry_ne _ _ hh).trans (hne₀ h' hh)
    have hnt : q.handle ∉ (s₀.addRequest h e q).timedCache := hc₀.not_timed he (.inr hv₀)
    generalize s₀.addRequest h e q = s₁ at *
    have hsame := hsame₀.trans (hsame₁.trans (sendGet_sameEdits s₁ s₀.nextRequest q
      { e with pendingRequests := s₀.nextRequest :: e.pendingRequests }))
    have hpend := sendGet_entry_self s₁ s₀.nextRequest q
      { e with pendingRequests := s₀.nextRequest :: e.pendingRequests }
    refine ⟨_, rfl, hc₁.sendGet hreq hself hserved.1 hserved.2 hnt ?_, hsame,
      fun h' hh => (sendGet_entry_ne hh).trans (hne₁ h' hh), _, hpend, by simp⟩
    intro r' request' hr' hh
    obtain ⟨_, e', he', hm⟩ := hc₁.live r' request' hr'
    rw [hh, hself] at he'
    cases he'
    simp only [hnil, List.mem_singleton] at hm
    subst hm
    rw [hreq] at hr'
    cases hr'
    rfl

/-- `suspended_request_timeout_cb`: the GET is sent again. -/
theorem Carried.suspendedRequestTimeoutCb (hc : Carried none s) (he : s.entry h = some e)
    (hr : e.suspended = some r) :
    ∃ s', s.suspendedRequestTimeoutCb r = .ok s' ∧ Carried none s' ∧ SameEdits s s' ∧
      (OwnWaiting s → OwnWaiting s') := by
  have hok := hc.entries h e he
  obtain ⟨hmem, hp⟩ := hok.suspended r hr
  obtain ⟨request, hreq, rfl⟩ := hok.pending r hmem
  have hnoget : ∀ get ∈ s.gets, ∀ request', s.requests get.userData = some request' →
      request'.handle ≠ request.handle := by
    intro get hget request' hreq' hh
    obtain ⟨request'', e', hreq'', he', hit⟩ := hc.gets get hget
    rw [hreq'] at hreq''
    cases hreq''
    rw [hh, he] at he'
    cases he'
    rw [hp] at hit
    cases hit
  have htimer : ∀ r' request', s.requests r' = some request' →
      request'.handle = request.handle → request'.timer = false := fun r' request' hr' hh =>
    hc.timer_false hr' fun get hget heq => hnoget get hget request' (heq.symm ▸ hr') hh
  have hnt : request.handle ∉ s.timedCache := by
    intro hh
    obtain ⟨e', he', _, _, hpend⟩ := hc.timed _ hh
    rw [he] at he'
    cases he'
    simp [hpend.resolve_right (by simp)] at hmem
  have hc₁ : Carried (some request.handle) (s.setEntry request.handle { e with suspended := none }) :=
    hc.setSuspended (by simp) he hp hnt none nofun (fun hx => absurd rfl hx) fun hx => absurd rfl hx
  have hself := setEntry_entry_self s request.handle { e with suspended := none }
  have hrun : s.suspendedRequestTimeoutCb r =
      (s.setEntry request.handle { e with suspended := none }).requestSend r := by
    unfold State.suspendedRequestTimeoutCb
    simp only [hreq, he]
  have hreq₁ : (s.setEntry request.handle { e with suspended := none }).requests r = some request :=
    hreq
  have hne₁ : ∀ h' ≠ request.handle,
      (s.setEntry request.handle { e with suspended := none }).entry h' = s.entry h' :=
    fun h' hh => setEntry_entry_ne _ _ hh
  have hsame₁ : SameEdits s (s.setEntry request.handle { e with suspended := none }) := by
    constructor <;> rfl
  rw [hrun, requestSend_sent hreq₁ (htimer r request hreq rfl) hself hp rfl]
  have hsend := hc₁.sendGet hreq₁ hself hp rfl hnt htimer
  generalize s.setEntry request.handle { e with suspended := none } = s₁ at *
  have hsame := hsame₁.trans (sendGet_sameEdits s₁ r request { e with suspended := none })
  exact ⟨_, rfl, hsend, hsame, fun hw => hw.update hsame.selfHandle
    (fun h' hh => (sendGet_entry_ne hh).trans (hne₁ h' hh))
    ⟨_, sendGet_entry_self .., List.ne_nil_of_mem hmem⟩⟩

/-- A request that carries nothing is cancelled or orphaned. -/
theorem Carried.dropRequest {a : Action β} {request : Request} (hc : Carried none s)
    (hreq : s.requests r = some request) (hn : ¬ Carries s r) (ha : a.request = r) :
    ∃ s', (s.record a).deleteRequest r = .ok s' ∧ Carried none s' ∧ SameEdits s s' ∧
      (OwnWaiting s → OwnWaiting s') := by
  obtain ⟨_, e, he, hr⟩ := hc.live r request hreq
  have hrest := hc.exists_carrier he hr hn
  obtain ⟨s', hs', hc', hsame, hgets, _, hne, hself⟩ :=
    hc.deleteRequest (by simp) he hr hn ha (fun _ hnil => absurd hnil hrest)
  have hself' := hself.resolve_right fun hfreed => hrest hfreed.2.2
  exact ⟨s', hs', hc', hsame, fun hw => hw.update hsame.selfHandle hne ⟨_, hself', hrest⟩⟩

end

end VCardManager
