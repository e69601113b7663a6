/-
# Cached vCards expire

`timed_cache` holds the entries whose vCard has not expired yet.  `Heaped` is
what keeps it in step with the cache: an entry is in the heap once when it has a
vCard, and not at all when it has none.  Every operation keeps it but one:
`replace_reply_cb` puts the vCard of an acknowledged SET in the cache without
looking at the heap, and such a vCard never expires when its entry has left the
heap while the SET was under way (`Within`).
-/
import Mathlib.Data.List.Count
import Mathlib.Tactic.Common
import Gabble.VCardManagerSettle

open Transition

namespace VCardManager

variable {β : Type}
variable {r : RequestId}

/-! ## The heap and the table -/

/-- The entry of one contact is in the heap once when it has a vCard, and `P` holds
of the time this expires, and it is not in the heap when it has none.  The timer
of a suspended entry is for a request of this entry. -/
structure Entry.Heaped (P : ℕ → Prop) (s : State β) (h : Handle) (e : Entry β) : Prop where
  empty : e.vcardNode = none → s.timedCache.count h = 0
  held : e.vcardNode ≠ none →
    s.timedCache.count h = 1 ∧ e.pipelineItem = none ∧ e.suspended = none ∧ P e.expires
  replay : ∀ r, e.suspended = some r → r < s.nextRequest ∧
    ∀ request, s.requests r = some request → request.handle = h

/-- The heap is in step with the table. -/
structure Heaped (P : ℕ → Prop) (s : State β) : Prop where
  absent : ∀ h, s.entry h = none → s.timedCache.count h = 0
  present : ∀ h e, s.entry h = some e → e.Heaped P s h
  timer : s.timedCache ≠ [] → s.cacheTimer = true ∨ s.disposed = true
  fresh : ∀ r, s.nextRequest ≤ r → s.requests r = none
  asserted : s.fault ≠ some .assertNoPipelineItem

/-- An operation keeps the heap in step, and is not stopped by the assertion of
`cache_entry_timeout`. -/
def KeepsHeap (P : ℕ → Prop) : Except Fault (State β) → Prop
  | .ok s => Heaped P s
  | .error f => f ≠ .assertNoPipelineItem

section

variable {P : ℕ → Prop} {s s' : State β} {h : Handle} {e : Entry β}

/-- An entry without a vCard may be changed in any way. -/
theorem Entry.Heaped.of_empty (he : e.Heaped P s h) (hv : e.vcardNode = none) {e' : Entry β}
    (hv' : e'.vcardNode = none) (hsus : e'.suspended = e.suspended) : e'.Heaped P s h :=
  ⟨fun _ => he.empty hv, fun hne => absurd hv' hne, hsus ▸ he.replay⟩

/-- The requests of an entry do not matter. -/
theorem Entry.Heaped.setPending (he : e.Heaped P s h) (pending : List RequestId) :
    Entry.Heaped P s h { e with pendingRequests := pending } :=
  ⟨he.empty, he.held, he.replay⟩

theorem Entry.Heaped.clearSuspended (he : e.Heaped P s h) :
    Entry.Heaped P s h { e with suspended := none } :=
  ⟨he.empty, fun hv => ⟨(he.held hv).1, (he.held hv).2.1, rfl, (he.held hv).2.2.2⟩, nofun⟩

theorem Entry.Heaped.clearPipelineItem (he : e.Heaped P s h) :
    Entry.Heaped P s h { e with pipelineItem := none } :=
  ⟨he.empty, fun hv => ⟨(he.held hv).1, rfl, (he.held hv).2.2⟩, he.replay⟩

/-- An entry with a GET or a timer has no vCard. -/
theorem Entry.Heaped.vcardNode_none (he : e.Heaped P s h)
    (hbusy : e.pipelineItem ≠ none ∨ e.suspended ≠ none) : e.vcardNode = none := by
  by_contra hv
  obtain ⟨_, hp, hsus, _⟩ := he.held hv
  rcases hbusy with hbusy | hbusy
  · exact hbusy hp
  · exact hbusy hsus

theorem Entry.Heaped.congr (he : e.Heaped P s h)
    (ht : s'.timedCache.count h = s.timedCache.count h)
    (hr : ∀ r < s.nextRequest, ∀ request, s'.requests r = some request →
      ∃ old, s.requests r = some old ∧ old.handle = request.handle)
    (hn : s.nextRequest ≤ s'.nextRequest) : e.Heaped P s' h where
  empty hv := ht.trans (he.empty hv)
  held hv := ⟨ht.trans (he.held hv).1, (he.held hv).2⟩
  replay r hsus := by
    obtain ⟨hlt, hhandle⟩ := he.replay r hsus
    refine ⟨hlt.trans_le hn, fun request hreq => ?_⟩
    obtain ⟨old, hold, hh⟩ := hr r hlt request hreq
    exact hh ▸ hhandle old hold

theorem Heaped.congr (hs : Heaped P s) (hc : s'.cache = s.cache)
    (ht : s'.timedCache = s.timedCache) (htimer : s'.cacheTimer = s.cacheTimer)
    (hd : s'.disposed = s.disposed) (hr : s'.requests = s.requests)
    (hn : s'.nextRequest = s.nextRequest) (hf : s'.fault = s.fault) : Heaped P s' where
  absent h he := by
    rw [ht]
    exact hs.absent h ((entry_congr hc h).symm.trans he)
  present h e he := by
    refine (hs.present h e ((entry_congr hc h).symm.trans he)).congr (by rw [ht]) ?_ hn.ge
    exact fun r _ request hreq => ⟨request, by rw [← hr]; exact hreq, rfl⟩
  timer := by
    rw [ht, htimer, hd]
    exact hs.timer
  fresh := by
    rw [hr, hn]
    exact hs.fresh
  asserted := hf ▸ hs.asserted

@[simp] theorem setRequest_self (s : State β) (r : RequestId) (request : Option Request) :
    (s.setRequest r request).requests r = request := by
  simp [State.setRequest]

@[simp] theorem setRequest_of_ne (s : State β) {r r' : RequestId} (request : Option Request)
    (hne : r' ≠ r) : (s.setRequest r request).requests r' = s.requests r' := by
  simp [State.setRequest, Function.update_of_ne hne]

section

variable (hs : Heaped P s)

include hs

/-- A request is freed, or changed in its own place. -/
theorem Heaped.setRequest {request : Option Request}
    (hold : ∀ q, request = some q → ∃ old, s.requests r = some old ∧ old.handle = q.handle) :
    Heaped P (s.setRequest r request) where
  absent := hs.absent
  present h e he := by
    refine (hs.present h e he).congr rfl (fun r' _ q hq => ?_) le_rfl
    by_cases hr : r' = r
    · rw [hr, setRequest_self] at hq
      rw [hr]
      exact hold q hq
    · rw [setRequest_of_ne s request hr] at hq
      exact ⟨q, hq, rfl⟩
  timer := hs.timer
  fresh r' hr' := by
    by_cases hr : r' = r
    · cases request with
      | none =>
        rw [hr]
        exact setRequest_self s r none
      | some q =>
        obtain ⟨old, hreq, _⟩ := hold q rfl
        rw [← hr, hs.fresh r' hr'] at hreq
        cases hreq
    · exact (setRequest_of_ne s request hr).trans (hs.fresh r' hr')
  asserted := hs.asserted

theorem Heaped.count_le_one (h : Handle) : s.timedCache.count h ≤ 1 := by
  cases he : s.entry h with
  | none =>
    rw [hs.absent h he]
    exact Nat.zero_le 1
  | some e =>
    by_cases hv : e.vcardNode = none
    · rw [(hs.present h e he).empty hv]
      exact Nat.zero_le 1
    · exact ((hs.present h e he).held hv).1.le

/-- An entry in the heap has a vCard. -/
theorem Heaped.of_mem (hm : h ∈ s.timedCache) :
    ∃ e, s.entry h = some e ∧ e.vcardNode ≠ none := by
  have hpos : 0 < s.timedCache.count h := List.count_pos_iff.mpr hm
  cases he : s.entry h with
  | none => exact absurd (hs.absent h he) hpos.ne'
  | some e => exact ⟨e, rfl, fun hv => hpos.ne' ((hs.present h e he).empty hv)⟩

theorem Heaped.setEntry (he : e.Heaped P s h) : Heaped P (s.setEntry h e) where
  absent h' hnone := by
    by_cases hh : h' = h
    · rw [hh, setEntry_entry_self] at hnone
      cases hnone
    · rw [setEntry_entry_ne s e hh] at hnone
      exact hs.absent h' hnone
  present h' e' he' := by
    by_cases hh : h' = h
    · rw [hh, setEntry_entry_self] at he'
      cases he'
      rw [hh]
      exact ⟨he.empty, he.held, he.replay⟩
    · rw [setEntry_entry_ne s e hh] at he'
      have hp := hs.present h' e' he'
      exact ⟨hp.empty, hp.held, hp.replay⟩
  timer := hs.timer
  fresh := hs.fresh
  asserted := hs.asserted

/-- The entry leaves the heap, and loses its vCard or its place in the table. -/
theorem Heaped.erase (ht : s'.timedCache = s.timedCache.erase h)
    (hne : ∀ h' ≠ h, s'.entry h' = s.entry h')
    (hself : ∀ e', s'.entry h = some e' → e'.vcardNode = none ∧
      ∃ e, s.entry h = some e ∧ e'.suspended = e.suspended)
    (htimer : s'.cacheTimer = s.cacheTimer) (hd : s'.disposed = s.disposed)
    (hr : s'.requests = s.requests) (hn : s'.nextRequest = s.nextRequest)
    (hf : s'.fault = s.fault) : Heaped P s' := by
  have hzero : s'.timedCache.count h = 0 := by
    have hone := hs.count_le_one h
    rw [ht, List.count_erase_self]
    omega
  have hother : ∀ h' ≠ h, s'.timedCache.count h' = s.timedCache.count h' := fun h' hh => by
    rw [ht, List.count_erase_of_ne hh]
  refine ⟨fun h' hnone => ?_, fun h' e' he' => ?_, fun hnil => ?_, ?_, hf ▸ hs.asserted⟩
  · by_cases hh : h' = h
    · rw [hh]
      exact hzero
    · rw [hother h' hh]
      exact hs.absent h' ((hne h' hh).symm.trans hnone)
  · by_cases hh : h' = h
    · rw [hh] at he' ⊢
      obtain ⟨hv, e, he, hsus⟩ := hself e' he'
      refine ⟨fun _ => hzero, fun hv' => absurd hv hv', ?_⟩
      rw [hsus, hr, hn]
      exact (hs.present h e he).replay
    · refine (hs.present h' e' ((hne h' hh).symm.trans he')).congr (hother h' hh) ?_ hn.ge
      exact fun r _ request hreq => ⟨request, by rw [← hr]; exact hreq, rfl⟩
  · rw [htimer, hd]
    refine hs.timer fun hnil' => hnil ?_
    rw [ht, hnil', List.erase_nil]
  · rw [hr, hn]
    exact hs.fresh

theorem Heaped.cacheEntryFree (h : Handle) : Heaped P (s.cacheEntryFree h) :=
  hs.erase rfl (fun _ hh => cacheEntryFree_entry_ne s hh)
    (fun _ he => absurd ((cacheEntryFree_entry_self s h).symm.trans he) (by simp)) rfl rfl rfl rfl rfl

theorem Heaped.cacheEntryGet (h : Handle) : Heaped P (s.cacheEntryGet h) := by
  unfold State.cacheEntryGet
  cases he : s.entry h with
  | some e => exact hs
  | none => exact hs.setEntry ⟨fun _ => hs.absent h he, fun hv => absurd rfl hv, nofun⟩

end

/-! ## The operations keep them in step -/

theorem KeepsHeap.bind {res : Except Fault (State β)} {k : State β → Except Fault (State β)}
    (hres : KeepsHeap P res) (hk : ∀ s', Heaped P s' → KeepsHeap P (k s')) :
    KeepsHeap P (res >>= k) := by
  cases res with
  | ok s' => exact hk s' hres
  | error f => exact hres

theorem KeepsHeap.foldlM {α : Type} {f : State β → α → Except Fault (State β)}
    (hf : ∀ s a, Heaped P s → KeepsHeap P (f s a)) (as : List α) (hs : Heaped P s) :
    KeepsHeap P (as.foldlM f s) := by
  induction as generalizing s with
  | nil => exact hs
  | cons a as ih =>
    rw [List.foldlM_cons]
    exact (hf s a hs).bind fun s' hs' => ih hs'

section

variable (hs : Heaped P s)

include hs

theorem Heaped.cacheEntryAttemptToFree (h : Handle) :
    KeepsHeap P (s.cacheEntryAttemptToFree h) := by
  unfold State.cacheEntryAttemptToFree
  cases s.entry h with
  | none => simp [KeepsHeap]
  | some e =>
    dsimp only
    repeat' split
    · exact hs
    · exact hs
    · exact hs
    · simp [KeepsHeap]
    · simp [KeepsHeap]
    · exact hs.cacheEntryFree h

/-- The entry loses its vCard and leaves the heap at once. -/
theorem Heaped.invalidate (he : s.entry h = some e) :
    Heaped P ({ s with timedCache := s.timedCache.erase h }.setEntry h
      { e with vcardNode := none }) := by
  refine hs.erase (h := h) rfl (fun h' hh => setEntry_entry_ne _ _ hh) (fun e' he' => ?_) rfl rfl
    rfl rfl rfl
  cases (setEntry_entry_self _ h _).symm.trans he'
  exact ⟨rfl, e, he, rfl⟩

theorem Heaped.invalidateCache (h : Handle) :
    KeepsHeap P (s.invalidateCache h) := by
  unfold State.invalidateCache
  cases he : s.entry h with
  | none => exact hs
  | some e => exact (hs.invalidate he).cacheEntryAttemptToFree h

theorem Heaped.deleteRequest (r : RequestId) :
    KeepsHeap P (s.deleteRequest r) := by
  unfold State.deleteRequest
  cases s.requests r with
  | none => simp [KeepsHeap]
  | some request =>
    cases he : s.entry request.handle with
    | none => simp [KeepsHeap, he]
    | some e =>
      simp only [he]
      refine KeepsHeap.bind ?_ fun s' hs' => hs'.setRequest nofun
      exact (hs.setEntry ((hs.present _ e he).setPending _)).cacheEntryAttemptToFree _

theorem Heaped.completeOneRequest (result : Except Error (Option (VCard β))) (r : RequestId) :
    KeepsHeap P (s.completeOneRequest result r) :=
  Heaped.deleteRequest (s := s.record _) (hs.congr rfl rfl rfl rfl rfl rfl rfl) r

theorem Heaped.cacheEntryCompleteRequests (h : Handle) (error : Option Error) :
    KeepsHeap P (s.cacheEntryCompleteRequests h error) := by
  unfold State.cacheEntryCompleteRequests
  cases s.entry h with
  | none => simp [KeepsHeap]
  | some e => exact KeepsHeap.foldlM (fun _ r hs' => hs'.completeOneRequest _ r) _ hs

theorem Heaped.notifyDeleteRequest (r : RequestId) :
    KeepsHeap P (s.notifyDeleteRequest r) :=
  Heaped.deleteRequest (s := s.record _) (hs.congr rfl rfl rfl rfl rfl rfl rfl) r

/-- A GET is only sent for an entry without a vCard. -/
theorem Heaped.sendGet {request : Request}
    (hr : s.requests r = some request) (he : s.entry request.handle = some e)
    (hv : e.vcardNode = none) : Heaped P (s.sendGet r request e) := by
  have hs₁ : Heaped P (s.setRequest r (some { request with timer := true })) := by
    refine hs.setRequest fun q hq => ⟨request, hr, ?_⟩
    cases hq
    rfl
  have hent : Entry.Heaped P (s.setRequest r (some { request with timer := true }))
      request.handle { e with pipelineItem := some s.nextItem } :=
    (hs₁.present _ e he).of_empty hv hv rfl
  exact (hs₁.setEntry hent).congr rfl rfl rfl rfl rfl rfl rfl

theorem Heaped.requestSend
    (hempty : ∀ request e, s.requests r = some request → s.entry request.handle = some e →
      e.vcardNode = none) : KeepsHeap P (s.requestSend r) := by
  unfold State.requestSend
  cases hr : s.requests r with
  | none => simp [KeepsHeap]
  | some request =>
    cases he : s.entry request.handle with
    | none =>
      simp only [he]
      split <;> simp [KeepsHeap]
    | some e =>
      dsimp only
      simp only [he]
      repeat' split
      · simp [KeepsHeap]
      · exact hs
      · exact hs
      · exact hs.sendGet hr he (hempty request e hr he)

/-- A new request joins the others of its entry. -/
theorem Heaped.addRequest (he : s.entry h = some e) (request : Request) :
    Heaped P (s.addRequest h e request) := by
  have hnew : ∀ r < s.nextRequest, (s.addRequest h e request).requests r = s.requests r :=
    fun r hlt => setRequest_of_ne s (some request) hlt.ne
  have hsame : ∀ (h' : Handle) (e' : Entry β), e'.Heaped P s h' →
      e'.Heaped P (s.addRequest h e request) h' :=
    fun h' e' he' => he'.congr rfl
      (fun r hlt q hq => ⟨q, (hnew r hlt).symm.trans hq, rfl⟩) (Nat.le_succ _)
  refine ⟨fun h' hnone => ?_, fun h' e' he' => ?_, hs.timer, fun r hr => ?_, hs.asserted⟩
  · by_cases hh : h' = h
    · rw [hh] at hnone
      exact absurd ((setEntry_entry_self _ h _).symm.trans hnone) (by simp)
    · exact hs.absent h' ((setEntry_entry_ne (s.setRequest _ _) _ hh).symm.trans hnone)
  · by_cases hh : h' = h
    · rw [hh] at he' ⊢
      cases (setEntry_entry_self (s.setRequest _ _) h _).symm.trans he'
      exact hsame h _ ((hs.present h e he).setPending _)
    · exact hsame h' e'
        (hs.present h' e' ((setEntry_entry_ne (s.setRequest _ _) _ hh).symm.trans he'))
  · have hlt : s.nextRequest < r := hr
    exact (setRequest_of_ne s (some request) hlt.ne').trans (hs.fresh r hlt.le)

theorem Heaped.request (h : Handle) (timeout : ℕ) (bound : Bool) :
    KeepsHeap P (s.request h timeout bound) := by
  have hs₁ := hs.cacheEntryGet h
  unfold State.request
  dsimp only
  split
  · exact hs₁
  · cases he : (s.cacheEntryGet h).entry h with
    | none => simp [KeepsHeap]
    | some e =>
      dsimp only
      split
      · simp [KeepsHeap]
      · rename_i hv
        -- the assertion of the function itself
        have hv' : e.vcardNode = none := by simpa using hv
        let q : Request :=
          { handle := h, timer := false
            timeout := if timeout = 0 then defaultRequestTimeout else timeout, bound := bound }
        refine Heaped.requestSend (s := (s.cacheEntryGet h).addRequest h e q)
          (hs₁.addRequest he q) fun request e' hr he' => ?_
        cases (setRequest_self (s.cacheEntryGet h) _ (some q)).symm.trans hr
        cases (setEntry_entry_self ((s.cacheEntryGet h).setRequest _ _) h _).symm.trans he'
        exact hv'

end

variable [DecidableEq β]

theorem Heaped.managerPatchVCard (hs : Heaped P s) (node : VCard β) :
    Heaped P (s.managerPatchVCard node) := by
  unfold State.managerPatchVCard
  split
  · exact hs
  · dsimp only
    split <;> exact hs.congr rfl rfl rfl rfl rfl rfl rfl

/-- A failed SET does not touch the cache. -/
theorem Heaped.replaceReplyCb_false (hs : Heaped P s) : KeepsHeap P (s.replaceReplyCb false) :=
  Heaped.congr (s := s) hs rfl rfl rfl rfl rfl rfl rfl

omit [DecidableEq β] in
theorem Heaped.ensureGet (hs : Heaped P s) (h : Handle) : KeepsHeap P (s.ensureGet h) := by
  unfold State.ensureGet
  dsimp only
  split
  · exact hs.request h 0 false
  · exact hs

omit [DecidableEq β] in
theorem Heaped.edit (hs : Heaped P s) (infos : List (EditInfo β)) (bound : Bool) :
    KeepsHeap P (s.edit infos bound) := by
  unfold State.edit
  split
  · exact hs
  · refine (hs.invalidateCache _).bind fun s₁ hs₁ => ?_
    refine ((hs₁.cacheEntryGet _).ensureGet _).bind fun s₂ hs₂ => ?_
    exact hs₂.congr rfl rfl rfl rfl rfl rfl rfl

theorem Heaped.pipelineReplyError (hs : Heaped P s) (h : Handle) :
    KeepsHeap P (s.pipelineReplyError h) := by
  refine KeepsHeap.bind ?_ fun s' hs' => hs'.cacheEntryCompleteRequests h _
  unfold State.failPendingEdits
  dsimp only
  split
  · exact Heaped.replaceReplyCb_false (hs.congr rfl rfl rfl rfl rfl rfl rfl)
  · exact hs

/-- The vCard of a GET goes into the cache and its entry into the heap. -/
theorem Heaped.pipelineReplySuccess (hs : Heaped P s) (he : s.entry h = some e)
    (hv : e.vcardNode = none) (hp : e.pipelineItem = none) (hsus : e.suspended = none) {now : ℕ}
    (hnow : P (now + vcardCacheEntryTtl)) (node : VCard β) :
    KeepsHeap P (s.pipelineReplySuccess h e now node) := by
  have hzero : s.timedCache.count h = 0 := (hs.present h e he).empty hv
  have hs₁ : Heaped P { s.setEntry h { e with
      vcardNode := some node, expires := now + vcardCacheEntryTtl } with
      timedCache := s.timedCache ++ [h], cacheTimer := true } := by
    have hother : ∀ h' ≠ h, (s.timedCache ++ [h]).count h' = s.timedCache.count h' := fun h' hh => by
      rw [List.count_append, List.count_singleton, if_neg (by simpa using Ne.symm hh),
        Nat.add_zero]
    refine ⟨fun h' hnone => ?_, fun h' e' he' => ?_, fun _ => .inl rfl, hs.fresh, hs.asserted⟩
    · by_cases hh : h' = h
      · rw [hh] at hnone
        exact absurd ((setEntry_entry_self s h _).symm.trans hnone) (by simp)
      · exact (hother h' hh).trans (hs.absent h' ((setEntry_entry_ne s _ hh).symm.trans hnone))
    · by_cases hh : h' = h
      · rw [hh] at he' ⊢
        cases (setEntry_entry_self s h _).symm.trans he'
        refine ⟨nofun, fun _ => ⟨?_, hp, hsus, hnow⟩, fun r hr => ?_⟩
        · rw [List.count_append, hzero, List.count_singleton_self]
        · cases hsus.symm.trans hr
      · refine (hs.present h' e' ((setEntry_entry_ne s _ hh).symm.trans he')).congr (hother h' hh)
          (fun r _ q hq => ⟨q, hq, rfl⟩) le_rfl
  unfold State.pipelineReplySuccess
  dsimp only
  split
  · exact (hs₁.managerPatchVCard node).cacheEntryCompleteRequests h none
  · exact hs₁.cacheEntryCompleteRequests h none

theorem Heaped.pipelineReplyCb (hs : Heaped P s) (r : RequestId) (result : GetResult β) (now : ℕ)
    (hnow : result ≠ .error → P (now + vcardCacheEntryTtl)) :
    KeepsHeap P (s.pipelineReplyCb r result now) := by
  unfold State.pipelineReplyCb
  cases hr : s.requests r with
  | none => simp [KeepsHeap]
  | some request =>
    cases he : s.entry request.handle with
    | none => simp [KeepsHeap, he]
    | some e =>
      simp only [he]
      split
      · simp [KeepsHeap]
      split
      · simp [KeepsHeap]
      rename_i hp hsus
      have hsus' : e.suspended = none := by simpa using hsus
      -- an entry with a GET has no vCard
      have hv : e.vcardNode = none :=
        (hs.present _ e he).vcardNode_none (.inl (by simpa using hp))
      have hs₁ := hs.setEntry (hs.present _ e he).clearPipelineItem
      have hself := setEntry_entry_self s request.handle { e with pipelineItem := none }
      cases result with
      | wait =>
        have hkept : ∀ q, some { request with timer := false } = some q →
            ∃ old, s.requests r = some old ∧ old.handle = q.handle :=
          fun q hq => ⟨request, hr, by cases hq; rfl⟩
        have hs₂ := hs₁.setRequest (r := r) hkept
        refine hs₂.setEntry ⟨fun _ => (hs₂.present _ _ hself).empty hv,
          fun hv' => absurd hv hv', fun r' hr' => ?_⟩
        cases hr'
        refine ⟨lt_of_not_ge fun hge => ?_, fun q hq => ?_⟩
        · cases hr.symm.trans (hs.fresh r hge)
        · cases (setRequest_self _ r _).symm.trans hq
          rfl
      | error => exact hs₁.pipelineReplyError _
      | itemNotFound node => exact hs₁.pipelineReplySuccess hself hv rfl hsus' (hnow nofun) _
      | success node => exact hs₁.pipelineReplySuccess hself hv rfl hsus' (hnow nofun) _

theorem Heaped.cancelGet (hs : Heaped P s) (g : ItemId) : KeepsHeap P (s.cancelGet g) := by
  unfold State.cancelGet
  split
  · simp [KeepsHeap]
  · refine Heaped.pipelineReplyCb ?_ _ _ _ fun hne => absurd rfl hne
    exact hs.congr rfl rfl rfl rfl rfl rfl rfl

theorem Heaped.timeoutRequest (hs : Heaped P s) {request : Request}
    (hr : s.requests r = some request) : KeepsHeap P (s.timeoutRequest r request) := by
  have hs₁ : Heaped P (s.setRequest r (some { request with timer := false })) :=
    hs.setRequest fun q hq => ⟨request, hr, by cases hq; rfl⟩
  unfold State.timeoutRequest
  dsimp only
  split
  · simp [KeepsHeap]
  · split
    · simp [KeepsHeap]
    · exact hs₁.cancelGet _

omit [DecidableEq β] in
/-- The timer of a suspended entry sends a GET for this entry again. -/
theorem Heaped.suspendedRequestTimeoutCb (hs : Heaped P s)
    (he : s.entry h = some e) (hsus : e.suspended = some r) :
    KeepsHeap P (s.suspendedRequestTimeoutCb r) := by
  have hok := hs.present h e he
  have hv : e.vcardNode = none := hok.vcardNode_none (.inr (by simp [hsus]))
  unfold State.suspendedRequestTimeoutCb
  cases hr : s.requests r with
  | none => simp [KeepsHeap]
  | some request =>
    have hh : request.handle = h := (hok.replay r hsus).2 request hr
    simp only [hh, he]
    refine (hs.setEntry hok.clearSuspended).requestSend fun q e' hr' he' => ?_
    cases hr.symm.trans hr'
    rw [hh] at he'
    cases (setEntry_entry_self s h _).symm.trans he'
    exact hv

/-! ## The timer of the cache -/

omit [DecidableEq β] in
theorem peekFirst_mem (hp : s.peekFirst = some h) : h ∈ s.timedCache :=
  List.argmin_mem hp

omit [DecidableEq β] in
theorem peekFirst_eq_none : s.peekFirst = none ↔ s.timedCache = [] :=
  List.argmin_eq_none

omit [DecidableEq β] in
/-- The first entry of the heap expires first. -/
theorem peekFirst_le {h' : Handle} {e' : Entry β} (hp : s.peekFirst = some h)
    (he : s.entry h = some e) (hm : h' ∈ s.timedCache) (he' : s.entry h' = some e') :
    e.expires ≤ e'.expires := by
  have hle := List.le_of_mem_argmin hm hp
  simpa [he, he'] using hle

omit [DecidableEq β] in
theorem attemptToFree_timedCache (hok : s.cacheEntryAttemptToFree h = .ok s') :
    s'.timedCache.length ≤ s.timedCache.length := by
  unfold State.cacheEntryAttemptToFree at hok
  repeat' split at hok
  all_goals cases hok
  · exact le_rfl
  · exact le_rfl
  · exact le_rfl
  · exact List.length_erase_le

omit [DecidableEq β] in
/-- Every round of the loop takes an entry off the heap. -/
theorem invalidateCache_timedCache (he : s.entry h = some e) (hm : h ∈ s.timedCache)
    (hok : s.invalidateCache h = .ok s') : s'.timedCache.length < s.timedCache.length := by
  unfold State.invalidateCache at hok
  rw [he] at hok
  have hle := attemptToFree_timedCache hok
  have herase : (s.timedCache.erase h).length = s.timedCache.length - 1 :=
    List.length_erase_of_mem hm
  have hpos : 0 < s.timedCache.length := List.length_pos_of_mem hm
  have hlen : s'.timedCache.length ≤ (s.timedCache.erase h).length := hle
  omega

omit [DecidableEq β] in
/-- The assertion of `cache_entry_timeout` does not fail. -/
theorem Heaped.cacheEntryTimeoutLoop (hs : Heaped P s) (now rounds : ℕ) :
    KeepsHeap P (s.cacheEntryTimeoutLoop now rounds) := by
  induction rounds generalizing s with
  | zero => exact hs
  | succ rounds ih =>
    unfold State.cacheEntryTimeoutLoop
    cases hp : s.peekFirst with
    | none => exact hs
    | some h =>
      obtain ⟨e, he, hv⟩ := hs.of_mem (peekFirst_mem hp)
      have hitem : e.pipelineItem = none := ((hs.present h e he).held hv).2.1
      simp only [he, hitem]
      split
      · exact hs
      · exact (hs.invalidateCache h).bind fun s₁ hs₁ => ih hs₁

omit [DecidableEq β] in
/-- What is left in the heap has not expired. -/
theorem Heaped.not_expired (hs : Heaped P s) {now rounds : ℕ} (hlen : s.timedCache.length ≤ rounds)
    (hok : s.cacheEntryTimeoutLoop now rounds = .ok s') (hm : h ∈ s'.timedCache)
    (he : s'.entry h = some e) : now < e.expires := by
  induction rounds generalizing s with
  | zero =>
    cases hok
    rw [List.length_eq_zero_iff.mp (Nat.le_zero.mp hlen)] at hm
    cases hm
  | succ rounds ih =>
    unfold State.cacheEntryTimeoutLoop at hok
    cases hp : s.peekFirst with
    | none =>
      rw [hp] at hok
      cases hok
      rw [peekFirst_eq_none.mp hp] at hm
      cases hm
    | some h₁ =>
      have hmem := peekFirst_mem hp
      obtain ⟨e₁, he₁, hv⟩ := hs.of_mem hmem
      have hitem : e₁.pipelineItem = none := ((hs.present h₁ e₁ he₁).held hv).2.1
      simp only [hp, he₁, hitem] at hok
      split at hok
      · rename_i hlate
        cases hok
        exact hlate.trans_le (peekFirst_le hp he₁ hm he)
      · have hkeep := hs.invalidateCache h₁
        cases hinv : s.invalidateCache h₁ with
        | error f =>
          rw [hinv] at hok
          cases hok
        | ok s₁ =>
          rw [hinv] at hok hkeep
          have hlt := invalidateCache_timedCache he₁ hmem hinv
          exact ih hkeep (by omega) hok

omit [DecidableEq β] in
theorem Heaped.cacheEntryTimeout (hs : Heaped P s) (now : ℕ) :
    KeepsHeap P (s.cacheEntryTimeout now) := by
  refine (hs.cacheEntryTimeoutLoop now _).bind fun s₁ hs₁ => ?_
  refine ⟨hs₁.absent, fun h e he => ?_, fun hne => .inl ?_, hs₁.fresh, hs₁.asserted⟩
  · have hok := hs₁.present h e he
    exact ⟨hok.empty, hok.held, hok.replay⟩
  · rw [Option.isSome_iff_ne_none]
    exact fun hnone => hne (peekFirst_eq_none.mp hnone)

omit [DecidableEq β] in
/-- After `cache_entry_timeout` no cached vCard has expired. -/
theorem Heaped.expired_gone (hs : Heaped P s) {now : ℕ} (hok : s.cacheEntryTimeout now = .ok s')
    (he : s'.entry h = some e) (hv : e.vcardNode ≠ none) : now < e.expires := by
  unfold State.cacheEntryTimeout at hok
  have hkeep := hs.cacheEntryTimeoutLoop now s.timedCache.length
  cases hloop : s.cacheEntryTimeoutLoop now s.timedCache.length with
  | error f =>
    rw [hloop] at hok
    cases hok
  | ok s₁ =>
    rw [hloop] at hok hkeep
    cases hok
    have hone : s₁.timedCache.count h = 1 := ((Heaped.present hkeep h e he).held hv).1
    refine hs.not_expired le_rfl hloop (List.count_pos_iff.mp ?_) he
    rw [hone]
    exact Nat.one_pos

/-! ## A SET that is acknowledged -/

/-- An acknowledged SET finds the own vCard in the cache, and not yet expired. -/
def Within (s : State β) : Event β → Prop
  | .setReply _ true => s.patchedVCard = none ∨ s.conn.selfHandle ∈ s.timedCache
  | _ => True

instance (s : State β) : (e : Event β) → Decidable (Within s e)
  | .setReply _ true => inferInstanceAs (Decidable (_ = none ∨ _ ∈ _))
  | .setReply _ false => .isTrue trivial
  | .connected | .disconnected | .aliasChanged _ | .request _ _ _ | .cancelRequest _ | .orphan _
  | .edit _ _ | .removeEditRequest _ | .orphanEdit _ | .invalidate _ | .getReply _ _ _
  | .requestTimeout _ | .suspendedTimeout _ | .cacheTimeout _ | .dispose => .isTrue trivial

omit [DecidableEq β] in
theorem cacheEntryGet_timedCache (s : State β) (h : Handle) :
    (s.cacheEntryGet h).timedCache = s.timedCache := by
  unfold State.cacheEntryGet
  split <;> rfl

/-- The vCard of an acknowledged SET takes the place of the one in the heap. -/
theorem Heaped.replaceReplyCb_true (hs : Heaped P s)
    (hw : s.patchedVCard = none ∨ s.conn.selfHandle ∈ s.timedCache) :
    KeepsHeap P (s.replaceReplyCb true) := by
  unfold State.replaceReplyCb
  simp only [Bool.not_true, Bool.false_eq_true, if_false]
  have hs₁ : Heaped P { s with editPipelineItem := none } := hs.congr rfl rfl rfl rfl rfl rfl rfl
  have hs₂ := hs₁.cacheEntryGet s.conn.selfHandle
  have hsame := cacheEntryGet_sameEdits { s with editPipelineItem := none } s.conn.selfHandle
  have htimed := cacheEntryGet_timedCache { s with editPipelineItem := none } s.conn.selfHandle
  set s₂ := State.cacheEntryGet { s with editPipelineItem := none } s.conn.selfHandle
  cases hp : s₂.patchedVCard with
  | none => simp [KeepsHeap]
  | some node =>
    have hself : s₂.conn.selfHandle = s.conn.selfHandle := hsame.selfHandle
    have hmem : s₂.conn.selfHandle ∈ s₂.timedCache := by
      rw [hself, htimed]
      refine hw.resolve_left fun hnone => ?_
      cases hp.symm.trans (hsame.patchedVCard.trans hnone)
    obtain ⟨e, he, hv⟩ := hs₂.of_mem hmem
    have hok := hs₂.present _ e he
    have hset : Heaped P (s₂.setEntry s₂.conn.selfHandle { e with vcardNode := some node }) :=
      hs₂.setEntry ⟨nofun, fun _ => hok.held hv, hok.replay⟩
    have hdone : Heaped P (({ s₂ with patchedVCard := none }.setEntry s₂.conn.selfHandle
        { e with vcardNode := some node }).completeEditRequests true) :=
      hset.congr rfl rfl rfl rfl rfl rfl rfl
    rw [he]
    exact hdone.managerPatchVCard node

/-- An acknowledged SET whose entry has left the heap puts a vCard in the cache that
is not in the heap. -/
theorem replaceReplyCb_unheaped {node : VCard β} (hp : s.patchedVCard = some node)
    (hm : s.conn.selfHandle ∉ s.timedCache) :
    ∃ s' e, s.replaceReplyCb true = .ok s' ∧ s'.entry s.conn.selfHandle = some e ∧
      e.vcardNode ≠ none ∧ s.conn.selfHandle ∉ s'.timedCache := by
  obtain ⟨e, he, _⟩ := cacheEntryGet_entry { s with editPipelineItem := none } s.conn.selfHandle
  have hsame := cacheEntryGet_sameEdits { s with editPipelineItem := none } s.conn.selfHandle
  have htimed := cacheEntryGet_timedCache { s with editPipelineItem := none } s.conn.selfHandle
  unfold State.replaceReplyCb
  simp only [Bool.not_true, Bool.false_eq_true, if_false]
  set s₂ := State.cacheEntryGet { s with editPipelineItem := none } s.conn.selfHandle
  have hself : s₂.conn.selfHandle = s.conn.selfHandle := hsame.selfHandle
  have hp₂ : s₂.patchedVCard = some node := hsame.patchedVCard.trans hp
  rw [hp₂, hself, he]
  dsimp only
  refine ⟨_, { e with vcardNode := some node }, rfl, ?_, by simp, ?_⟩
  · rw [entry_congr (managerPatchVCard_sameRequests _ node).cache]
    exact setEntry_entry_self s₂ s.conn.selfHandle _
  · rw [(managerPatchVCard_sameRequests _ node).timedCache]
    exact htimed ▸ hm

/-! ## Dispose -/

theorem Heaped.disconnectEntry (hs : Heaped P s) (h : Handle) :
    KeepsHeap P (s.disconnectEntry h) := by
  unfold State.disconnectEntry
  cases he : s.entry h with
  | none => simp [KeepsHeap]
  | some e =>
    refine ((hs.setEntry (hs.present h e he).clearSuspended).cacheEntryCompleteRequests h _).bind
      fun s₁ hs₁ => ?_
    split
    · simp [KeepsHeap]
    · split
      · exact hs₁
      · refine (hs₁.cancelGet _).bind fun s₂ hs₂ => ?_
        cases he₂ : s₂.entry h with
        | none => simp [KeepsHeap]
        | some e₂ => exact hs₂.setEntry (hs₂.present h e₂ he₂).clearPipelineItem

theorem Heaped.dispose (hs : Heaped P s) : KeepsHeap P s.dispose := by
  have hs₁ : Heaped P { s with disposed := true, edits := [], cacheTimer := false } := by
    refine ⟨hs.absent, fun h e he => ?_, fun _ => .inr rfl, hs.fresh, hs.asserted⟩
    have hok := hs.present h e he
    exact ⟨hok.empty, hok.held, hok.replay⟩
  refine (KeepsHeap.foldlM (fun _ h hs' => hs'.disconnectEntry h) _ hs₁).bind fun s₂ hs₂ => ?_
  have hs₃ : Heaped P { s₂ with timedCache := [], cache := ∅ } :=
    ⟨fun _ _ => rfl, fun _ _ he => by simp [State.entry] at he, fun hne => absurd rfl hne,
      hs₂.fresh, hs₂.asserted⟩
  refine KeepsHeap.bind ?_ fun s₄ hs₄ => hs₄.congr rfl rfl rfl rfl rfl rfl rfl
  unfold State.cancelSet
  split
  · exact hs₃
  · exact Heaped.replaceReplyCb_false (hs₃.congr rfl rfl rfl rfl rfl rfl rfl)

/-! ## Runs -/

/-- The times at which the vCard of a GET that is answered expires. -/
def Event.stamps : Event β → List ℕ
  | .getReply _ _ now => [now + vcardCacheEntryTtl]
  | _ => []

theorem Heaped.operation (hs : Heaped P s) {ev : Event β} (hw : Within s ev)
    (hstamp : ∀ t ∈ ev.stamps, P t) {res : Except Fault (State β)}
    (hop : operation s ev = some res) : KeepsHeap P res := by
  cases ev with
  | connected =>
    simp only [VCardManager.operation, Option.ite_none_right_eq_some, Option.some.injEq] at hop
    rw [← hop.2]
    unfold State.statusChangedCb
    refine Heaped.request ?_ _ _ _
    exact hs.congr rfl rfl rfl rfl rfl rfl rfl
  | disconnected =>
    simp only [VCardManager.operation, Option.ite_none_right_eq_some, Option.some.injEq] at hop
    rw [← hop.2]
    exact hs.congr rfl rfl rfl rfl rfl rfl rfl
  | aliasChanged name =>
    cases hop
    exact hs.congr rfl rfl rfl rfl rfl rfl rfl
  | request h timeout bound =>
    cases hop
    exact hs.request h timeout bound
  | cancelRequest r =>
    simp only [VCardManager.operation, Option.ite_none_right_eq_some, Option.some.injEq] at hop
    rw [← hop.2]
    exact hs.completeOneRequest _ r
  | orphan r =>
    simp only [VCardManager.operation, Option.ite_none_right_eq_some, Option.some.injEq] at hop
    rw [← hop.2]
    exact hs.notifyDeleteRequest r
  | edit infos bound =>
    cases hop
    exact hs.edit infos bound
  | removeEditRequest q =>
    simp only [VCardManager.operation, Option.ite_none_right_eq_some, Option.some.injEq] at hop
    rw [← hop.2]
    exact hs.congr rfl rfl rfl rfl rfl rfl rfl
  | orphanEdit q =>
    simp only [VCardManager.operation, Option.ite_none_right_eq_some, Option.some.injEq] at hop
    rw [← hop.2]
    exact hs.congr rfl rfl rfl rfl rfl rfl rfl
  | invalidate h =>
    cases hop
    exact hs.invalidateCache h
  | getReply g result now =>
    simp only [VCardManager.operation] at hop
    split at hop
    · cases hop
    · cases hop
      refine Heaped.pipelineReplyCb ?_ _ _ _ fun _ => hstamp _ List.mem_cons_self
      exact hs.congr rfl rfl rfl rfl rfl rfl rfl
  | setReply i success =>
    simp only [VCardManager.operation, Option.ite_none_right_eq_some, Option.some.injEq] at hop
    rw [← hop.2]
    have hs₁ : Heaped P (s.answerSet i success) := hs.congr rfl rfl rfl rfl rfl rfl rfl
    cases success with
    | false => exact hs₁.replaceReplyCb_false
    | true => exact hs₁.replaceReplyCb_true hw
  | requestTimeout r =>
    simp only [VCardManager.operation] at hop
    cases hr : s.requests r with
    | none => simp [hr] at hop
    | some request =>
      simp only [hr, Option.ite_none_right_eq_some, Option.some.injEq] at hop
      rw [← hop.2]
      exact hs.timeoutRequest hr
  | suspendedTimeout h =>
    simp only [VCardManager.operation] at hop
    cases hb : (s.entry h).bind Entry.suspended with
    | none => simp [hb] at hop
    | some r =>
      simp only [hb, Option.some.injEq] at hop
      obtain ⟨e, he, hsus⟩ := Option.bind_eq_some_iff.mp hb
      rw [← hop]
      exact hs.suspendedRequestTimeoutCb he hsus
  | cacheTimeout now =>
    simp only [VCardManager.operation, Option.ite_none_right_eq_some, Option.some.injEq] at hop
    rw [← hop.2]
    exact hs.cacheEntryTimeout now
  | dispose =>
    cases hop
    exact hs.dispose

/-- One step keeps the heap in step. -/
theorem Heaped.step (hs : Heaped P s) {ev : Event β} (hw : Within s ev)
    (hstamp : ∀ t ∈ ev.stamps, P t) (hstep : VCardManager.step s ev = some s') : Heaped P s' := by
  obtain ⟨_, _, ⟨s₁, hop, rfl⟩ | ⟨f, hop, rfl⟩⟩ := step_cases hstep
  · exact hs.operation hw hstamp hop
  · have hf : f ≠ .assertNoPipelineItem := hs.operation hw hstamp hop
    refine ⟨hs.absent, fun h e he => ?_, hs.timer, hs.fresh, fun heq => hf (Option.some.inj heq)⟩
    have hok := hs.present h e he
    exact ⟨hok.empty, hok.held, hok.replay⟩

omit [DecidableEq β] in
theorem heaped_new (P : ℕ → Prop) (conn : Connection β) : Heaped P (State.new conn) where
  absent _ _ := rfl
  present h e he := by simp [State.entry, State.new] at he
  timer hne := absurd rfl hne
  fresh _ _ := rfl
  asserted := nofun

/-- The times of all the vCards that a run gets. -/
theorem heaped_of_run {conn : Connection β} {es : List (Event β)}
    (hadm : Admits Within VCardManager.step (State.new conn) es)
    (hrun : run VCardManager.step (State.new conn) es = some s) :
    Heaped (fun t => ∃ ev ∈ es, t ∈ ev.stamps) s := by
  have hall : ∀ (es' : List (Event β)) (s₀ : State β), Heaped (fun t => ∃ ev ∈ es, t ∈ ev.stamps) s₀ →
      (∀ ev ∈ es', ev ∈ es) → Admits Within VCardManager.step s₀ es' →
      run VCardManager.step s₀ es' = some s → Heaped (fun t => ∃ ev ∈ es, t ∈ ev.stamps) s := by
    intro es'
    induction es' with
    | nil =>
      rintro s₀ hs _ _ hrun
      cases hrun
      exact hs
    | cons ev es' ih =>
      rintro s₀ hs hsub ⟨hw, hadm⟩ hrun
      obtain ⟨s₁, hs₁, hrun⟩ := Option.bind_eq_some_iff.mp hrun
      refine ih s₁ (hs.step hw (fun t ht => ⟨ev, hsub ev List.mem_cons_self, ht⟩) hs₁)
        (fun ev' hm => hsub ev' (List.mem_cons_of_mem _ hm)) (hadm s₁ hs₁) hrun
  exact hall es _ (heaped_new _ conn) (fun _ h => h) hadm hrun

/-- What `timed_cache` promises: every cached vCard is in the heap once, what is in
the heap has a vCard and no GET, there is a timer for it, and the assertion of
`cache_entry_timeout` has not failed. -/
structure InHeap (s : State β) : Prop where
  once : ∀ h e, s.entry h = some e → e.vcardNode ≠ none → s.timedCache.count h = 1
  held : ∀ h ∈ s.timedCache, ∃ e, s.entry h = some e ∧ e.vcardNode ≠ none ∧ e.pipelineItem = none
  timer : s.disposed = false → s.timedCache ≠ [] → s.cacheTimer = true
  asserted : s.fault ≠ some .assertNoPipelineItem

omit [DecidableEq β] in
theorem Heaped.inHeap (hs : Heaped P s) : InHeap s where
  once h e he hv := ((hs.present h e he).held hv).1
  held h hm := by
    obtain ⟨e, he, hv⟩ := hs.of_mem hm
    exact ⟨e, he, hv, ((hs.present h e he).held hv).2.1⟩
  timer hd hne := (hs.timer hne).resolve_right (by simp [hd])
  asserted := hs.asserted

/-- The heap stays in step exactly in the steps that meet the condition. -/
theorem inHeap_step_iff (hs : Heaped P s) {ev : Event β}
    (hstep : VCardManager.step s ev = some s') (hstamp : ∀ t ∈ ev.stamps, P t) :
    InHeap s' ↔ Within s ev := by
  refine ⟨fun hin => ?_, fun hw => (hs.step hw hstamp hstep).inHeap⟩
  by_contra hw
  cases ev with
  | setReply i success =>
    cases success with
    | false => exact hw trivial
    | true =>
      obtain ⟨hnone, hm⟩ := not_or.mp hw
      obtain ⟨node, hp⟩ := Option.ne_none_iff_exists'.mp hnone
      obtain ⟨s₁, e, hok, he, hv, hm₁⟩ :=
        replaceReplyCb_unheaped (s := s.answerSet i true) hp hm
      obtain ⟨_, _, ⟨s₂, hop, rfl⟩ | ⟨f, hop, rfl⟩⟩ := step_cases hstep
      all_goals
        simp only [VCardManager.operation, hok, Option.ite_none_right_eq_some,
          Option.some.injEq] at hop
      · cases hop.2
        have hone := hin.once _ e he hv
        rw [List.count_eq_zero_of_not_mem hm₁] at hone
        cases hone
      · cases hop.2
  | _ => exact hw trivial

/-- **Cached vCards are in the heap, and expire, exactly when every acknowledged SET
finds the own vCard still cached.** -/
theorem inHeap_iff_within {conn : Connection β} {es : List (Event β)}
    (hrun : run VCardManager.step (State.new conn) es = some s) :
    ((∀ es₁ es₂ s₁, es = es₁ ++ es₂ → run VCardManager.step (State.new conn) es₁ = some s₁ →
        InHeap s₁) ↔ Admits Within VCardManager.step (State.new conn) es) ∧
      (Admits Within VCardManager.step (State.new conn) es →
        (∀ h e, s.entry h = some e → e.vcardNode ≠ none → ∃ g result now,
          .getReply g result now ∈ es ∧ e.expires = now + vcardCacheEntryTtl) ∧
        ∀ now s', VCardManager.step s (.cacheTimeout now) = some s' → s'.fault = none →
          ∀ h e, s'.entry h = some e → e.vcardNode ≠ none → now < e.expires) := by
  refine ⟨forall_run_iff_admits (fun s hs => Heaped.inHeap (P := fun _ => True) hs)
    (fun s ev s' hs hstep => ⟨inHeap_step_iff hs hstep fun _ _ => trivial,
      fun hw => hs.step hw (fun _ _ => trivial) hstep⟩) es (heaped_new _ conn) hrun,
    fun hadm => ?_⟩
  have hs := heaped_of_run hadm hrun
  refine ⟨fun h e he hv => ?_, fun now s' hstep hnone h e he hv => ?_⟩
  · obtain ⟨ev, hmem, ht⟩ := ((hs.present h e he).held hv).2.2.2
    cases ev with
    | getReply g result now => exact ⟨g, result, now, hmem, List.mem_singleton.mp ht⟩
    | _ => cases ht
  · obtain ⟨_, _, ⟨s₁, hop, rfl⟩ | ⟨f, hop, rfl⟩⟩ := step_cases hstep
    · simp only [VCardManager.operation, Option.ite_none_right_eq_some, Option.some.injEq] at hop
      exact hs.expired_gone hop.2 he hv
    · cases hnone

end

theorem inHeap_iff_within_acknowledgedRun :
    ∃ s, run step (State.new plainConnection) acknowledgedRun = some s ∧ InHeap s ∧
      s.timedCache = [1] ∧ ∃ s', step s (.cacheTimeout 60) = some s' ∧ s'.fault = none ∧
        s'.entry 1 = none := by
  have hadm : Admits Within step (State.new plainConnection) acknowledgedRun := by decide
  have hrun : ∃ s, run step (State.new plainConnection) acknowledgedRun = some s := ⟨_, rfl⟩
  obtain ⟨s, hs⟩ := hrun
  have hin := (inHeap_iff_within hs).1.mpr hadm acknowledgedRun [] s (List.append_nil _).symm hs
  cases hs
  exact ⟨_, rfl, hin, rfl, _, rfl, rfl, rfl⟩

/-- The second of two edits takes the own vCard out of the cache while the SET of the
first one is under way; the vCard this SET brings back stays for good. -/
theorem own_vcard_stays :
    ∃ s, run step (State.new plainConnection) (twoEditsRun ++ [.setReply 2 true]) = some s ∧
      ¬ InHeap s ∧ s.timedCache = [] ∧ s.fault = none ∧
      ∃ e, s.entry 1 = some e ∧ e.vcardNode = some [⟨"NICKNAME", "n"⟩] ∧
        ∀ now s', step s (.cacheTimeout now) = some s' → s'.entry 1 = some e := by
  refine ⟨_, rfl, fun hin => ?_, rfl, rfl, _, rfl, rfl, fun now s' hs => ?_⟩
  · have hone := hin.once 1 _ rfl (by simp)
    cases hone
  · cases hs
    rfl

end VCardManager
