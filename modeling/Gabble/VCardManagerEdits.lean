/-
# Edits of the own vCard are settled

An edit request waits for a GET of the own vCard and for the SET of the patched
one.  `manager_patch_vcard` forgets the edits once it has applied them, and the
requests they belong to are completed when the SET is answered.  Two things can
go wrong: when the edits change nothing there is no SET, and when a GET fails
while a SET is in the pipeline `replace_reply_cb` is called for a SET that is
not over.  The two conditions below leave those steps out.
-/
import Mathlib.Data.List.Nodup
import Mathlib.Tactic.Common
import Gabble.VCardManagerRuns

open Transition

namespace VCardManager

variable {β : Type}

/-! ## The history of the edits -/

/-- The edit requests whose callback was called. -/
def calledEdits (log : List (EditAction β)) : List EditId :=
  log.filterMap fun
    | .called q _ => some q
    | _ => none

/-- The edit requests that were removed by their owner, or with it. -/
def removedEdits (log : List (EditAction β)) : List EditId :=
  log.filterMap fun
    | .removed q => some q
    | _ => none

/-- The edits of a request were part of a SET that the server acknowledged. -/
def Acknowledged (log : List (EditAction β)) (q : EditId) (infos : List (EditInfo β)) : Prop :=
  ∃ i edits, .sent i edits ∈ log ∧ .answered i true ∈ log ∧
    ∀ info ∈ infos, (⟨some q, info⟩ : Edit β) ∈ edits

@[simp] theorem calledEdits_append (l₁ l₂ : List (EditAction β)) :
    calledEdits (l₁ ++ l₂) = calledEdits l₁ ++ calledEdits l₂ := List.filterMap_append

@[simp] theorem removedEdits_append (l₁ l₂ : List (EditAction β)) :
    removedEdits (l₁ ++ l₂) = removedEdits l₁ ++ removedEdits l₂ := List.filterMap_append

@[simp] theorem calledEdits_requested (q : EditId) (infos : List (EditInfo β)) :
    calledEdits [.requested q infos] = [] := rfl

@[simp] theorem calledEdits_removed (q : EditId) :
    calledEdits [(.removed q : EditAction β)] = [] := rfl

@[simp] theorem calledEdits_sent (i : ItemId) (edits : List (Edit β)) :
    calledEdits [.sent i edits] = [] := rfl

@[simp] theorem calledEdits_answered (i : ItemId) (success : Bool) :
    calledEdits [(.answered i success : EditAction β)] = [] := rfl

@[simp] theorem removedEdits_removed (q : EditId) :
    removedEdits [(.removed q : EditAction β)] = [q] := rfl

@[simp] theorem calledEdits_map (l : List EditRequest) (success : Bool) :
    calledEdits (l.map fun q => (.called q.id success : EditAction β)) =
      l.map EditRequest.id := by
  simp [calledEdits, List.filterMap_map]

@[simp] theorem removedEdits_map (l : List EditRequest) (success : Bool) :
    removedEdits (l.map fun q => (.called q.id success : EditAction β)) = [] := by
  simp [removedEdits, List.filterMap_map]

theorem mem_calledEdits {log : List (EditAction β)} {q : EditId} :
    q ∈ calledEdits log ↔ ∃ success, .called q success ∈ log := by
  unfold calledEdits
  rw [List.mem_filterMap]
  refine ⟨?_, fun ⟨success, hm⟩ => ⟨_, hm, rfl⟩⟩
  rintro ⟨a, ha, heq⟩
  cases a <;> cases heq
  exact ⟨_, ha⟩

/-! ## The invariant -/

/-- There is an edit request whose edits have not been sent. -/
def Unsent (s : State β) : Prop := ∃ q ∈ s.editRequests, q.setInPipeline = false

/-- The SET, the item that stands for it and the patched vCard are there together. -/
def InStep (s : State β) : Prop :=
  (s.editPipelineItem = none ∧ s.sets = [] ∧ s.patchedVCard = none) ∨
    ∃ item node, s.editPipelineItem = some item.id ∧ s.sets = [item] ∧ s.patchedVCard = some node

/-- What the history says about the SETs. -/
structure SetLog (s : State β) : Prop where
  outstanding : ∀ item ∈ s.sets, .sent item.id item.edits ∈ s.editLog ∧
    ∀ success, .answered item.id success ∉ s.editLog
  sentLt : ∀ i edits, .sent i edits ∈ s.editLog → i < s.nextItem
  sentUnique : ∀ i edits edits', .sent i edits ∈ s.editLog → .sent i edits' ∈ s.editLog →
    edits = edits'
  answeredSent : ∀ i success, .answered i success ∈ s.editLog →
    ∃ edits, .sent i edits ∈ s.editLog
  ownerLt : ∀ i edits, .sent i edits ∈ s.editLog → ∀ edit ∈ edits, ∀ q, edit.owner = some q →
    q < s.nextEdit

/-- Every edit request is waiting, called or removed, and the edits of a waiting
one are queued or in the SET. -/
structure Accounted (s : State β) : Prop where
  setLog : SetLog s
  requestedLt : ∀ q infos, .requested q infos ∈ s.editLog → q < s.nextEdit
  requestedUnique : ∀ q infos infos', .requested q infos ∈ s.editLog →
    .requested q infos' ∈ s.editLog → infos = infos'
  liveNodup : (s.editRequests.map EditRequest.id).Nodup
  liveLt : ∀ q ∈ s.editRequests, q.id < s.nextEdit
  account : ∀ q < s.nextEdit, q ∈ s.editRequests.map EditRequest.id ∨
    q ∈ calledEdits s.editLog ∨ q ∈ removedEdits s.editLog
  calledLt : ∀ q ∈ calledEdits s.editLog, q < s.nextEdit
  calledNodup : (calledEdits s.editLog).Nodup
  notCalled : ∀ q ∈ s.editRequests, q.id ∉ calledEdits s.editLog
  owner : ∀ edit ∈ s.edits, ∀ q, edit.owner = some q → q < s.nextEdit ∧
    q ∉ calledEdits s.editLog ∧ ∀ request ∈ s.editRequests, request.id = q →
      request.setInPipeline = false
  unsent : ∀ q ∈ s.editRequests, q.setInPipeline = false →
    (∀ infos, .requested q.id infos ∈ s.editLog → ∀ info ∈ infos,
      (⟨some q.id, info⟩ : Edit β) ∈ s.edits) ∧
    ∀ i edits, .sent i edits ∈ s.editLog → ∀ edit ∈ edits, edit.owner ≠ some q.id
  sent : ∀ q ∈ s.editRequests, q.setInPipeline = true → ∃ item ∈ s.sets,
    (∀ infos, .requested q.id infos ∈ s.editLog → ∀ info ∈ infos,
      (⟨some q.id, info⟩ : Edit β) ∈ item.edits) ∧
    ∀ i edits, .sent i edits ∈ s.editLog → (∃ edit ∈ edits, edit.owner = some q.id) → i = item.id
  success : ∀ q, .called q true ∈ s.editLog → ∀ infos, .requested q infos ∈ s.editLog →
    Acknowledged s.editLog q infos
  failure : ∀ q, .called q false ∈ s.editLog → ∀ i edits, .sent i edits ∈ s.editLog →
    (∃ edit ∈ edits, edit.owner = some q) →
      .answered i true ∉ s.editLog ∧ ∀ item ∈ s.sets, item.id ≠ i

section

variable {s s' : State β}

theorem InStep.congr (h : InStep s) (hs : SameEdits s s') : InStep s' := by
  unfold InStep
  rw [hs.editPipelineItem, hs.sets, hs.patchedVCard]
  exact h

/-- The history grows, but nothing is sent; what is outstanding afterwards was so
before and is not answered. -/
theorem SetLog.grow (h : SetLog s) (hsub : ∀ a ∈ s.editLog, a ∈ s'.editLog)
    (hsent : ∀ i edits, .sent i edits ∈ s'.editLog → .sent i edits ∈ s.editLog)
    (hanswered : ∀ i success, .answered i success ∈ s'.editLog →
      .answered i success ∈ s.editLog ∨ ∃ item ∈ s.sets, i = item.id)
    (hsets : ∀ item ∈ s'.sets, item ∈ s.sets ∧ ∀ success,
      .answered item.id success ∈ s'.editLog →
        .answered item.id success ∈ s.editLog)
    (hitem : s.nextItem ≤ s'.nextItem) (hnext : s.nextEdit ≤ s'.nextEdit) : SetLog s' where
  outstanding := by
    intro item hmem
    obtain ⟨hmem, hback⟩ := hsets item hmem
    obtain ⟨hsent, hnone⟩ := h.outstanding item hmem
    exact ⟨hsub _ hsent, fun success hm => hnone success (hback success hm)⟩
  sentLt := fun i edits hm => (h.sentLt i edits (hsent i edits hm)).trans_le hitem
  sentUnique := fun i edits edits' hm hm' => h.sentUnique i edits edits' (hsent _ _ hm) (hsent _ _ hm')
  answeredSent := by
    intro i success hm
    rcases hanswered i success hm with hm | ⟨item, hmem, rfl⟩
    · obtain ⟨edits, he⟩ := h.answeredSent i success hm
      exact ⟨edits, hsub _ he⟩
    · exact ⟨item.edits, hsub _ (h.outstanding item hmem).1⟩
  ownerLt := fun i edits hm edit he q hq =>
    (h.ownerLt i edits (hsent i edits hm) edit he q hq).trans_le hnext

/-- Some of the requests that wait are called. -/
theorem Accounted.call (h : Accounted s) {l : List EditRequest}
    (hl : l.Sublist s.editRequests) :
    (∀ q ∈ calledEdits s.editLog ++ l.map EditRequest.id, q < s.nextEdit) ∧
      (calledEdits s.editLog ++ l.map EditRequest.id).Nodup := by
  refine ⟨fun q hq => ?_, ?_⟩
  · rcases List.mem_append.mp hq with hq | hq
    · exact h.calledLt q hq
    · obtain ⟨request, hm, rfl⟩ := List.mem_map.mp hq
      exact h.liveLt request (hl.subset hm)
  · refine h.calledNodup.append (h.liveNodup.sublist (hl.map _)) fun q hq hq' => ?_
    obtain ⟨request, hm, rfl⟩ := List.mem_map.mp hq'
    exact h.notCalled request (hl.subset hm) hq

theorem Accounted.congr (h : Accounted s) (hs : SameEdits s s') : Accounted s' where
  setLog := by
    refine h.setLog.grow ?_ ?_ ?_ ?_ hs.nextItem hs.nextEdit.ge
    · exact fun a ha => hs.editLog ▸ ha
    · exact fun i edits hm => hs.editLog ▸ hm
    · exact fun i success hm => .inl (hs.editLog ▸ hm)
    · exact fun item hmem => ⟨hs.sets ▸ hmem, fun success hm => hs.editLog ▸ hm⟩
  requestedLt := by
    rw [hs.editLog, hs.nextEdit]
    exact h.requestedLt
  requestedUnique := by
    rw [hs.editLog]
    exact h.requestedUnique
  liveNodup := by
    rw [hs.editRequests]
    exact h.liveNodup
  liveLt := by
    rw [hs.editRequests, hs.nextEdit]
    exact h.liveLt
  account := by
    rw [hs.editRequests, hs.editLog, hs.nextEdit]
    exact h.account
  calledLt := by
    rw [hs.editLog, hs.nextEdit]
    exact h.calledLt
  calledNodup := by
    rw [hs.editLog]
    exact h.calledNodup
  notCalled := by
    rw [hs.editRequests, hs.editLog]
    exact h.notCalled
  owner := by
    rw [hs.edits, hs.editRequests, hs.editLog, hs.nextEdit]
    exact h.owner
  unsent := by
    rw [hs.edits, hs.editRequests, hs.editLog]
    exact h.unsent
  sent := by
    rw [hs.sets, hs.editRequests, hs.editLog]
    exact h.sent
  success := by
    rw [hs.editLog]
    exact h.success
  failure := by
    rw [hs.sets, hs.editLog]
    exact h.failure

/-! ## One operation at a time -/

/-- The history grows, but nothing is requested or sent. -/
structure LogGrows (log log' : List (EditAction β)) : Prop where
  sub : ∀ a ∈ log, a ∈ log'
  sent : ∀ i edits, .sent i edits ∈ log' → .sent i edits ∈ log
  requested : ∀ q infos, .requested q infos ∈ log' → .requested q infos ∈ log

theorem logGrows_append (log : List (EditAction β)) {new : List (EditAction β)}
    (hsent : ∀ i edits, .sent i edits ∉ new)
    (hrequested : ∀ q infos, .requested q infos ∉ new) : LogGrows log (log ++ new) where
  sub := fun _ ha => List.mem_append_left _ ha
  sent := fun i edits hm => (List.mem_append.mp hm).resolve_right (hsent i edits)
  requested := fun q infos hm => (List.mem_append.mp hm).resolve_right (hrequested q infos)

theorem Acknowledged.mono {log log' : List (EditAction β)} {q : EditId}
    {infos : List (EditInfo β)} (h : Acknowledged log q infos) (hsub : ∀ a ∈ log, a ∈ log') :
    Acknowledged log' q infos := by
  obtain ⟨i, edits, h1, h2, h3⟩ := h
  exact ⟨i, edits, hsub _ h1, hsub _ h2, h3⟩

/-- The requests that are called when the SET comes to an end: after a failure all of them. -/
def leaves (success : Bool) (q : EditRequest) : Bool := !success || q.setInPipeline

theorem leaves_eq_false {success : Bool} {q : EditRequest} :
    leaves success q = false ↔ success = true ∧ q.setInPipeline = false := by
  simp [leaves]

section

variable (h : Accounted s)

include h

/-- The SET is over, if there is one, and the requests that it concerns are called. -/
theorem Accounted.settle {success : Bool} (answers : List (EditAction β))
    (hans : ∀ a ∈ answers, ∃ item ∈ s.sets, a = .answered item.id success)
    (hacked : success = true → ∀ item ∈ s.sets, .answered item.id true ∈ answers)
    (hlog : s'.editLog = s.editLog ++ answers ++
      (s.editRequests.filter (leaves success)).map fun q => .called q.id success)
    (hsets : s'.sets = []) (hedits : s'.edits = if success then s.edits else [])
    (hreqs : s'.editRequests = s.editRequests.filter fun q => !leaves success q)
    (hnext : s'.nextEdit = s.nextEdit) (hitem : s.nextItem ≤ s'.nextItem) : Accounted s' := by
  have hcalledNil : calledEdits answers = [] := by
    refine List.filterMap_eq_nil_iff.mpr fun a ha => ?_
    obtain ⟨item, _, rfl⟩ := hans a ha
    rfl
  have hremovedNil : removedEdits answers = [] := by
    refine List.filterMap_eq_nil_iff.mpr fun a ha => ?_
    obtain ⟨item, _, rfl⟩ := hans a ha
    rfl
  have hmemreq : ∀ q, q ∈ s'.editRequests ↔ q ∈ s.editRequests ∧ leaves success q = false := by
    intro q
    rw [hreqs, List.mem_filter, Bool.not_eq_true']
  have hc : calledEdits s'.editLog = calledEdits s.editLog ++
      (s.editRequests.filter (leaves success)).map EditRequest.id := by
    simp [hlog, hcalledNil]
  have hr : removedEdits s'.editLog = removedEdits s.editLog := by
    simp [hlog, hremovedNil]
  obtain ⟨hsub, hsent, hrequested⟩ : LogGrows s.editLog s'.editLog := by
    rw [hlog, List.append_assoc]
    refine logGrows_append _ (fun i edits hm => ?_) fun q infos hm => ?_
    all_goals
      simp only [List.mem_append, List.mem_map, reduceCtorEq, and_false, exists_false,
        or_false] at hm
      obtain ⟨_, _, heq⟩ := hans _ hm
      cases heq
  have hanswered : ∀ i b, .answered i b ∈ s'.editLog → .answered i b ∈ s.editLog ∨
      (b = success ∧ ∃ item ∈ s.sets, i = item.id) := by
    intro i b hm
    simp only [hlog, List.mem_append, List.mem_map, reduceCtorEq, and_false, exists_false,
      or_false] at hm
    rcases hm with hm | hm
    · exact .inl hm
    · obtain ⟨item, hitem, heq⟩ := hans _ hm
      cases heq
      exact .inr ⟨rfl, item, hitem, rfl⟩
  have hcalled : ∀ q b, .called q b ∈ s'.editLog → .called q b ∈ s.editLog ∨
      (b = success ∧ ∃ request ∈ s.editRequests, request.id = q ∧
        leaves success request = true) := by
    intro q b hm
    simp only [hlog, List.mem_append, List.mem_map, List.mem_filter, EditAction.called.injEq] at hm
    rcases hm with (hm | hm) | ⟨request, ⟨hmem, hleaves⟩, rfl, rfl⟩
    · exact .inl hm
    · obtain ⟨_, _, heq⟩ := hans _ hm
      cases heq
    · exact .inr ⟨rfl, request, hmem, rfl, hleaves⟩
  obtain ⟨hcalledLt, hcalledNodup⟩ := h.call (List.filter_sublist (p := leaves success))
  rw [← hc] at hcalledLt hcalledNodup
  refine {
    setLog := ?setLog, requestedLt := ?requestedLt, requestedUnique := ?requestedUnique,
    liveNodup := ?liveNodup, liveLt := ?liveLt, account := ?account,
    calledLt := hnext ▸ hcalledLt, calledNodup := hcalledNodup, notCalled := ?notCalled,
    owner := ?owner, unsent := ?unsent, sent := ?sent, success := ?succeeds, failure := ?fails }
  case setLog =>
    refine h.setLog.grow hsub hsent (fun i b hm => ?_) (by simp [hsets]) hitem hnext.ge
    exact (hanswered i b hm).imp_right And.right
  case requestedLt =>
    intro q infos hm
    rw [hnext]
    exact h.requestedLt q infos (hrequested q infos hm)
  case requestedUnique =>
    exact fun q infos infos' hm hm' =>
      h.requestedUnique q infos infos' (hrequested _ _ hm) (hrequested _ _ hm')
  case liveNodup =>
    rw [hreqs]
    exact h.liveNodup.sublist ((List.filter_sublist).map _)
  case liveLt => exact fun q hq => hnext ▸ h.liveLt q ((hmemreq q).mp hq).1
  case account =>
    intro q hq
    rw [hnext] at hq
    rw [hc, hr]
    rcases h.account q hq with hm | hm | hm
    · obtain ⟨request, hreq, rfl⟩ := List.mem_map.mp hm
      cases hleaves : leaves success request with
      | false => exact .inl (List.mem_map.mpr ⟨request, (hmemreq _).mpr ⟨hreq, hleaves⟩, rfl⟩)
      | true =>
        refine .inr (.inl (List.mem_append_right _ (List.mem_map.mpr ⟨request, ?_, rfl⟩)))
        exact List.mem_filter.mpr ⟨hreq, hleaves⟩
    · exact .inr (.inl (List.mem_append_left _ hm))
    · exact .inr (.inr hm)
  case notCalled =>
    intro q hq hmem
    obtain ⟨hq, hstays⟩ := (hmemreq q).mp hq
    rw [hc] at hmem
    rcases List.mem_append.mp hmem with hmem | hmem
    · exact h.notCalled q hq hmem
    · obtain ⟨request, hm, hid⟩ := List.mem_map.mp hmem
      obtain ⟨hreq, hleaves⟩ := List.mem_filter.mp hm
      rw [List.inj_on_of_nodup_map h.liveNodup hreq hq hid, hstays] at hleaves
      cases hleaves
  case owner =>
    intro edit he q hq
    rw [hedits] at he
    split at he
    case isFalse => cases he
    case isTrue hsuccess =>
      obtain ⟨hlt, hnc, hun⟩ := h.owner edit he q hq
      refine ⟨hnext ▸ hlt, fun hmem => ?_, fun request hreq hid =>
        hun request ((hmemreq request).mp hreq).1 hid⟩
      rw [hc] at hmem
      rcases List.mem_append.mp hmem with hmem | hmem
      · exact hnc hmem
      · obtain ⟨request, hm, hid⟩ := List.mem_map.mp hmem
        obtain ⟨hreq, hleaves⟩ := List.mem_filter.mp hm
        rw [leaves_eq_false.mpr ⟨hsuccess, hun request hreq hid⟩] at hleaves
        cases hleaves
  case unsent =>
    intro q hq hmark
    obtain ⟨hq, hstays⟩ := (hmemreq q).mp hq
    obtain ⟨h1, h2⟩ := h.unsent q hq hmark
    rw [hedits, if_pos (leaves_eq_false.mp hstays).1]
    exact ⟨fun infos hm => h1 infos (hrequested _ _ hm), fun i edits hm => h2 i edits (hsent _ _ hm)⟩
  case sent =>
    intro q hq hmark
    rw [(leaves_eq_false.mp ((hmemreq q).mp hq).2).2] at hmark
    cases hmark
  case succeeds =>
    intro q hq infos hm
    rcases hcalled q true hq with hq | ⟨rfl, request, hreq, rfl, hleaves⟩
    · exact (h.success q hq infos (hrequested _ _ hm)).mono hsub
    · -- its edits were in the SET, which has been answered
      obtain ⟨item, hitem, hall, _⟩ := h.sent request hreq hleaves
      refine ⟨item.id, item.edits, hsub _ (h.setLog.outstanding item hitem).1, ?_,
        hall infos (hrequested _ _ hm)⟩
      rw [hlog]
      exact List.mem_append_left _ (List.mem_append_right _ (hacked rfl item hitem))
  case fails =>
    intro q hq i edits hm hown
    refine ⟨fun hm' => ?_, by simp [hsets]⟩
    rcases hcalled q false hq with hq | ⟨rfl, request, hreq, rfl, -⟩
    · obtain ⟨hno, hne⟩ := h.failure q hq i edits (hsent _ _ hm) hown
      rcases hanswered i true hm' with hm' | ⟨-, item, hitem, rfl⟩
      · exact hno hm'
      · exact hne item hitem rfl
    · have hm' := (hanswered i true hm').resolve_right fun hf => by cases hf.1
      -- the request was waiting: nothing was sent for it, or the SET was not answered
      cases hmark : request.setInPipeline with
      | false =>
        obtain ⟨edit, he, ho⟩ := hown
        exact (h.unsent request hreq hmark).2 i edits (hsent _ _ hm) edit he ho
      | true =>
        obtain ⟨item, hitem, _, honly⟩ := h.sent request hreq hmark
        rw [honly i edits (hsent _ _ hm) hown] at hm'
        exact (h.setLog.outstanding item hitem).2 true hm'

/-- All edit requests are given up, with the SET if there is one. -/
theorem Accounted.giveUp (answers : List (EditAction β))
    (hans : ∀ a ∈ answers, ∃ item ∈ s.sets, a = .answered item.id false)
    (hlog : s'.editLog = s.editLog ++ answers ++ s.editRequests.map fun q => .called q.id false)
    (hsets : s'.sets = []) (hedits : s'.edits = []) (hreqs : s'.editRequests = [])
    (hnext : s'.nextEdit = s.nextEdit) (hitem : s.nextItem ≤ s'.nextItem) : Accounted s' := by
  have hall : s.editRequests.filter (leaves false) = s.editRequests :=
    List.filter_eq_self.mpr fun _ _ => rfl
  refine h.settle answers hans Bool.noConfusion ?_ hsets hedits ?_ hnext hitem
  · rw [hall]
    exact hlog
  · rw [hreqs]
    exact (List.filter_eq_nil_iff.mpr fun q _ => Bool.false_ne_true).symm

/-- The SET is acknowledged: the requests in it are called with success. -/
theorem Accounted.accept {item : SetItem β} (hsets : s.sets = [item]) :
    Accounted (({ s.answerSet item.id true with editPipelineItem := none, patchedVCard := none }
      : State β).completeEditRequests true) := by
  have hans : ∀ a : EditAction β, a ∈ [.answered item.id true] →
      ∃ item ∈ s.sets, a = .answered item.id true := by simp [hsets]
  have hleaves : leaves true = EditRequest.setInPipeline := rfl
  refine h.settle _ hans (fun _ item' hitem' => ?_) ?_ ?_ rfl ?_ rfl le_rfl
  · rw [hsets, List.mem_singleton] at hitem'
    subst hitem'
    exact List.mem_singleton_self _
  all_goals
    simp [State.completeEditRequests, State.answerSet, hsets, hleaves]

/-- A new edit request. -/
theorem Accounted.addEditRequest (infos : List (EditInfo β)) (bound : Bool) :
    Accounted (s.addEditRequest infos bound) := by
  -- the log grows by this request, which no earlier entry is about
  have hlog : (s.addEditRequest infos bound).editLog =
      s.editLog ++ [EditAction.requested s.nextEdit infos] := rfl
  have hreqs : ∀ q, q ∈ (s.addEditRequest infos bound).editRequests ↔
      q ∈ s.editRequests ∨ q = ⟨s.nextEdit, false, bound⟩ := by
    intro q
    simp [State.addEditRequest]
  have hc : calledEdits (s.addEditRequest infos bound).editLog = calledEdits s.editLog := by
    simp [hlog]
  have hr : removedEdits (s.addEditRequest infos bound).editLog = removedEdits s.editLog := by
    rw [hlog, removedEdits_append]
    simp [removedEdits]
  have hsub : ∀ a ∈ s.editLog, a ∈ (s.addEditRequest infos bound).editLog := fun a ha => by
    simp [hlog, ha]
  have hback : ∀ a, a ∈ (s.addEditRequest infos bound).editLog →
      a ∈ s.editLog ∨ a = EditAction.requested s.nextEdit infos := by
    intro a ha
    simpa [hlog] using ha
  have hsent : ∀ i edits, .sent i edits ∈ (s.addEditRequest infos bound).editLog →
      .sent i edits ∈ s.editLog := fun _ _ hm => (hback _ hm).resolve_right nofun
  have hanswered : ∀ i success,
      .answered i success ∈ (s.addEditRequest infos bound).editLog →
        .answered i success ∈ s.editLog :=
    fun _ _ hm => (hback _ hm).resolve_right nofun
  have hcalled : ∀ q success, .called q success ∈ (s.addEditRequest infos bound).editLog →
      .called q success ∈ s.editLog := fun _ _ hm => (hback _ hm).resolve_right nofun
  have hrequested : ∀ q infos',
      .requested q infos' ∈ (s.addEditRequest infos bound).editLog →
        .requested q infos' ∈ s.editLog ∨ (q = s.nextEdit ∧ infos' = infos) := by
    intro q infos' hm
    refine (hback _ hm).imp id fun heq => ?_
    cases heq
    exact ⟨rfl, rfl⟩
  have hold : ∀ q infos', q < s.nextEdit →
      .requested q infos' ∈ (s.addEditRequest infos bound).editLog →
      .requested q infos' ∈ s.editLog := fun q infos' hq hm =>
    (hrequested q infos' hm).resolve_right fun hf => absurd hf.1 hq.ne
  have hnew : ∀ q, q < s.nextEdit → q < (s.addEditRequest infos bound).nextEdit := fun q hq =>
    hq.trans (Nat.lt_succ_self _)
  constructor
  case setLog =>
    exact h.setLog.grow hsub hsent (fun i success hm => .inl (hanswered i success hm))
      (fun item hitem => ⟨hitem, fun success hm => hanswered _ _ hm⟩) le_rfl (Nat.le_succ _)
  case requestedLt =>
    intro q infos' hm
    rcases hrequested q infos' hm with hm | ⟨rfl, _⟩
    · exact hnew q (h.requestedLt q infos' hm)
    · exact Nat.lt_succ_self _
  case requestedUnique =>
    intro q infos₁ infos₂ hm₁ hm₂
    rcases hrequested q infos₁ hm₁ with hm₁ | ⟨rfl, rfl⟩
    · have hlt := h.requestedLt q infos₁ hm₁
      exact h.requestedUnique q infos₁ infos₂ hm₁ (hold q infos₂ hlt hm₂)
    · rcases hrequested _ infos₂ hm₂ with hm₂ | ⟨_, rfl⟩
      · exact absurd (h.requestedLt _ infos₂ hm₂) (lt_irrefl _)
      · rfl
  case liveNodup =>
    simp only [State.addEditRequest, List.map_append, List.map_cons, List.map_nil]
    refine h.liveNodup.append (List.nodup_singleton _) fun q hq hq' => ?_
    obtain ⟨request, hm, rfl⟩ := List.mem_map.mp hq
    exact absurd (List.mem_singleton.mp hq') (h.liveLt request hm).ne
  case liveLt =>
    intro q hq
    rcases (hreqs q).mp hq with hq | rfl
    · exact hnew _ (h.liveLt q hq)
    · exact Nat.lt_succ_self _
  case account =>
    intro q hq
    rw [hc, hr]
    rcases Nat.lt_succ_iff_lt_or_eq.mp hq with hq | rfl
    · refine (h.account q hq).imp (fun hm => ?_) id
      simp only [State.addEditRequest, List.map_append]
      exact List.mem_append_left _ hm
    · exact .inl (by simp [State.addEditRequest])
  case calledLt =>
    intro q hq
    rw [hc] at hq
    exact hnew q (h.calledLt q hq)
  case calledNodup =>
    rw [hc]
    exact h.calledNodup
  case notCalled =>
    intro q hq
    rw [hc]
    rcases (hreqs q).mp hq with hq | rfl
    · exact h.notCalled q hq
    · exact fun hm => absurd (h.calledLt _ hm) (lt_irrefl _)
  case owner =>
    intro edit he q hq
    rw [hc]
    simp only [State.addEditRequest, List.mem_append, List.mem_map] at he
    rcases he with he | ⟨info, _, rfl⟩
    · obtain ⟨hlt, hnc, hun⟩ := h.owner edit he q hq
      refine ⟨hnew q hlt, hnc, fun request hreq hid => ?_⟩
      rcases (hreqs request).mp hreq with hreq | rfl
      · exact hun request hreq hid
      · rfl
    · cases hq
      refine ⟨Nat.lt_succ_self _, fun hm => absurd (h.calledLt _ hm) (lt_irrefl _),
        fun request hreq hid => ?_⟩
      rcases (hreqs request).mp hreq with hreq | rfl
      · exact absurd hid (h.liveLt request hreq).ne
      · rfl
  case unsent =>
    intro q hq hmark
    rcases (hreqs q).mp hq with hq | rfl
    · obtain ⟨h1, h2⟩ := h.unsent q hq hmark
      refine ⟨fun infos' hm info hi => ?_, fun i edits hm => h2 i edits (hsent _ _ hm)⟩
      exact List.mem_append_left _ (h1 infos' (hold _ infos' (h.liveLt q hq) hm) info hi)
    · refine ⟨fun infos' hm info hi => ?_, fun i edits hm edit he hown => ?_⟩
      · rcases hrequested _ infos' hm with hm | ⟨_, rfl⟩
        · exact absurd (h.requestedLt _ infos' hm) (lt_irrefl _)
        · exact List.mem_append_right _ (List.mem_map.mpr ⟨info, hi, rfl⟩)
      · exact absurd (h.setLog.ownerLt i edits (hsent _ _ hm) edit he _ hown) (lt_irrefl _)
  case sent =>
    intro q hq hmark
    rcases (hreqs q).mp hq with hq | rfl
    · obtain ⟨item, hitem, h1, h2⟩ := h.sent q hq hmark
      exact ⟨item, hitem, fun infos' hm => h1 infos' (hold _ infos' (h.liveLt q hq) hm),
        fun i edits hm => h2 i edits (hsent _ _ hm)⟩
    · cases hmark
  case success =>
    intro q hq infos' hm
    have hq' := hcalled q true hq
    have hlt := h.calledLt q (mem_calledEdits.mpr ⟨true, hq'⟩)
    exact (h.success q hq' infos' (hold q infos' hlt hm)).mono hsub
  case failure =>
    intro q hq i edits hm hown
    obtain ⟨h1, h2⟩ := h.failure q (hcalled q false hq) i edits (hsent _ _ hm) hown
    exact ⟨fun hm' => h1 (hanswered _ _ hm'), h2⟩

/-- An edit request is removed. -/
theorem Accounted.removeEditRequest (q : EditId) :
    Accounted (s.removeEditRequest q) := by
  have hlog : (s.removeEditRequest q).editLog = s.editLog ++ [EditAction.removed q] := rfl
  have hreqs : ∀ request, request ∈ (s.removeEditRequest q).editRequests ↔
      request ∈ s.editRequests ∧ request.id ≠ q := by
    intro request
    simp [State.removeEditRequest]
  have hc : calledEdits (s.removeEditRequest q).editLog = calledEdits s.editLog := by
    simp [hlog]
  obtain ⟨hsub, hsent, hrequested⟩ : LogGrows s.editLog (s.removeEditRequest q).editLog := by
    rw [hlog]
    exact logGrows_append _ (by simp) (by simp)
  have hback : ∀ a, a ∈ (s.removeEditRequest q).editLog →
      a ∈ s.editLog ∨ a = EditAction.removed q := by
    intro a ha
    simpa [hlog] using ha
  have hanswered : ∀ i success, .answered i success ∈ (s.removeEditRequest q).editLog →
      .answered i success ∈ s.editLog := fun _ _ hm => (hback _ hm).resolve_right nofun
  have hcalled : ∀ q' success, .called q' success ∈ (s.removeEditRequest q).editLog →
      .called q' success ∈ s.editLog := fun _ _ hm => (hback _ hm).resolve_right nofun
  constructor
  case setLog =>
    exact h.setLog.grow hsub hsent (fun i success hm => .inl (hanswered i success hm))
      (fun item hitem => ⟨hitem, fun success hm => hanswered _ _ hm⟩) le_rfl le_rfl
  case requestedLt => exact fun q' infos hm => h.requestedLt q' infos (hrequested _ _ hm)
  case requestedUnique =>
    exact fun q' infos infos' hm hm' =>
      h.requestedUnique q' infos infos' (hrequested _ _ hm) (hrequested _ _ hm')
  case liveNodup => exact h.liveNodup.sublist ((List.filter_sublist).map _)
  case liveLt => exact fun request hm => h.liveLt request ((hreqs request).mp hm).1
  case account =>
    intro q' hq'
    rw [hc]
    rcases h.account q' hq' with hm | hm | hm
    · by_cases hqq : q' = q
      · exact .inr (.inr (by simp [hlog, hqq]))
      · obtain ⟨request, hreq, rfl⟩ := List.mem_map.mp hm
        exact .inl (List.mem_map.mpr ⟨request, (hreqs request).mpr ⟨hreq, hqq⟩, rfl⟩)
    · exact .inr (.inl hm)
    · exact .inr (.inr (by simp [hlog, hm]))
  case calledLt =>
    rw [hc]
    exact h.calledLt
  case calledNodup =>
    rw [hc]
    exact h.calledNodup
  case notCalled =>
    intro request hm
    rw [hc]
    exact h.notCalled request ((hreqs request).mp hm).1
  case owner =>
    intro edit he q' hq'
    rw [hc]
    obtain ⟨h1, h2, h3⟩ := h.owner edit he q' hq'
    exact ⟨h1, h2, fun request hm => h3 request ((hreqs request).mp hm).1⟩
  case unsent =>
    intro request hm hmark
    obtain ⟨h1, h2⟩ := h.unsent request ((hreqs request).mp hm).1 hmark
    exact ⟨fun infos hm => h1 infos (hrequested _ _ hm), fun i edits hm => h2 i edits (hsent _ _ hm)⟩
  case sent =>
    intro request hm hmark
    obtain ⟨item, hitem, h1, h2⟩ := h.sent request ((hreqs request).mp hm).1 hmark
    exact ⟨item, hitem, fun infos hm => h1 infos (hrequested _ _ hm),
      fun i edits hm => h2 i edits (hsent _ _ hm)⟩
  case success =>
    intro q' hq' infos hm
    exact (h.success q' (hcalled _ _ hq') infos (hrequested _ _ hm)).mono hsub
  case failure =>
    intro q' hq' i edits hm hown
    obtain ⟨h1, h2⟩ := h.failure q' (hcalled _ _ hq') i edits (hsent _ _ hm) hown
    exact ⟨fun hm' => h1 (hanswered _ _ hm'), h2⟩

/-- Edits that belong to no request may be queued. -/
theorem Accounted.addEdits (edits : List (Edit β))
    (hown : ∀ edit ∈ edits, edit.owner = none) (status : Status) :
    Accounted { s with status := status, edits := s.edits ++ edits } := by
  refine { h with setLog := { h.setLog with }, owner := ?_, unsent := ?_ }
  · intro edit he q hq
    rcases List.mem_append.mp he with he | he
    · exact h.owner edit he q hq
    · rw [hown edit he] at hq
      cases hq
  · intro q hq hmark
    obtain ⟨h1, h2⟩ := h.unsent q hq hmark
    exact ⟨fun infos hm info hi => List.mem_append_left _ (h1 infos hm info hi), h2⟩

end

end

section

variable [DecidableEq β] {s s' : State β}

/-- The edit requests after `manager_patch_vcard` has made the edits. -/
def markAll (requests : List EditRequest) : List EditRequest :=
  requests.map fun q => { q with setInPipeline := true }

/-- The SET of the queued edits is sent. -/
def State.sendEdits (s : State β) (patched : VCard β) : State β :=
  { s with
    edits := []
    editRequests := markAll s.editRequests
    patchedVCard := some patched
    editPipelineItem := some s.nextItem
    sets := s.sets ++ [⟨s.nextItem, s.edits⟩]
    nextItem := s.nextItem + 1
    editLog := s.editLog ++ [.sent s.nextItem s.edits] }

/-- `manager_patch_vcard` by cases. -/
theorem managerPatchVCard_cases (s : State β) (node : VCard β) :
    (s.managerPatchVCard node = s ∧ (s.edits = [] ∨ s.editPipelineItem ≠ none)) ∨
    (s.edits ≠ [] ∧ s.editPipelineItem = none ∧
      (((applyEdits s.conn (s.edits.map Edit.info) node).1 = false ∧ s.managerPatchVCard node =
          { s with edits := [], editRequests := markAll s.editRequests }) ∨
       ((applyEdits s.conn (s.edits.map Edit.info) node).1 = true ∧ s.managerPatchVCard node =
          s.sendEdits (applyEdits s.conn (s.edits.map Edit.info) node).2))) := by
  by_cases hc : s.edits.isEmpty = true ∨ s.editPipelineItem ≠ none
  · refine .inl ⟨?_, hc.imp List.isEmpty_iff.mp id⟩
    unfold State.managerPatchVCard
    rw [if_pos hc]
  · simp only [State.managerPatchVCard, if_neg hc]
    push Not at hc
    refine .inr ⟨by simpa using hc.1, hc.2, ?_⟩
    cases hch : (applyEdits s.conn (s.edits.map Edit.info) node).1 with
    | false => exact .inl ⟨rfl, by simp [markAll]⟩
    | true => exact .inr ⟨rfl, by simp [State.sendEdits, markAll]⟩

omit [DecidableEq β] in
theorem InStep.idle (h : InStep s) (hnone : s.editPipelineItem = none) :
    s.sets = [] ∧ s.patchedVCard = none := by
  rcases h with ⟨_, hsets, hpatched⟩ | ⟨_, _, hsome, _⟩
  · exact ⟨hsets, hpatched⟩
  · rw [hnone] at hsome
    cases hsome

theorem InStep.managerPatchVCard (h : InStep s) (node : VCard β) :
    InStep (s.managerPatchVCard node) := by
  rcases managerPatchVCard_cases s node with ⟨heq, _⟩ | ⟨_, hnone, ⟨_, heq⟩ | ⟨_, heq⟩⟩
  · rwa [heq]
  · rw [heq]
    exact h
  · rw [heq]
    exact .inr ⟨⟨s.nextItem, s.edits⟩, _, rfl, by simp [State.sendEdits, (h.idle hnone).1], rfl⟩

omit [DecidableEq β] in
/-- The history of the SETs when another one is sent. -/
theorem SetLog.send (h : SetLog s) (hsets : s.sets = [])
    (howner : ∀ edit ∈ s.edits, ∀ q, edit.owner = some q → q < s.nextEdit) (patched : VCard β) :
    SetLog (s.sendEdits patched) := by
  unfold State.sendEdits
  have hsent : ∀ i edits,
      .sent i edits ∈ s.editLog ++ [EditAction.sent s.nextItem s.edits] →
        .sent i edits ∈ s.editLog ∨ (i = s.nextItem ∧ edits = s.edits) := by
    intro i edits hm
    simpa using hm
  have hanswered : ∀ i success,
      .answered i success ∈ s.editLog ++ [EditAction.sent s.nextItem s.edits] →
        .answered i success ∈ s.editLog := by
    intro i success hm
    simpa using hm
  have hfresh : ∀ i edits, .sent i edits ∈ s.editLog → i ≠ s.nextItem :=
    fun i edits hm => (h.sentLt i edits hm).ne
  refine ⟨fun item hitem => ?_, fun i edits hm => ?_, fun i edits edits' hm hm' => ?_,
    fun i success hm => ?_, fun i edits hm edit he q hq => ?_⟩
  · obtain rfl : item = ⟨s.nextItem, s.edits⟩ := by simpa [hsets] using hitem
    refine ⟨List.mem_append_right _ List.mem_cons_self, fun success hm => ?_⟩
    obtain ⟨edits, he⟩ := h.answeredSent _ success (hanswered _ _ hm)
    exact hfresh _ edits he rfl
  · rcases hsent i edits hm with hm | ⟨rfl, _⟩
    · exact (h.sentLt i edits hm).trans (Nat.lt_succ_self _)
    · exact Nat.lt_succ_self _
  · rcases hsent i edits hm with hm | ⟨rfl, rfl⟩ <;> rcases hsent _ edits' hm' with hm' | ⟨hi, he⟩
    · exact h.sentUnique i edits edits' hm hm'
    · exact absurd hi (hfresh i edits hm)
    · exact absurd rfl (hfresh _ edits' hm')
    · exact he.symm
  · obtain ⟨edits, he⟩ := h.answeredSent i success (hanswered _ _ hm)
    exact ⟨edits, List.mem_append_left _ he⟩
  · rcases hsent i edits hm with hm | ⟨_, rfl⟩
    · exact h.ownerLt i edits hm edit he q hq
    · exact howner edit he q hq

omit [DecidableEq β] in
/-- The queued edits are sent: their requests wait for the new SET. -/
theorem Accounted.send (h : Accounted s) (hsets : s.sets = [])
    (hmark : ∀ q ∈ s.editRequests, q.setInPipeline = false) (patched : VCard β) :
    Accounted (s.sendEdits patched) := by
  unfold State.sendEdits
  set log := s.editLog ++ [EditAction.sent s.nextItem s.edits] with hlog
  have hback : ∀ a, a ∈ log → a ∈ s.editLog ∨ a = EditAction.sent s.nextItem s.edits := by
    intro a ha
    simpa [hlog] using ha
  have hsub : ∀ a ∈ s.editLog, a ∈ log := fun a ha => List.mem_append_left _ ha
  have hsent : ∀ i edits, .sent i edits ∈ log →
      .sent i edits ∈ s.editLog ∨ (i = s.nextItem ∧ edits = s.edits) := by
    intro i edits hm
    refine (hback _ hm).imp id fun heq => ?_
    cases heq
    exact ⟨rfl, rfl⟩
  have hanswered : ∀ i success, .answered i success ∈ log →
      .answered i success ∈ s.editLog := fun _ _ hm => (hback _ hm).resolve_right nofun
  have hrequested : ∀ q infos, .requested q infos ∈ log →
      .requested q infos ∈ s.editLog := fun _ _ hm => (hback _ hm).resolve_right nofun
  have hcalled : ∀ q success, .called q success ∈ log →
      .called q success ∈ s.editLog := fun _ _ hm => (hback _ hm).resolve_right nofun
  have hc : calledEdits log = calledEdits s.editLog := by simp [hlog]
  have hr : removedEdits log = removedEdits s.editLog := by
    rw [hlog, removedEdits_append]
    simp [removedEdits]
  have hids : (markAll s.editRequests).map EditRequest.id = s.editRequests.map EditRequest.id := by
    simp [markAll]
  have hmem : ∀ q ∈ markAll s.editRequests, ∃ q₀ ∈ s.editRequests, q.id = q₀.id ∧
      q.setInPipeline = true := by
    intro q hq
    obtain ⟨q₀, hq₀, rfl⟩ := List.mem_map.mp hq
    exact ⟨q₀, hq₀, rfl, rfl⟩
  have hone : ∀ item, item ∈ s.sets ++ [⟨s.nextItem, s.edits⟩] → item = ⟨s.nextItem, s.edits⟩ := by
    intro item hitem
    simpa [hsets] using hitem
  have hfresh : ∀ i edits, .sent i edits ∈ s.editLog → i ≠ s.nextItem :=
    fun i edits hm => (h.setLog.sentLt i edits hm).ne
  refine {
    setLog := h.setLog.send hsets (fun edit he q hq => (h.owner edit he q hq).1) patched
    requestedLt := ?requestedLt, requestedUnique := ?requestedUnique,
    liveNodup := ?liveNodup, liveLt := ?liveLt, account := ?account, calledLt := ?calledLt,
    calledNodup := ?calledNodup, notCalled := ?notCalled, owner := ?owner, unsent := ?unsent,
    sent := ?sent, success := ?succeeds, failure := ?fails }
  case requestedLt => exact fun q infos hm => h.requestedLt q infos (hrequested _ _ hm)
  case requestedUnique =>
    exact fun q infos infos' hm hm' =>
      h.requestedUnique q infos infos' (hrequested _ _ hm) (hrequested _ _ hm')
  case liveNodup =>
    rw [hids]
    exact h.liveNodup
  case liveLt =>
    intro q hq
    obtain ⟨q₀, hq₀, hid, _⟩ := hmem q hq
    rw [hid]
    exact h.liveLt q₀ hq₀
  case account =>
    rw [hids, hc, hr]
    exact h.account
  case calledLt =>
    rw [hc]
    exact h.calledLt
  case calledNodup =>
    rw [hc]
    exact h.calledNodup
  case notCalled =>
    intro q hq
    obtain ⟨q₀, hq₀, hid, _⟩ := hmem q hq
    rw [hc, hid]
    exact h.notCalled q₀ hq₀
  case owner =>
    intro edit he
    cases he
  case unsent =>
    intro q hq hun
    obtain ⟨_, _, _, hmarked⟩ := hmem q hq
    rw [hun] at hmarked
    cases hmarked
  case sent =>
    intro q hq _
    obtain ⟨q₀, hq₀, hid, _⟩ := hmem q hq
    obtain ⟨h1, h2⟩ := h.unsent q₀ hq₀ (hmark q₀ hq₀)
    rw [hid]
    refine ⟨⟨s.nextItem, s.edits⟩, List.mem_append_right _ List.mem_cons_self,
      fun infos hm => h1 infos (hrequested _ _ hm), fun i edits hm ⟨edit, he, hown⟩ => ?_⟩
    rcases hsent i edits hm with hm | ⟨rfl, _⟩
    · exact absurd hown (h2 i edits hm edit he)
    · rfl
  case succeeds =>
    intro q hq infos hm
    exact (h.success q (hcalled _ _ hq) infos (hrequested _ _ hm)).mono hsub
  case fails =>
    intro q hq i edits hm hown
    have hq' := hcalled _ _ hq
    rcases hsent i edits hm with hm | ⟨_, rfl⟩
    · obtain ⟨h1, _⟩ := h.failure q hq' i edits hm hown
      refine ⟨fun hm' => h1 (hanswered _ _ hm'), fun item hitem => ?_⟩
      rw [hone item hitem]
      exact (hfresh i edits hm).symm
    · -- a request that was called has no edits in the queue
      obtain ⟨edit, he, ho⟩ := hown
      exact absurd (mem_calledEdits.mpr ⟨false, hq'⟩) (h.owner edit he q ho).2.1

/-- The queued edits are made.  When they change something there is a SET now, and
when they do not there must be no request for them. -/
theorem Accounted.managerPatchVCard (h : Accounted s) (hstep : InStep s) (node : VCard β)
    (hmark : s.editPipelineItem = none → ∀ q ∈ s.editRequests, q.setInPipeline = false)
    (hchange : s.editPipelineItem = none → Unsent s → s.edits ≠ [] →
      (applyEdits s.conn (s.edits.map Edit.info) node).1 = true) :
    Accounted (s.managerPatchVCard node) := by
  rcases managerPatchVCard_cases s node with ⟨heq, _⟩ | ⟨hne, hnone, ⟨hch, heq⟩ | ⟨_, heq⟩⟩
  · rw [heq]
    exact h
  · have hreqs : s.editRequests = [] := by
      refine List.eq_nil_iff_forall_not_mem.mpr fun q hq => ?_
      rw [hchange hnone ⟨q, hq, hmark hnone q hq⟩ hne] at hch
      cases hch
    rw [heq]
    refine { h with
      setLog := { h.setLog with }, liveNodup := by simp [markAll, hreqs]
      liveLt := by simp [markAll, hreqs], account := ?_, notCalled := by simp [markAll, hreqs]
      owner := by simp, unsent := by simp [markAll, hreqs], sent := by simp [markAll, hreqs] }
    intro q hq
    have := h.account q hq
    rw [hreqs] at this
    exact this.imp (by simp) id
  · rw [heq]
    exact h.send (hstep.idle hnone).1 (hmark hnone) _

/-- Afterwards every request is in the SET, or there was no edit to make. -/
theorem managerPatchVCard_waiting (node : VCard β)
    (hqueued : s.editPipelineItem = none → Unsent s → s.edits ≠ [])
    (hun : Unsent (s.managerPatchVCard node)) :
    (s.managerPatchVCard node).editPipelineItem ≠ none := by
  have hmarked : ∀ q ∈ markAll s.editRequests, q.setInPipeline ≠ false := by
    simp [markAll]
  rcases managerPatchVCard_cases s node with ⟨heq, hcase⟩ | ⟨_, _, ⟨_, heq⟩ | ⟨_, heq⟩⟩
  · rw [heq] at hun ⊢
    exact fun hnone => (hcase.resolve_right fun hne => hne hnone) |> hqueued hnone hun
  · rw [heq] at hun
    obtain ⟨q, hq, hmark⟩ := hun
    exact absurd hmark (hmarked q hq)
  · rw [heq]
    exact nofun

end

end VCardManager
