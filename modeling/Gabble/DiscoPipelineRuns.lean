/-
# One end for every pipeline

A pipeline asks every item at most once, a few at a time, and ends once, when all it
asked is over; and it can be destroyed at any time.  This is so as long as every info
request is sent: one that is not stays in the pipeline, which then neither ends nor
can be destroyed.
-/
import Mathlib.Data.List.Perm.Basic
import Gabble.DiscoPipelineFill

namespace Disco

open Base64 (Bytes)
open Transition

variable {find : List Bytes → ℕ} {s s' : State} {server : Bytes}
variable {r : Request} {id : ℕ} {out : List Out}

/-! ## What a pipeline is for -/

/-- The items that were asked. -/
def asked (out : List Out) : List Bytes :=
  out.filterMap fun
    | .asked jid => some jid
    | _ => none

/-- The end is called once, before the pipeline is destroyed, and when every request is
over. -/
def EndsRight (out : List Out) : Prop :=
  ∀ before after, out = before ++ .ended :: after →
    .ended ∉ before ∧ .destroyed ∉ before ∧ ∀ jid, .asked jid ∈ before → .answered jid ∈ before

/-- What is right about a pipeline after any run. -/
structure Right (find : List Bytes → ℕ) (s : State) : Prop where
  asked_once : (asked s.out).Nodup
  in_progress : (s.requests.filter (·.type = .info)).length ≤ discoPipelineSize
  ends_right : EndsRight s.out
  ended : s.freed = false → s.requests = [] → .ended ∈ s.out ∧ s.remainingItems = []
  destroy_returns : s.freed = false → ∃ rounds, (pipelineDestroy find rounds s).isSome

/-- The condition on one event: every info request is sent. -/
def Within (s : State) : Event → Prop
  | .reply id answer sends =>
    ∀ r ∈ findRequest id s, ∀ sent ∈ sends.take (toSend (prepare r answer s)), sent = true
  | .timeout id sends =>
    ∀ r ∈ findRequest id s, ∀ sent ∈ sends.take (toSend (prepare r .error s)), sent = true
  | .destroy => True

instance (s : State) : (e : Event) → Decidable (Within s e)
  | .reply id _ _ => inferInstanceAs (Decidable (∀ r ∈ findRequest id s, ∀ sent ∈ _, _ = _))
  | .timeout id _ => inferInstanceAs (Decidable (∀ r ∈ findRequest id s, ∀ sent ∈ _, _ = _))
  | .destroy => .isTrue trivial

/-! ## The log -/

theorem asked_append (out out' : List Out) : asked (out ++ out') = asked out ++ asked out' :=
  List.filterMap_append

theorem asked_map_asked (requests : List Request) :
    asked (requests.map fun r => .asked r.jid) = requests.map Request.jid := by
  induction requests with
  | nil => rfl
  | cons r requests ih => exact congrArg (r.jid :: ·) ih

theorem mem_asked {jid : Bytes} : jid ∈ asked out ↔ Out.asked jid ∈ out := by
  rw [asked, List.mem_filterMap]
  constructor
  · rintro ⟨o, ho, heq⟩
    cases o <;> simp at heq
    exact heq ▸ ho
  · exact fun h => ⟨_, h, rfl⟩

theorem endsRight_nil : EndsRight [] := by
  intro before after h
  simp at h

/-- What is not the end can follow. -/
theorem EndsRight.snoc {o : Out} (h : EndsRight out) (ho : o ≠ .ended) :
    EndsRight (out ++ [o]) := by
  intro before after heq
  rcases List.eq_nil_or_concat' after with rfl | ⟨after', last, rfl⟩
  · exact absurd (List.append_inj_right' heq rfl) (by simpa using ho)
  · rw [← List.cons_append, ← List.append_assoc] at heq
    exact h before after' (List.append_inj_left' heq rfl)

theorem EndsRight.append (h : EndsRight out) (outs : List Out)
    (houts : ∀ o ∈ outs, o ≠ .ended) : EndsRight (out ++ outs) := by
  induction outs generalizing out with
  | nil => rwa [List.append_nil]
  | cons o outs ih =>
    rw [List.forall_mem_cons] at houts
    rw [List.append_cons]
    exact ih (h.snoc houts.1) houts.2

/-- The end can follow when all is over. -/
theorem endsRight_end (hended : Out.ended ∉ out) (hdestroyed : Out.destroyed ∉ out)
    (hover : ∀ jid, Out.asked jid ∈ out → Out.answered jid ∈ out) :
    EndsRight (out ++ [Out.ended]) := by
  intro before after heq
  rcases List.eq_nil_or_concat' after with rfl | ⟨after', last, rfl⟩
  · obtain ⟨rfl, -⟩ := List.append_inj' heq rfl
    exact ⟨hended, hdestroyed, hover⟩
  · rw [← List.cons_append, ← List.append_assoc] at heq
    have hmem : Out.ended ∈ out := by
      rw [List.append_inj_left' heq rfl]
      exact List.mem_append_right _ List.mem_cons_self
    exact absurd hmem hended

/-! ## What holds of a pipeline -/

/-- The pipeline holds the info requests in progress, and nothing else. -/
structure InProgress (s : State) : Prop where
  ids : (s.requests.map Request.id).Nodup
  fresh : ∀ r ∈ s.requests, r.id < s.next
  type : ∀ r ∈ s.requests, r.type = .info
  pipeline : s.discoPipeline.Perm (s.requests.map fun r => some r.id)

/-- What was asked is over or in progress, and is asked no more. -/
structure Logged (s : State) : Prop where
  items : (asked s.out ++ s.remainingItems).Nodup
  answered : ∀ jid, .asked jid ∈ s.out → .answered jid ∈ s.out ∨ ∃ r ∈ s.requests, r.jid = jid
  ends : EndsRight s.out

/-- The items are not known yet. -/
structure Listing (s : State) : Prop where
  running : s.running = true
  freed : s.freed = false
  request : ∃ id jid, s.requests = [⟨id, .items, jid⟩] ∧ s.listRequest = some id ∧ id < s.next
  pipeline : s.discoPipeline = []
  items : s.remainingItems = []
  out : s.out = []

/-- A pipeline that runs and has its items. -/
structure Filling (s : State) : Prop where
  running : s.running = true
  freed : s.freed = false
  listed : s.listRequest = none
  size : s.discoPipeline.length ≤ discoPipelineSize
  inProgress : InProgress s
  logged : Logged s
  not_ended : .ended ∉ s.out
  not_destroyed : .destroyed ∉ s.out

/-- A pipeline that has ended or was destroyed. -/
structure Over (s : State) : Prop where
  stopped : s.running = false
  listed : s.listRequest = none
  requests : s.requests = []
  pipeline : s.discoPipeline = []
  asked : (asked s.out).Nodup
  ends : EndsRight s.out
  ended : s.freed = false → .ended ∈ s.out ∧ s.remainingItems = []

/-- A pipeline after any run. -/
inductive Inv (s : State) : Prop where
  | listing (h : Listing s) : Inv s
  | filling (h : Filling s) (hbusy : s.discoPipeline ≠ []) : Inv s
  | gone (h : Over s) : Inv s

theorem listing_run : Listing (.run server) where
  running := rfl
  freed := rfl
  request := ⟨0, server, rfl, rfl, Nat.one_pos⟩
  pipeline := rfl
  items := rfl
  out := rfl

/-! ## Filling a pipeline -/

/-- What the loop adds is in progress. -/
theorem InProgress.fill {rounds : ℕ} {new : List Request} (h : InProgress s)
    (hf : Filled rounds s s' new) : InProgress s' where
  ids := by
    rw [hf.requests, List.map_append, List.map_reverse, hf.ids, List.nodup_append']
    refine ⟨List.nodup_reverse.mpr List.nodup_range', h.ids, fun id hnew hold => ?_⟩
    obtain ⟨r, hr, rfl⟩ := List.mem_map.mp hold
    have hle := (List.mem_range'_1.mp (List.mem_reverse.mp hnew)).1
    exact absurd (h.fresh r hr) (Nat.not_lt.mpr hle)
  fresh r hr := by
    rw [hf.requests] at hr
    rw [hf.next]
    rcases List.mem_append.mp hr with hr | hr
    · have hid : r.id ∈ new.map Request.id := List.mem_map_of_mem (List.mem_reverse.mp hr)
      rw [hf.ids] at hid
      exact (List.mem_range'_1.mp hid).2
    · exact Nat.lt_add_right _ (h.fresh r hr)
  type r hr := by
    rw [hf.requests] at hr
    exact (List.mem_append.mp hr).elim (fun hr => hf.type r (List.mem_reverse.mp hr)) (h.type r)
  pipeline := by
    rw [hf.pipeline, hf.requests, List.map_append, List.map_reverse]
    exact (List.perm_append_comm.trans
      ((List.reverse_perm _).symm.append h.pipeline))

/-- What the loop asks was not asked before. -/
theorem Logged.fill {rounds : ℕ} {new : List Request} (h : Logged s)
    (hf : Filled rounds s s' new) : Logged s' where
  items := by
    rw [hf.out, asked_append, asked_map_asked, List.append_assoc]
    exact (hf.items.append_left _).nodup_iff.mp h.items
  answered jid hjid := by
    rw [hf.out] at hjid
    rw [hf.out, hf.requests]
    rcases List.mem_append.mp hjid with hjid | hjid
    · refine (h.answered jid hjid).imp (List.mem_append_left _) ?_
      rintro ⟨r, hr, hjid⟩
      exact ⟨r, List.mem_append_right _ hr, hjid⟩
    · obtain ⟨r, hr, heq⟩ := List.mem_map.mp hjid
      cases heq
      exact .inr ⟨r, List.mem_append_left _ (List.mem_reverse.mpr hr), rfl⟩
  ends := by
    rw [hf.out]
    refine h.ends.append _ fun o ho => ?_
    obtain ⟨r, -, rfl⟩ := List.mem_map.mp ho
    exact nofun

/-- Asking is neither the end nor the destruction. -/
theorem Filled.not_mem {rounds : ℕ} {new : List Request} (hf : Filled rounds s s' new) {o : Out}
    (ho : o ∉ s.out) (hne : ∀ jid, o ≠ Out.asked jid) : o ∉ s'.out := by
  rw [hf.out, List.mem_append, not_or]
  refine ⟨ho, fun hmem => ?_⟩
  obtain ⟨r, -, heq⟩ := List.mem_map.mp hmem
  exact hne r.jid heq.symm

/-- **Filling.**  A pipeline that runs is filled, and then it has requests in progress,
or it has ended. -/
theorem Filling.fillPipeline (h : Filling s) {sends : List Bool}
    (hsends : ∀ sent ∈ sends.take (toSend s), sent = true) :
    Inv (fillPipeline find sends s) := by
  obtain ⟨new, hf⟩ := @fillLoop_filled find _ sends s hsends
  obtain ⟨hrunning, hlisted, hfreed⟩ :=
    @fillLoop_frame find (discoPipelineSize - s.discoPipeline.length) sends s
  rw [Disco.fillPipeline, h.running, Bool.not_true, if_neg Bool.false_ne_true, endIfEmpty]
  generalize fillLoop find (discoPipelineSize - s.discoPipeline.length) sends s = s' at *
  have hlength : s'.discoPipeline.length = s.discoPipeline.length + new.length := by
    rw [hf.pipeline, List.length_append, List.length_map]
  have hsize := h.size
  have hroom := hf.length
  split
  next hempty =>
    have hnew : new.length ≠ discoPipelineSize - s.discoPipeline.length := by
      unfold discoPipelineSize
      omega
    have hprogress := h.inProgress.fill hf
    have hlogged := h.logged.fill hf
    have hpipeline : s'.discoPipeline = [] := List.length_eq_zero_iff.mp hempty
    have hrequests : s'.requests = [] := by
      have hperm := hprogress.pipeline
      rw [hpipeline] at hperm
      exact List.map_eq_nil_iff.mp hperm.nil_eq.symm
    refine .gone ⟨rfl, hlisted.trans h.listed, hrequests, hpipeline, ?_, ?_, fun _ => ⟨?_, ?_⟩⟩
    · rw [asked_append]
      exact (List.append_nil (asked s'.out)).symm ▸ (List.nodup_append.mp hlogged.items).1
    · refine endsRight_end (hf.not_mem h.not_ended (by rintro _ ⟨⟩))
        (hf.not_mem h.not_destroyed (by rintro _ ⟨⟩)) ?_
      intro jid hjid
      refine (hlogged.answered jid hjid).resolve_right ?_
      rintro ⟨r, hr, -⟩
      rw [hrequests] at hr
      cases hr
    · exact List.mem_append_right _ (List.mem_singleton.mpr rfl)
    · exact hf.done.resolve_left hnew
  next hbusy =>
    refine .filling ⟨hrunning.trans h.running, hfreed.trans h.freed, hlisted.trans h.listed, ?_,
      h.inProgress.fill hf, h.logged.fill hf, hf.not_mem h.not_ended (by rintro _ ⟨⟩),
      hf.not_mem h.not_destroyed (by rintro _ ⟨⟩)⟩ fun hnil => hbusy (by rw [hnil]; rfl)
    omega

/-! ## Requests that are over -/

theorem deleteRequest_fillRound (jid : Bytes) (sent : Bool) (hid : id < s.next) :
    deleteRequest id (fillRound jid sent s) = fillRound jid sent (deleteRequest id s) ∧
      id < (fillRound jid sent s).next := by
  cases sent with
  | false => exact ⟨rfl, hid⟩
  | true =>
    have hne : s.next ≠ id := Nat.ne_of_gt hid
    refine ⟨?_, Nat.lt_succ_of_lt hid⟩
    simp [deleteRequest, fillRound, request, hne]

theorem deleteRequest_fillLoop (rounds : ℕ) (sends : List Bool) (hid : id < s.next) :
    deleteRequest id (fillLoop find rounds sends s) =
      fillLoop find rounds sends (deleteRequest id s) := by
  induction rounds generalizing sends s with
  | zero => rfl
  | succ rounds ih =>
    have hsame : (deleteRequest id s).remainingItems = s.remainingItems := rfl
    rw [fillLoop, fillLoop, hsame]
    cases hashTableFind find s.remainingItems with
    | none => rfl
    | some jid =>
      obtain ⟨hcomm, hid'⟩ := deleteRequest_fillRound jid (sends.headD true) hid
      exact (ih sends.tail hid').trans (by rw [hcomm])

theorem deleteRequest_endIfEmpty (id : ℕ) (s : State) :
    deleteRequest id (endIfEmpty s) = endIfEmpty (deleteRequest id s) :=
  apply_ite (deleteRequest id) _ _ _

/-- A request is deleted after its callback has filled the pipeline, which is the same
as before it. -/
theorem deleteRequest_fillPipeline (sends : List Bool) (hid : id < s.next) :
    deleteRequest id (fillPipeline find sends s) =
      fillPipeline find sends (deleteRequest id s) := by
  rw [fillPipeline, apply_ite (deleteRequest id), deleteRequest_endIfEmpty,
    deleteRequest_fillLoop _ _ hid]
  rfl

theorem mem_of_findRequest (hfind : findRequest id s = some r) :
    r ∈ s.requests ∧ r.id = id := by
  have hid := List.find?_some hfind
  exact ⟨List.mem_of_find?_eq_some hfind, by simpa using hid⟩

/-- An info request is over. -/
theorem InProgress.finish (h : InProgress s) (hr : r ∈ s.requests)
    (answer : Answer) : InProgress (deleteRequest r.id (itemInfo r answer s)) where
  ids := h.ids.sublist ((List.filter_sublist).map _)
  fresh r' hr' := h.fresh r' (List.mem_of_mem_filter hr')
  type r' hr' := h.type r' (List.mem_of_mem_filter hr')
  pipeline := by
    have hmem : some r.id ∈ s.discoPipeline := h.pipeline.mem_iff.mpr (List.mem_map_of_mem hr)
    have hrest := (cons_filter_perm Request.id h.ids hr).map fun r => some r.id
    exact ((cons_removeFast_perm hmem).trans (h.pipeline.trans hrest.symm)).cons_inv

/-- The log of an info request that is over. -/
theorem answered_logged (r : Request) (answer : Answer) :
    ∀ o ∈ Out.answered r.jid :: ((itemOf r.jid answer).map Out.found).toList,
      o ≠ .ended ∧ o ≠ .destroyed ∧ ∀ jid, o ≠ .asked jid := by
  intro o ho
  rcases List.mem_cons.mp ho with rfl | ho
  · exact ⟨nofun, nofun, nofun⟩
  · obtain ⟨item, -, rfl⟩ := Option.map_eq_some_iff.mp (Option.mem_toList.mp ho)
    exact ⟨nofun, nofun, nofun⟩

theorem asked_of_not_mem (h : ∀ o ∈ out, ∀ jid, o ≠ .asked jid) :
    asked out = [] := by
  refine List.eq_nil_iff_forall_not_mem.mpr fun jid hjid => ?_
  exact h _ (mem_asked.mp hjid) jid rfl

theorem Logged.finish (h : Logged s) (hprogress : InProgress s)
    (hr : r ∈ s.requests) (answer : Answer) :
    Logged (deleteRequest r.id (itemInfo r answer s)) where
  items := by
    change (asked (s.out ++ _) ++ s.remainingItems).Nodup
    rw [asked_append, asked_of_not_mem fun o ho => (answered_logged r answer o ho).2.2,
      List.append_nil]
    exact h.items
  answered jid hjid := by
    have hjid' : Out.asked jid ∈ s.out := by
      refine (List.mem_append.mp hjid).resolve_right fun hmem => ?_
      exact (answered_logged r answer _ hmem).2.2 jid rfl
    rcases h.answered jid hjid' with hdone | ⟨r', hr', rfl⟩
    · exact .inl (List.mem_append_left _ hdone)
    · by_cases hid : r'.id = r.id
      · obtain rfl := List.inj_on_of_nodup_map hprogress.ids hr' hr hid
        exact .inl (List.mem_append_right _ List.mem_cons_self)
      · exact .inr ⟨r', List.mem_filter.mpr ⟨hr', decide_eq_true hid⟩, rfl⟩
  ends := h.ends.append _ fun o ho => (answered_logged r answer o ho).1

/-- An info request of a pipeline that runs is over. -/
theorem Filling.finish (h : Filling s) (hr : r ∈ s.requests) (answer : Answer) :
    Filling (deleteRequest r.id (itemInfo r answer s)) where
  running := h.running
  freed := h.freed
  listed := h.listed
  size := by
    have hmem := h.inProgress.pipeline.mem_iff.mpr (List.mem_map_of_mem hr)
    have hlength := (cons_removeFast_perm hmem).length_eq
    rw [List.length_cons] at hlength
    exact Nat.le_of_succ_le (hlength.trans_le h.size)
  inProgress := h.inProgress.finish hr answer
  logged := h.logged.finish h.inProgress hr answer
  not_ended := by
    refine fun hmem => h.not_ended ((List.mem_append.mp hmem).resolve_right fun hmem' => ?_)
    exact (answered_logged r answer _ hmem').1 rfl
  not_destroyed := by
    refine fun hmem => h.not_destroyed ((List.mem_append.mp hmem).resolve_right fun hmem' => ?_)
    exact (answered_logged r answer _ hmem').2.1 rfl

theorem nodup_addItems (jids : List (Option Bytes)) {remaining : List Bytes}
    (h : remaining.Nodup) : (addItems jids remaining).Nodup := by
  induction jids generalizing remaining with
  | nil => exact h
  | cons jid jids ih =>
    cases jid with
    | none => exact ih h
    | some jid =>
      refine ih ?_
      split
      · exact h
      next hnot => exact List.concat_eq_append ▸ h.concat hnot

/-- The items are known, or that they are not to be had. -/
theorem Listing.finish (h : Listing s) (hr : r ∈ s.requests) (answer : Answer) :
    Filling (deleteRequest r.id (prepare r answer s)) := by
  obtain ⟨id, jid, hrequests, hlist, hid⟩ := h.request
  rw [hrequests, List.mem_singleton] at hr
  subst hr
  have hnone : s.requests.filter (·.id ≠ id) = [] := by
    rw [hrequests]
    simp
  have hitems (remaining : List Bytes) (hnodup : remaining.Nodup) :
      Filling { s with listRequest := none, remainingItems := remaining, requests := [] } := {
    running := h.running
    freed := h.freed
    listed := rfl
    size := by
      rw [h.pipeline]
      exact Nat.zero_le _
    inProgress := {
      ids := List.nodup_nil
      fresh := nofun
      type := nofun
      pipeline := by
        rw [h.pipeline]
        exact List.Perm.refl _ }
    logged := {
      items := by
        rw [h.out]
        exact hnodup
      answered := by
        rw [h.out]
        exact nofun
      ends := by
        rw [h.out]
        exact endsRight_nil }
    not_ended := by
      rw [h.out]
      exact nofun
    not_destroyed := by
      rw [h.out]
      exact nofun }
  unfold prepare discoItems deleteRequest
  dsimp only
  rw [h.items]
  cases answer with
  | items jids =>
    dsimp only
    rw [hnone]
    exact hitems _ (nodup_addItems jids List.nodup_nil)
  | error =>
    dsimp only
    rw [hnone]
    exact hitems _ List.nodup_nil
  | info identity children =>
    dsimp only
    rw [hnone]
    exact hitems _ List.nodup_nil

/-- A pipeline with requests runs, and its requests have numbers that were given. -/
theorem Inv.of_find (h : Inv s) (hfind : findRequest id s = some r) :
    s.running = true ∧ s.freed = false ∧ id < s.next := by
  obtain ⟨hr, rfl⟩ := mem_of_findRequest hfind
  cases h with
  | listing h =>
    obtain ⟨id, jid, hrequests, -, hid⟩ := h.request
    rw [hrequests, List.mem_singleton] at hr
    subst hr
    exact ⟨h.running, h.freed, hid⟩
  | filling h => exact ⟨h.running, h.freed, h.inProgress.fresh r hr⟩
  | gone h =>
    rw [h.requests] at hr
    cases hr

/-- The state in which the callback of a request fills the pipeline. -/
theorem Inv.finish (h : Inv s) (hfind : findRequest id s = some r)
    (answer : Answer) : Filling (deleteRequest id (prepare r answer s)) := by
  obtain ⟨hr, rfl⟩ := mem_of_findRequest hfind
  cases h with
  | listing h => exact h.finish hr answer
  | filling h =>
    have htype := h.inProgress.type r hr
    rw [prepare, htype]
    exact h.finish hr answer
  | gone h =>
    rw [h.requests] at hr
    cases hr

theorem deleteRequest_callback (h : Inv s)
    (hfind : findRequest id s = some r) (answer : Answer) (sends : List Bool) :
    deleteRequest id (callback find r answer sends s) =
      fillPipeline find sends (deleteRequest id (prepare r answer s)) := by
  refine deleteRequest_fillPipeline sends ?_
  have hnext : (prepare r answer s).next = s.next := by
    unfold prepare discoItems itemInfo
    split
    · split <;> rfl
    · rfl
  rw [hnext]
  exact (h.of_find hfind).2.2

/-- A request is over, and what is sent then is sent. -/
theorem Inv.callback (h : Inv s) (hfind : findRequest id s = some r)
    {answer : Answer} {sends : List Bool}
    (hsends : ∀ sent ∈ sends.take (toSend (prepare r answer s)), sent = true) :
    Inv (deleteRequest id (callback find r answer sends s)) := by
  rw [deleteRequest_callback h hfind]
  exact (h.finish hfind answer).fillPipeline hsends

/-- A request is over, and something is not sent. -/
theorem null_of_unsent (h : Inv s) (hfind : findRequest id s = some r)
    {answer : Answer} {sends : List Bool}
    (hsends : ¬ ∀ sent ∈ sends.take (toSend (prepare r answer s)), sent = true) :
    none ∈ (deleteRequest id (callback find r answer sends s)).discoPipeline ∧
      (deleteRequest id (callback find r answer sends s)).freed = false := by
  rw [deleteRequest_callback h hfind]
  have hfilling := h.finish hfind answer
  generalize hs₁ : deleteRequest id (prepare r answer s) = s₁ at hfilling
  have htoSend : toSend (prepare r answer s) = toSend s₁ := by
    rw [← hs₁]
    rfl
  rw [htoSend] at hsends
  push Not at hsends
  have hnull := @mem_fillLoop_of_unsent find _ sends s₁
    (hsends.imp fun sent h => ⟨h.1, Bool.eq_false_iff.mpr h.2⟩)
  rw [fillPipeline, hfilling.running, Bool.not_true, if_neg Bool.false_ne_true, endIfEmpty, if_neg]
  · refine ⟨hnull, (fillLoop_frame _ _ s₁).2.2.trans hfilling.freed⟩
  · exact fun hempty => List.ne_nil_of_mem hnull (List.length_eq_zero_iff.mp hempty)

/-! ## Destroying a pipeline -/

/-- The loop cancels one request after the other. -/
theorem cancelLoop_of_inProgress (rounds : ℕ) (hstop : s.running = false) (h : InProgress s)
    (hlisted : s.listRequest = none) (hends : EndsRight s.out) (hasked : (asked s.out).Nodup)
    (hrounds : s.discoPipeline.length < rounds) :
    ∃ s', cancelLoop find rounds s = some s' ∧ Over { s' with freed := true } := by
  induction rounds generalizing s with
  | zero => exact absurd hrounds (Nat.not_lt_zero _)
  | succ rounds ih =>
    rw [cancelLoop]
    split
    next hnil =>
      have hperm := h.pipeline
      rw [hnil] at hperm
      exact ⟨s, rfl, hstop, hlisted, List.map_eq_nil_iff.mp hperm.nil_eq.symm, hnil, hasked, hends,
        (by rintro ⟨⟩)⟩
    next hcons =>
      have hmem : none ∈ s.discoPipeline := hcons ▸ List.mem_cons_self
      obtain ⟨r, -, heq⟩ := List.mem_map.mp (h.pipeline.mem_iff.mp hmem)
      cases heq
    next id rest hcons =>
      have hmem : some id ∈ s.discoPipeline := hcons ▸ List.mem_cons_self
      obtain ⟨r, hr, heq⟩ := List.mem_map.mp (h.pipeline.mem_iff.mp hmem)
      cases heq
      obtain ⟨r', hfind⟩ : ∃ r', findRequest r.id s = some r' :=
        Option.isSome_iff_exists.mp (List.find?_isSome.mpr ⟨r, hr, decide_eq_true rfl⟩)
      obtain ⟨hr', hid⟩ := mem_of_findRequest hfind
      have hcancel : cancelRequest find r.id s = deleteRequest r'.id (itemInfo r' .error s) := by
        rw [cancelRequest_of_stopped hstop hfind, prepare, h.type r' hr', hid]
      have hlog := answered_logged r' .error
      rw [hcancel]
      refine ih (s := deleteRequest r'.id (itemInfo r' .error s)) hstop (h.finish hr' .error)
        hlisted (hends.append _ fun o ho => (hlog o ho).1) ?_ ?_
      · change (asked (s.out ++ _)).Nodup
        rwa [asked_append, asked_of_not_mem fun o ho => (hlog o ho).2.2, List.append_nil]
      · have hlength := (cons_removeFast_perm (hid ▸ hmem)).length_eq
        rw [List.length_cons] at hlength
        change (removeFast (some r'.id) s.discoPipeline).length < rounds
        omega

/-- A pipeline that is over has nothing in progress. -/
theorem Over.inProgress (h : Over s) : InProgress s where
  ids := by
    rw [h.requests]
    exact List.nodup_nil
  fresh r hr := by
    rw [h.requests] at hr
    cases hr
  type r hr := by
    rw [h.requests] at hr
    cases hr
  pipeline := by
    rw [h.pipeline, h.requests]
    exact List.Perm.refl _

/-- **Destroying** a pipeline returns, whatever it is doing. -/
theorem Inv.pipelineDestroy (h : Inv s) :
    ∃ s', pipelineDestroy find (s.discoPipeline.length + 1) s = some s' ∧ Over s' := by
  have hdestroyed (out : List Out) : asked (out ++ [Out.destroyed]) = asked out := by
    rw [asked_append]
    exact List.append_nil _
  -- the loop, with no list request in the way
  have hloop (hlisted : s.listRequest = none) (hprogress : InProgress s)
      (hends : EndsRight s.out) (hasked : (asked s.out).Nodup) :
      ∃ s', Disco.pipelineDestroy find (s.discoPipeline.length + 1) s = some s' ∧ Over s' := by
    obtain ⟨s', hs', hover⟩ := @cancelLoop_of_inProgress find
      { s with running := false, out := s.out ++ [Out.destroyed] }
      (s.discoPipeline.length + 1) rfl
      ⟨hprogress.ids, hprogress.fresh, hprogress.type, hprogress.pipeline⟩ hlisted
      (hends.snoc (by rintro ⟨⟩)) ((hdestroyed s.out).symm ▸ hasked) (Nat.lt_succ_self _)
    refine ⟨_, ?_, hover⟩
    rw [Disco.pipelineDestroy, beginDestroy]
    dsimp only
    rw [hlisted]
    dsimp only
    rw [hlisted] at hs'
    rw [hs']
    rfl
  cases h with
  | listing h =>
    obtain ⟨id, jid, hrequests, hlist, -⟩ := h.request
    have hfind : findRequest id { s with running := false, out := s.out ++ [Out.destroyed] } =
        some ⟨id, .items, jid⟩ := by
      simp [findRequest, hrequests]
    have hbegin : beginDestroy find s =
        { s with
          running := false, discoPipeline := [], listRequest := none, requests := []
          out := [.destroyed] } := by
      rw [beginDestroy]
      dsimp only
      rw [hlist]
      dsimp only
      rw [cancelRequest_of_stopped rfl (hlist ▸ hfind)]
      simp [deleteRequest, prepare, discoItems, hrequests, h.out, h.pipeline]
    refine ⟨{ s with
      running := false, discoPipeline := [], listRequest := none, requests := []
      out := [.destroyed], freed := true }, ?_, ?_⟩
    · rw [Disco.pipelineDestroy, hbegin, h.pipeline]
      rfl
    · exact ⟨rfl, rfl, rfl, rfl, List.nodup_nil, endsRight_nil.snoc (by rintro ⟨⟩),
        by rintro ⟨⟩⟩
  | filling h =>
    exact hloop h.listed h.inProgress h.logged.ends (List.nodup_append.mp h.logged.items).1
  | gone h => exact hloop h.listed h.inProgress h.ends h.asked

/-! ## Whole runs -/

/-- What holds of a pipeline is what it is for. -/
theorem Inv.right (h : Inv s) : Right find s := by
  have hdestroy (_ : s.freed = false) : ∃ rounds, (Disco.pipelineDestroy find rounds s).isSome := by
    obtain ⟨s', hs', -⟩ := @Inv.pipelineDestroy find s h
    exact ⟨_, Option.isSome_iff_exists.mpr ⟨s', hs'⟩⟩
  cases h with
  | listing h =>
    obtain ⟨id, jid, hrequests, -, -⟩ := h.request
    refine ⟨?_, ?_, ?_, fun _ hnil => ?_, hdestroy⟩
    · rw [h.out]
      exact List.nodup_nil
    · rw [hrequests]
      exact Nat.zero_le _
    · rw [h.out]
      exact endsRight_nil
    · rw [hrequests] at hnil
      cases hnil
  | filling h hbusy =>
    refine ⟨(List.nodup_append.mp h.logged.items).1, ?_, h.logged.ends, fun _ hnil => ?_,
      hdestroy⟩
    · have hlength := h.inProgress.pipeline.length_eq
      rw [List.length_map] at hlength
      exact Nat.le_trans (List.length_filter_le _ _) (hlength ▸ h.size)
    · have hperm := h.inProgress.pipeline
      rw [hnil] at hperm
      exact absurd hperm.eq_nil hbusy
  | gone h =>
    refine ⟨h.asked, ?_, h.ends, fun hfreed _ => h.ended hfreed, hdestroy⟩
    rw [h.requests]
    exact Nat.zero_le _

/-- A request is over: the pipeline stays right exactly if what is sent then is sent. -/
theorem Inv.callback_iff (h : Inv s) (hfind : findRequest id s = some r)
    (answer : Answer) (sends : List Bool) :
    (Right find (deleteRequest id (Disco.callback find r answer sends s)) ↔
        ∀ sent ∈ sends.take (toSend (prepare r answer s)), sent = true) ∧
      ((∀ sent ∈ sends.take (toSend (prepare r answer s)), sent = true) →
        Inv (deleteRequest id (Disco.callback find r answer sends s))) := by
  refine ⟨⟨fun hright => ?_, fun hsends => (h.callback hfind hsends).right⟩,
    fun hsends => h.callback hfind hsends⟩
  by_contra hsends
  obtain ⟨hnull, hfreed⟩ := @null_of_unsent find s r id h hfind answer sends hsends
  obtain ⟨rounds, hreturns⟩ := hright.destroy_returns hfreed
  rw [pipelineDestroy_of_null rounds hnull] at hreturns
  cases hreturns

/-- **One event.**  After it the pipeline is right exactly if what it sends is sent. -/
theorem step_iff (s : State) (e : Event) (s' : State) (h : Inv s) (hstep : step find s e = some s') :
    (Right find s' ↔ Within s e) ∧ (Within s e → Inv s') := by
  cases e with
  | reply id answer sends =>
    cases hstep
    cases hfind : findRequest id s with
    | none =>
      rw [requestReply, hfind]
      have hwithin : Within s (.reply id answer sends) := by
        intro r hr
        rw [hfind] at hr
        cases hr
      exact ⟨iff_of_true h.right hwithin, fun _ => h⟩
    | some r =>
      rw [requestReply, hfind]
      have hwithin : Within s (.reply id answer sends) ↔
          ∀ sent ∈ sends.take (toSend (prepare r answer s)), sent = true := by
        rw [Within, hfind]
        exact ⟨fun hr => hr r rfl, fun hr _ heq => Option.some.inj heq ▸ hr⟩
      rw [hwithin]
      exact h.callback_iff hfind answer sends
  | timeout id sends =>
    obtain ⟨r, hfind, rfl⟩ := Option.map_eq_some_iff.mp hstep
    have hwithin : Within s (.timeout id sends) ↔
        ∀ sent ∈ sends.take (toSend (prepare r .error s)), sent = true := by
      rw [Within, hfind]
      exact ⟨fun hr => hr r rfl, fun hr _ heq => Option.some.inj heq ▸ hr⟩
    rw [hwithin]
    exact h.callback_iff hfind .error sends
  | destroy =>
    rw [step] at hstep
    split at hstep
    · cases hstep
    · obtain ⟨s₁, hs₁, hover⟩ := @Inv.pipelineDestroy find s h
      rw [hs₁] at hstep
      cases hstep
      exact ⟨iff_of_true (Inv.gone hover).right trivial, fun _ => .gone hover⟩

/-- **The pipeline.**  All along a run every item is asked at most once, at most
`DISCO_PIPELINE_SIZE` requests are in progress, the end comes once and at the right
time, and the pipeline can be destroyed, exactly if every info request is sent. -/
theorem right_iff_sent (find : List Bytes → ℕ) (server : Bytes) (events : List Event) (s : State)
    (hrun : run (step find) (.run server) events = some s) :
    (∀ before after s', events = before ++ after →
        run (step find) (.run server) before = some s' → Right find s') ↔
      Admits Within (step find) (.run server) events :=
  forall_run_iff_admits (fun _ h => h.right) step_iff events (.listing listing_run) hrun

/-- Two items, one of them twice and one item without a jid.  The first request times
out, and the second one finds a conference server. -/
def twoItems : List Event :=
  [.reply 0 (.items [some [1], none, some [2], some [1]]) [], .timeout 1 [],
    .reply 2 (.info (some ⟨some [3], some [4], some [5]⟩) [.feature (some [6])]) [],
    .reply 1 .error []]

theorem right_iff_sent_twoItems :
    (∃ s, run (step fun _ => 0) (.run [9]) twoItems = some s ∧
      s.out = [.asked [1], .asked [2], .answered [1], .answered [2],
        .found ⟨[2], [3], [4], [5], [([6], none)]⟩, .ended]) ∧
      ∀ before after s', twoItems = before ++ after →
        run (step fun _ => 0) (.run [9]) before = some s' → Right (fun _ => 0) s' :=
  ⟨⟨_, rfl, rfl⟩, (right_iff_sent (fun _ => 0) [9] twoItems _ rfl).mpr (by decide)⟩

/-- An info request that is not sent because the connection is gone: the pipeline does
not end, and cannot be destroyed. -/
theorem unsent_not_right :
    ¬ ∀ find server events s, run (step find) (.run server) events = some s → Right find s := by
  intro hall
  have hright := hall (fun _ => 0) [9] [.reply 0 (.items [some [1]]) [false]] _ rfl
  have hended := (hright.ended rfl rfl).1
  cases hended

end Disco
