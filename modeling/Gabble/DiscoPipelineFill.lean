/-
# Filling the pipeline

What the refill loop does to a pipeline when its requests are sent, and that a request
that is not sent stays in the pipeline for good, where `gabble_disco_pipeline_destroy`
never gets past it.
-/
import Mathlib.Data.List.Nodup
import Mathlib.Order.Basic
import Gabble.DiscoPipeline

namespace Disco

open Base64 (Bytes)

variable {find : List Bytes → ℕ} {s : State}

/-! ## The array and the table -/

theorem cons_removeFast_perm {α : Type*} [DecidableEq α] {a : α} {l : List α} (h : a ∈ l) :
    (a :: removeFast a l).Perm l := by
  induction l with
  | nil => cases h
  | cons x xs ih =>
    rw [removeFast]
    split
    next heq =>
      subst heq
      cases hlast : xs.getLast? with
      | none => rw [List.getLast?_eq_none_iff.mp hlast]
      | some last =>
        obtain ⟨ys, rfl⟩ := List.getLast?_eq_some_iff.mp hlast
        rw [List.dropLast_concat]
        exact (List.perm_append_singleton last ys).symm.cons x
    next hne =>
      have hmem : a ∈ xs := (List.mem_cons.mp h).resolve_left (Ne.symm hne)
      exact (List.Perm.swap x a _).trans ((ih hmem).cons x)

/-- Removing one element keeps the others. -/
theorem mem_removeFast_of_ne {α : Type*} [DecidableEq α] {a b : α} {l : List α} (h : b ∈ l)
    (hne : b ≠ a) : b ∈ removeFast a l := by
  by_cases ha : a ∈ l
  · exact (List.mem_cons.mp ((cons_removeFast_perm ha).mem_iff.mpr h)).resolve_left hne
  · suffices hid : removeFast a l = l by rwa [hid]
    clear h
    induction l with
    | nil => rfl
    | cons x xs ih =>
      rw [List.mem_cons, not_or] at ha
      rw [removeFast, if_neg (Ne.symm ha.1), ih ha.2]

/-- Taking out the one element with some number. -/
theorem cons_filter_perm {α β : Type*} [DecidableEq β] (f : α → β) {a : α} {l : List α}
    (hnodup : (l.map f).Nodup) (h : a ∈ l) : (a :: l.filter (f · ≠ f a)).Perm l := by
  induction l with
  | nil => cases h
  | cons x xs ih =>
    rw [List.map_cons, List.nodup_cons] at hnodup
    rcases List.mem_cons.mp h with rfl | h
    · have hxs : xs.filter (f · ≠ f a) = xs := by
        refine List.filter_eq_self.mpr fun y hy => decide_eq_true ?_
        exact fun heq => hnodup.1 (heq ▸ List.mem_map_of_mem hy)
      rw [List.filter_cons_of_neg (by simp), hxs]
    · have hne : f x ≠ f a := fun heq => hnodup.1 (heq ▸ List.mem_map_of_mem h)
      rw [List.filter_cons_of_pos (by simpa using hne)]
      exact (List.Perm.swap x a _).trans ((ih hnodup.2 h).cons x)

theorem hashTableFind_eq_none {l : List Bytes} : hashTableFind find l = none ↔ l = [] := by
  cases l with
  | nil => exact iff_of_true rfl rfl
  | cons x xs =>
    refine iff_of_false (fun h => ?_) (List.cons_ne_nil x xs)
    have hle := List.getElem?_eq_none_iff.mp h
    exact absurd (Nat.mod_lt (find (x :: xs)) (Nat.succ_pos xs.length)) (Nat.not_lt.mpr hle)

theorem mem_of_hashTableFind {l : List Bytes} {jid : Bytes} (h : hashTableFind find l = some jid) :
    jid ∈ l := List.mem_of_getElem? h

/-! ## The loop that fills the pipeline -/

theorem fillRound_frame (jid : Bytes) (sent : Bool) (s : State) :
    (fillRound jid sent s).running = s.running ∧
      (fillRound jid sent s).listRequest = s.listRequest ∧
      (fillRound jid sent s).freed = s.freed := by
  cases sent <;> exact ⟨rfl, rfl, rfl⟩

/-- What the loop leaves alone. -/
theorem fillLoop_frame (rounds : ℕ) (sends : List Bool) (s : State) :
    (fillLoop find rounds sends s).running = s.running ∧
      (fillLoop find rounds sends s).listRequest = s.listRequest ∧
      (fillLoop find rounds sends s).freed = s.freed := by
  induction rounds generalizing sends s with
  | zero => exact ⟨rfl, rfl, rfl⟩
  | succ rounds ih =>
    rw [fillLoop]
    split
    · exact ⟨rfl, rfl, rfl⟩
    · obtain ⟨h₁, h₂, h₃⟩ := ih sends.tail _
      obtain ⟨h₁', h₂', h₃'⟩ := fillRound_frame _ _ s
      exact ⟨h₁.trans h₁', h₂.trans h₂', h₃.trans h₃'⟩

/-- The requests a fill has room and items for. -/
def toSend (s : State) : ℕ := min (discoPipelineSize - s.discoPipeline.length) s.remainingItems.length

/-- The new requests of a loop with the numbers from `next` on, one for each item. -/
structure Filled (rounds : ℕ) (s s' : State) (new : List Request) : Prop where
  requests : s'.requests = new.reverse ++ s.requests
  pipeline : s'.discoPipeline = s.discoPipeline ++ new.map fun r => some r.id
  out : s'.out = s.out ++ new.map fun r => .asked r.jid
  next : s'.next = s.next + new.length
  items : s.remainingItems.Perm (new.map Request.jid ++ s'.remainingItems)
  ids : new.map Request.id = List.range' s.next new.length
  type : ∀ r ∈ new, r.type = .info
  length : new.length ≤ rounds
  done : new.length = rounds ∨ s'.remainingItems = []

/-- **The loop**, when what it sends is sent. -/
theorem fillLoop_filled (rounds : ℕ) (sends : List Bool) (s : State)
    (hsends : ∀ sent ∈ sends.take (min rounds s.remainingItems.length), sent = true) :
    ∃ new, Filled rounds s (fillLoop find rounds sends s) new := by
  induction rounds generalizing sends s with
  | zero =>
    exact ⟨[], rfl, (List.append_nil _).symm, (List.append_nil _).symm, rfl, List.Perm.refl _, rfl,
      nofun, Nat.le_refl 0, .inl rfl⟩
  | succ rounds ih =>
    rw [fillLoop]
    cases hfind : hashTableFind find s.remainingItems with
    | none =>
      have hnil := hashTableFind_eq_none.mp hfind
      exact ⟨[], rfl, (List.append_nil _).symm, (List.append_nil _).symm, rfl,
        List.Perm.refl _, rfl, nofun, Nat.zero_le _, .inr hnil⟩
    | some jid =>
      have hmem := mem_of_hashTableFind hfind
      have hlength := (List.length_erase_add_one hmem).symm
      have hfirst : sends.headD true = true := by
        cases sends with
        | nil => rfl
        | cons sent sends =>
          refine hsends sent ?_
          rw [hlength, Nat.succ_min_succ, List.take_succ_cons]
          exact List.mem_cons_self
      have hrest : ∀ sent ∈ sends.tail.take
          (min rounds (s.remainingItems.erase jid).length), sent = true := by
        intro sent hsent
        cases sends with
        | nil => simp at hsent
        | cons sent' sends =>
          refine hsends sent ?_
          rw [hlength, Nat.succ_min_succ, List.take_succ_cons]
          exact List.mem_cons_of_mem _ hsent
      rw [hfirst]
      obtain ⟨new, h⟩ := ih sends.tail (fillRound jid true s) hrest
      refine ⟨⟨s.next, .info, jid⟩ :: new, ?_, ?_, ?_, ?_, ?_, ?_, ?_, ?_, ?_⟩
      · exact h.requests.trans (by rw [List.reverse_cons, List.append_assoc]; rfl)
      · exact h.pipeline.trans (List.append_assoc s.discoPipeline [some s.next] _)
      · exact h.out.trans (List.append_assoc s.out [.asked jid] _)
      · exact h.next.trans (Nat.succ_add_eq_add_succ ..)
      · exact (List.perm_cons_erase hmem).trans (h.items.cons jid)
      · rw [List.map_cons, List.length_cons, List.range'_succ, h.ids]
        rfl
      · exact List.forall_mem_cons.mpr ⟨rfl, h.type⟩
      · exact Nat.succ_le_succ h.length
      · exact h.done.imp (congrArg Nat.succ) id

/-! ## Requests that are not sent -/

theorem mem_fillRound_of_mem (jid : Bytes) (sent : Bool) (h : none ∈ s.discoPipeline) :
    none ∈ (fillRound jid sent s).discoPipeline := by
  cases sent <;> exact List.mem_append_left _ h

theorem mem_fillLoop_of_mem (rounds : ℕ) (sends : List Bool) (s : State)
    (h : none ∈ s.discoPipeline) : none ∈ (fillLoop find rounds sends s).discoPipeline := by
  induction rounds generalizing sends s with
  | zero => exact h
  | succ rounds ih =>
    rw [fillLoop]
    split
    · exact h
    · exact ih _ _ (mem_fillRound_of_mem _ _ h)

/-- A request that is not sent is in the pipeline as `NULL`. -/
theorem mem_fillLoop_of_unsent (rounds : ℕ) (sends : List Bool) (s : State)
    (h : ∃ sent ∈ sends.take (min rounds s.remainingItems.length), sent = false) :
    none ∈ (fillLoop find rounds sends s).discoPipeline := by
  induction rounds generalizing sends s with
  | zero => simp at h
  | succ rounds ih =>
    rw [fillLoop]
    cases hfind : hashTableFind find s.remainingItems with
    | none =>
      rw [hashTableFind_eq_none.mp hfind] at h
      simp at h
    | some jid =>
      have hmem := mem_of_hashTableFind hfind
      have hlength := (List.length_erase_add_one hmem).symm
      cases sends with
      | nil => simp at h
      | cons sent sends =>
        rw [hlength, Nat.succ_min_succ, List.take_succ_cons] at h
        cases sent with
        | false =>
          refine mem_fillLoop_of_mem _ _ _ ?_
          exact List.mem_append_right _ List.mem_cons_self
        | true =>
          obtain ⟨sent, hsent, rfl⟩ := h
          have hsent' := (List.mem_cons.mp hsent).resolve_left nofun
          exact ih sends (fillRound jid true s) ⟨false, hsent', rfl⟩

/-! ## Pipelines that do not run any more -/

/-- A pipeline that does not run is not filled. -/
theorem fillPipeline_of_stopped (sends : List Bool) (hstop : s.running = false) :
    fillPipeline find sends s = s := by
  rw [fillPipeline, hstop]
  rfl

theorem prepare_running (r : Request) (answer : Answer) (s : State) :
    (prepare r answer s).running = s.running := by
  unfold prepare discoItems itemInfo
  split
  · split <;> rfl
  · rfl

/-- Cancelling a request of a pipeline that does not run any more. -/
theorem cancelRequest_of_stopped {id : ℕ} {r : Request} (hstop : s.running = false)
    (hfind : findRequest id s = some r) :
    cancelRequest find id s = deleteRequest id (prepare r .error s) := by
  rw [cancelRequest, hfind]
  dsimp only
  rw [callback, fillPipeline_of_stopped _ ((prepare_running ..).trans hstop)]

theorem cancelRequest_of_null (id : ℕ) (hstop : s.running = false)
    (hnull : none ∈ s.discoPipeline) :
    (cancelRequest find id s).running = false ∧
      none ∈ (cancelRequest find id s).discoPipeline := by
  cases hfind : findRequest id s with
  | none =>
    rw [cancelRequest, hfind]
    exact ⟨hstop, hnull⟩
  | some r =>
    rw [cancelRequest_of_stopped hstop hfind]
    refine ⟨(prepare_running r .error s).trans hstop, ?_⟩
    change none ∈ (prepare r .error s).discoPipeline
    unfold prepare
    cases r.type with
    | items => exact hnull
    | info => exact mem_removeFast_of_ne hnull nofun

/-- **`NULL` in the pipeline.**  No number of rounds is enough to get past it. -/
theorem cancelLoop_of_null (rounds : ℕ) (hstop : s.running = false)
    (hnull : none ∈ s.discoPipeline) : cancelLoop find rounds s = none := by
  induction rounds generalizing s with
  | zero => rfl
  | succ rounds ih =>
    rw [cancelLoop]
    split
    next hnil =>
      rw [hnil] at hnull
      cases hnull
    next => exact ih hstop hnull
    next id rest hcons =>
      obtain ⟨hstop', hnull'⟩ := cancelRequest_of_null id hstop hnull
      exact ih hstop' hnull'

theorem pipelineDestroy_of_null (rounds : ℕ) (hnull : none ∈ s.discoPipeline) :
    pipelineDestroy find rounds s = none := by
  have hbegin : (beginDestroy find s).running = false ∧
      none ∈ (beginDestroy find s).discoPipeline := by
    rw [beginDestroy]
    dsimp only
    split
    · exact ⟨rfl, hnull⟩
    · exact cancelRequest_of_null _ rfl hnull
  rw [pipelineDestroy, cancelLoop_of_null rounds hbegin.1 hbegin.2]
  rfl

end Disco
