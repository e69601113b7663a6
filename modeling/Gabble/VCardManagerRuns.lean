/-
# The runs of the vCard manager

`Effect` says, event by event, what a step does to the edits of the own vCard;
the rest of a step is covered by the invariant of the requests.  Together they
are all that the results about whole runs need to know about a step.
-/
import Mathlib.Tactic.Common
import Gabble.VCardManagerReplies

open Transition

namespace VCardManager

variable {β : Type}

/-! ## Before the connection -/

/-- Nothing has happened yet, but for requests that were refused. -/
structure Untouched (s : State β) : Prop where
  entries : ∀ h e, s.entry h = some e → e = Entry.new β
  requests : ∀ r, s.requests r = none
  gets : s.gets = []
  sets : s.sets = []
  edits : s.edits = []
  cacheTimer : s.cacheTimer = false

section

variable {s s' : State β} {h : Handle} {e : Entry β}

theorem Untouched.cacheEntryGet (hu : Untouched s) (h : Handle) :
    Untouched (s.cacheEntryGet h) := by
  have hent : ∀ h' e, (s.cacheEntryGet h).entry h' = some e → e = Entry.new β := by
    intro h' e he
    by_cases hh : h' = h
    · obtain ⟨e', he', hold⟩ := cacheEntryGet_entry s h
      rw [hh, he'] at he
      cases he
      exact hold.elim (fun ho => hu.entries h e ho) And.right
    · exact hu.entries h' e ((cacheEntryGet_entry_ne s hh).symm.trans he)
  refine ⟨hent, ?_, ?_, ?_, ?_, ?_⟩ <;> unfold State.cacheEntryGet <;> split
  all_goals first | exact hu.requests | exact hu.gets | exact hu.sets | exact hu.edits |
    exact hu.cacheTimer

theorem Untouched.invalidateCache (hu : Untouched s) (h : Handle) :
    ∃ s', s.invalidateCache h = .ok s' ∧ Untouched s' := by
  unfold State.invalidateCache
  cases he : s.entry h with
  | none => exact ⟨s, rfl, hu⟩
  | some e =>
    cases hu.entries h e he
    set s₁ := { s with timedCache := s.timedCache.erase h }.setEntry h
      { Entry.new β with vcardNode := none }
    have hself : s₁.entry h = some (Entry.new β) := setEntry_entry_self ..
    have hent : ∀ h' e, (s₁.cacheEntryFree h).entry h' = some e → e = Entry.new β := by
      intro h' e he'
      by_cases hh : h' = h
      · rw [hh, cacheEntryFree_entry_self] at he'
        cases he'
      · rw [cacheEntryFree_entry_ne _ hh, setEntry_entry_ne _ _ hh] at he'
        exact hu.entries h' e he'
    rcases attemptToFree_ok hself (fun _ _ _ => ⟨rfl, fun _ _ => hu.edits⟩) with hfr | hfr
    · refine ⟨s₁, hfr, fun h' e he' => ?_, hu.requests, hu.gets, hu.sets, hu.edits,
        hu.cacheTimer⟩
      by_cases hh : h' = h
      · rw [hh, hself] at he'
        cases he'
        rfl
      · exact hu.entries h' e ((setEntry_entry_ne _ _ hh).symm.trans he')
    · exact ⟨_, hfr.2.2.2, hent, hu.requests, hu.gets, hu.sets, hu.edits, hu.cacheTimer⟩

end

section

variable [DecidableEq β] {s s' : State β} {e : Event β}

/-- A step, from the operation it runs. -/
theorem step_cases (hs : step s e = some s') :
    s.fault = none ∧ s.disposed = false ∧
      ((∃ s₁, operation s e = some (.ok s₁) ∧ s' = s₁) ∨
        ∃ f, operation s e = some (.error f) ∧ s' = { s with fault := some f }) := by
  unfold step at hs
  split at hs
  · cases hs
  · rename_i hcond
    simp only [Bool.or_eq_true, not_or, Bool.not_eq_true, Option.isSome_eq_false_iff,
      Option.isNone_iff_eq_none] at hcond
    obtain ⟨res, hop, hres⟩ := Option.map_eq_some_iff.mp hs
    refine ⟨hcond.1, hcond.2, ?_⟩
    cases res with
    | ok s₁ => exact .inl ⟨s₁, hop, hres.symm⟩
    | error f => exact .inr ⟨f, hop, hres.symm⟩

theorem step_of_ok (hf : s.fault = none) (hd : s.disposed = false)
    (hop : operation s e = some (.ok s')) : step s e = some s' := by
  unfold step
  rw [if_neg (by simp [hf, hd]), hop]
  rfl

/-- Until it is connected the manager does not do anything. -/
theorem Untouched.step (hu : Untouched s) (hnew : s.status = .new) (hs : step s e = some s')
    (hconn : e ≠ .connected) (hlive : e ≠ .dispose) : Untouched s' := by
  obtain ⟨_, _, ⟨s₁, hop, rfl⟩ | ⟨f, _, rfl⟩⟩ := step_cases hs
  · cases e with
    | connected => exact absurd rfl hconn
    | disconnected => simp [operation, hnew] at hop
    | aliasChanged name =>
      cases hop
      exact ⟨hu.entries, hu.requests, hu.gets, hu.sets, hu.edits, hu.cacheTimer⟩
    | request h timeout bound =>
      have hstatus : (s.cacheEntryGet h).status ≠ .connected := by
        rw [(cacheEntryGet_sameEdits s h).status, hnew]
        simp
      simp only [operation, State.request, if_pos hstatus, Option.some.injEq,
        Except.ok.injEq] at hop
      exact hop ▸ hu.cacheEntryGet h
    | cancelRequest r => simp [operation, hu.requests r] at hop
    | orphan r => simp [operation, hu.requests r] at hop
    | edit infos bound =>
      simp only [operation, State.edit, hnew, ne_eq, reduceCtorEq, not_false_eq_true, if_true,
        Option.some.injEq, Except.ok.injEq] at hop
      exact hop ▸ hu
    | removeEditRequest q =>
      simp only [operation, Option.ite_none_right_eq_some] at hop
      cases hop.2
      exact ⟨hu.entries, hu.requests, hu.gets, hu.sets, hu.edits, hu.cacheTimer⟩
    | orphanEdit q =>
      simp only [operation, Option.ite_none_right_eq_some] at hop
      cases hop.2
      exact ⟨hu.entries, hu.requests, hu.gets, hu.sets, hu.edits, hu.cacheTimer⟩
    | invalidate h =>
      obtain ⟨s₂, hs₂, hu₂⟩ := hu.invalidateCache h
      simp only [operation, hs₂, Option.some.injEq, Except.ok.injEq] at hop
      exact hop ▸ hu₂
    | getReply g result now => simp [operation, hu.gets] at hop
    | setReply i success => simp [operation, hu.sets] at hop
    | requestTimeout r => simp [operation, hu.requests r] at hop
    | suspendedTimeout h =>
      have hnone : (s.entry h).bind Entry.suspended = none := by
        cases he : s.entry h with
        | none => rfl
        | some e =>
          cases hu.entries h e he
          rfl
      simp [operation, hnone] at hop
    | cacheTimeout now => simp [operation, hu.cacheTimer] at hop
    | dispose => exact absurd rfl hlive
  · exact ⟨hu.entries, hu.requests, hu.gets, hu.sets, hu.edits, hu.cacheTimer⟩

/-! ## What a step does -/

/-- The GET that an event answers: the handle it was for, and the result. -/
def State.answer (s : State β) : Event β → Option (Handle × GetResult β)
  | .getReply g result _ =>
    match s.gets.find? (·.id == g) with
    | none => none
    | some get => (s.requests get.userData).map fun request => (request.handle, result)
  | .requestTimeout r => (s.requests r).map fun request => (request.handle, .error)
  | _ => none

/-- Neither the first nor the last event. -/
def Event.inner : Event β → Bool
  | .connected => false
  | .dispose => false
  | _ => true

/-- What a step does to the edits. -/
inductive Effect (s : State β) : Event β → State β → Prop where
  | same {e : Event β} {s' : State β} (he : e.inner = true) (hans : s.answer e = none)
      (hsame : SameEdits s s') (hown : OwnWaiting s → OwnWaiting s') : Effect s e s'
  | environment {e : Event β} (he : e.inner = true) (status : Status) (name : Option String)
      (hst : status = .new → s.status = .new) :
      Effect s e { s with status := status, conn := { s.conn with cachedAlias := name } }
  | connected {s' : State β} (unsent : List (Edit β)) (howner : ∀ e ∈ unsent, e.owner = none)
      (hsame : SameEdits { s with status := .connected, edits := s.edits ++ unsent } s')
      (hown : OwnWaiting s') : Effect s .connected s'
  | get {e : Event β} {h : Handle} {result : GetResult β} {s₁ s' : State β}
      (he : e.inner = true) (hans : s.answer e = some (h, result)) (hsame : SameEdits s s₁)
      (hsame' : SameEdits (s₁.editEffect h result) s')
      (hown : h ≠ s.conn.selfHandle ∨ result = .wait → OwnWaiting s → OwnWaiting s') :
      Effect s e s'
  | edit {infos : List (EditInfo β)} {bound : Bool} {s₁ : State β} (hsame : SameEdits s s₁)
      (hown : s₁.editPipelineItem ≠ none ∨ OwnWaiting s₁) :
      Effect s (.edit infos bound) (s₁.addEditRequest infos bound)
  | remove {e : Event β} (he : e.inner = true) (q : EditId)
      (hq : ∃ request ∈ s.editRequests, request.id = q) :
      Effect s e (s.removeEditRequest q)
  | setFailed {i : ItemId} (hi : ∃ item ∈ s.sets, item.id = i) :
      Effect s (.setReply i false) (s.answerSet i false).failEdits
  | setDone {i : ItemId} {node : VCard β} {s' : State β} (hi : ∃ item ∈ s.sets, item.id = i)
      (hnode : s.patchedVCard = some node)
      (hsame : SameEdits ((s.answerSet i true).acceptEdits node) s')
      (hown : OwnWaiting s → OwnWaiting s') : Effect s (.setReply i true) s'
  | dispose {s' : State β} (hsame : SameEdits { s with disposed := true }.disposeEdits s')
      (hreq : ∀ r, s'.requests r = none) (hent : ∀ h, s'.entry h = none) : Effect s .dispose s'

/-- The invariant of the runs that keep the requests that carry a GET. -/
structure Served (s : State β) : Prop where
  carried : Carried none s
  edits : EditsServed s
  untouched : s.disposed = false → s.status = .new → Untouched s
  closed : s.disposed = true → (∀ r, s.requests r = none) ∧ ∀ h, s.entry h = none

omit [DecidableEq β] in
theorem Served.congr (hv : Served s) (s' : State β) (hs : SameRequests s s')
    (hedits : s'.edits = s.edits) (hitem : s'.editPipelineItem = s.editPipelineItem) :
    Carried none s' ∧ EditsServed s' := by
  refine ⟨hv.carried.congr hs, ?_⟩
  unfold EditsServed
  rw [hedits, hitem]
  exact fun hne => (hv.edits hne).imp id fun hw => hw.congr hs.selfHandle (entry_congr hs.cache _)

/-- After the answer of a GET the edits are served. -/
theorem EditsServed.answered {s₁ : State β} {h : Handle} {result : GetResult β}
    (hed : EditsServed s) (hsame : SameEdits s s₁)
    (hsame' : SameEdits (s₁.editEffect h result) s')
    (hown : h ≠ s.conn.selfHandle ∨ result = .wait → OwnWaiting s → OwnWaiting s') :
    EditsServed s' := by
  by_cases hcase : h ≠ s.conn.selfHandle ∨ result = .wait
  · have heff : s₁.editEffect h result = s₁ := by
      rcases hcase with hne | rfl
      · exact editEffect_of_ne result (by rw [hsame.conn]; exact hne)
      · rfl
    rw [heff] at hsame'
    exact hed.mono (hsame.trans hsame') (hown hcase)
  · push Not at hcase
    obtain ⟨hself, hw⟩ := hcase
    rw [hself, ← hsame.selfHandle] at hsame'
    intro hne
    refine .inl fun hnone => hne ?_
    rw [hsame'.edits]
    exact editEffect_edits s₁ hw (hsame'.editPipelineItem.symm.trans hnone)

/-- The assertion of `replace_reply_cb`. -/
theorem replaceReplyCb_true_none (hnone : s.patchedVCard = none) :
    s.replaceReplyCb true = .error .assertPatchedVCard := by
  have hp : ∀ h, (State.cacheEntryGet { s with editPipelineItem := none } h).patchedVCard = none :=
    fun h => (cacheEntryGet_sameEdits _ h).patchedVCard.trans hnone
  unfold State.replaceReplyCb
  simp only [Bool.not_true, Bool.false_eq_true, if_false, hp]

/-- The invariant is kept and the event had one of the effects that `Effect` lists. -/
def Serves (s : State β) (e : Event β) (res : Except Fault (State β)) : Prop :=
  ∃ s', res = .ok s' ∧ Carried none s' ∧ EditsServed s' ∧ Effect s e s'

/-- A step that does not touch the edits. -/
theorem Served.same (hv : Served s) {res : Except Fault (State β)} (hres : res = .ok s')
    (hc : Carried none s') (hinner : e.inner = true) (hanswer : s.answer e = none)
    (hsame : SameEdits s s') (hown : OwnWaiting s → OwnWaiting s') : Serves s e res :=
  ⟨s', hres, hc, hv.edits.mono hsame hown, .same hinner hanswer hsame hown⟩

/-- The edits `status_changed_cb` queues: the alias that the user has set offline. -/
def State.aliasEdits (s : State β) : List (Edit β) :=
  match s.conn.cachedAlias with
  | none => []
  | some name => [⟨none, .setAlias (some name)⟩]

omit [DecidableEq β] in
/-- The alias is queued, then the own vCard is requested. -/
theorem Served.statusChangedCb (hv : Served s) (hlive : s.disposed = false)
    (hnew : s.status = .new) :
    ∃ s', s.statusChangedCb = .ok s' ∧ Carried none s' ∧
      SameEdits { s with status := .connected, edits := s.edits ++ s.aliasEdits } s' ∧
      OwnWaiting s' := by
  have hu := hv.untouched hlive hnew
  have hc₀ : Carried none { s with status := .connected, edits := s.edits ++ s.aliasEdits } :=
    hv.carried.congr (by constructor <;> rfl)
  obtain ⟨s', hs', hc', hsame, _, hwait⟩ := hc₀.request (h := s.conn.selfHandle) 0 true rfl
    fun e he => by
      rw [hu.entries _ e he]
      rfl
  refine ⟨s', hs', hc', hsame, ?_⟩
  unfold OwnWaiting
  rw [hsame.conn]
  exact hwait

/-- The connection is there. -/
theorem Served.connected (hv : Served s) (hlive : s.disposed = false) (hnew : s.status = .new) :
    Serves s .connected s.statusChangedCb := by
  obtain ⟨s', hs', hc', hsame, hown⟩ := hv.statusChangedCb hlive hnew
  have howner : ∀ e ∈ s.aliasEdits, e.owner = none := by
    unfold State.aliasEdits
    cases s.conn.cachedAlias <;> simp
  exact ⟨s', hs', hc', fun _ => .inr hown, .connected _ howner hsame hown⟩

omit [DecidableEq β] in
/-- A new entry of the cache does not disturb the request for the own vCard. -/
theorem OwnWaiting.cacheEntryGet (h : Handle) (hw : OwnWaiting s) :
    OwnWaiting (s.cacheEntryGet h) := by
  have hsame := cacheEntryGet_sameEdits s h
  obtain ⟨e, he, hp⟩ := hw
  refine ⟨e, ?_, hp⟩
  rw [hsame.conn]
  by_cases hh : s.conn.selfHandle = h
  · obtain ⟨e', he', hold⟩ := cacheEntryGet_entry s h
    rw [hh] at he ⊢
    rcases hold with hold | ⟨hnone, _⟩
    · rw [he', ← hold, he]
    · rw [hnone] at he
      cases he
  · rw [cacheEntryGet_entry_ne s hh, he]

/-- A vCard is requested; without a connection only an entry is made. -/
theorem Served.request (hv : Served s) (h : Handle) (timeout : ℕ) (bound : Bool)
    (hok : CarriersKept s (.request h timeout bound)) :
    Serves s (.request h timeout bound) (s.request h timeout bound) := by
  by_cases hst : s.status = .connected
  · obtain ⟨s', hs', hc', hsame, hne, hwait⟩ := hv.carried.request timeout bound hst hok
    exact hv.same hs' hc' rfl rfl hsame fun hw => hw.update hsame.selfHandle hne hwait
  · have hsame := cacheEntryGet_sameEdits s h
    have hrun : s.request h timeout bound = .ok (s.cacheEntryGet h) := by
      unfold State.request
      rw [if_pos (by rw [hsame.status]; exact hst)]
    exact hv.same hrun (hv.carried.cacheEntryGet h) rfl rfl hsame (.cacheEntryGet h)

/-- A SET is answered. -/
theorem Served.setReply (hv : Served s) {i : ℕ} (hi : ∃ item ∈ s.sets, item.id = i)
    (success : Bool) :
    Serves s (.setReply i success) ((s.answerSet i success).replaceReplyCb success) ∨
      (s.answerSet i success).replaceReplyCb success = .error .assertPatchedVCard ∧
        s.patchedVCard = none ∧ success = true := by
  have hc₀ : Carried none (s.answerSet i success) := hv.carried.congr (by constructor <;> rfl)
  cases success with
  | false =>
    exact .inl ⟨_, replaceReplyCb_false _, hc₀.congr (failEdits_sameRequests _),
      fun hne => absurd rfl hne, .setFailed hi⟩
  | true =>
    cases hnode : s.patchedVCard with
    | none => exact .inr ⟨replaceReplyCb_true_none hnode, rfl, rfl⟩
    | some node =>
      obtain ⟨s', hs', hc', hsame, hown⟩ := hc₀.replaceReplyCb hnode
      refine .inl ⟨s', hs', hc', fun hne => .inl fun hnone => hne ?_,
        .setDone hi hnode hsame hown⟩
      rw [hsame.edits]
      exact managerPatchVCard_edits _ node (hsame.editPipelineItem.symm.trans hnone)

/-- A request takes too long: its GET is cancelled, and that answers it. -/
theorem Served.requestTimeout (hv : Served s) {r : RequestId} {request : Request}
    (hreq : s.requests r = some request) (htimer : request.timer = true) :
    Serves s (.requestTimeout r) (s.timeoutRequest r request) := by
  obtain ⟨get, hget, rfl⟩ := hv.carried.timers r request hreq htimer (by simp)
  obtain ⟨request', e, hreq', he, hitem⟩ := hv.carried.gets get hget
  rw [hreq] at hreq'
  cases hreq'
  have hc₀ := hv.carried.clearTimer hreq
  obtain ⟨get', hget', ⟨request₁, hreq₁, hh⟩, hcancel⟩ :=
    hc₀.cancelGet (h := request.handle) he hitem
  obtain ⟨request₂, _, s₁, s', hreq₂, _, hs', hc', hsame, hsame', hown, _⟩ :=
    hc₀.pipelineReplyCb hget' .error 0
  rw [hreq₁] at hreq₂
  cases hreq₂
  rw [hh] at hsame' hown
  have hrun : s.timeoutRequest get.userData request = .ok s' := by
    have he' : (s.setRequest get.userData (some { request with timer := false })).entry
        request.handle = some e := he
    unfold State.timeoutRequest
    simp only [he', hitem]
    exact hcancel.trans hs'
  have hsame₀ : SameEdits s s₁ := SameEdits.trans (by constructor <;> rfl) hsame
  exact ⟨s', hrun, hc', hv.edits.answered hsame₀ hsame' hown,
    .get rfl (by simp [State.answer, hreq]) hsame₀ hsame' hown⟩

/-- Old entries leave the cache. -/
theorem Served.cacheTimeout (hv : Served s) (now : ℕ) :
    Serves s (.cacheTimeout now) (s.cacheEntryTimeout now) := by
  obtain ⟨s₁, hs₁, hc₁, hsame, hown, _⟩ :=
    hv.carried.cacheEntryTimeoutLoop now s.timedCache.length hv.edits
  let s' : State β := { s₁ with cacheTimer := s₁.peekFirst.isSome }
  have hrun : s.cacheEntryTimeout now = .ok s' := by
    unfold State.cacheEntryTimeout
    rw [hs₁]
    rfl
  exact hv.same hrun (hc₁.congr (by constructor <;> rfl)) rfl rfl { hsame with } hown

/-- **One step.**  The invariant is kept, and the step is one of those `Effect`
lists; or a SET is answered when there is no patched vCard, and the assertion of
`replace_reply_cb` fails. -/
theorem Served.operation (hv : Served s) (hok : CarriersKept s e) {res : Except Fault (State β)}
    (hlive : s.disposed = false) (hop : operation s e = some res) :
    (∃ s', res = .ok s' ∧ Carried none s' ∧ EditsServed s' ∧ Effect s e s') ∨
      (res = .error .assertPatchedVCard ∧ s.patchedVCard = none ∧ ∃ i, e = .setReply i true) := by
  have hc := hv.carried
  have hed := hv.edits
  cases e with
  | connected =>
    simp only [VCardManager.operation, Option.ite_none_right_eq_some] at hop
    obtain ⟨hnew, ⟨⟩⟩ := hop
    exact .inl (hv.connected hlive hnew)
  | disconnected =>
    simp only [VCardManager.operation, Option.ite_none_right_eq_some] at hop
    obtain ⟨_, ⟨⟩⟩ := hop
    obtain ⟨hc', hed'⟩ := hv.congr { s with status := .disconnected }
      (by constructor <;> rfl) rfl rfl
    exact .inl ⟨_, rfl, hc', hed', .environment rfl .disconnected s.conn.cachedAlias (by simp)⟩
  | aliasChanged name =>
    cases hop
    obtain ⟨hc', hed'⟩ := hv.congr { s with conn := { s.conn with cachedAlias := name } }
      (by constructor <;> rfl) rfl rfl
    exact .inl ⟨_, rfl, hc', hed', .environment rfl s.status name id⟩
  | request h timeout bound =>
    cases hop
    exact .inl (hv.request h timeout bound hok)
  | cancelRequest r =>
    simp only [VCardManager.operation, Option.ite_none_right_eq_some] at hop
    obtain ⟨hsome, ⟨⟩⟩ := hop
    obtain ⟨request, hreq⟩ := Option.isSome_iff_exists.mp hsome
    obtain ⟨s', hs', hc', hsame, hown⟩ :=
      hc.dropRequest (a := .called r (.error .cancelled)) hreq hok rfl
    exact .inl (hv.same hs' hc' rfl rfl hsame hown)
  | orphan r =>
    simp only [VCardManager.operation, Option.ite_none_right_eq_some] at hop
    obtain ⟨hsome, ⟨⟩⟩ := hop
    obtain ⟨request, hreq, _⟩ := (Option.any_eq_true ..).mp hsome
    obtain ⟨s', hs', hc', hsame, hown⟩ := hc.dropRequest (a := .orphaned r) hreq hok rfl
    exact .inl (hv.same hs' hc' rfl rfl hsame hown)
  | edit infos bound =>
    cases hop
    by_cases hst : s.status = .connected
    · obtain ⟨s₁, hs₁, hc₁, hsame, hown⟩ := hc.edit hed infos bound hst
      exact .inl ⟨_, hs₁, hc₁.congr (by constructor <;> rfl), fun _ => hown, .edit hsame hown⟩
    · have hrun : s.edit infos bound = .ok s := by
        unfold State.edit
        rw [if_pos hst]
      exact .inl (hv.same hrun hc rfl rfl (.refl s) id)
  | removeEditRequest q =>
    simp only [VCardManager.operation, Option.ite_none_right_eq_some] at hop
    obtain ⟨hq, ⟨⟩⟩ := hop
    obtain ⟨hc', hed'⟩ := hv.congr (s.removeEditRequest q) (by constructor <;> rfl) rfl rfl
    exact .inl ⟨_, rfl, hc', hed', .remove rfl q (by simpa using hq)⟩
  | orphanEdit q =>
    simp only [VCardManager.operation, Option.ite_none_right_eq_some] at hop
    obtain ⟨hq, ⟨⟩⟩ := hop
    obtain ⟨hc', hed'⟩ := hv.congr (s.removeEditRequest q) (by constructor <;> rfl) rfl rfl
    obtain ⟨request, hmem, hid⟩ := List.any_eq_true.mp hq
    exact .inl ⟨_, rfl, hc', hed', .remove rfl q ⟨request, hmem, (of_decide_eq_true hid).1⟩⟩
  | invalidate h =>
    cases hop
    obtain ⟨s', hs', hc', hsame, hown, _⟩ := hc.invalidateCache hed h
    exact .inl (hv.same hs' hc' rfl rfl hsame hown)
  | getReply g result now =>
    simp only [VCardManager.operation] at hop
    split at hop
    · cases hop
    · rename_i get hfind
      cases hop
      obtain ⟨request, _, s₁, s', hreq, _, hs', hc', hsame, hsame', hown, _⟩ :=
        hc.pipelineReplyCb (List.mem_of_find?_eq_some hfind) result now
      have heff : Effect s (.getReply g result now) s' :=
        .get rfl (by simp [State.answer, hfind, hreq]) hsame hsame' hown
      exact .inl ⟨s', hs', hc', hed.answered hsame hsame' hown, heff⟩
  | setReply i success =>
    simp only [VCardManager.operation, Option.ite_none_right_eq_some] at hop
    obtain ⟨hi, ⟨⟩⟩ := hop
    refine (hv.setReply (by simpa using hi) success).imp_right ?_
    rintro ⟨herror, hnone, rfl⟩
    exact ⟨herror, hnone, i, rfl⟩
  | requestTimeout r =>
    simp only [VCardManager.operation] at hop
    split at hop
    · cases hop
    · rename_i request hreq
      obtain ⟨ht, ⟨⟩⟩ := Option.ite_none_right_eq_some.mp hop
      exact .inl (hv.requestTimeout hreq ht)
  | suspendedTimeout h =>
    simp only [VCardManager.operation] at hop
    split at hop
    · cases hop
    · rename_i r hr
      cases hop
      obtain ⟨e, he, hsus⟩ := Option.bind_eq_some_iff.mp hr
      obtain ⟨s', hs', hc', hsame, hown⟩ := hc.suspendedRequestTimeoutCb he hsus
      exact .inl (hv.same hs' hc' rfl rfl hsame hown)
  | cacheTimeout now =>
    simp only [VCardManager.operation, Option.ite_none_right_eq_some] at hop
    obtain ⟨_, ⟨⟩⟩ := hop
    exact .inl (hv.cacheTimeout now)
  | dispose =>
    cases hop
    obtain ⟨s', hs', hc', hsame, hreq, hent⟩ := hc.dispose hok
    refine .inl ⟨s', hs', hc', ?_, .dispose hsame hreq hent⟩
    intro hne
    rw [hsame.edits] at hne
    refine absurd ?_ hne
    unfold State.disposeEdits
    split <;> rfl

/-- The manager is new only before it is connected. -/
theorem Effect.status_new (heff : Effect s e s') (hlive : s'.disposed = false)
    (hnew : s'.status = .new) : s.status = .new ∧ s.disposed = false ∧ e.inner = true := by
  cases heff with
  | same he _ hsame _ => exact ⟨hsame.status ▸ hnew, hsame.disposed ▸ hlive, he⟩
  | environment he status name hst => exact ⟨hst hnew, hlive, he⟩
  | connected unsent _ hsame _ =>
    rw [hsame.status] at hnew
    cases hnew
  | get he _ hsame hsame' _ =>
    rw [hsame'.status, (editEffect_status ..).1, hsame.status] at hnew
    rw [hsame'.disposed, (editEffect_status ..).2.1, hsame.disposed] at hlive
    exact ⟨hnew, hlive, he⟩
  | edit hsame _ => exact ⟨hsame.status ▸ hnew, hsame.disposed ▸ hlive, rfl⟩
  | remove he q _ => exact ⟨hnew, hlive, he⟩
  | setFailed _ => exact ⟨hnew, hlive, rfl⟩
  | setDone _ _ hsame _ =>
    rw [hsame.status, (acceptEdits_status ..).1] at hnew
    rw [hsame.disposed, (acceptEdits_status ..).2.1] at hlive
    exact ⟨hnew, hlive, rfl⟩
  | dispose hsame _ _ =>
    rw [hsame.disposed] at hlive
    unfold State.disposeEdits at hlive
    split at hlive <;> cases hlive

/-- Only `dispose` disposes of the manager. -/
theorem Effect.closed (heff : Effect s e s') (hlive : s.disposed = false)
    (hdisp : s'.disposed = true) : (∀ r, s'.requests r = none) ∧ ∀ h, s'.entry h = none := by
  have hno : ∀ b : Bool, b = true → b = false → False := by decide
  cases heff with
  | same _ _ hsame _ => exact (hno _ hdisp (hsame.disposed.trans hlive)).elim
  | environment _ _ _ _ => exact (hno _ hdisp hlive).elim
  | connected _ _ hsame _ => exact (hno _ hdisp (hsame.disposed.trans hlive)).elim
  | get _ _ hsame hsame' _ =>
    rw [hsame'.disposed, (editEffect_status ..).2.1, hsame.disposed] at hdisp
    exact (hno _ hdisp hlive).elim
  | edit hsame _ => exact (hno _ hdisp (hsame.disposed.trans hlive)).elim
  | remove _ _ _ => exact (hno _ hdisp hlive).elim
  | setFailed _ => exact (hno _ hdisp hlive).elim
  | setDone _ _ hsame _ =>
    rw [hsame.disposed, (acceptEdits_status ..).2.1] at hdisp
    exact (hno _ hdisp hlive).elim
  | dispose _ hreq hent => exact ⟨hreq, hent⟩

/-- A step that `Effect` lists is not a fault. -/
theorem Effect.fault (heff : Effect s e s') : s'.fault = s.fault := by
  cases heff with
  | same _ _ hsame _ => exact hsame.fault
  | environment _ _ _ _ => rfl
  | connected _ _ hsame _ => exact hsame.fault
  | get _ _ hsame hsame' _ => rw [hsame'.fault, (editEffect_status ..).2.2, hsame.fault]
  | edit hsame _ => exact hsame.fault
  | remove _ _ _ => rfl
  | setFailed _ => rfl
  | setDone _ _ hsame _ =>
    rw [hsame.fault, (acceptEdits_status ..).2.2]
    rfl
  | dispose hsame _ _ =>
    rw [hsame.fault]
    unfold State.disposeEdits
    split <;> rfl

theorem Served.step (hv : Served s) (hok : CarriersKept s e) (hs : step s e = some s') :
    Served s' ∧ (Effect s e s' ∨
      (s' = { s with fault := some .assertPatchedVCard } ∧ s.patchedVCard = none ∧
        ∃ i, e = .setReply i true)) := by
  obtain ⟨_, hlive, hcases⟩ := step_cases hs
  rcases hcases with ⟨s₁, hop, rfl⟩ | ⟨f, hop, rfl⟩
  · rcases hv.operation hok hlive hop with ⟨s₂, heq, hc', hed', heff⟩ | ⟨heq, _⟩
    · cases heq
      refine ⟨⟨hc', hed', fun hl hnew => ?_, heff.closed hlive⟩, .inl heff⟩
      obtain ⟨hnew₀, hlive₀, he⟩ := heff.status_new hl hnew
      refine (hv.untouched hlive₀ hnew₀).step hnew₀ hs ?_ ?_ <;> rintro rfl <;> cases he
    · cases heq
  · rcases hv.operation hok hlive hop with ⟨_, heq, _⟩ | ⟨heq, hnone, i, rfl⟩
    · cases heq
    · cases heq
      obtain ⟨hc', hed'⟩ := hv.congr { s with fault := some .assertPatchedVCard }
        (by constructor <;> rfl) rfl rfl
      refine ⟨⟨hc', hed', fun hl hnew => ?_, hv.closed⟩, .inr ⟨rfl, hnone, i, rfl⟩⟩
      have hu := hv.untouched hl hnew
      exact ⟨hu.entries, hu.requests, hu.gets, hu.sets, hu.edits, hu.cacheTimer⟩

omit [DecidableEq β] in
theorem served_new (conn : Connection β) : Served (State.new conn) := by
  have hent : ∀ h, (State.new conn).entry h = none := fun h => by simp [State.new, State.entry]
  refine ⟨⟨?_, ?_, by rintro _ _ ⟨⟩, by rintro _ _ ⟨⟩, ?_, ?_, ?_, ?_, ?_, ?_⟩,
    fun hne => absurd rfl hne, fun _ _ => ?_, by rintro ⟨⟩⟩
  · intro h e he
    rw [hent] at he
    cases he
  · intro h e he
    rw [hent] at he
    cases he
  · simp [State.new]
  · exact List.nodup_nil
  · simp [State.new]
  · simp [State.new]
  · exact List.nodup_nil
  · simp [State.new]
  · refine ⟨fun h e he => ?_, fun _ => rfl, rfl, rfl, rfl, rfl⟩
    rw [hent] at he
    cases he

/-- **Every run** that keeps the requests that carry a GET. -/
theorem served_of_reachable {conn : Connection β}
    (h : Reachable step CarriersKept (State.new conn) s) :
    Served s ∧ (s.fault = none ∨ s.fault = some .assertPatchedVCard) := by
  refine h.invariant (I := fun s => Served s ∧ (s.fault = none ∨ s.fault = some .assertPatchedVCard))
    ⟨served_new conn, .inl rfl⟩ ?_
  rintro s e s' ⟨hv, _⟩ hok hs
  obtain ⟨hv', hcase⟩ := hv.step hok hs
  refine ⟨hv', ?_⟩
  rcases hcase with heff | ⟨rfl, _⟩
  · exact .inl (heff.fault.trans (step_cases hs).1)
  · exact .inr rfl

/-! ## The main result about requests -/

/-- **Requests.**  In every run that keeps the requests that carry a GET: the user
data of a GET in the pipeline or of a timer is a request of the entry; nothing
is dispatched to a deleted request, and no assertion about a timer fails; a
request that is over was called once, unless it was orphaned; one that is not
over has not been called and waits for a GET or a timer; an answer of the GET,
other than "wait", completes the requests of its entry, and after dispose all
requests are over. -/
theorem requests_called_once {conn : Connection β}
    (h : Reachable step CarriersKept (State.new conn) s) :
    (∀ h e, s.entry h = some e →
      (∀ g, e.pipelineItem = some g →
        ∃ get ∈ s.gets, get.id = g ∧ get.userData ∈ e.pendingRequests) ∧
      (∀ r, e.suspended = some r → r ∈ e.pendingRequests)) ∧
    (∀ get ∈ s.gets, (s.requests get.userData).isSome) ∧
    (s.fault = none ∨ s.fault = some .assertPatchedVCard) ∧
    (∀ r < s.nextRequest, s.requests r = none → r ∉ orphanedIds s.log →
      (calledIds s.log).count r = 1) ∧
    (∀ r request, s.requests r = some request → (calledIds s.log).count r = 0 ∧
      ∃ e, s.entry request.handle = some e ∧ (e.pipelineItem ≠ none ∨ e.suspended ≠ none)) ∧
    (s.fault = none → s.disposed = false → ∀ get ∈ s.gets, ∀ result now, result ≠ .wait →
      ∃ s', step s (.getReply get.id result now) = some s' ∧ s'.fault = none ∧
        ∀ r request request', s.requests r = some request →
          s.requests get.userData = some request' → request.handle = request'.handle →
          s'.requests r = none) ∧
    (s.disposed = true → ∀ r, s.requests r = none) := by
  obtain ⟨hv, hfault⟩ := served_of_reachable h
  have hc := hv.carried
  refine ⟨fun h e he => ⟨(hc.entries h e he).pipeline, fun r hr =>
      ((hc.entries h e he).suspended r hr).1⟩, ?_, hfault, ?_, ?_, ?_, fun hd => (hv.closed hd).1⟩
  · intro get hget
    obtain ⟨request, _, hreq, _⟩ := hc.gets get hget
    simp [hreq]
  · intro r hr hnone hno
    have hfin := hc.finished r
    rw [count_request, if_pos ⟨hr, hnone⟩, List.count_eq_zero_of_not_mem hno] at hfin
    exact hfin
  · intro r request hr
    have hfin := hc.finished r
    rw [count_request, if_neg (by simp [hr])] at hfin
    obtain ⟨_, e, he, hm⟩ := hc.live r request hr
    exact ⟨by omega, e, he, hc.served _ e he (by simp) (List.ne_nil_of_mem hm)⟩
  · intro hf hd get hget result now hw
    obtain ⟨request, e, s₁, s', hreq, he, hs', _, hsame, hsame', _, hdone⟩ :=
      hc.pipelineReplyCb hget result now
    have hfind := hc.find_get hget
    refine ⟨s', ?_, ?_, ?_⟩
    · refine step_of_ok hf hd ?_
      simp only [operation, hfind, hs']
    · rw [hsame'.fault, (editEffect_status ..).2.2, hsame.fault, hf]
    · intro r request₁ request₂ hr₁ hr₂ hh
      rw [hreq] at hr₂
      cases hr₂
      obtain ⟨_, e', he', hm⟩ := hc.live r request₁ hr₁
      rw [hh, he] at he'
      cases he'
      exact hdone hw r hm

end

/-- A connection to a server without restrictions. -/
def plainConnection : Connection String where
  selfHandle := 1
  googleRoster := false
  cachedAlias := none
  text := id

/-- Two requests share a GET, the second one is cancelled, and the GET is answered. -/
def sharedGetRun : List (Event String) :=
  [.connected, .request 5 0 false, .request 5 0 false, .cancelRequest 2,
    .getReply 1 (.success none) 7]

theorem requests_called_once_sharedGetRun :
    ∃ s, run step (State.new plainConnection) sharedGetRun = some s ∧ s.nextRequest = 3 ∧
      (∀ r < 3, s.requests r = none → r ∉ orphanedIds s.log → (calledIds s.log).count r = 1) ∧
      s.requests 1 = none ∧ s.requests 2 = none := by
  have hadm : Admits CarriersKept step (State.new plainConnection) sharedGetRun := by decide
  refine ⟨_, rfl, rfl, ?_, rfl, rfl⟩
  exact (requests_called_once (reachable_of_run sharedGetRun hadm rfl)).2.2.2.1

/-- The request that carries the GET is cancelled: the GET is dispatched to it all
the same.  When its replay is suspended, cancelling it fails an assertion. -/
theorem cancelled_carrier_dispatched :
    (∃ s, run step (State.new plainConnection)
        [.connected, .request 5 0 false, .request 5 0 false, .cancelRequest 1] = some s ∧
      (∃ get ∈ s.gets, get.id = 1 ∧ s.requests get.userData = none) ∧
      ∃ s', step s (.getReply 1 (.success none) 7) = some s' ∧ s'.fault = some .freedRequest) ∧
    (∃ s, run step (State.new plainConnection)
        [.connected, .request 5 0 false, .getReply 1 .wait 7, .cancelRequest 1] = some s ∧
      s.fault = some .assertSuspendedTimer) := by
  refine ⟨⟨_, rfl, ⟨⟨1, 1, 180⟩, by decide, rfl, rfl⟩, _, rfl, rfl⟩, _, rfl, rfl⟩

end VCardManager
