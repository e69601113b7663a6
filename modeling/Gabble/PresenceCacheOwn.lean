/-
# The presence cache: own capabilities

`gabble_presence_cache_add_own_caps` stores what a version string of our own
stands for, next to what contacts report.  The set stays what it was exactly when
no reply that is taken into account disagrees with it (`AgreesOn`), and such a
reply only comes when a contact had advertised the URI before.
-/
import Mathlib.Tactic.Common
import Gabble.PresenceCacheErrors

namespace PresenceCache

open Transition

variable {capsHash : Query → Option String} {s s' : State} {uri ver : String}
  {capSet : CapabilitySet}

/-- `gabble_presence_cache_peek_own_caps` -/
def peekOwnCaps (s : State) (ver : String) : Option CapabilityInfo :=
  let info := s.capabilities (uriOf nsGabbleCaps ver)
  if info.complete then some info else none

/-- The store has own capabilities for a URI, and these are `capSet`. -/
def Own (uri : String) (capSet : CapabilitySet) (s : State) : Prop :=
  (s.capabilities uri).complete = true ∧ (s.capabilities uri).capSet = some capSet

instance : Decidable (Own uri capSet s) := inferInstanceAs (Decidable (_ ∧ _))

/-- A reply for the URI that is taken into account says that it stands for `capSet`. -/
def AgreesOn (capsHash : Query → Option String) (uri : String) (capSet : CapabilitySet)
    (s : State) : Event → Prop
  | .reply req q => req.uri = uri →
      ∀ self ∈ findMatchingWaiter (s.discoPending uri) req.handle req.resource,
        trustOf capsHash self q ≠ none → q.capSet = capSet
  | _ => True

instance : (e : Event) → Decidable (AgreesOn capsHash uri capSet s e)
  | .reply _ _ => inferInstanceAs (Decidable (_ → _))
  | .presence .. | .unavailable .. | .error _ | .addOwnCaps .. | .cacheLost _ | .roomMember .. =>
    .isTrue trivial

theorem peekOwnCaps_iff :
    (∃ info, peekOwnCaps s ver = some info ∧ info.capSet = some capSet) ↔
      Own (uriOf nsGabbleCaps ver) capSet s := by
  unfold peekOwnCaps Own
  constructor
  · rintro ⟨info, hpeek, hset⟩
    obtain ⟨hcomplete, heq⟩ := Option.ite_none_right_eq_some.mp hpeek
    cases heq
    exact ⟨hcomplete, hset⟩
  · rintro ⟨hcomplete, hset⟩
    exact ⟨_, if_pos hcomplete, hset⟩

/-! ## The call -/

/-- The capabilities are stored, unless there are own ones already. -/
theorem own_addOwnCaps_iff (dataForms : List DataForm) :
    Own (uriOf nsGabbleCaps ver) capSet (addOwnCaps s ver capSet dataForms) ↔
      ((s.capabilities (uriOf nsGabbleCaps ver)).complete = true →
        (s.capabilities (uriOf nsGabbleCaps ver)).capSet = some capSet) := by
  unfold addOwnCaps
  by_cases hcomplete : (s.capabilities (uriOf nsGabbleCaps ver)).complete = true
  · rw [if_pos hcomplete]
    exact ⟨fun hown _ => hown.2, fun hset => ⟨hcomplete, hset hcomplete⟩⟩
  · rw [if_neg hcomplete]
    refine iff_of_true ?_ fun h => absurd h hcomplete
    constructor <;> simp [setInfo]

/-- Own capabilities for a URI do not change what is stored for it when it has own
ones already, nor what is stored for another. -/
theorem addOwnCaps_capabilities (hown : (s.capabilities uri).complete = true)
    (ver : String) (capSet : CapabilitySet) (dataForms : List DataForm) :
    (addOwnCaps s ver capSet dataForms).capabilities uri = s.capabilities uri := by
  unfold addOwnCaps
  dsimp only
  split
  · rfl
  · next hnot =>
    refine Function.update_of_ne ?_ _ _
    rintro rfl
    exact hnot hown

/-! ## Replies -/

/-- A reply changes what is stored for its own URI, when it is taken into account. -/
theorem capsDiscoReply_capabilities (capsHash : Query → Option String) (s : State)
    (req : Answer) (q : Query) :
    (capsDiscoReply capsHash s req q).capabilities = s.capabilities ∧
        (∀ self ∈ findMatchingWaiter (s.discoPending req.uri) req.handle req.resource,
          trustOf capsHash self q = none) ∨
      ∃ self ∈ findMatchingWaiter (s.discoPending req.uri) req.handle req.resource,
        ∃ trustInc, trustOf capsHash self q = some trustInc ∧
          (capsDiscoReply capsHash s req q).capabilities =
            Function.update s.capabilities req.uri (newInfo s req self q trustInc) := by
  rcases capsDiscoReply_cases capsHash s req q with
    ⟨hself, heq⟩ | ⟨self, hself, ⟨hinc, heq⟩ | ⟨trustInc, hinc, ⟨-, heq⟩ | ⟨-, heq⟩⟩⟩
  · refine .inl ⟨by rw [heq], ?_⟩
    rw [hself]
    exact nofun
  · refine .inl ⟨by rw [heq]; rfl, ?_⟩
    rw [hself]
    rintro _ ⟨⟩
    exact hinc
  · refine .inr ⟨self, hself, trustInc, hinc, ?_⟩
    rw [heq]
    exact serveWaiters_invariant (I := fun t => t.capabilities =
        Function.update s.capabilities req.uri (newInfo s req self q trustInc))
      (fun _ _ hq ht => hq.capabilities.trans ht) (fun _ _ _ ht => ht) rfl
  · refine .inr ⟨self, hself, trustInc, hinc, ?_⟩
    rw [heq]
    exact setCapsFor_invariant (I := fun t => t.capabilities =
        Function.update s.capabilities req.uri (newInfo s req self q trustInc))
      (fun _ _ hq ht => hq.capabilities.trans ht) id rfl

/-- A report takes the place of the set that is stored; that this was complete stays. -/
theorem newInfo_fields (s : State) (req : Answer) (self : Waiter) (q : Query) (trustInc : ℕ) :
    (newInfo s req self q trustInc).capSet = some q.capSet ∧
      (newInfo s req self q trustInc).complete = (s.capabilities req.uri).complete := by
  unfold newInfo capabilityInfoRecvd
  dsimp only
  by_cases hset : (s.capabilities req.uri).capSet = some q.capSet
  · rw [if_neg (not_not_intro hset)]
    split <;> exact ⟨hset, rfl⟩
  · rw [if_pos hset]
    split <;> exact ⟨rfl, rfl⟩

theorem own_reply_iff (hown : Own uri capSet s) (req : Answer) (q : Query) :
    Own uri capSet (capsDiscoReply capsHash s req q) ↔
      AgreesOn capsHash uri capSet s (.reply req q) := by
  rcases capsDiscoReply_capabilities capsHash s req q with
    ⟨hcaps, hnone⟩ | ⟨self, hself, trustInc, hinc, hcaps⟩
  · rw [Own, hcaps]
    refine iff_of_true hown ?_
    rintro rfl self hself hne
    exact absurd (hnone self hself) hne
  · rw [Own, hcaps]
    by_cases huri : req.uri = uri
    · subst huri
      rw [Function.update_self]
      obtain ⟨hset, hcomplete⟩ := newInfo_fields s req self q trustInc
      rw [hset, hcomplete]
      constructor
      · rintro ⟨-, heq⟩ - _ _ _
        exact Option.some.inj heq
      · intro hagrees
        exact ⟨hown.1, congrArg some (hagrees rfl self hself (by simp [hinc]))⟩
    · rw [Function.update_of_ne (Ne.symm huri)]
      exact iff_of_true hown fun h => absurd h huri

/-! ## Runs -/

/-- What is stored for a URI only changes with replies, once there are own
capabilities. -/
theorem own_step (hown : Own uri capSet s) (e : Event) (hagrees : AgreesOn capsHash uri capSet s e)
    (hstep : step capsHash s e = some s') : Own uri capSet s' := by
  refine step_invariant (I := Own uri capSet) (AgreesOn capsHash uri capSet) (fun _ _ hq h => ?_)
    (fun _ _ _ _ _ h => h) (fun t u handle resource hash v serial _ h => ?_)
    (fun t req q hok _ h => (own_reply_iff (s := answered t req) h req q).mpr hok)
    (fun t req _ _ h => ?_) (fun t v c dataForms _ h => ?_) (fun _ _ h => h) (fun _ _ h => h) s e
    s' hown hagrees hstep
  · rw [Own, hq.capabilities]
    exact h
  · rw [Own, (sameStore_awaitUri t u handle resource hash v serial).capabilities]
    exact h
  · rw [Own, (sameStore_discoFailed (answered t req) req.uri).capabilities]
    exact h
  · rw [Own, addOwnCaps_capabilities h.1]
    exact h

/-- **One step keeps the own capabilities exactly when it meets the condition.** -/
theorem own_step_iff (hown : Own uri capSet s) (e : Event) (hstep : step capsHash s e = some s') :
    Own uri capSet s' ↔ AgreesOn capsHash uri capSet s e := by
  refine ⟨fun hown' => ?_, fun hagrees => own_step hown e hagrees hstep⟩
  cases e with
  | reply req q =>
    obtain ⟨-, heq⟩ := Option.ite_none_right_eq_some.mp hstep
    cases heq
    exact (own_reply_iff (s := answered s req) hown req q).mp hown'
  | _ => exact trivial

/-! ## Own capabilities are kept -/

/-- **Own capabilities are returned as they were added, all along a run, exactly when
there were no others before and every reply for their URI agrees with them.** -/
theorem own_caps_kept_iff {dataForms : List DataForm} {es : List Event}
    (hrun : run (step capsHash) (addOwnCaps s ver capSet dataForms) es = some s') :
    (∀ es₁ es₂ s₁, es = es₁ ++ es₂ →
        run (step capsHash) (addOwnCaps s ver capSet dataForms) es₁ = some s₁ →
        ∃ info, peekOwnCaps s₁ ver = some info ∧ info.capSet = some capSet) ↔
      ((s.capabilities (uriOf nsGabbleCaps ver)).complete = true →
        (s.capabilities (uriOf nsGabbleCaps ver)).capSet = some capSet) ∧
      Admits (AgreesOn capsHash (uriOf nsGabbleCaps ver) capSet) (step capsHash)
        (addOwnCaps s ver capSet dataForms) es := by
  have hkept : Own (uriOf nsGabbleCaps ver) capSet (addOwnCaps s ver capSet dataForms) →
      ((∀ es₁ es₂ s₁, es = es₁ ++ es₂ →
          run (step capsHash) (addOwnCaps s ver capSet dataForms) es₁ = some s₁ →
          ∃ info, peekOwnCaps s₁ ver = some info ∧ info.capSet = some capSet) ↔
        Admits (AgreesOn capsHash (uriOf nsGabbleCaps ver) capSet) (step capsHash)
          (addOwnCaps s ver capSet dataForms) es) := fun hown =>
    forall_run_iff_admits (I := Own (uriOf nsGabbleCaps ver) capSet)
      (fun _ h => peekOwnCaps_iff.mpr h)
      (fun _ e _ h hstep => ⟨peekOwnCaps_iff.trans (own_step_iff h e hstep),
        fun hok => own_step h e hok hstep⟩) es hown hrun
  constructor
  · intro hall
    have hown := peekOwnCaps_iff.mp (hall [] es _ rfl rfl)
    exact ⟨(own_addOwnCaps_iff dataForms).mp hown, (hkept hown).mp hall⟩
  · rintro ⟨hset, hadm⟩
    exact (hkept ((own_addOwnCaps_iff dataForms).mpr hset)).mpr hadm

/-- A contact without a hash advertises the version "v" of our own node, and is asked
what this stands for. -/
def askedRun : List Event :=
  [.presence "b" (some "r") .available none 0 0 (some ⟨none, some nsGabbleCaps, some "v", none⟩)]

def askedReply (feature : String) : Event :=
  .reply ⟨uriOf nsGabbleCaps "v", "b", some "r"⟩ ⟨[feature], [], []⟩

theorem own_caps_kept_iff_askedRun :
    ∃ s s', run (step emptyHash) (State.new "me" fun _ => none) askedRun = some s ∧
      run (step emptyHash) (addOwnCaps s "v" {"a"} []) [askedReply "a"] = some s' ∧
      ∃ info, peekOwnCaps s' "v" = some info ∧ info.capSet = some {"a"} := by
  have hasked : (run (step emptyHash) (State.new "me" fun _ => none) askedRun).any (fun s =>
      (s.capabilities (uriOf nsGabbleCaps "v")).complete = false ∧
        Admits (AgreesOn emptyHash (uriOf nsGabbleCaps "v") {"a"}) (step emptyHash)
          (addOwnCaps s "v" {"a"} []) [askedReply "a"] ∧
        (run (step emptyHash) (addOwnCaps s "v" {"a"} []) [askedReply "a"]).isSome) = true := by
    decide +kernel
  obtain ⟨s, hs, hfacts⟩ := (Option.any_eq_true _ _).mp hasked
  obtain ⟨hfirst, hadm, hsome⟩ := of_decide_eq_true hfacts
  obtain ⟨s', hs'⟩ := Option.isSome_iff_exists.mp hsome
  exact ⟨s, s', hs, hs', (own_caps_kept_iff hs').mpr ⟨by simp [hfirst], hadm⟩ _ []
    s' (List.append_nil _).symm hs'⟩

/-- The contact was asked before the capabilities were added, and answers something
else: this is what is returned from then on. -/
theorem own_caps_overwritten :
    ∃ s s', run (step emptyHash) (State.new "me" fun _ => none) askedRun = some s ∧
      (s.capabilities (uriOf nsGabbleCaps "v")).complete = false ∧
      run (step emptyHash) (addOwnCaps s "v" {"a"} []) [askedReply "b"] = some s' ∧
      ∃ info, peekOwnCaps s' "v" = some info ∧ info.capSet = some {"b"} := by
  have hasked : (run (step emptyHash) (State.new "me" fun _ => none) askedRun).any (fun s =>
      (s.capabilities (uriOf nsGabbleCaps "v")).complete = false ∧
        (run (step emptyHash) (addOwnCaps s "v" {"a"} []) [askedReply "b"]).any fun s' =>
          Own (uriOf nsGabbleCaps "v") {"b"} s') = true := by
    decide +kernel
  obtain ⟨s, hs, hfacts⟩ := (Option.any_eq_true _ _).mp hasked
  obtain ⟨hfirst, hsome⟩ := of_decide_eq_true hfacts
  obtain ⟨s', hs', hown⟩ := (Option.any_eq_true _ _).mp hsome
  exact ⟨s, s', hs, hfirst, hs', peekOwnCaps_iff.mpr (of_decide_eq_true hown)⟩

end PresenceCache
