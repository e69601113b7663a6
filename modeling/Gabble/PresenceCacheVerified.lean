/-
# The presence cache: verified replies

A reply whose SHA-1 verification string was recomputed and is the advertised one
should be believed at once.  It is not when its contact is counted among the
reporters already, because of another resource that was not verified: a contact
adds to the trust once.  The module says when this is so, for a reply and in terms
of the reports before it.
-/
import Gabble.PresenceCacheTrust

namespace PresenceCache

open Transition

variable {capsHash : Query → Option String} {initial : String → Option Query} {s s' : State}
  {req : Answer} {q : Query}

/-! ## What a verified reply is for -/

/-- The reply of a resource that waits, and its hash is the one it advertised. -/
def VerifiedReply (capsHash : Query → Option String) (s : State) (req : Answer) (q : Query) :
    Prop :=
  ∃ self, findMatchingWaiter (s.discoPending req.uri) req.handle req.resource = some self ∧
    Verified capsHash (newReport req self q)

/-- The URI is trusted, and everybody who waited for it is served by the reply: the
contacts are announced, and those whose presence is known get the capabilities. -/
structure Trusts (s s' : State) (req : Answer) (q : Query) : Prop where
  trust : enoughTrust ≤ (s'.capabilities req.uri).trust
  nobodyWaits : s'.discoPending req.uri = []
  announced : ∀ w ∈ s.discoPending req.uri,
    Signal.capabilitiesDiscovered w.handle ∈ emitted s s'
  served : ∃ clientTypes, ∀ w ∈ s.discoPending req.uri, s.presence w.handle ≠ none →
    settingFor req.uri q clientTypes req.handle w ∈ settled s s'

/-- The contact is counted among those who reported these capabilities for the URI,
and they are not enough. -/
def Counted (s : State) (req : Answer) (q : Query) : Prop :=
  (s.capabilities req.uri).capSet = some q.capSet ∧ req.handle ∈ (s.capabilities req.uri).guys ∧
    (s.capabilities req.uri).trust < enoughTrust

theorem trustOf_of_verified {self : Waiter} (h : Verified capsHash (newReport req self q)) :
    trustOf capsHash self q = some enoughTrust := by
  obtain ⟨hhash, hsome, hver⟩ := h
  rw [trustOf, if_pos (show self.hash = some "sha-1" from hhash)]
  exact if_pos ⟨hsome, hver⟩

/-- `capability_info_recvd` returns enough for a verified reply unless its contact is
counted. -/
theorem enough_newInfo_iff (s : State) (req : Answer) (self : Waiter) (q : Query) :
    enoughTrust ≤ (newInfo s req self q enoughTrust).trust ↔ ¬ Counted s req q := by
  have hcases := trust_capabilityInfoRecvd (s.capabilities req.uri) req.handle q.capSet
    enoughTrust (q.clientTypes self.resource) q.dataForms
  by_cases hcounted : (s.capabilities req.uri).capSet = some q.capSet ∧
      req.handle ∈ (s.capabilities req.uri).guys
  · obtain ⟨hset, hmem⟩ := hcounted
    have htrust : (newInfo s req self q enoughTrust).trust = (s.capabilities req.uri).trust := by
      simp [newInfo, capabilityInfoRecvd, hset, hmem]
    rw [htrust, Counted, not_and_or, not_and_or, Nat.not_lt]
    exact ⟨fun h => .inr (.inr h), fun h => (h.resolve_left (not_not_intro hset)).resolve_left
      (not_not_intro hmem)⟩
  · refine iff_of_true ?_ fun h => hcounted ⟨h.1, h.2.1⟩
    rcases hcases with ⟨hset, hmem, -⟩ | ⟨-, -, htrust⟩ | htrust
    · exact absurd ⟨hset, hmem⟩ hcounted
    · exact (Nat.le_add_left _ _).trans htrust.ge
    · exact htrust.ge

/-- **A verified reply.**  It is trusted, and serves everybody who waits, exactly if
its contact was not counted before. -/
theorem trusts_iff (h : VerifiedReply capsHash s req q) :
    Trusts s (capsDiscoReply capsHash s req q) req q ↔ ¬ Counted s req q := by
  obtain ⟨self, hself, hverified⟩ := h
  have hinc := trustOf_of_verified hverified
  rw [← enough_newInfo_iff s req self q]
  rcases capsDiscoReply_cases capsHash s req q with
    ⟨hnone, -⟩ | ⟨self', hself', ⟨hbad, -⟩ | ⟨trustInc, hinc', hcases⟩⟩
  · rw [hself] at hnone
    cases hnone
  · rw [hself] at hself'
    cases hself'
    rw [hinc] at hbad
    cases hbad
  · rw [hself] at hself'
    cases hself'
    rw [hinc] at hinc'
    cases hinc'
    rcases hcases with ⟨henough, heq⟩ | ⟨hless, heq⟩
    · refine iff_of_true ?_ henough
      rw [heq]
      have hstore : (serveWaiters (reported s req self q enoughTrust) req.uri q
          (q.clientTypes self.resource) req.handle).capabilities req.uri =
            newInfo s req self q enoughTrust ∧
          (serveWaiters (reported s req self q enoughTrust) req.uri q
            (q.clientTypes self.resource) req.handle).discoPending req.uri = [] :=
        serveWaiters_invariant (I := fun t => t.capabilities req.uri =
            newInfo s req self q enoughTrust ∧ t.discoPending req.uri = [])
          (fun t t' hq ht => ⟨hq.capabilities ▸ ht.1, hq.discoPending ▸ ht.2⟩)
          (fun _ _ _ ht => ht) ⟨Function.update_self _ _ _, Function.update_self _ _ _⟩
      refine ⟨?_, hstore.2, fun w hw => ?_, q.clientTypes self.resource, fun w hw => ?_⟩
      · rw [hstore.1]
        exact henough
      · exact serveWaiters_emits (s := reported s req self q enoughTrust) hw
      · exact (serve_settles req.uri q _ req.handle _ _
          (taken (reported s req self q enoughTrust) req.uri q) le_rfl).2 w hw
    · refine iff_of_false (fun htrusts => ?_) (Nat.not_le_of_lt hless)
      have htrust := htrusts.trust
      rw [heq] at htrust
      have hstore : (setCapsFor (reported s req self q enoughTrust) req.uri self q.capSet
          (q.clientTypes self.resource) q.dataForms req.handle).capabilities req.uri =
            newInfo s req self q enoughTrust :=
        setCapsFor_invariant (I := fun t => t.capabilities req.uri =
            newInfo s req self q enoughTrust)
          (fun t t' hq ht => hq.capabilities ▸ ht) id (Function.update_self _ _ _)
      change enoughTrust ≤ ((setCapsFor (reported s req self q enoughTrust) req.uri self q.capSet
        (q.clientTypes self.resource) q.dataForms req.handle).capabilities req.uri).trust at htrust
      rw [hstore] at htrust
      exact absurd hless (Nat.not_lt_of_le htrust)

/-! ## Runs -/

/-- The condition on one event: a contact whose reply is verified is not counted
already. -/
def NewReporter (capsHash : Query → Option String) (s : State) : Event → Prop
  | .reply req q => Answers s req → VerifiedReply capsHash s req q → ¬ Counted s req q
  | _ => True

theorem newReporter_reply_iff :
    (∀ s', step capsHash s (.reply req q) = some s' → VerifiedReply capsHash s req q →
        Trusts s s' req q) ↔ NewReporter capsHash s (.reply req q) := by
  constructor
  · intro hall hreq hverified
    have htrusts := hall _ (if_pos hreq) hverified
    exact (trusts_iff (s := answered s req) hverified).mp
      ⟨htrusts.trust, htrusts.nobodyWaits, htrusts.announced, htrusts.served⟩
  · intro hnew s' hs' hverified
    obtain ⟨hreq, heq⟩ := Option.ite_none_right_eq_some.mp hs'
    cases heq
    have htrusts := (trusts_iff (s := answered s req) hverified).mpr (hnew hreq hverified)
    exact ⟨htrusts.trust, htrusts.nobodyWaits, htrusts.announced, htrusts.served⟩

/-- **Verified replies.**  In a run every verified reply makes its URI trusted and
serves everybody who waits for it, exactly if none of them comes from a contact that
is counted among too few reporters of the same capabilities already. -/
theorem verified_trusted_iff (capsHash : Query → Option String) (selfHandle : Handle)
    (initial : String → Option Query) (es : List Event) :
    (∀ es₁ req q es₂ s s', es = es₁ ++ .reply req q :: es₂ →
        run (step capsHash) (State.new selfHandle initial) es₁ = some s →
        step capsHash s (.reply req q) = some s' → VerifiedReply capsHash s req q →
        Trusts s s' req q) ↔
      Admits (NewReporter capsHash) (step capsHash) (State.new selfHandle initial) es := by
  rw [admits_iff_forall_split]
  constructor
  · intro hall es₁ e es₂ s hsplit hrun
    cases e with
    | reply req q =>
      exact newReporter_reply_iff.mp fun s' => hall es₁ req q es₂ s s' hsplit hrun
    | presence | unavailable | error | addOwnCaps | cacheLost | roomMember => trivial
  · intro hall es₁ req q es₂ s s' hsplit hrun
    exact newReporter_reply_iff.mpr (hall es₁ _ es₂ s hsplit hrun) s'

/-- The hash of the empty reply. -/
def emptyVer : String := "2jmj7l5rSw0yVb/vlWAYkK/YBwk="

/-- A resource of a contact advertises this hash of the node "n". -/
def advertises (handle : Handle) (resource : String) (hash : Option String) : Event :=
  .presence handle (some resource) .available none 0 0 (some ⟨hash, some "n", some emptyVer, none⟩)

/-- Two resources of one contact advertise the same URI, the first without saying that
it is a hash, and another contact does too.  The first one answers. -/
def unverifiedFirst : List Event :=
  [advertises "b" "r" none, advertises "b" "q" (some "sha-1"), advertises "c" "r" (some "sha-1"),
    .reply ⟨uriOf "n" emptyVer, "b", some "r"⟩ ⟨[], [], []⟩]

/-- Then the verified reply of the second resource adds nothing to the trust, and the
other contact is not served by it. -/
theorem verified_not_trusted :
    ∃ s s', run (step emptyHash) (State.new "me" fun _ => none) unverifiedFirst = some s ∧
      step emptyHash s (.reply ⟨uriOf "n" emptyVer, "b", some "q"⟩ ⟨[], [], []⟩) = some s' ∧
      VerifiedReply emptyHash s ⟨uriOf "n" emptyVer, "b", some "q"⟩ ⟨[], [], []⟩ ∧
      (s'.capabilities (uriOf "n" emptyVer)).trust = 1 ∧
      (s'.discoPending (uriOf "n" emptyVer)).map Waiter.handle = [("c" : Handle)] ∧
      ¬ Trusts s s' ⟨uriOf "n" emptyVer, "b", some "q"⟩ ⟨[], [], []⟩ := by
  refine ⟨_, _, rfl, rfl,
    ⟨⟨"b", some "q", 2, true, some "sha-1", some emptyVer⟩, ?_, ?_⟩, ?_, ?_, ?_⟩
  · decide +kernel
  · exact ⟨rfl, rfl, rfl⟩
  · decide +kernel
  · decide +kernel
  · intro h
    exact absurd h.trust (by decide +kernel)

end PresenceCache
