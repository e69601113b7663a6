/-
# The presence cache: where capabilities come from

Every capability of a resource was set for that resource, or is one of the few
that a client's node or the name of a bundle stand for by themselves.  Together
with what is known about the settings this says whose word can change the
capabilities of a contact.
-/
import Gabble.PresenceAggregate
import Gabble.PresenceCacheTrust

namespace Presence

variable {capSet : CapabilitySet}

/-! ## Presences -/

/-- Every capability of a resource has a source `P`, and so has every capability of
the aggregate. -/
structure Sourced (P : Option String → String → Prop) (p : Presence) : Prop where
  resources : ∀ r ∈ p.resources, ∀ c ∈ r.capSet, P (some r.name) c
  aggregate : ∀ c ∈ p.capSet, ∃ resource, P resource c

variable {P P' : Option String → String → Prop} {p : Presence}

theorem sourced_new : Sourced P Presence.new :=
  ⟨fun r hr => (by cases hr), fun c hc => absurd hc (Finset.notMem_empty c)⟩

theorem Sourced.mono (h : Sourced P p) (himp : ∀ resource c, P resource c → P' resource c) :
    Sourced P' p where
  resources := fun r hr c hc => himp _ c (h.resources r hr c hc)
  aggregate := fun c hc => (h.aggregate c hc).imp fun resource => himp resource c

theorem setCapabilitiesLoop_resources (name : String) (update : Resource → Resource)
    (rs : List Resource) (caps : CapabilitySet) (forms : List DataForm) :
    (setCapabilitiesLoop name update rs caps forms).1 =
      rs.map fun r => if r.name = name then update r else r := by
  induction rs generalizing caps forms with
  | nil => rfl
  | cons r rs ih => rw [setCapabilitiesLoop, List.map_cons, ih]

theorem addCaps_name (capSet : CapabilitySet) (dataForms : List DataForm) (serial : ℕ)
    (r : Resource) : (addCaps capSet dataForms serial r).name = r.name := by
  simp only [addCaps]
  split <;> split <;> rfl

/-- Capabilities of a resource after some were set: those there were, and new
ones. -/
theorem addCaps_capSet (capSet : CapabilitySet) (dataForms : List DataForm) (serial : ℕ)
    (r : Resource) : (addCaps capSet dataForms serial r).capSet ⊆ r.capSet ∪ capSet := by
  simp only [addCaps]
  split
  · split
    · exact Finset.union_subset_union_left (Finset.empty_subset _)
    · exact Finset.empty_subset _
  · split
    · exact Finset.Subset.refl _
    · exact Finset.subset_union_left

theorem Sourced.setCapabilities (h : Sourced P p) {resource : Option String}
    (hcaps : ∀ c ∈ capSet, P resource c) (dataForms : List DataForm)
    (serial : ℕ) : Sourced P (p.setCapabilities resource capSet dataForms serial) := by
  cases resource with
  | none =>
    rw [Presence.setCapabilities]
    split
    · exact h
    · refine ⟨h.resources, fun c hc => ⟨none, hcaps c ?_⟩⟩
      rwa [Finset.empty_union] at hc
  | some name =>
    have hres : ∀ r ∈ (p.setCapabilities (some name) capSet dataForms serial).resources,
        ∀ c ∈ r.capSet, P (some r.name) c := by
      intro r hr c hc
      simp only [Presence.setCapabilities, setCapabilitiesLoop_resources, List.mem_map] at hr
      obtain ⟨r₀, hr₀, rfl⟩ := hr
      split at hc
      · next hname =>
        rw [if_pos hname, addCaps_name]
        rcases Finset.mem_union.mp (addCaps_capSet _ _ _ _ hc) with hc | hc
        · exact h.resources r₀ hr₀ c hc
        · rw [hname]
          exact hcaps c hc
      · next hname =>
        rw [if_neg hname]
        exact h.resources r₀ hr₀ c hc
    refine ⟨hres, fun c hc => ?_⟩
    rcases (setCapabilitiesLoop_caps _ _ _ _ _ c).mp hc with hc | ⟨r, hr, hc⟩
    · exact absurd hc (Finset.notMem_empty c)
    · exact ⟨_, hres r hr c hc⟩

/-- The aggregate is computed from the resources. -/
theorem sourced_aggregateResources
    (h : ∀ r ∈ p.resources, ∀ c ∈ r.capSet, P (some r.name) c) :
    Sourced P (aggregateResources p).1 := by
  obtain ⟨hres, -, hcaps⟩ := aggregateResources_spec p
  refine ⟨?_, fun c hc => ?_⟩
  · rw [hres]
    exact h
  · obtain ⟨r, hr, hc⟩ := (hcaps c).mp hc
    exact ⟨_, h r hr c hc⟩

theorem mem_findOrCreate {name : String} {update : Resource → Resource} {rs : List Resource}
    {r : Resource} (h : r ∈ findOrCreate name update rs) :
    r ∈ rs ∨ (∃ r₀ ∈ rs, r = update r₀) ∨ r = update (Resource.new name) := by
  induction rs with
  | nil => exact .inr (.inr (List.mem_singleton.mp h))
  | cons x rs ih =>
    rw [findOrCreate] at h
    split at h
    · rcases List.mem_cons.mp h with rfl | h
      · exact .inr (.inl ⟨x, List.mem_cons_self, rfl⟩)
      · exact .inl (List.mem_cons_of_mem x h)
    · rcases List.mem_cons.mp h with rfl | h
      · exact .inl List.mem_cons_self
      · rcases ih h with h | ⟨r₀, hr₀, heq⟩ | h
        · exact .inl (List.mem_cons_of_mem x h)
        · exact .inr (.inl ⟨r₀, List.mem_cons_of_mem x hr₀, heq⟩)
        · exact .inr (.inr h)

theorem Sourced.update (h : Sourced P p) (resource : Option String) (status : PresenceId)
    (statusMessage : Option String) (priority now : ℤ) :
    Sourced P (p.update resource status statusMessage priority now).presence := by
  cases resource with
  | none => exact ⟨fun r hr => (by cases hr), h.aggregate⟩
  | some name =>
    refine sourced_aggregateResources fun r hr c hc => ?_
    dsimp only at hr
    split at hr
    · exact h.resources r (List.mem_of_mem_eraseP hr) c hc
    · rcases mem_findOrCreate hr with hr | ⟨r₀, hr₀, rfl⟩ | rfl
      · exact h.resources r hr c hc
      · exact h.resources r₀ hr₀ c hc
      · exact absurd hc (Finset.notMem_empty c)

theorem mem_setClientType {name : String} {clientTypes : ℕ} {rs : List Resource} {r : Resource}
    (h : r ∈ setClientType name clientTypes rs) :
    ∃ r₀ ∈ rs, r = { r₀ with clientType := r.clientType } := by
  induction rs with
  | nil => cases h
  | cons x rs ih =>
    rw [setClientType] at h
    split at h
    · rcases List.mem_cons.mp h with rfl | h
      · exact ⟨x, List.mem_cons_self, rfl⟩
      · exact ⟨r, List.mem_cons_of_mem x h, rfl⟩
    · rcases List.mem_cons.mp h with rfl | h
      · exact ⟨r, List.mem_cons_self, rfl⟩
      · obtain ⟨r₀, hr₀, heq⟩ := ih h
        exact ⟨r₀, List.mem_cons_of_mem x hr₀, heq⟩

theorem Sourced.updateClientTypes (h : Sourced P p) (resource : Option String)
    (clientTypes : ℕ) : Sourced P (p.updateClientTypes resource clientTypes).1 := by
  cases resource with
  | none =>
    rw [Presence.updateClientTypes]
    split
    · exact h
    · exact ⟨h.resources, h.aggregate⟩
  | some name =>
    rw [Presence.updateClientTypes]
    split
    · exact h
    · refine sourced_aggregateResources fun r hr c hc => ?_
      obtain ⟨r₀, hr₀, heq⟩ := mem_setClientType hr
      rw [heq] at hc ⊢
      exact h.resources r₀ hr₀ c hc

end Presence

namespace PresenceCache

open CInt (guintSize)
open Transition

variable {capsHash : Query → Option String} {initial : String → Option Query} {s s' : State}

/-! ## The cache -/

/-- The capabilities a node or the name of a bundle stand for by themselves. -/
def impliedCaps : CapabilitySet :=
  {quirkGoogleWebmailClient, Query.quirkOmitsContentCreators, quirkAndroidGtalkClient,
    nsGoogleFeatVoice, nsGoogleFeatVideo, nsGoogleFeatShare}

theorem nodeCaps_subset {node : String}
    (h : nodeCaps node = some capSet) : capSet ⊆ impliedCaps := by
  rw [nodeCaps] at h
  split at h
  · cases h
    decide
  · split at h
    · cases h
      decide
    · cases h

theorem googleCap_subset {hash : Option String} {fragment : String}
    (h : googleCap hash fragment = some capSet) : capSet ⊆ impliedCaps := by
  rw [googleCap, getGoogleCap] at h
  split at h
  · split_ifs at h
    all_goals
      cases h
      decide
  · cases h

/-- Where a capability of a resource may come from. -/
def Origin (s : State) (handle : Handle) (resource : Option String) (c : String) : Prop :=
  c ∈ impliedCaps ∨ ∃ x ∈ s.settings, x.handle = handle ∧ x.resource = resource ∧ c ∈ x.capSet

/-- Every capability comes from somewhere. -/
def AllSourced (s : State) : Prop :=
  ∀ handle p, s.presence handle = some p → Presence.Sourced (Origin s handle) p

theorem Origin.mono (hsettings : s.settings ⊆ s'.settings) {handle : Handle}
    {resource : Option String} {c : String} (h : Origin s handle resource c) :
    Origin s' handle resource c := by
  refine h.imp_right ?_
  rintro ⟨x, hx, hrest⟩
  exact ⟨x, hsettings hx, hrest⟩

namespace AllSourced

section

variable (h : AllSourced s)

include h

/-- Only presences and settings matter. -/
theorem congr (hpresence : s'.presence = s.presence)
    (hsettings : s.settings ⊆ s'.settings) : AllSourced s' := by
  intro handle p hp
  rw [hpresence] at hp
  exact (h handle p hp).mono fun _ _ => Origin.mono hsettings

theorem setPresence {handle : Handle} {p : Presence} (hp : Presence.Sourced (Origin s handle) p) :
    AllSourced (setPresence s handle (some p)) := by
  intro handle' p' hp'
  by_cases hhandle : handle' = handle
  · subst hhandle
    rw [setPresence_self] at hp'
    cases hp'
    exact hp
  · rw [setPresence_of_ne s hhandle] at hp'
    exact h handle' p' hp'

theorem removePresence (handle : Handle) :
    AllSourced (PresenceCache.setPresence s handle none) := by
  intro handle' p' hp'
  by_cases hhandle : handle' = handle
  · subst hhandle
    rw [setPresence_self] at hp'
    cases hp'
  · rw [setPresence_of_ne s hhandle] at hp'
    exact h handle' p' hp'

theorem emitCapabilitiesUpdate (handle : Handle) (old new : CapabilitySet) :
    AllSourced (emitCapabilitiesUpdate s handle old new) := by
  apply h.congr (emitCapabilitiesUpdate_presence s handle old new)
  rw [(quiet_emitCapabilitiesUpdate s handle old new).settings]
  exact List.Subset.refl _

theorem emitClientTypesUpdated (handle : Handle) (changed : Bool) :
    AllSourced (emitClientTypesUpdated s handle changed) := by
  apply h.congr (emitClientTypesUpdated_presence s handle changed)
  rw [(quiet_emitClientTypesUpdated s handle changed).settings]
  exact List.Subset.refl _

end

/-- Capabilities of a setting that was recorded. -/
theorem origin_record (x : Setting) {c : String} (hc : c ∈ x.capSet) :
    Origin (record s x) x.handle x.resource c :=
  .inr ⟨x, List.mem_append_right _ List.mem_cons_self, rfl, rfl, hc⟩

section

variable (h : AllSourced s)

include h

theorem record (x : Setting) : AllSourced (record s x) :=
  h.congr rfl (List.subset_append_left _ _)

theorem setCapabilities {handle : Handle} {resource : Option String}
    (hcaps : capSet ⊆ impliedCaps) (serial : ℕ) :
    AllSourced (setCapabilities s handle resource capSet serial) := by
  rw [PresenceCache.setCapabilities]
  split
  · exact h
  · next p hp =>
    refine h.setPresence ((h handle p hp).setCapabilities (fun c hc => ?_) [] serial)
    exact .inl (hcaps hc)

theorem setCapsFor (uri : String) (w : Waiter) (capSet : CapabilitySet)
    (clientTypes : ℕ) (dataForms : List DataForm) (responder : Handle) :
    AllSourced (setCapsFor s uri w capSet clientTypes dataForms responder) := by
  rw [PresenceCache.setCapsFor]
  split
  · exact h
  · next p hp =>
    have hrec := h.record
      ⟨w.handle, w.resource, uri, capSet, dataForms, clientTypes, some responder⟩
    apply emitClientTypesUpdated
    apply emitCapabilitiesUpdate
    apply hrec.setPresence
    apply Presence.Sourced.updateClientTypes
    exact (hrec w.handle p hp).setCapabilities (fun c hc => origin_record _ hc) _ _

theorem applyStored (uri : String) (handle : Handle) (resource : Option String)
    (serial : ℕ) : AllSourced (applyStored s uri handle resource serial) := by
  rw [PresenceCache.applyStored]
  split
  · exact h
  · next p hp =>
    have hrec := h.record (storedSetting s uri handle resource)
    apply emitClientTypesUpdated
    apply hrec.setPresence
    apply Presence.Sourced.updateClientTypes
    refine (hrec handle p hp).setCapabilities (fun c hc => ?_) _ _
    exact origin_record (storedSetting s uri handle resource) hc

theorem update (handle : Handle) (resource : Option String) (status : PresenceId)
    (statusMessage : Option String) (priority now : ℤ) :
    AllSourced (update s handle resource status statusMessage priority now) := by
  have hp : Presence.Sourced (Origin s handle) ((s.presence handle).getD Presence.new) := by
    cases hpresence : s.presence handle with
    | none => exact Presence.sourced_new
    | some p => exact h handle p hpresence
  have hset := h.setPresence (hp.update resource status statusMessage priority now)
  have hmaybe : ∀ t, AllSourced t → AllSourced (maybeRemove t handle) := by
    intro t ht
    rw [maybeRemove]
    split
    · exact ht
    · split
      · exact ht.removePresence handle
      · exact ht
  rw [PresenceCache.update]
  apply hmaybe
  apply emitClientTypesUpdated
  split
  · exact (hset.emitCapabilitiesUpdate handle _ _).congr rfl (List.Subset.refl _)
  · exact hset.emitCapabilitiesUpdate handle _ _

theorem processCapsUri (handle : Handle) (resource : Option String)
    (node : String) (hash ver : Option String) (serial : ℕ) (fragment : String) :
    AllSourced (processCapsUri s handle resource node hash ver serial fragment) := by
  rw [PresenceCache.processCapsUri]
  split
  · exact h.applyStored _ handle resource serial
  · split
    · next hcap => exact h.setCapabilities (googleCap_subset hcap) serial
    · rcases awaitUri_cases s (uriOf node fragment) handle resource hash ver serial with
        ⟨w, -, heq⟩ | ⟨-, heq | ⟨-, heq⟩⟩
      all_goals
        rw [heq]
        exact h.congr rfl (List.Subset.refl _)

theorem processCaps (handle : Handle) (resource : Option String)
    (caps : Option CapsNode) : AllSourced (processCaps s handle resource caps) := by
  have hserial : AllSourced { s with capsSerial := (s.capsSerial + 1) % guintSize } :=
    h.congr rfl (List.Subset.refl _)
  cases caps with
  | none => exact hserial
  | some c =>
    refine emitCapabilitiesUpdate ?_ handle _ _
    refine List.foldlRecOn (parseCapBundles c) _ ?_ fun t ht fragment _ =>
      ht.processCapsUri handle resource _ c.hash c.ver _ fragment
    rw [parseNode]
    split
    · exact hserial
    · next hnode =>
      obtain ⟨node, -, hcaps⟩ := Option.bind_eq_some_iff.mp hnode
      exact hserial.setCapabilities (nodeCaps_subset hcaps) _

theorem capsDiscoReply (req : Answer) (q : Query) :
    AllSourced (capsDiscoReply capsHash s req q) := by
  rcases capsDiscoReply_cases capsHash s req q with
    ⟨-, heq⟩ | ⟨self, -, ⟨-, heq⟩ | ⟨trustInc, -, ⟨-, heq⟩ | ⟨-, heq⟩⟩⟩
  · rw [heq]
    exact h
  · rw [heq]
    exact h.congr rfl (List.Subset.refl _)
  · rw [heq]
    refine List.foldlRecOn _ _ ?_ fun t ht w _ => ?_
    · exact h.congr rfl (List.Subset.refl _)
    · exact (ht.setCapsFor req.uri w _ _ _ req.handle).congr rfl (List.Subset.refl _)
  · rw [heq]
    have hreported : AllSourced (reported s req self q trustInc) :=
      h.congr rfl (List.Subset.refl _)
    exact (hreported.setCapsFor req.uri self _ _ _ req.handle).congr rfl (List.Subset.refl _)

end

theorem step (s : State) (e : Event) (s' : State) (h : AllSourced s)
    (hstep : step capsHash s e = some s') : AllSourced s' := by
  have hanswered : ∀ req, AllSourced (answered s req) :=
    fun req => h.congr rfl (List.Subset.refl _)
  cases e with
  | presence handle resource status statusMessage priority now caps =>
    obtain ⟨-, heq⟩ := Option.ite_none_right_eq_some.mp hstep
    cases heq
    exact (h.update handle resource status statusMessage priority now).processCaps handle
      resource caps
  | unavailable handle resource status statusMessage priority now =>
    obtain ⟨-, heq⟩ := Option.ite_none_right_eq_some.mp hstep
    cases heq
    exact h.update handle resource status statusMessage priority now
  | reply req q =>
    obtain ⟨-, heq⟩ := Option.ite_none_right_eq_some.mp hstep
    cases heq
    exact (hanswered req).capsDiscoReply req q
  | error req =>
    obtain ⟨-, heq⟩ := Option.ite_none_right_eq_some.mp hstep
    cases heq
    rw [discoFailed]
    split
    · exact (hanswered req).congr rfl (List.Subset.refl _)
    · exact (hanswered req).congr rfl (List.Subset.refl _)
  | addOwnCaps ver capSet dataForms =>
    cases hstep
    rw [addOwnCaps]
    split
    · exact h
    · exact h.congr rfl (List.Subset.refl _)
  | cacheLost uri =>
    cases hstep
    exact h.congr rfl (List.Subset.refl _)
  | roomMember room nick =>
    cases hstep
    exact h.congr rfl (List.Subset.refl _)

end AllSourced

/-! ## Whose word counts -/

/-- Fewer than five contacts without a matching hash convince nobody else. -/
theorem Earned.mem_of_few {x : Setting} (h : Earned capsHash initial s x) {few : Finset Handle}
    (hfew : few.card < enoughTrust)
    (hreports : ∀ r ∈ s.reports, r.uri = x.uri → r.query.capSet = x.capSet →
      r.handle ∈ few ∧ ¬ Verified capsHash r)
    (hpreset : ¬ Preset s x.uri)
    (hinitial : ∀ q, initial x.uri = some q → q.capSet ≠ x.capSet) : x.handle ∈ few := by
  rcases h with ⟨r, hr, huri, hhandle, hcaps⟩ | ⟨r, hr, huri, -, hcaps, hverified⟩ |
    ⟨block, hblock, hagree, hcard⟩ | hpreset' | ⟨-, q, hq, hcaps⟩
  · rw [← hhandle]
    exact (hreports r hr huri hcaps).1
  · exact absurd hverified (hreports r hr huri hcaps).2
  · -- everybody who agreed is one of the few
    have hsub : (block.map Prod.fst).toFinset ⊆ few := by
      intro handle hhandle
      obtain ⟨b, hb, rfl⟩ := List.mem_map.mp (List.mem_toFinset.mp hhandle)
      obtain ⟨r, hr, rfl⟩ := List.mem_map.mp (hblock.subset hb)
      obtain ⟨hr, huri⟩ := List.mem_filter.mp hr
      exact (hreports r hr (of_decide_eq_true huri) (hagree _ hb)).1
    have := Finset.card_le_card hsub
    omega
  · exact absurd hpreset' hpreset
  · exact absurd hcaps (hinitial q hq)

theorem allSourced_new (selfHandle : Handle) (initial : String → Option Query) :
    AllSourced (State.new selfHandle initial) := by
  intro handle p hp
  cases hp

/-- **Capabilities are not poisoned.**  In every run, capabilities are set only for
one of the reasons of `Earned`, and every capability of a resource was set so,
unless its node or the name of a bundle implies it.  So fewer than five contacts,
the only ones to report a set and none of them with a matching hash, never change
the capabilities of anybody else. -/
theorem capabilities_not_poisoned (capsHash : Query → Option String) (selfHandle : Handle)
    (initial : String → Option Query) (es : List Event) {s : State}
    (hrun : run (step capsHash) (State.new selfHandle initial) es = some s) :
    (∀ x ∈ s.settings, Earned capsHash initial s x) ∧
    (∀ handle p, s.presence handle = some p → ∀ r ∈ p.resources, ∀ c ∈ r.capSet,
      c ∈ impliedCaps ∨
        ∃ x ∈ s.settings, x.handle = handle ∧ x.resource = some r.name ∧ c ∈ x.capSet) ∧
    (∀ (few : Finset Handle) (uri : String) (capSet : CapabilitySet), few.card < enoughTrust →
      (∀ r ∈ s.reports, r.uri = uri → r.query.capSet = capSet →
        r.handle ∈ few ∧ ¬ Verified capsHash r) →
      ¬ Preset s uri → (∀ q, initial uri = some q → q.capSet ≠ capSet) →
      ∀ x ∈ s.settings, x.uri = uri → x.capSet = capSet → x.handle ∈ few) := by
  have hreach := reachable_of_run es (admits_anyEvent es) hrun
  have htrust : Trustworthy capsHash initial s :=
    hreach.invariant (trustworthy_new selfHandle initial)
      fun s e s' hs _ hstep => hs.step s e s' hstep
  have hsourced : AllSourced s :=
    hreach.invariant (allSourced_new selfHandle initial)
      fun s e s' hs _ hstep => hs.step s e s' hstep
  refine ⟨htrust.settings, fun handle p hp => (hsourced handle p hp).resources, ?_⟩
  rintro few uri capSet hfew hreports hpreset hinitial x hx rfl rfl
  exact (htrust.settings x hx).mem_of_few hfew hreports hpreset hinitial

/-- Five contacts without a hash report the same set; a sixth is served with it. -/
def agreeingRun : List Event :=
  ["b", "c", "d", "e", "f", "g"].map (available · none "v") ++
    ["b", "c", "d", "e", "f"].map fun handle =>
      .reply ⟨"n#v", handle, some "r"⟩ ⟨["feature"], [], []⟩

theorem capabilities_not_poisoned_agreeingRun :
    ∃ s, run (step emptyHash) (State.new "me" fun _ => none) agreeingRun = some s ∧
      (⟨"g", some "r", "n#v", {"feature"}, [], 0, some "f"⟩ : Setting) ∈ s.settings ∧
      Earned emptyHash (fun _ => none) s ⟨"g", some "r", "n#v", {"feature"}, [], 0, some "f"⟩ := by
  have hserved : (run (step emptyHash) (State.new "me" fun _ => none) agreeingRun).any (fun s =>
      (⟨"g", some "r", "n#v", {"feature"}, [], 0, some "f"⟩ : Setting) ∈ s.settings) = true := by
    decide +kernel
  obtain ⟨s, hrun, hmem⟩ := (Option.any_eq_true _ _).mp hserved
  have hmem := of_decide_eq_true hmem
  exact ⟨s, hrun, hmem,
    (capabilities_not_poisoned emptyHash "me" (fun _ => none) agreeingRun hrun).1 _ hmem⟩

end PresenceCache
