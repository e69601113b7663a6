/-
# The presence cache: capabilities of one resource

The capabilities of a resource are a set with a version, the serial of the presence
stanza they belong to.  The module follows the versions of one resource, and the
serials of its waiters, through the functions of the cache.
-/
import Gabble.PresenceCacheOrigin
import Gabble.Versioned

namespace Presence

variable {p : Presence} {n : String}

/-! ## Versions -/

/-- The capabilities of the resources called `n`, each with its serial. -/
def versions (n : String) (p : Presence) : List (ℕ × CapabilitySet) :=
  (p.resources.filter fun r => r.name = n).map fun r => (r.capsSerial, r.capSet)

theorem mem_versions {v : ℕ × CapabilitySet} :
    v ∈ p.versions n ↔ ∃ r ∈ p.resources, r.name = n ∧ (r.capsSerial, r.capSet) = v := by
  simp only [versions, List.mem_map, List.mem_filter, decide_eq_true_eq, and_assoc]

theorem addCaps_version (capSet : CapabilitySet) (dataForms : List DataForm) (serial : ℕ)
    (r : Resource) :
    ((addCaps capSet dataForms serial r).capsSerial, (addCaps capSet dataForms serial r).capSet) =
      Versioned.add serial capSet (r.capsSerial, r.capSet) := by
  rcases Nat.lt_trichotomy serial r.capsSerial with hlt | heq | hgt
  · rw [Versioned.add_of_lt hlt]
    simp [addCaps, Nat.not_lt.mpr hlt.le, Nat.not_le.mpr hlt]
  · rw [Versioned.add, if_neg (show ¬ serial > r.capsSerial by omega), if_pos heq]
    simp [addCaps, heq]
  · rw [Versioned.add_snd hgt]
    simp [addCaps, hgt]

theorem versions_setCapabilities_self (capSet : CapabilitySet) (dataForms : List DataForm)
    (serial : ℕ) : (p.setCapabilities (some n) capSet dataForms serial).versions n =
      (p.versions n).map (Versioned.add serial capSet) := by
  rw [versions, versions, Presence.setCapabilities]
  dsimp only
  rw [setCapabilitiesLoop_resources]
  induction p.resources with
  | nil => rfl
  | cons r rs ih =>
    rw [List.map_cons]
    by_cases hname : r.name = n
    · rw [if_pos hname, List.filter_cons_of_pos (by simpa [addCaps_name] using hname),
        List.filter_cons_of_pos (by simpa using hname), List.map_cons, List.map_cons,
        List.map_cons, ih, addCaps_version]
    · rw [if_neg hname, List.filter_cons_of_neg (by simpa using hname),
        List.filter_cons_of_neg (by simpa using hname), ih]

theorem versions_setCapabilities_of_ne {resource : Option String} (h : resource ≠ some n)
    (capSet : CapabilitySet) (dataForms : List DataForm) (serial : ℕ) :
    (p.setCapabilities resource capSet dataForms serial).versions n = p.versions n := by
  cases resource with
  | none =>
    rw [Presence.setCapabilities]
    split
    · rfl
    · rfl
  | some m =>
    have hne : m ≠ n := fun heq => h (congrArg some heq)
    rw [versions, versions, Presence.setCapabilities]
    dsimp only
    rw [setCapabilitiesLoop_resources]
    induction p.resources with
    | nil => rfl
    | cons r rs ih =>
      rw [List.map_cons]
      by_cases hname : r.name = m
      · have hother : ¬ r.name = n := fun heq => hne (hname.symm.trans heq)
        rw [if_pos hname, List.filter_cons_of_neg (by simpa [addCaps_name] using hother),
          List.filter_cons_of_neg (by simpa using hother), ih]
      · rw [if_neg hname, List.filter_cons, List.filter_cons]
        split
        · rw [List.map_cons, List.map_cons, ih]
        · exact ih

theorem versions_aggregateResources (p : Presence) :
    (aggregateResources p).1.versions n = p.versions n := by
  rw [versions, (aggregateResources_spec p).1]
  rfl

theorem versions_setClientType (name : String) (clientTypes : ℕ) (rs : List Resource) :
    ((setClientType name clientTypes rs).filter fun r => r.name = n).map
        (fun r => (r.capsSerial, r.capSet)) =
      (rs.filter fun r => r.name = n).map fun r => (r.capsSerial, r.capSet) := by
  induction rs with
  | nil => rfl
  | cons r rs ih =>
    rw [setClientType]
    split
    · rw [List.filter_cons, List.filter_cons]
      split <;> rfl
    · rw [List.filter_cons, List.filter_cons]
      split
      · rw [List.map_cons, List.map_cons, ih]
      · exact ih

theorem versions_updateClientTypes (resource : Option String) (clientTypes : ℕ) :
    (p.updateClientTypes resource clientTypes).1.versions n = p.versions n := by
  cases resource with
  | none =>
    rw [Presence.updateClientTypes]
    split
    · rfl
    · rfl
  | some name =>
    rw [Presence.updateClientTypes]
    split
    · rfl
    · rw [versions_aggregateResources]
      exact versions_setClientType name clientTypes p.resources

/-- A resource that is available: its capabilities are those it had. -/
theorem filter_findOrCreate_self (update : Resource → Resource)
    (hupdate : ∀ r, (update r).name = r.name ∧ (update r).capsSerial = r.capsSerial ∧
      (update r).capSet = r.capSet) (rs : List Resource) :
    ((findOrCreate n update rs).filter fun r => r.name = n).map
        (fun r => (r.capsSerial, r.capSet)) =
      if (rs.filter fun r => r.name = n) = [] then [(0, ∅)]
      else (rs.filter fun r => r.name = n).map fun r => (r.capsSerial, r.capSet) := by
  induction rs with
  | nil =>
    obtain ⟨hname, hserial, hcaps⟩ := hupdate (Resource.new n)
    have hn : (update (Resource.new n)).name = n := hname
    rw [findOrCreate, List.filter_cons_of_pos (by simpa using hn), List.map_cons, hserial, hcaps]
    rfl
  | cons r rs ih =>
    obtain ⟨hname, hserial, hcaps⟩ := hupdate r
    rw [findOrCreate]
    by_cases h : r.name = n
    · rw [if_pos h, List.filter_cons_of_pos (by simpa [hname] using h),
        List.filter_cons_of_pos (by simpa using h), if_neg (List.cons_ne_nil _ _),
        List.map_cons, List.map_cons, hserial, hcaps]
    · rw [if_neg h, List.filter_cons_of_neg (by simpa using h),
        List.filter_cons_of_neg (by simpa using h), ih]

theorem filter_findOrCreate_of_ne {m : String} (h : m ≠ n) (update : Resource → Resource)
    (hupdate : ∀ r, (update r).name = r.name) (rs : List Resource) :
    ((findOrCreate m update rs).filter fun r => r.name = n) =
      rs.filter fun r => r.name = n := by
  induction rs with
  | nil =>
    have hname : ¬ (update (Resource.new m)).name = n := by
      rw [hupdate]
      exact h
    rw [findOrCreate, List.filter_cons_of_neg (by simpa using hname)]
  | cons r rs ih =>
    rw [findOrCreate]
    by_cases hm : r.name = m
    · have hold : ¬ r.name = n := fun heq => h (hm.symm.trans heq)
      have hnew : ¬ (update r).name = n := by rwa [hupdate]
      rw [if_pos hm, List.filter_cons_of_neg (by simpa using hnew),
        List.filter_cons_of_neg (by simpa using hold)]
    · rw [if_neg hm, List.filter_cons, List.filter_cons, ih]

theorem versions_update_self {status : PresenceId} (hstatus : status > PresenceId.lastUnavailable)
    (statusMessage : Option String) (priority now : ℤ) :
    (p.update (some n) status statusMessage priority now).presence.versions n =
      if p.versions n = [] then [(0, ∅)] else p.versions n := by
  rw [Presence.update]
  dsimp only
  rw [versions_aggregateResources, if_neg (Nat.not_le.mpr hstatus)]
  have h := filter_findOrCreate_self (n := n) (refresh status statusMessage priority now)
    (fun r => ⟨rfl, rfl, rfl⟩) p.resources
  rw [versions, h, versions]
  simp only [List.map_eq_nil_iff]

theorem versions_update_of_ne {m : String} (h : m ≠ n) (status : PresenceId)
    (statusMessage : Option String) (priority now : ℤ) :
    (p.update (some m) status statusMessage priority now).presence.versions n =
      p.versions n := by
  rw [Presence.update]
  dsimp only
  rw [versions_aggregateResources, versions, versions]
  dsimp only
  split
  · congr 1
    induction p.resources with
    | nil => rfl
    | cons r rs ih =>
      by_cases hm : r.name = m
      · have hold : ¬ r.name = n := fun heq => h (hm.symm.trans heq)
        rw [List.eraseP_cons_of_pos (by simpa using hm),
          List.filter_cons_of_neg (by simpa using hold)]
      · rw [List.eraseP_cons_of_neg (by simpa using hm), List.filter_cons, List.filter_cons, ih]
  · dsimp only
    rw [filter_findOrCreate_of_ne h (refresh status statusMessage priority now) fun r => rfl]

/-! ## Contacts that are online -/

/-- All the resources are available, and so is the contact if there are any. -/
structure Alive (p : Presence) : Prop where
  resources : ∀ r ∈ p.resources, r.status > PresenceId.lastUnavailable
  status : p.resources ≠ [] → p.status > PresenceId.lastUnavailable

theorem foldl_better_mem (rs : List Resource) (best : Option Resource) :
    rs.foldl better best = best ∨ ∃ r ∈ rs, rs.foldl better best = some r := by
  induction rs generalizing best with
  | nil => exact .inl rfl
  | cons r rs ih =>
    rw [List.foldl_cons]
    have hone : better best r = best ∨ better best r = some r := by
      cases best with
      | none => exact .inr rfl
      | some b =>
        rw [better]
        split
        · exact .inr rfl
        · exact .inl rfl
    rcases ih (better best r) with hsame | ⟨r', hr', heq⟩
    · rw [hsame]
      exact hone.imp_right fun heq => ⟨r, List.mem_cons_self, heq⟩
    · exact .inr ⟨r', List.mem_cons_of_mem r hr', heq⟩

/-- Some resource is the best, if there are any. -/
theorem exists_best {rs : List Resource} (h : rs ≠ []) :
    ∃ r ∈ rs, rs.foldl better none = some r := by
  cases rs with
  | nil => exact absurd rfl h
  | cons r rs =>
    rw [List.foldl_cons]
    rcases foldl_better_mem rs (better none r) with heq | ⟨r', hr', heq⟩
    · exact ⟨r, List.mem_cons_self, heq⟩
    · exact ⟨r', List.mem_cons_of_mem r hr', heq⟩

theorem alive_aggregateResources
    (h : ∀ r ∈ p.resources, r.status > PresenceId.lastUnavailable) :
    Alive (aggregateResources p).1 := by
  have hres := (aggregateResources_spec p).1
  refine ⟨hres ▸ h, fun hne => ?_⟩
  rw [hres] at hne
  obtain ⟨r, hr, hbest⟩ := exists_best hne
  simp only [aggregateResources, hbest, adopt, announceViews]
  split
  · show PresenceId.available > PresenceId.lastUnavailable
    decide
  · exact h r hr

theorem Alive.setCapabilities (h : Alive p) (resource : Option String) (capSet : CapabilitySet)
    (dataForms : List DataForm) (serial : ℕ) :
    Alive (p.setCapabilities resource capSet dataForms serial) := by
  cases resource with
  | none =>
    rw [Presence.setCapabilities]
    split
    · exact h
    · exact ⟨h.resources, h.status⟩
  | some name =>
    rw [Presence.setCapabilities]
    refine ⟨fun r hr => ?_, fun hne => h.status fun hnil => ?_⟩
    · dsimp only at hr
      rw [setCapabilitiesLoop_resources] at hr
      obtain ⟨r₀, hr₀, rfl⟩ := List.mem_map.mp hr
      have hstatus : (addCaps capSet dataForms serial r₀).status = r₀.status := by
        simp only [addCaps]
        split <;> split <;> rfl
      split
      · rw [hstatus]
        exact h.resources r₀ hr₀
      · exact h.resources r₀ hr₀
    · apply hne
      dsimp only
      rw [setCapabilitiesLoop_resources, hnil]
      rfl

theorem Alive.updateClientTypes (h : Alive p) (resource : Option String) (clientTypes : ℕ) :
    Alive (p.updateClientTypes resource clientTypes).1 := by
  cases resource with
  | none =>
    rw [Presence.updateClientTypes]
    split
    · exact h
    · exact ⟨h.resources, h.status⟩
  | some name =>
    rw [Presence.updateClientTypes]
    split
    · exact h
    · refine alive_aggregateResources fun r hr => ?_
      obtain ⟨r₀, hr₀, heq⟩ := mem_setClientType hr
      rw [heq]
      exact h.resources r₀ hr₀

theorem Alive.update (h : Alive p) (name : String) (status : PresenceId)
    (statusMessage : Option String) (priority now : ℤ) :
    Alive (p.update (some name) status statusMessage priority now).presence := by
  refine alive_aggregateResources fun r hr => ?_
  dsimp only at hr
  split at hr
  · exact h.resources r (List.mem_of_mem_eraseP hr)
  · next hstatus =>
    rcases mem_findOrCreate hr with hr | ⟨r₀, -, rfl⟩ | rfl
    · exact h.resources r hr
    · exact Nat.lt_of_not_le hstatus
    · exact Nat.lt_of_not_le hstatus

theorem alive_new : Alive Presence.new := ⟨fun r hr => (by cases hr), fun hne => absurd rfl hne⟩

end Presence

namespace PresenceCache

open Presence

variable {s t : State} {h : Handle} {n : String}

/-! ## Versions in the cache -/

/-- The capabilities of the resource `n` of the contact `h`. -/
def versionsOf (h : Handle) (n : String) (s : State) : List (ℕ × CapabilitySet) :=
  (s.presence h).elim [] (Presence.versions n)

theorem exists_of_versionsOf (hne : versionsOf h n s ≠ []) :
    ∃ p, s.presence h = some p ∧ versionsOf h n s = p.versions n := by
  cases hp : s.presence h with
  | none =>
    rw [versionsOf, hp] at hne
    exact absurd rfl hne
  | some p =>
    rw [versionsOf, hp]
    exact ⟨p, rfl, rfl⟩

/-- The contact `h` is online with all its resources. -/
def AliveAt (h : Handle) (s : State) : Prop := ∀ p, s.presence h = some p → p.Alive

/-- Capabilities were set for a resource, whose contact may be unknown. -/
inductive Applies (s t : State) (handle : Handle) (resource : Option String)
    (capSet : CapabilitySet) (serial : ℕ) : Prop where
  | unknown (hnone : s.presence handle = none) (heq : t.presence = s.presence) :
      Applies s t handle resource capSet serial
  | caps (p : Presence) (dataForms : List DataForm) (hp : s.presence handle = some p)
      (heq : t.presence = Function.update s.presence handle
        (some (p.setCapabilities resource capSet dataForms serial))) :
      Applies s t handle resource capSet serial
  | types (p : Presence) (dataForms : List DataForm) (clientTypes : ℕ)
      (hp : s.presence handle = some p)
      (heq : t.presence = Function.update s.presence handle
        (some ((p.setCapabilities resource capSet dataForms serial).updateClientTypes resource
          clientTypes).1)) : Applies s t handle resource capSet serial

theorem applies_setCapabilities (s : State) (handle : Handle) (resource : Option String)
    (capSet : CapabilitySet) (serial : ℕ) :
    Applies s (setCapabilities s handle resource capSet serial) handle resource capSet serial := by
  rw [PresenceCache.setCapabilities]
  split
  · next hnone => exact .unknown hnone rfl
  · next p hp => exact .caps p [] hp rfl

theorem applies_setCapsFor (s : State) (uri : String) (w : Waiter) (capSet : CapabilitySet)
    (clientTypes : ℕ) (dataForms : List DataForm) (responder : Handle) :
    Applies s (setCapsFor s uri w capSet clientTypes dataForms responder) w.handle w.resource
      capSet w.serial := by
  rw [setCapsFor]
  split
  · next hnone => exact .unknown hnone rfl
  · next p hp =>
    refine .types p dataForms clientTypes hp ?_
    rw [emitClientTypesUpdated_presence, emitCapabilitiesUpdate_presence]
    rfl

theorem applies_applyStored (s : State) (uri : String) (handle : Handle) (resource : Option String)
    (serial : ℕ) :
    Applies s (applyStored s uri handle resource serial) handle resource
      (storedSetting s uri handle resource).capSet serial := by
  rw [applyStored]
  split
  · next hnone => exact .unknown hnone rfl
  · next p hp =>
    refine .types p (s.capabilities uri).dataForms
      (storedSetting s uri handle resource).clientTypes hp ?_
    rw [emitClientTypesUpdated_presence]
    rfl

section Applies

variable {handle : Handle} {resource : Option String} {capSet : CapabilitySet} {serial : ℕ}

/-- The resource gets the capabilities. -/
theorem Applies.versionsOf_self (happ : Applies s t h (some n) capSet serial) :
    versionsOf h n t = (versionsOf h n s).map (Versioned.add serial capSet) := by
  cases happ with
  | unknown hnone heq =>
    rw [versionsOf, versionsOf, heq, hnone]
    rfl
  | caps p dataForms hp heq =>
    rw [versionsOf, versionsOf, heq, Function.update_self, hp]
    exact versions_setCapabilities_self capSet dataForms serial
  | types p dataForms clientTypes hp heq =>
    rw [versionsOf, versionsOf, heq, Function.update_self, hp]
    exact (versions_updateClientTypes _ clientTypes).trans
      (versions_setCapabilities_self capSet dataForms serial)

/-- Other resources do not. -/
theorem Applies.versionsOf_of_ne (happ : Applies s t handle resource capSet serial)
    (hne : ¬ (handle = h ∧ resource = some n)) : versionsOf h n t = versionsOf h n s := by
  cases happ with
  | unknown _ heq => rw [versionsOf, versionsOf, heq]
  | caps p dataForms hp heq =>
    rw [versionsOf, versionsOf, heq]
    by_cases hh : h = handle
    · subst hh
      rw [Function.update_self, hp]
      exact versions_setCapabilities_of_ne (fun hres => hne ⟨rfl, hres⟩) capSet dataForms serial
    · rw [Function.update_of_ne hh]
  | types p dataForms clientTypes hp heq =>
    rw [versionsOf, versionsOf, heq]
    by_cases hh : h = handle
    · subst hh
      rw [Function.update_self, hp]
      exact (versions_updateClientTypes _ clientTypes).trans
        (versions_setCapabilities_of_ne (fun hres => hne ⟨rfl, hres⟩) capSet dataForms serial)
    · rw [Function.update_of_ne hh]

theorem Applies.aliveAt (happ : Applies s t handle resource capSet serial)
    (halive : AliveAt h s) : AliveAt h t := by
  intro p' hp'
  cases happ with
  | unknown _ heq => exact halive p' (heq ▸ hp')
  | caps p dataForms hp heq =>
    rw [heq] at hp'
    by_cases hh : h = handle
    · subst hh
      rw [Function.update_self] at hp'
      cases hp'
      exact (halive p hp).setCapabilities resource capSet dataForms serial
    · rw [Function.update_of_ne hh] at hp'
      exact halive p' hp'
  | types p dataForms clientTypes hp heq =>
    rw [heq] at hp'
    by_cases hh : h = handle
    · subst hh
      rw [Function.update_self] at hp'
      cases hp'
      exact ((halive p hp).setCapabilities resource capSet dataForms serial).updateClientTypes
        resource clientTypes
    · rw [Function.update_of_ne hh] at hp'
      exact halive p' hp'

end Applies

/-- A contact that is online with a resource is not removed. -/
theorem maybeRemove_presence (halive : AliveAt h s) (handle : Handle) :
    versionsOf h n (maybeRemove s handle) = versionsOf h n s ∧
      AliveAt h (maybeRemove s handle) := by
  rw [maybeRemove]
  split
  · exact ⟨rfl, halive⟩
  · next p hp =>
    split
    · next hoffline =>
      by_cases hh : h = handle
      · subst hh
        have hnil : p.resources = [] := by
          by_contra hne
          have hstatus := (halive p hp).status hne
          rcases hoffline.1 with heq | heq <;> rw [heq] at hstatus <;>
            exact absurd hstatus (by decide)
        refine ⟨?_, fun p' hp' => ?_⟩
        · rw [versionsOf, versionsOf, setPresence_self, hp]
          show [] = p.versions n
          rw [Presence.versions, hnil]
          rfl
        · rw [setPresence_self] at hp'
          cases hp'
      · refine ⟨?_, fun p' hp' => ?_⟩
        · rw [versionsOf, versionsOf, setPresence_of_ne s hh]
        · rw [setPresence_of_ne s hh] at hp'
          exact halive p' hp'
    · exact ⟨rfl, halive⟩

/-- The presence in the middle of `gabble_presence_cache_update`. -/
theorem update_presence (s : State) (handle : Handle) (resource : Option String)
    (status : PresenceId) (statusMessage : Option String) (priority now : ℤ) :
    ∃ t, t.presence = Function.update s.presence handle
        (some (((s.presence handle).getD Presence.new).update resource status statusMessage
          priority now).presence) ∧
      update s handle resource status statusMessage priority now = maybeRemove t handle := by
  refine ⟨_, ?_, rfl⟩
  rw [emitClientTypesUpdated_presence]
  split
  · exact emitCapabilitiesUpdate_presence _ handle _ _
  · exact emitCapabilitiesUpdate_presence _ handle _ _

theorem AliveAt.getD (halive : AliveAt h s) : ((s.presence h).getD Presence.new).Alive := by
  cases hpresence : s.presence h with
  | none => exact alive_new
  | some p => exact halive p hpresence

theorem versions_getD (s : State) :
    ((s.presence h).getD Presence.new).versions n = versionsOf h n s := by
  rw [versionsOf]
  cases s.presence h with
  | none => rfl
  | some p => rfl

section Update

variable (halive : AliveAt h s) (status : PresenceId) (statusMessage : Option String)
  (priority now : ℤ)

include halive

theorem update_self (hstatus : status > PresenceId.lastUnavailable) :
    versionsOf h n (update s h (some n) status statusMessage priority now) =
        (if versionsOf h n s = [] then [(0, ∅)] else versionsOf h n s) ∧
      AliveAt h (update s h (some n) status statusMessage priority now) := by
  obtain ⟨t, ht, heq⟩ := update_presence s h (some n) status statusMessage priority now
  have hlive : AliveAt h t := by
    intro p' hp'
    rw [ht, Function.update_self] at hp'
    cases hp'
    exact halive.getD.update n status statusMessage priority now
  rw [heq]
  obtain ⟨hversions, hlive'⟩ := maybeRemove_presence (n := n) hlive h
  refine ⟨?_, hlive'⟩
  rw [hversions, versionsOf, ht, Function.update_self]
  show Presence.versions n _ = _
  rw [versions_update_self hstatus, versions_getD]

theorem update_of_ne {handle : Handle} {resource : Option String}
    (hne : ¬ (handle = h ∧ resource = some n)) (hbare : handle = h → resource ≠ none) :
    versionsOf h n (update s handle resource status statusMessage priority now) =
        versionsOf h n s ∧
      AliveAt h (update s handle resource status statusMessage priority now) := by
  obtain ⟨t, ht, heq⟩ := update_presence s handle resource status statusMessage priority now
  have hmid : versionsOf h n t = versionsOf h n s ∧ AliveAt h t := by
    by_cases hh : h = handle
    · subst hh
      obtain ⟨m, rfl⟩ := Option.ne_none_iff_exists'.mp (hbare rfl)
      refine ⟨?_, fun p' hp' => ?_⟩
      · rw [versionsOf, ht, Function.update_self]
        show Presence.versions n _ = _
        rw [versions_update_of_ne fun hm => hne ⟨rfl, congrArg some hm⟩, versions_getD]
      · rw [ht, Function.update_self] at hp'
        cases hp'
        exact halive.getD.update m status statusMessage priority now
    · refine ⟨?_, fun p' hp' => ?_⟩
      · rw [versionsOf, versionsOf, ht, Function.update_of_ne hh]
      · rw [ht, Function.update_of_ne hh] at hp'
        exact halive p' hp'
  rw [heq]
  obtain ⟨hversions, hlive'⟩ := maybeRemove_presence (n := n) hmid.2 handle
  exact ⟨hversions.trans hmid.1, hlive'⟩

end Update

/-! ## Serials of waiters -/

/-- The serials with which the resource `n` of `h` waits. -/
def serials (h : Handle) (n : String) (ws : List Waiter) : List ℕ :=
  (ws.filter (isMatching h (some n))).map Waiter.serial

theorem mem_serials {ws : List Waiter} {k : ℕ} :
    k ∈ serials h n ws ↔ ∃ w ∈ ws, isMatching h (some n) w = true ∧ w.serial = k := by
  simp only [serials, List.mem_map, List.mem_filter, and_assoc]

theorem isMatching_self {w : Waiter} :
    isMatching h (some n) w = true ↔ w.handle = h ∧ w.resource = some n := by
  simp [isMatching]

/-- Asking changes no serial. -/
theorem Asks.serials {ws ws' asked : List Waiter} (hasks : Asks ws ws' asked) :
    serials h n ws' = serials h n ws := by
  induction hasks with
  | nil => rfl
  | keep w _ ih =>
    rw [PresenceCache.serials, PresenceCache.serials, List.filter_cons, List.filter_cons]
    split
    · exact congrArg (w.serial :: ·) ih
    · exact ih
  | mark w _ _ ih =>
    rw [PresenceCache.serials, PresenceCache.serials, List.filter_cons, List.filter_cons]
    show (List.map _ (if isMatching h (some n) w = true then _ else _)) = _
    split
    · exact congrArg (w.serial :: ·) ih
    · exact ih

/-- The resource waits already and gets a new serial. -/
theorem serials_setSerial_self {ws : List Waiter} {w : Waiter}
    (hfind : findMatchingWaiter ws h (some n) = some w) (serial : ℕ) :
    serial ∈ serials h n (setSerial h (some n) serial ws) ∧
      ∀ k ∈ serials h n (setSerial h (some n) serial ws), k ∈ serials h n ws ∨ k = serial := by
  induction ws with
  | nil => cases hfind
  | cons x ws ih =>
    rw [setSerial]
    by_cases hmatch : isMatching h (some n) x = true
    · have hnew : isMatching h (some n) { x with serial := serial } = true := hmatch
      rw [if_pos hmatch]
      refine ⟨mem_serials.mpr ⟨_, List.mem_cons_self, hnew, rfl⟩, fun k hk => ?_⟩
      obtain ⟨w', hw', hmatch', rfl⟩ := mem_serials.mp hk
      rcases List.mem_cons.mp hw' with rfl | hw'
      · exact .inr rfl
      · exact .inl (mem_serials.mpr ⟨w', List.mem_cons_of_mem x hw', hmatch', rfl⟩)
    · rw [if_neg hmatch]
      rw [findMatchingWaiter, List.find?_cons_of_neg hmatch] at hfind
      obtain ⟨hmem, hold⟩ := ih hfind
      have hskip : ∀ ws', serials h n (x :: ws') = serials h n ws' := by
        intro ws'
        rw [serials, List.filter_cons_of_neg hmatch]
        rfl
      rw [hskip, hskip]
      exact ⟨hmem, hold⟩

/-- Another resource gets a new serial. -/
theorem serials_setSerial_of_ne {handle : Handle} {resource : Option String}
    (hne : ¬ (handle = h ∧ resource = some n)) (serial : ℕ) (ws : List Waiter) :
    serials h n (setSerial handle resource serial ws) = serials h n ws := by
  induction ws with
  | nil => rfl
  | cons x ws ih =>
    rw [setSerial]
    by_cases hmatch : isMatching handle resource x = true
    · have hother : ¬ isMatching h (some n) x = true := by
        intro hx
        obtain ⟨hhandle, hresource⟩ := of_decide_eq_true hmatch
        obtain ⟨hhandle', hresource'⟩ := of_decide_eq_true hx
        exact hne ⟨hhandle.symm.trans hhandle', hresource.symm.trans hresource'⟩
      have hother' : ¬ isMatching h (some n) { x with serial := serial } = true := hother
      rw [if_pos hmatch, serials, serials, List.filter_cons_of_neg hother',
        List.filter_cons_of_neg hother]
    · rw [if_neg hmatch, serials, serials, List.filter_cons, List.filter_cons]
      split
      · exact congrArg (x.serial :: ·) ih
      · exact ih

/-- A waiter leaves the list. -/
theorem serials_eraseP {ws : List Waiter} {handle : Handle} {resource : Option String}
    {self : Waiter} (hfind : findMatchingWaiter ws handle resource = some self) :
    serials h n (ws.eraseP (isMatching handle resource)) ⊆ serials h n ws ∧
      ∀ k ∈ serials h n ws, k ∈ serials h n (ws.eraseP (isMatching handle resource)) ∨
        isMatching h (some n) self = true ∧ self.serial = k := by
  refine ⟨fun k hk => ?_, fun k hk => ?_⟩
  · obtain ⟨w, hw, hrest⟩ := mem_serials.mp hk
    exact mem_serials.mpr ⟨w, List.mem_of_mem_eraseP hw, hrest⟩
  · obtain ⟨w, hw, hmatch, rfl⟩ := mem_serials.mp hk
    have hstays : w ∈ ws.eraseP (isMatching handle resource) ∨ w = self := by
      clear hk
      induction ws with
      | nil => cases hw
      | cons x ws ih =>
        by_cases hx : isMatching handle resource x = true
        · rw [findMatchingWaiter, List.find?_cons_of_pos hx] at hfind
          cases hfind
          rw [List.eraseP_cons_of_pos hx]
          exact (List.mem_cons.mp hw).symm
        · rw [findMatchingWaiter, List.find?_cons_of_neg hx] at hfind
          rw [List.eraseP_cons_of_neg hx]
          rcases List.mem_cons.mp hw with rfl | hw
          · exact .inl List.mem_cons_self
          · exact (ih hfind hw).imp_left (List.mem_cons_of_mem x)
    rcases hstays with hstays | rfl
    · exact .inl (mem_serials.mpr ⟨w, hstays, hmatch, rfl⟩)
    · exact .inr ⟨hmatch, rfl⟩

end PresenceCache
