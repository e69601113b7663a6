/-
# The aggregate of a presence

What the aggregate is for: the union of the capabilities and the concatenation
of the data forms of the resources that are online.  `aggregate_resources`
refreshes the capabilities but not the data forms, and presence from the bare
JID refreshes neither.  The module says exactly in which sequences of calls the
aggregate is nevertheless right all the way.
-/
import Gabble.Presence
import Gabble.Transition
import Mathlib.Tactic.Tauto

namespace Presence

open Transition

variable {p : Presence}

/-! ## The specification -/

/-- The aggregate of a contact with resources tells what the resources tell. -/
def Aggregated (p : Presence) : Prop :=
  p.resources ≠ [] →
    (∀ ns, ns ∈ p.capSet ↔ ∃ r ∈ p.resources, ns ∈ r.capSet) ∧
      p.dataForms = p.resources.flatMap Resource.dataForms

/-- Nothing of the resources of `p` is left in the aggregate of `q`. -/
def Forgotten (p q : Presence) : Prop :=
  ∀ r ∈ p.resources, (∀ ns ∈ r.capSet, ns ∉ q.capSet) ∧ ∀ form ∈ r.dataForms, form ∉ q.dataForms

/-- Presence from the bare JID. -/
def Call.isBareJid : Call → Bool
  | .update none _ _ _ _ => true
  | _ => false

/-- The aggregate is right before and after every call, and presence from the
bare JID leaves nothing of the resources it removes. -/
def AggregatedAlong : Presence → List Call → Prop
  | p, [] => Aggregated p
  | p, c :: cs =>
    Aggregated p ∧ (c.isBareJid = true → Forgotten p (p.call c)) ∧
      AggregatedAlong (p.call c) cs

/-- The calls that do not need the part of the aggregate the code forgets to
refresh: a resource that goes offline while others stay has no data forms, the
first resource comes online while no data forms are aggregated, and the
resources that presence from the bare JID removes have nothing. -/
def Refreshes (p : Presence) : Call → Prop
  | .update none _ _ _ _ => ∀ r ∈ p.resources, r.capSet = ∅ ∧ r.dataForms = []
  | .update (some name) status _ _ _ =>
    if status ≤ PresenceId.lastUnavailable then
      ∀ r, (p.resources.find? fun r => r.name = name) = some r →
        p.resources.length ≠ 1 → r.dataForms = []
    else p.resources = [] → p.dataForms = []
  | _ => True

/-! ## The loops -/

theorem mem_foldl_union (rs : List Resource) (caps : CapabilitySet) (ns : String) :
    ns ∈ rs.foldl (fun caps r => caps ∪ r.capSet) caps ↔
      ns ∈ caps ∨ ∃ r ∈ rs, ns ∈ r.capSet := by
  induction rs generalizing caps with
  | nil => simp
  | cons r rs ih =>
    rw [List.foldl_cons, ih, Finset.mem_union]
    simp only [List.mem_cons, exists_eq_or_imp]
    tauto

theorem setCapabilitiesLoop_caps (name : String) (update : Resource → Resource)
    (rs : List Resource) (caps : CapabilitySet) (forms : List DataForm) (ns : String) :
    ns ∈ (setCapabilitiesLoop name update rs caps forms).2.1 ↔
      ns ∈ caps ∨ ∃ r ∈ (setCapabilitiesLoop name update rs caps forms).1, ns ∈ r.capSet := by
  induction rs generalizing caps forms with
  | nil => simp [setCapabilitiesLoop]
  | cons r rs ih =>
    rw [setCapabilitiesLoop]
    dsimp only
    rw [ih, Finset.mem_union]
    simp only [List.mem_cons, exists_eq_or_imp]
    tauto

theorem setCapabilitiesLoop_forms (name : String) (update : Resource → Resource)
    (rs : List Resource) (caps : CapabilitySet) (forms : List DataForm) :
    (setCapabilitiesLoop name update rs caps forms).2.2 = forms ++
      (setCapabilitiesLoop name update rs caps forms).1.flatMap Resource.dataForms := by
  induction rs generalizing caps forms with
  | nil => simp [setCapabilitiesLoop]
  | cons r rs ih =>
    rw [setCapabilitiesLoop]
    dsimp only
    rw [ih, List.flatMap_cons, List.append_assoc]

section

variable (p)

theorem adopt_rest (best : Option Resource) :
    (adopt p best).resources = p.resources ∧ (adopt p best).dataForms = p.dataForms ∧
      (adopt p best).capSet = p.capSet := by
  cases best <;> exact ⟨rfl, rfl, rfl⟩

theorem announceViews_rest :
    (announceViews p).resources = p.resources ∧ (announceViews p).dataForms = p.dataForms ∧
      (announceViews p).capSet = p.capSet := by
  unfold announceViews
  split <;> exact ⟨rfl, rfl, rfl⟩

/-- `aggregate_resources` makes the capabilities right and leaves the resources
and the data forms alone. -/
theorem aggregateResources_spec :
    (aggregateResources p).1.resources = p.resources ∧
      (aggregateResources p).1.dataForms = p.dataForms ∧
      ∀ ns, ns ∈ (aggregateResources p).1.capSet ↔ ∃ r ∈ p.resources, ns ∈ r.capSet := by
  unfold aggregateResources
  dsimp only
  obtain ⟨hres, hforms, hcaps⟩ := announceViews_rest (adopt { p with
    capSet := p.resources.foldl (fun caps r => caps ∪ r.capSet) ∅
    status := PresenceId.offline } (p.resources.foldl better none))
  obtain ⟨hres', hforms', hcaps'⟩ := adopt_rest { p with
    capSet := p.resources.foldl (fun caps r => caps ∪ r.capSet) ∅
    status := PresenceId.offline } (p.resources.foldl better none)
  refine ⟨hres.trans hres', hforms.trans hforms', fun ns => ?_⟩
  rw [hcaps, hcaps', mem_foldl_union]
  simp

/-- After `aggregate_resources` only the data forms can be wrong. -/
theorem aggregated_aggregateResources :
    Aggregated (aggregateResources p).1 ↔
      (p.resources ≠ [] → p.dataForms = p.resources.flatMap Resource.dataForms) := by
  obtain ⟨hres, hforms, hcaps⟩ := aggregateResources_spec p
  unfold Aggregated
  rw [hres, hforms]
  refine ⟨fun h hne => (h hne).2, fun h hne => ⟨hcaps, h hne⟩⟩

end

theorem flatMap_findOrCreate (name : String) (update : Resource → Resource)
    (hkeep : ∀ r, (update r).dataForms = r.dataForms) (rs : List Resource) :
    (findOrCreate name update rs).flatMap Resource.dataForms =
      rs.flatMap Resource.dataForms := by
  induction rs with
  | nil =>
    rw [findOrCreate, List.flatMap_cons, hkeep]
    rfl
  | cons r rs ih =>
    rw [findOrCreate]
    split
    · rw [List.flatMap_cons, List.flatMap_cons, hkeep]
    · rw [List.flatMap_cons, List.flatMap_cons, ih]

theorem findOrCreate_ne_nil (name : String) (update : Resource → Resource)
    (rs : List Resource) : findOrCreate name update rs ≠ [] := by
  cases rs with
  | nil => exact List.cons_ne_nil _ _
  | cons r rs =>
    rw [findOrCreate]
    split <;> exact List.cons_ne_nil _ _

theorem flatMap_setClientType (name : String) (clientTypes : ℕ) (rs : List Resource) :
    (setClientType name clientTypes rs).flatMap Resource.dataForms =
      rs.flatMap Resource.dataForms := by
  induction rs with
  | nil => rfl
  | cons r rs ih =>
    rw [setClientType]
    split
    · rfl
    · rw [List.flatMap_cons, List.flatMap_cons, ih]

/-- Taking the first resource that matches out of the list takes its data forms
out of the concatenation. -/
theorem length_flatMap_eraseP (q : Resource → Bool) (rs : List Resource) {r : Resource}
    (hr : rs.find? q = some r) :
    ((rs.eraseP q).flatMap Resource.dataForms).length + r.dataForms.length =
      (rs.flatMap Resource.dataForms).length := by
  induction rs with
  | nil => cases hr
  | cons x rs ih =>
    rcases hx : q x with - | -
    · rw [List.find?_cons_of_neg (by simp [hx])] at hr
      rw [List.eraseP_cons_of_neg (by simp [hx]), List.flatMap_cons, List.flatMap_cons,
        List.length_append, List.length_append]
      have := ih hr
      omega
    · rw [List.find?_cons_of_pos hx] at hr
      cases hr
      rw [List.eraseP_cons_of_pos hx, List.flatMap_cons, List.length_append]
      omega

theorem flatMap_eraseP (q : Resource → Bool) (rs : List Resource) {r : Resource}
    (hr : rs.find? q = some r) (hforms : r.dataForms = []) :
    (rs.eraseP q).flatMap Resource.dataForms = rs.flatMap Resource.dataForms := by
  induction rs with
  | nil => cases hr
  | cons x rs ih =>
    rcases hx : q x with - | -
    · rw [List.find?_cons_of_neg (by simp [hx])] at hr
      rw [List.eraseP_cons_of_neg (by simp [hx]), List.flatMap_cons, List.flatMap_cons, ih hr]
    · rw [List.find?_cons_of_pos hx] at hr
      cases hr
      rw [List.eraseP_cons_of_pos hx, List.flatMap_cons, hforms, List.nil_append]

theorem eraseP_ne_nil_iff (q : Resource → Bool) (rs : List Resource) {r : Resource}
    (hr : rs.find? q = some r) : rs.eraseP q ≠ [] ↔ rs.length ≠ 1 := by
  have hmem := List.mem_of_find?_eq_some hr
  have hlen := List.length_eraseP_of_mem hmem (List.find?_some hr)
  have hpos := List.length_pos_of_mem hmem
  rw [← List.length_pos_iff, hlen]
  omega

/-! ## One call -/

/-- What a right aggregate is worth after one call. -/
def RightAfter (p : Presence) (c : Call) : Prop :=
  (c.isBareJid = true → Forgotten p (p.call c)) ∧ Aggregated (p.call c)

section

variable (h : Aggregated p)

include h

theorem rightAfter_bareJid (status : PresenceId)
    (statusMessage : Option String) (priority now : ℤ) :
    RightAfter p (.update none status statusMessage priority now) ↔
      Refreshes p (.update none status statusMessage priority now) := by
  have hnone : Aggregated (p.call (.update none status statusMessage priority now)) :=
    fun hne => absurd rfl hne
  refine ⟨fun hright r hr => ?_, fun hok => ⟨fun _ r hr => ?_, hnone⟩⟩
  · -- the aggregate is not touched, so it still has what the resource had
    obtain ⟨hcaps, hforms⟩ := h (List.ne_nil_of_mem hr)
    obtain ⟨hnocaps, hnoforms⟩ := hright.1 rfl r hr
    refine ⟨Finset.eq_empty_of_forall_notMem fun ns hns => ?_,
      List.eq_nil_iff_forall_not_mem.mpr fun form hform => ?_⟩
    · exact hnocaps ns hns ((hcaps ns).mpr ⟨r, hr, hns⟩)
    · refine hnoforms form hform ?_
      show form ∈ p.dataForms
      rw [hforms]
      exact List.mem_flatMap.mpr ⟨r, hr, hform⟩
  · obtain ⟨hcaps, hforms⟩ := hok r hr
    rw [hcaps, hforms]
    exact ⟨fun ns hns => absurd hns (Finset.notMem_empty ns), fun form hform => by cases hform⟩

theorem rightAfter_offline (name : String)
    {status : PresenceId} (statusMessage : Option String) (priority now : ℤ)
    (hoff : status ≤ PresenceId.lastUnavailable) :
    RightAfter p (.update (some name) status statusMessage priority now) ↔
      Refreshes p (.update (some name) status statusMessage priority now) := by
  have hcall : p.call (.update (some name) status statusMessage priority now) =
      (aggregateResources { p with
        resources := p.resources.eraseP fun r => r.name = name
        statusMessage := none
        capSet := ∅
        status := PresenceId.offline }).1 := by
    rw [call, update]
    dsimp only
    rw [if_pos hoff]
  have hside : RightAfter p (.update (some name) status statusMessage priority now) ↔
      ((p.resources.eraseP fun r => r.name = name) ≠ [] → p.dataForms =
        (p.resources.eraseP fun r => r.name = name).flatMap Resource.dataForms) := by
    unfold RightAfter
    rw [hcall, aggregated_aggregateResources]
    exact and_iff_right fun hbare => by cases hbare
  rw [hside]
  show _ ↔ if status ≤ PresenceId.lastUnavailable then _ else _
  rw [if_pos hoff]
  refine ⟨fun hright r hr hlen => ?_, fun hok hne => ?_⟩
  · have hne := (eraseP_ne_nil_iff _ _ hr).mpr hlen
    have hforms := (h (List.ne_nil_of_mem (List.mem_of_find?_eq_some hr))).2
    have hlength := length_flatMap_eraseP _ _ hr
    rw [← hright hne, ← hforms] at hlength
    exact List.length_eq_zero_iff.mp (by omega)
  · have hne' : p.resources ≠ [] := fun hnil => hne (by rw [hnil]; rfl)
    rw [(h hne').2]
    rcases hr : p.resources.find? fun r => r.name = name with - | r
    · rw [List.eraseP_of_forall_not fun r hmem hname =>
        List.find?_eq_none.mp hr r hmem hname]
    · exact (flatMap_eraseP _ _ hr (hok r hr ((eraseP_ne_nil_iff _ _ hr).mp hne))).symm

theorem rightAfter_online (name : String)
    {status : PresenceId} (statusMessage : Option String) (priority now : ℤ)
    (hon : ¬ status ≤ PresenceId.lastUnavailable) :
    RightAfter p (.update (some name) status statusMessage priority now) ↔
      Refreshes p (.update (some name) status statusMessage priority now) := by
  have hcall : p.call (.update (some name) status statusMessage priority now) =
      (aggregateResources { p with
        resources := findOrCreate name (refresh status statusMessage priority now) p.resources
        statusMessage := statusMessage
        capSet := ∅
        status := PresenceId.offline }).1 := by
    rw [call, update]
    dsimp only
    rw [if_neg hon]
  have hside : RightAfter p (.update (some name) status statusMessage priority now) ↔
      p.dataForms = p.resources.flatMap Resource.dataForms := by
    unfold RightAfter
    rw [hcall, aggregated_aggregateResources]
    dsimp only
    rw [flatMap_findOrCreate name (refresh status statusMessage priority now) fun _ => rfl]
    refine ⟨fun hright => hright.2 (findOrCreate_ne_nil _ _ _),
      fun hforms => ⟨?_, fun _ => hforms⟩⟩
    exact fun hbare => by cases hbare
  rw [hside]
  show _ ↔ if status ≤ PresenceId.lastUnavailable then _ else _
  rw [if_neg hon]
  refine ⟨fun hforms hnil => by rw [hforms, hnil]; rfl, fun hok => ?_⟩
  by_cases hnil : p.resources = []
  · rw [hok hnil, hnil]
    rfl
  · exact (h hnil).2

/-- Setting capabilities and client types never breaks the aggregate. -/
theorem aggregated_setCapabilities (resource : Option String)
    (capSet : CapabilitySet) (dataForms : List DataForm) (serial : ℕ) :
    Aggregated (p.setCapabilities resource capSet dataForms serial) := by
  cases resource with
  | none =>
    rw [setCapabilities]
    split
    · exact h
    · next hnil => exact fun hne => absurd hne hnil
  | some name =>
    intro _
    refine ⟨fun ns => ?_, setCapabilitiesLoop_forms _ _ _ _ _⟩
    rw [setCapabilities]
    dsimp only
    rw [setCapabilitiesLoop_caps]
    simp

theorem aggregated_updateClientTypes (resource : Option String) (clientTypes : ℕ) :
    Aggregated (p.updateClientTypes resource clientTypes).1 := by
  cases resource with
  | none =>
    rw [updateClientTypes]
    split <;> exact h
  | some name =>
    rw [updateClientTypes]
    split
    · exact h
    · next r hr =>
      rw [aggregated_aggregateResources]
      dsimp only
      rw [flatMap_setClientType]
      exact fun _ => (h (List.ne_nil_of_mem (List.mem_of_find?_eq_some hr))).2

/-- One call keeps the aggregate right exactly if it meets the condition. -/
theorem rightAfter_iff (c : Call) :
    RightAfter p c ↔ Refreshes p c := by
  cases c with
  | update resource status statusMessage priority now =>
    cases resource with
    | none => exact rightAfter_bareJid h status statusMessage priority now
    | some name =>
      by_cases hoff : status ≤ PresenceId.lastUnavailable
      · exact rightAfter_offline h name statusMessage priority now hoff
      · exact rightAfter_online h name statusMessage priority now hoff
  | setCapabilities resource capSet dataForms serial =>
    refine iff_of_true ⟨(fun hbare => by cases hbare), ?_⟩ trivial
    exact aggregated_setCapabilities h resource capSet dataForms serial
  | updateClientTypes resource clientTypes =>
    refine iff_of_true ⟨(fun hbare => by cases hbare), ?_⟩ trivial
    exact aggregated_updateClientTypes h resource clientTypes

end

/-! ## Sequences of calls -/

/-- A call never fails. -/
def step (p : Presence) (c : Call) : Option Presence := some (p.call c)

theorem aggregatedAlong_iff (h : Aggregated p) (cs : List Call) :
    AggregatedAlong p cs ↔ Admits Refreshes step p cs := by
  induction cs generalizing p with
  | nil => exact iff_of_true h trivial
  | cons c cs ih =>
    rw [AggregatedAlong, admits_cons_iff (rfl : step p c = some (p.call c)),
      ← rightAfter_iff h c, RightAfter]
    refine ⟨fun ⟨_, hbare, hrest⟩ => ?_, fun ⟨⟨hbare, hc⟩, hrest⟩ => ⟨h, hbare, (ih hc).mpr hrest⟩⟩
    have hc : Aggregated (p.call c) := by
      cases cs with
      | nil => exact hrest
      | cons => exact hrest.1
    exact ⟨⟨hbare, hc⟩, (ih hc).mp hrest⟩

/-- **When the aggregate is right.**  Along a sequence of calls the aggregate is
right all the way exactly if every call can do without the part that the code
does not refresh. -/
theorem aggregate_right_iff (cs : List Call) :
    AggregatedAlong Presence.new cs ↔ Admits Refreshes step Presence.new cs :=
  aggregatedAlong_iff (fun hne => absurd rfl hne) cs

/-- A contact with two resources, of which "a" has capabilities and a form. -/
def twoResources : List Call :=
  [.update (some "a") .available none 0 0, .update (some "b") .available none 0 1,
    .setCapabilities (some "a") {"urn:voice"} [⟨"urn:form", []⟩] 1]

/-- When "a" goes offline its form stays in the aggregate, and presence from the
bare JID leaves its capabilities there too. -/
theorem aggregate_not_refreshed :
    ¬ AggregatedAlong Presence.new (twoResources ++ [.update (some "a") .offline none 0 2]) ∧
      ¬ AggregatedAlong Presence.new (twoResources ++ [.update none .offline none 0 2]) := by
  rw [aggregatedAlong_iff fun hne => absurd rfl hne, aggregatedAlong_iff fun hne => absurd rfl hne]
  refine ⟨?_, ?_⟩
  · rintro ⟨-, h⟩
    obtain ⟨-, h⟩ := h _ rfl
    obtain ⟨-, h⟩ := h _ rfl
    obtain ⟨h, -⟩ := h _ rfl
    exact absurd (h _ rfl (by decide)) (by decide)
  · rintro ⟨-, h⟩
    obtain ⟨-, h⟩ := h _ rfl
    obtain ⟨-, h⟩ := h _ rfl
    obtain ⟨h, -⟩ := h _ rfl
    exact absurd (h _ (List.mem_cons_self ..)).2 (by decide)

end Presence
