/-
# Sets with a version

A set is put together from parts that arrive one by one and in any order.  Each
part carries the number of the version it belongs to: a part of a newer version
replaces the set, one of the same version is added to it, and an older one is
ignored.  Parts that did not arrive yet are pending.  As long as every name of the
newest version is pending or has been added, the set is complete as soon as
nothing is pending.
-/
import Mathlib.Data.Finset.Basic

namespace Versioned

variable {α υ : Type*} [DecidableEq α]
variable {k : ℕ} {v : ℕ × Finset α}

/-- A part of version `k` arrives. -/
def add (k : ℕ) (X : Finset α) (v : ℕ × Finset α) : ℕ × Finset α :=
  if k > v.1 then (k, X) else if k = v.1 then (v.1, v.2 ∪ X) else v

theorem add_of_lt (h : k < v.1) (X : Finset α) : add k X v = v := by
  rw [add, if_neg (Nat.not_lt.mpr h.le), if_neg h.ne]

/-- A part of a version that is not older is there afterwards. -/
theorem add_of_le (h : v.1 ≤ k) (X : Finset α) :
    (add k X v).1 = k ∧ X ⊆ (add k X v).2 := by
  rw [add]
  split
  · exact ⟨rfl, Finset.Subset.refl _⟩
  · next hle =>
    have heq : k = v.1 := Nat.le_antisymm (Nat.le_of_not_lt hle) h
    rw [if_pos heq]
    exact ⟨heq.symm, Finset.subset_union_right⟩

/-- Within one version nothing gets lost, and only the part is added. -/
theorem add_of_eq (h : v.1 = k) (X : Finset α) :
    v.2 ⊆ (add k X v).2 ∧ (add k X v).2 ⊆ v.2 ∪ X := by
  rw [add, if_neg (Nat.not_lt.mpr h.ge), if_pos h.symm]
  exact ⟨Finset.subset_union_left, Finset.Subset.refl _⟩

theorem add_snd (h : v.1 < k) (X : Finset α) : add k X v = (k, X) :=
  if_pos h

/-- **The invariant.**  Sets of the newest version hold only parts of it and what
it starts with, and everything it starts with; each part of it was added or is
pending; and nothing of a version yet to come is pending. -/
structure Collects (parts : υ → Finset α) (base : Option (Finset α)) (names : List υ)
    (version : ℕ) (sets : List (ℕ × Finset α)) (pending : υ → List ℕ) : Prop where
  le : ∀ v ∈ sets, v.1 ≤ version
  sound : ∀ v ∈ sets, v.1 = version → ∀ a ∈ v.2,
    (∃ X ∈ base, a ∈ X) ∨ ∃ u ∈ names, a ∈ parts u
  started : ∀ X ∈ base, ∀ v ∈ sets, v.1 = version ∧ X ⊆ v.2
  arrived : ∀ u ∈ names, version ∈ pending u ∨ ∀ v ∈ sets, v.1 = version ∧ parts u ⊆ v.2
  bounded : ∀ u, ∀ k ∈ pending u, k ≤ version ∧ (k = version → u ∈ names)

variable {parts : υ → Finset α} {base : Option (Finset α)} {names : List υ} {version : ℕ}
  {sets : List (ℕ × Finset α)} {pending pending' : υ → List ℕ}

/-- What is in the sets of the newest version stays there when a part arrives. -/
theorem keeps (hk : k ≤ version) (X Y : Finset α) (hY : ∀ v ∈ sets, v.1 = version ∧ Y ⊆ v.2) :
    ∀ v ∈ sets.map (add k X), v.1 = version ∧ Y ⊆ v.2 := by
  intro v hv
  obtain ⟨v₀, hv₀, rfl⟩ := List.mem_map.mp hv
  obtain ⟨hversion, hsub⟩ := hY v₀ hv₀
  rcases Nat.lt_or_ge k v₀.1 with hlt | hge
  · rw [add_of_lt hlt]
    exact ⟨hversion, hsub⟩
  · have heq : v₀.1 = k := Nat.le_antisymm hge (hversion ▸ hk)
    refine ⟨((add_of_le hge X).1).trans (heq.symm.trans hversion), ?_⟩
    exact hsub.trans (add_of_eq heq X).1

/-- The same part arrives several times, with several versions. -/
def addAll (X : Finset α) (ks : List ℕ) (sets : List (ℕ × Finset α)) : List (ℕ × Finset α) :=
  ks.foldl (fun sets k => sets.map (add k X)) sets

theorem addAll_ne_nil (X : Finset α) (ks : List ℕ) (h : sets ≠ []) : addAll X ks sets ≠ [] := by
  induction ks generalizing sets with
  | nil => exact h
  | cons k ks ih =>
    apply ih
    simpa using h

theorem keeps_addAll {ks : List ℕ} (hks : ∀ k ∈ ks, k ≤ version) (X Y : Finset α)
    (hY : ∀ v ∈ sets, v.1 = version ∧ Y ⊆ v.2) :
    ∀ v ∈ addAll X ks sets, v.1 = version ∧ Y ⊆ v.2 := by
  induction ks generalizing sets with
  | nil => exact hY
  | cons k ks ih =>
    refine ih (fun k' hk' => hks k' (List.mem_cons_of_mem k hk')) ?_
    exact keeps (hks k List.mem_cons_self) X Y hY

namespace Collects

theorem keeps_sound (h : Collects parts base names version sets pending) {X : Finset α}
    (hX : k = version → ∀ a ∈ X, (∃ X ∈ base, a ∈ X) ∨ ∃ u ∈ names, a ∈ parts u) :
    ∀ v ∈ sets.map (add k X), v.1 = version → ∀ a ∈ v.2,
      (∃ X ∈ base, a ∈ X) ∨ ∃ u ∈ names, a ∈ parts u := by
  intro v hv hversion a ha
  obtain ⟨v₀, hv₀, rfl⟩ := List.mem_map.mp hv
  rcases Nat.lt_trichotomy k v₀.1 with hlt | heq | hgt
  · rw [add_of_lt hlt] at hversion ha
    exact h.sound v₀ hv₀ hversion a ha
  · have hk' : k = version := (add_of_le heq.ge X).1.symm.trans hversion
    rcases Finset.mem_union.mp ((add_of_eq heq.symm X).2 ha) with ha | ha
    · exact h.sound v₀ hv₀ (heq.symm.trans hk') a ha
    · exact hX hk' a ha
  · rw [add_snd hgt] at hversion ha
    exact hX hversion a ha

omit [DecidableEq α] in
/-- The first set is there, and nothing is known about it. -/
theorem first (h : Collects parts none [] version [] pending) :
    Collects parts none [] version [(0, ∅)] pending where
  le := fun v hv => by
    rw [List.mem_singleton.mp hv]
    exact version.zero_le
  sound := fun v hv _ a ha => by
    rw [List.mem_singleton.mp hv] at ha
    exact absurd ha (Finset.notMem_empty a)
  started := fun X hX => by cases hX
  arrived := fun u hu => by cases hu
  bounded := h.bounded

section

variable (h : Collects parts base names version sets pending)

include h

/-- **A part arrives** that was pending. -/
theorem part {u : υ} (hk : k ≤ version ∧ (k = version → u ∈ names)) :
    Collects parts base names version (sets.map (add k (parts u))) pending where
  le := by
    intro v hv
    obtain ⟨v₀, hv₀, rfl⟩ := List.mem_map.mp hv
    rcases Nat.lt_or_ge k v₀.1 with hlt | hge
    · rw [add_of_lt hlt]
      exact h.le v₀ hv₀
    · rw [(add_of_le hge _).1]
      exact hk.1
  sound := h.keeps_sound fun heq a ha => .inr ⟨u, hk.2 heq, ha⟩
  started := fun X hX => keeps hk.1 _ X (h.started X hX)
  arrived := fun u' hu' => (h.arrived u' hu').imp_right (keeps hk.1 _ _)
  bounded := h.bounded

/-- A part of the newest version is in the sets after it arrived. -/
theorem mem_part (X : Finset α) :
    ∀ v ∈ sets.map (add version X), v.1 = version ∧ X ⊆ v.2 := by
  intro v hv
  obtain ⟨v₀, hv₀, rfl⟩ := List.mem_map.mp hv
  exact add_of_le (h.le v₀ hv₀) X

/-- A part that is pending with several versions arrives. -/
theorem partAll {u : υ} {ks : List ℕ} (hks : ∀ k ∈ ks, k ≤ version ∧ (k = version → u ∈ names)) :
    Collects parts base names version (addAll (parts u) ks sets) pending ∧
      (version ∈ ks → ∀ v ∈ addAll (parts u) ks sets, v.1 = version ∧ parts u ⊆ v.2) := by
  induction ks generalizing sets with
  | nil => exact ⟨h, fun hmem => by cases hmem⟩
  | cons k ks ih =>
    have hks' : ∀ k' ∈ ks, k' ≤ version ∧ (k' = version → u ∈ names) :=
      fun k' hk' => hks k' (List.mem_cons_of_mem k hk')
    obtain ⟨hcollects, harrived⟩ := ih (h.part (hks k List.mem_cons_self)) hks'
    refine ⟨hcollects, fun hmem => ?_⟩
    rcases List.mem_cons.mp hmem with rfl | hmem
    · exact keeps_addAll (fun k' hk' => (hks' k' hk').1) _ _ (h.mem_part (parts u))
    · exact harrived hmem

end

omit [DecidableEq α] in
/-- Something is not pending any more. -/
theorem forget (h : Collects parts base names version sets pending)
    (hsub : ∀ u, pending' u ⊆ pending u)
    (hdone : ∀ u ∈ names, version ∈ pending u → version ∈ pending' u ∨
      ∀ v ∈ sets, v.1 = version ∧ parts u ⊆ v.2) :
    Collects parts base names version sets pending' where
  le := h.le
  sound := h.sound
  started := h.started
  arrived := fun u hu => (h.arrived u hu).elim (hdone u hu) .inr
  bounded := fun u k hk => h.bounded u k (hsub u hk)

/-- The newest version has one more name, whose part is there at once. -/
theorem name (h : Collects parts base names version sets pending) (u : υ) :
    Collects parts base (names ++ [u]) version (sets.map (add version (parts u))) pending where
  le := fun v hv => (h.mem_part (parts u) v hv).1.le
  sound := by
    intro v hv hversion a ha
    obtain ⟨v₀, hv₀, rfl⟩ := List.mem_map.mp hv
    have hnew : a ∈ parts u → (∃ X ∈ base, a ∈ X) ∨ ∃ u' ∈ names ++ [u], a ∈ parts u' :=
      fun ha => .inr ⟨u, List.mem_append_right _ List.mem_cons_self, ha⟩
    rcases (h.le v₀ hv₀).lt_or_eq with hlt | heq
    · rw [add_snd hlt] at ha
      exact hnew ha
    · rcases Finset.mem_union.mp ((add_of_eq heq _).2 ha) with ha | ha
      · refine (h.sound v₀ hv₀ heq a ha).imp_right ?_
        rintro ⟨u', hu', ha⟩
        exact ⟨u', List.mem_append_left _ hu', ha⟩
      · exact hnew ha
  started := fun X hX => keeps le_rfl _ X (h.started X hX)
  arrived := by
    intro u' hu'
    rcases List.mem_append.mp hu' with hu' | hu'
    · exact (h.arrived u' hu').imp_right (keeps le_rfl _ _)
    · rw [List.mem_singleton.mp hu']
      exact .inr (h.mem_part (parts u))
  bounded := fun u' k hk => (h.bounded u' k hk).imp_right fun hmem heq =>
    List.mem_append_left _ (hmem heq)

omit [DecidableEq α] in
/-- The newest version has one more name, whose part is pending. -/
theorem await (h : Collects parts base names version sets pending) {u : υ}
    (hu : version ∈ pending' u) (hsub : ∀ k ∈ pending' u, k ∈ pending u ∨ k = version)
    (hother : ∀ u', u' ≠ u → pending' u' = pending u') :
    Collects parts base (names ++ [u]) version sets pending' where
  le := h.le
  sound := fun v hv hversion a ha => (h.sound v hv hversion a ha).imp_right fun ⟨u', hu', ha⟩ =>
    ⟨u', List.mem_append_left _ hu', ha⟩
  started := h.started
  arrived := by
    intro u' hu'
    by_cases heq : u' = u
    · rw [heq]
      exact .inl hu
    · rcases List.mem_append.mp hu' with hu' | hu'
      · rw [hother u' heq]
        exact h.arrived u' hu'
      · exact absurd (List.mem_singleton.mp hu') heq
  bounded := by
    intro u' k hk
    by_cases heq : u' = u
    · subst heq
      refine ⟨?_, fun _ => List.mem_append_right _ List.mem_cons_self⟩
      rcases hsub k hk with hold | rfl
      · exact (h.bounded u' k hold).1
      · exact le_rfl
    · rw [hother u' heq] at hk
      exact (h.bounded u' k hk).imp_right fun hmem heq => List.mem_append_left _ (hmem heq)

end Collects

omit [DecidableEq α] in
/-- A new version without names, of which nothing is there yet. -/
theorem collects_start (hsets : ∀ v ∈ sets, v.1 < k) (hpending : ∀ u, ∀ k' ∈ pending u, k' < k) :
    Collects parts none [] k sets pending where
  le := fun v hv => (hsets v hv).le
  sound := fun v hv hversion => absurd hversion (hsets v hv).ne
  started := fun X hX => by cases hX
  arrived := fun u hu => by cases hu
  bounded := fun u k' hk' => ⟨(hpending u k' hk').le, fun heq => absurd heq (hpending u k' hk').ne⟩

/-- A new version without names that starts with a set. -/
theorem collects_start_with (hsets : ∀ v ∈ sets, v.1 < k)
    (hpending : ∀ u, ∀ k' ∈ pending u, k' < k) (X : Finset α) :
    Collects parts (some X) [] k (sets.map (add k X)) pending := by
  have hmap : ∀ v ∈ sets.map (add k X), v = (k, X) := by
    intro v hv
    obtain ⟨v₀, hv₀, rfl⟩ := List.mem_map.mp hv
    exact add_snd (hsets v₀ hv₀) X
  refine ⟨fun v hv => ?_, fun v hv _ a ha => ?_, fun Y hY v hv => ?_, (fun u hu => by cases hu),
    fun u k' hk' => ⟨(hpending u k' hk').le, fun heq => absurd heq (hpending u k' hk').ne⟩⟩
  · rw [hmap v hv]
  · rw [hmap v hv] at ha
    exact .inl ⟨X, rfl, ha⟩
  · cases hY
    rw [hmap v hv]
    exact ⟨rfl, Finset.Subset.refl _⟩

omit [DecidableEq α] in
/-- **Complete.**  When nothing of the newest version is pending, each set is the
union of what the version starts with and its parts. -/
theorem Collects.complete (h : Collects parts base names version sets pending)
    (hnone : ∀ u ∈ names, version ∉ pending u) (hsome : base ≠ none ∨ names ≠ [])
    (hv : v ∈ sets) (a : α) :
    a ∈ v.2 ↔ (∃ X ∈ base, a ∈ X) ∨ ∃ u ∈ names, a ∈ parts u := by
  have harrived : ∀ u ∈ names, ∀ v ∈ sets, v.1 = version ∧ parts u ⊆ v.2 :=
    fun u hu => (h.arrived u hu).resolve_left (hnone u hu)
  have hversion : v.1 = version := by
    rcases hsome with hbase | hnames
    · obtain ⟨X, hX⟩ := Option.ne_none_iff_exists'.mp hbase
      exact (h.started X hX v hv).1
    · obtain ⟨u, hu⟩ := List.exists_mem_of_ne_nil names hnames
      exact (harrived u hu v hv).1
  refine ⟨h.sound v hv hversion a, ?_⟩
  rintro (⟨X, hX, ha⟩ | ⟨u, hu, ha⟩)
  · exact (h.started X hX v hv).2 ha
  · exact (harrived u hu v hv).2 ha

end Versioned
