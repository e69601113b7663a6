/-
# The resource that stands for a contact

`gabble_presence_pick_resource_by_caps` and `aggregate_resources` are two running
choices over the resources of a contact.  The first compares a rank and finds the
first maximum.  The comparison of the second is no order: the module says when it
does what its comment says, and when the order of the resources does not matter.
-/
import Gabble.PresenceAggregate
import Gabble.RunningChoice
import Mathlib.Data.Prod.Lex
import Mathlib.Order.BooleanAlgebra.Basic

namespace Presence

open RunningChoice

/-! ## Picking a resource -/

/-- The resource may be picked: the predicate holds of its capabilities and its
priority is not negative. -/
def Eligible (predicate : Option (CapabilitySet → Bool)) (r : Resource) : Prop :=
  (∀ q, predicate = some q → q r.capSet = true) ∧ 0 ≤ r.priority

instance (predicate : Option (CapabilitySet → Bool)) (r : Resource) :
    Decidable (Eligible predicate r) :=
  match predicate with
  | none => decidable_of_iff (0 ≤ r.priority) ⟨fun h => ⟨nofun, h⟩, fun h => h.2⟩
  | some q => decidable_of_iff (q r.capSet = true ∧ 0 ≤ r.priority)
      ⟨fun h => ⟨fun _ hq => Option.some.inj hq ▸ h.1, h.2⟩, fun h => ⟨h.1 q rfl, h.2⟩⟩

/-- What resources are compared by: the preferred client type, the status, when they
were last available and the priority, in lexicographic order. -/
def rank (preferredClientType : ℕ) (r : Resource) : Bool ×ₗ ℕ ×ₗ ℤ ×ₗ ℤ :=
  toLex (decide (r.clientType &&& preferredClientType ≠ 0),
    toLex (r.status, toLex (r.lastAvailable, r.priority)))

theorem rank_lt_iff (preferredClientType : ℕ) (a b : Resource) :
    rank preferredClientType b < rank preferredClientType a ↔
      (decide (b.clientType &&& preferredClientType ≠ 0) = false ∧
          decide (a.clientType &&& preferredClientType ≠ 0) = true) ∨
        decide (b.clientType &&& preferredClientType ≠ 0) =
            decide (a.clientType &&& preferredClientType ≠ 0) ∧
          (b.status < a.status ∨ b.status = a.status ∧
            (b.lastAvailable < a.lastAvailable ∨ b.lastAvailable = a.lastAvailable ∧
              b.priority < a.priority)) := by
  simp only [rank, Prod.Lex.toLex_lt_toLex, Bool.lt_iff]

/-- The comparisons after the preferred client type. -/
theorem better_iff_lex (s t : ℕ) (k l m n : ℤ) :
    (if s < t then false else if s > t then true else if k < l then false
      else if k > l then true else decide (m > n)) = true ↔
      t < s ∨ t = s ∧ (l < k ∨ l = k ∧ n < m) := by
  split_ifs with h₁ h₂ h₃ h₄
  · exact iff_of_false nofun (by omega)
  · exact iff_of_true rfl (.inl h₂)
  · exact iff_of_false nofun (by omega)
  · exact iff_of_true rfl (.inr ⟨by omega, .inl h₄⟩)
  · rw [decide_eq_true_iff]
    omega

/-- Among the resources with a priority of at least 0 the better one has the higher
rank. -/
theorem resourceBetterThan_iff {a : Resource} (ha : 0 ≤ a.priority) (b : Resource)
    (preferredClientType : ℕ) :
    resourceBetterThan a (some b) preferredClientType = true ↔
      rank preferredClientType b < rank preferredClientType a := by
  rw [rank_lt_iff, resourceBetterThan, if_neg (not_lt.mpr ha)]
  dsimp only
  -- without a preference no resource has the preferred type
  have hnone : ∀ r : Resource, preferredClientType = 0 →
      decide (r.clientType &&& preferredClientType ≠ 0) = false := by
    intro r h
    simp [h]
  have hanone := hnone a
  have hbnone := hnone b
  generalize decide (a.clientType &&& preferredClientType ≠ 0) = aP at *
  generalize decide (b.clientType &&& preferredClientType ≠ 0) = bP at *
  have hsame := better_iff_lex a.status b.status a.lastAvailable b.lastAvailable a.priority b.priority
  cases aP with
  | false =>
    cases bP with
    | false => simpa using hsame
    | true =>
      have hpref : preferredClientType ≠ 0 := fun h => Bool.noConfusion (hbnone h)
      simp [hpref]
  | true =>
    have hpref : preferredClientType ≠ 0 := fun h => Bool.noConfusion (hanone h)
    cases bP with
    | false => simp [hpref]
    | true => simpa using hsame

theorem eligible_iff (predicate : Option (CapabilitySet → Bool)) (r : Resource) :
    Eligible predicate r ↔
      (predicate.any fun predicate => !predicate r.capSet) = false ∧ 0 ≤ r.priority := by
  cases predicate with
  | none => simp [Eligible]
  | some q => simp [Eligible]

/-- The loop chooses the resource with the highest rank among the eligible ones. -/
theorem foldl_pick (preferredClientType : ℕ) (predicate : Option (CapabilitySet → Bool))
    (rs : List Resource) (chosen : Option Resource) :
    rs.foldl (fun chosen res =>
        if predicate.any fun predicate => !predicate res.capSet then chosen
        else if resourceBetterThan res chosen preferredClientType then some res
        else chosen) chosen =
      (rs.filter fun r => Eligible predicate r).foldl (List.argAux fun a b =>
        rank preferredClientType b < rank preferredClientType a) chosen := by
  induction rs generalizing chosen with
  | nil => rfl
  | cons r rs ih =>
    rw [List.foldl_cons, ih]
    by_cases h : Eligible predicate r
    · obtain ⟨hany, hpriority⟩ := (eligible_iff predicate r).mp h
      rw [List.filter_cons_of_pos (by simpa using h), List.foldl_cons, if_neg (by simp [hany])]
      cases chosen with
      | none => rw [if_pos (by simp [resourceBetterThan, hpriority])]; rfl
      | some b =>
        congr 1
        simp only [List.argAux, resourceBetterThan_iff hpriority]
    · rw [List.filter_cons_of_neg (by simpa using h)]
      congr 1
      by_cases hany : (predicate.any fun predicate => !predicate r.capSet) = true
      · rw [if_pos hany]
      · have hnegative : r.priority < 0 := by
          by_contra hpriority
          exact h ((eligible_iff predicate r).mpr
            ⟨by simpa using hany, not_lt.mp hpriority⟩)
        rw [if_neg hany, if_neg (by simp [resourceBetterThan, hnegative])]

/-- **Picking a resource.**  None is picked exactly if none is eligible; and the one
that is picked is eligible, has the highest rank of all that are, and is the first of
these. -/
theorem pickResourceByCaps_spec (p : Presence) (preferredClientType : ℕ)
    (predicate : Option (CapabilitySet → Bool)) :
    (p.pickResourceByCaps preferredClientType predicate = none ↔
      ∀ r ∈ p.resources, ¬ Eligible predicate r) ∧
    ∀ name, p.pickResourceByCaps preferredClientType predicate = some name →
      ∃ l₁ r l₂, p.resources = l₁ ++ r :: l₂ ∧ r.name = name ∧ Eligible predicate r ∧
        (∀ x ∈ l₁, Eligible predicate x →
          rank preferredClientType x < rank preferredClientType r) ∧
        ∀ x ∈ l₂, Eligible predicate x →
          rank preferredClientType x ≤ rank preferredClientType r := by
  have hpick : p.pickResourceByCaps preferredClientType predicate =
      (choice (fun a b => rank preferredClientType b < rank preferredClientType a)
        (p.resources.filter fun r => Eligible predicate r)).map Resource.name :=
    congrArg (Option.map Resource.name) (foldl_pick preferredClientType predicate p.resources none)
  rw [hpick]
  constructor
  · rw [Option.map_eq_none_iff, choice_eq_none_iff, List.filter_eq_nil_iff]
    simp
  · intro name hname
    obtain ⟨r, hr, rfl⟩ := Option.map_eq_some_iff.mp hname
    obtain ⟨k₁, k₂, hsplit, hbefore, hafter⟩ := choice_split (fun _ _ => Iff.rfl) hr
    -- the places of the eligible resources in the whole list
    obtain ⟨l₁, rest, hrs, hl₁, hrest⟩ := List.filter_eq_append_iff.mp hsplit
    obtain ⟨skipped, l₂, rfl, hskipped, heligible, hl₂⟩ := List.filter_eq_cons_iff.mp hrest
    refine ⟨l₁ ++ skipped, r, l₂, ?_, rfl, of_decide_eq_true heligible, ?_, ?_⟩
    · rw [hrs, List.append_assoc]
    · intro x hx he
      rcases List.mem_append.mp hx with hx | hx
      · refine hbefore x ?_
        rw [← hl₁]
        exact List.mem_filter.mpr ⟨hx, decide_eq_true he⟩
      · exact absurd (decide_eq_true he) (hskipped x hx)
    · intro x hx he
      refine hafter x ?_
      rw [← hl₂]
      exact List.mem_filter.mpr ⟨hx, decide_eq_true he⟩

/-! ## The choice of the aggregate -/

/-- The resource is more present, or as present and more recently available, or as
present and of higher priority. -/
def Trumps (r b : Resource) : Prop :=
  r.status > b.status ∨
    (r.status = b.status ∧ (r.lastAvailable > b.lastAvailable ∨ r.priority > b.priority))

/-- The two resources are equal in all that is compared before the client type. -/
def Tied (r b : Resource) : Prop :=
  r.status = b.status ∧ r.lastAvailable = b.lastAvailable ∧ r.priority = b.priority

/-- The comparison of `aggregate_resources`. -/
def Replaces (r b : Resource) : Prop := Trumps r b ∨ (isPc r = true ∧ ¬ isPc b = true)

/-- The comparison its comment describes: the client type is a last-ditch tiebreak. -/
def BreaksTie (r b : Resource) : Prop :=
  Trumps r b ∨ (Tied r b ∧ isPc r = true ∧ ¬ isPc b = true)

instance : DecidableRel Trumps := fun _ _ => inferInstanceAs (Decidable (_ ∨ _ ∧ (_ ∨ _)))

instance : DecidableRel Tied := fun _ _ => inferInstanceAs (Decidable (_ ∧ _ ∧ _))

instance : DecidableRel Replaces := fun _ _ => inferInstanceAs (Decidable (_ ∨ _))

instance : DecidableRel BreaksTie := fun _ _ => inferInstanceAs (Decidable (_ ∨ _))

theorem better_eq_argAux (best : Option Resource) (r : Resource) :
    better best r = List.argAux Replaces best r := by
  cases best with
  | none => rfl
  | some b =>
    simp only [better, List.argAux, Replaces, Trumps]
    refine if_congr ?_ rfl rfl
    rw [or_assoc]

theorem foldl_better (rs : List Resource) : rs.foldl better none = choice Replaces rs := by
  rw [choice, show better = List.argAux Replaces from
    funext fun best => funext fun r => better_eq_argAux best r]

theorem not_replaces_self (r : Resource) : ¬ Replaces r r := by
  rintro ((h | ⟨-, h | h⟩) | ⟨h, hnot⟩)
  · exact lt_irrefl _ h
  · exact lt_irrefl _ h
  · exact lt_irrefl _ h
  · exact hnot h

theorem BreaksTie.replaces {r b : Resource} (h : BreaksTie r b) : Replaces r b :=
  h.imp_right And.right

theorem BreaksTie.status_le {r b : Resource} (h : BreaksTie r b) : b.status ≤ r.status := by
  rcases h with (h | ⟨h, -⟩) | ⟨⟨h, -⟩, -⟩
  · exact h.le
  · exact h.ge
  · exact h.ge

/-- What `aggregate_resources` reports of the chosen resource. -/
theorem aggregateResources_status (p : Presence) {b : Resource}
    (hb : choice Replaces p.resources = some b) :
    (aggregateResources p).1.status =
      if b.status ≤ PresenceId.hidden ∧ 0 < p.olpcViews then PresenceId.available
      else b.status := by
  simp only [aggregateResources, foldl_better, hb, adopt, announceViews]
  split <;> rfl

/-- What the comment in `aggregate_resources` promises: the status of a most present
resource is reported, and wherever the loop has come the choice is the one in which the
client type only breaks ties. -/
structure FollowsComment (p : Presence) : Prop where
  reported : p.resources ≠ [] → p.olpcViews = 0 →
    ∃ r ∈ p.resources, (aggregateResources p).1.status = r.status
  mostPresent : ∀ r ∈ p.resources, r.status ≤ (aggregateResources p).1.status
  tiesOnly : ∀ l₁ l₂, p.resources = l₁ ++ l₂ →
    l₁.foldl better none = choice BreaksTie l₁

/-- A PC that comes after resources of which the best one is no PC trumps it, or ties
with it. -/
def PcsTrumpOrTie (rs : List Resource) : Prop :=
  ∀ l₁ r l₂ b, rs = l₁ ++ r :: l₂ → choice BreaksTie l₁ = some b →
    isPc r = true → ¬ isPc b = true → Trumps r b ∨ Tied r b

/-- **The last-ditch tiebreak.**  `aggregate_resources` does what its comment says
exactly if no PC comes behind a better resource that is no PC. -/
theorem followsComment_iff (p : Presence) : FollowsComment p ↔ PcsTrumpOrTie p.resources := by
  have hsteps : (∀ l₁ l₂, p.resources = l₁ ++ l₂ →
      l₁.foldl better none = choice BreaksTie l₁) ↔ PcsTrumpOrTie p.resources := by
    simp only [foldl_better]
    rw [choice_congr_iff not_replaces_self fun _ _ h => h.replaces]
    refine forall₅_congr fun l₁ r l₂ b _ => forall_congr' fun _ => ?_
    unfold Replaces BreaksTie
    tauto
  constructor
  · exact fun h => hsteps.mp h.tiesOnly
  · intro hpcs
    have hties := hsteps.mpr hpcs
    have hbest : choice Replaces p.resources = choice BreaksTie p.resources := by
      rw [← foldl_better]
      exact hties p.resources [] (List.append_nil _).symm
    refine ⟨fun hne hviews => ?_, fun r hr => ?_, hties⟩
    · have hsome : choice Replaces p.resources ≠ none := mt choice_eq_none_iff.mp hne
      obtain ⟨b, hb⟩ := Option.ne_none_iff_exists'.mp hsome
      refine ⟨b, choice_mem hb, ?_⟩
      rw [aggregateResources_status p hb, if_neg (by simp [hviews])]
    · have hsome : choice Replaces p.resources ≠ none :=
        mt choice_eq_none_iff.mp (List.ne_nil_of_mem hr)
      obtain ⟨b, hb⟩ := Option.ne_none_iff_exists'.mp hsome
      have hle : r.status ≤ b.status :=
        le_of_choice (fun _ _ h => .inl (.inl h)) (fun _ _ h => h.status_le) (hbest ▸ hb) r hr
      rw [aggregateResources_status p hb]
      split
      · next h => exact hle.trans (h.1.trans (by decide))
      · exact hle

/-- A contact chats on a phone, and is away on a PC. -/
def phoneAndPc : List Call :=
  [.update (some "phone") .chat none 0 0, .update (some "pc") .away none 0 1,
    .updateClientTypes (some "pc") clientTypePc]

/-- The contact is reported as away, although a resource is more present. -/
theorem pc_hides_chat :
    ∃ p, Transition.run step Presence.new phoneAndPc = some p ∧ p.status = PresenceId.away ∧
      p.resources.map Resource.status = [PresenceId.chat, PresenceId.away] ∧
      ¬ FollowsComment p := by
  refine ⟨_, rfl, by decide, by decide, fun h => ?_⟩
  exact absurd (h.mostPresent _ (List.mem_cons_self ..)) (by decide)

/-! ## The order of the resources -/

/-- The two presences are reported alike. -/
structure ReportedAlike (p q : Presence) : Prop where
  status : p.status = q.status
  statusMessage : p.statusMessage = q.statusMessage
  clientTypes : p.clientTypes = q.clientTypes
  activeResource : p.activeResource = q.activeResource

theorem ReportedAlike.announceViews {p q : Presence} (h : ReportedAlike p q)
    (hviews : p.olpcViews = q.olpcViews) :
    ReportedAlike (announceViews p) (announceViews q) := by
  unfold Presence.announceViews
  rw [h.status, hviews]
  split
  · exact { h with status := rfl, statusMessage := rfl }
  · exact h

theorem reportedAlike_of_choice (p : Presence) {rs : List Resource}
    (h : choice Replaces rs = choice Replaces p.resources) :
    ReportedAlike (aggregateResources { p with resources := rs }).1 (aggregateResources p).1 := by
  simp only [aggregateResources, foldl_better, h]
  cases choice Replaces p.resources with
  | none => exact ReportedAlike.announceViews ⟨rfl, rfl, rfl, rfl⟩ rfl
  | some b => exact ReportedAlike.announceViews ⟨rfl, rfl, rfl, rfl⟩ rfl

theorem aggregateResources_activeResource (p : Presence) {b : Resource}
    (hb : choice Replaces p.resources = some b) :
    (aggregateResources p).1.activeResource = some b.name := by
  simp only [aggregateResources, foldl_better, hb, adopt, announceViews]
  split
  · rfl
  · rfl

/-- The outcome tells which resource was chosen. -/
theorem choice_of_reportedAlike {p : Presence} (hnames : (p.resources.map Resource.name).Nodup)
    {rs : List Resource} (hperm : rs.Perm p.resources)
    (h : ReportedAlike (aggregateResources { p with resources := rs }).1
      (aggregateResources p).1) : choice Replaces rs = choice Replaces p.resources := by
  cases hb : choice Replaces p.resources with
  | none =>
    rw [choice_eq_none_iff] at hb ⊢
    rw [hb] at hperm
    exact hperm.eq_nil
  | some b =>
    have hne : choice Replaces rs ≠ none := by
      intro hnone
      rw [choice_eq_none_iff.mp hnone] at hperm
      rw [hperm.nil_eq.symm] at hb
      cases hb
    obtain ⟨c, hc⟩ := Option.ne_none_iff_exists'.mp hne
    have hactive := h.activeResource
    rw [aggregateResources_activeResource p hb,
      aggregateResources_activeResource { p with resources := rs } hc] at hactive
    rw [hc, List.inj_on_of_nodup_map hnames (hperm.mem_iff.mp (choice_mem hc)) (choice_mem hb)
      (Option.some.inj hactive)]

theorem wins_iff_lex {s t : ℕ} {k l m n : ℤ} {P Q : Prop} (h : ¬ (s = t ∧ k = l ∧ m = n)) :
    (((s > t ∨ s = t ∧ (k > l ∨ m > n)) ∨ P ∧ ¬ Q) ∧
        ¬ ((t > s ∨ t = s ∧ (l > k ∨ n > m)) ∨ Q ∧ ¬ P)) ↔
      t ≤ s ∧ (t = s → l ≤ k ∧ n ≤ m) ∧ (Q → P) := by
  constructor
  · rintro ⟨-, hnot⟩
    rw [not_or, not_and_not_right] at hnot
    exact ⟨by omega, by omega, hnot.2⟩
  · rintro ⟨hle, hties, himp⟩
    refine ⟨.inl ?_, ?_⟩
    · omega
    · rintro (hnot | ⟨hQ, hP⟩)
      · omega
      · exact hP (himp hQ)

/-- A resource wins against another that is not tied with it if it is at least as
present, and if as present at least as recent and of at least the same priority, and is
a PC if the other is. -/
theorem wins_iff {m r : Resource} (h : ¬ Tied m r) :
    (Replaces m r ∧ ¬ Replaces r m) ↔
      r.status ≤ m.status ∧
        (r.status = m.status → r.lastAvailable ≤ m.lastAvailable ∧ r.priority ≤ m.priority) ∧
        (isPc r = true → isPc m = true) :=
  wins_iff_lex h

/-- **The order does not matter** for resources no two of which are tied exactly if one
of them is the most present, among these the most recent and of the highest priority,
and a PC if any resource is. -/
theorem aggregate_perm_iff (p : Presence) (hnames : (p.resources.map Resource.name).Nodup)
    (hties : p.resources.Pairwise fun r b => ¬ Tied r b) :
    (∀ rs, rs.Perm p.resources →
        ReportedAlike (aggregateResources { p with resources := rs }).1
          (aggregateResources p).1) ↔
      (p.resources ≠ [] → ∃ m ∈ p.resources, ∀ r ∈ p.resources,
        r.status ≤ m.status ∧
          (r.status = m.status → r.lastAvailable ≤ m.lastAvailable ∧ r.priority ≤ m.priority) ∧
          (isPc r = true → isPc m = true)) := by
  have halike : (∀ rs, rs.Perm p.resources →
      ReportedAlike (aggregateResources { p with resources := rs }).1 (aggregateResources p).1) ↔
      ∀ rs, rs.Perm p.resources → choice Replaces rs = choice Replaces p.resources :=
    forall₂_congr fun rs hperm =>
      ⟨choice_of_reportedAlike hnames hperm, reportedAlike_of_choice p⟩
  rw [halike, choice_perm_iff (List.Nodup.of_map _ hnames)]
  refine imp_congr_right fun _ => exists_congr fun m => and_congr_right fun hm => ?_
  refine forall₂_congr fun r hr => ?_
  by_cases hrm : r = m
  · subst hrm
    exact iff_of_true (fun hne => absurd rfl hne) ⟨le_rfl, fun _ => ⟨le_rfl, le_rfl⟩, id⟩
  · have hsymm : Std.Symm fun a b => ¬ Tied a b :=
      ⟨fun a b h ht => h ⟨ht.1.symm, ht.2.1.symm, ht.2.2.symm⟩⟩
    have hnot : ¬ Tied m r := hties.forall hm hr (Ne.symm hrm)
    rw [← wins_iff hnot]
    exact ⟨fun h => h hrm, fun h _ => h⟩

/-- Two resources that are equally available. -/
def fooAndBar (priority later : ℤ) : List Call :=
  [.update (some "foo") .available none 10 0, .update (some "bar") .available none priority later]

theorem aggregate_perm_iff_sameTime :
    ∃ p, Transition.run step Presence.new (fooAndBar 5 0) = some p ∧
      p.activeResource = some "foo" ∧
      ∀ rs, rs.Perm p.resources →
        ReportedAlike (aggregateResources { p with resources := rs }).1
          (aggregateResources p).1 :=
  ⟨_, rfl, rfl, (aggregate_perm_iff _ (by decide) (by decide)).mpr fun _ =>
    ⟨_, List.mem_cons_self, by decide⟩⟩

/-- The second resource is more recent and has the lower priority: each takes the place
of the other. -/
theorem order_matters :
    ∃ p, Transition.run step Presence.new (fooAndBar 5 1) = some p ∧ p.olpcViews = 0 ∧
      (p.resources.Pairwise fun r b => ¬ Tied r b) ∧
      (aggregateResources p).1.activeResource = some "bar" ∧
      ¬ ∀ rs, rs.Perm p.resources →
        ReportedAlike (aggregateResources { p with resources := rs }).1
          (aggregateResources p).1 := by
  refine ⟨_, rfl, rfl, by decide, by decide, fun hall => ?_⟩
  have hreversed := (hall _ (List.reverse_perm _)).activeResource
  exact absurd hreversed (by decide)

/-! ## Names -/

end Presence
