/-
# The order of the handlers

`handle_stanza` goes through the list of handlers while these may register and unregister handlers,
and while flushes go through it for other stanzas.  Still each stanza is offered to handlers of
decreasing priority, to each once at most, and when `handle_stanza` gives up, no handler that
accepts the stanza and was registered all the time has been left out.

A `Scene` is what of the state this depends on, with the few things that can happen to it.
-/
import Gabble.AddressingUriRoundTrip
import Gabble.PorterCalm
import Mathlib.Data.List.Nodup

namespace Porter

open Wocky

variable {d : Dispatch} {h : StanzaHandler} {rest : List Frame}

/-! ## The list of the handlers -/

/-- The handlers are sorted by decreasing priority. -/
def ByPriority (l : List StanzaHandler) : Prop := l.Pairwise fun a b => b.priority ≤ a.priority

/-- A handler that is new goes between two parts of the list. -/
theorem orderedInsert_split (h : StanzaHandler) (l : List StanzaHandler) :
    ∃ pre post, l = pre ++ post ∧
      l.orderedInsert (fun a b => b.priority ≤ a.priority) h = pre ++ h :: post := by
  induction l with
  | nil => exact ⟨[], [], rfl, rfl⟩
  | cons b l ih =>
    rw [List.orderedInsert_cons]
    split
    · exact ⟨[], b :: l, rfl, rfl⟩
    · obtain ⟨pre, post, hl, hinsert⟩ := ih
      exact ⟨b :: pre, post, by rw [hl, List.cons_append], by rw [hinsert, List.cons_append]⟩

theorem byPriority_orderedInsert {l : List StanzaHandler} (hl : ByPriority l) (h : StanzaHandler) :
    ByPriority (l.orderedInsert (fun a b => b.priority ≤ a.priority) h) := by
  have htotal : Std.Total fun a b : StanzaHandler => b.priority ≤ a.priority :=
    ⟨fun a b => Nat.le_total b.priority a.priority⟩
  have htrans : IsTrans StanzaHandler fun a b => b.priority ≤ a.priority :=
    ⟨fun _ _ _ hab hbc => Nat.le_trans hbc hab⟩
  exact hl.orderedInsert h l

/-- What stands where, in a list that a handler has been taken out of or put into. -/
theorem split_of_filter {l l' pre post : List StanzaHandler} {p : StanzaHandler → Bool}
    (hl : l.filter p = l'.filter p) (hsplit : l' = pre ++ h :: post) (hp : p h = true) :
    ∃ pre' post', l = pre' ++ h :: post' ∧ pre'.filter p = pre.filter p ∧
      post'.filter p = post.filter p := by
  rw [hsplit, List.filter_append, List.filter_cons_of_pos hp] at hl
  obtain ⟨pre', rest, rfl, hpre, hrest⟩ := List.filter_eq_append_iff.mp hl
  obtain ⟨skipped, post', rfl, hskipped, -, hpost⟩ := List.filter_eq_cons_iff.mp hrest
  refine ⟨pre' ++ skipped, post', by rw [List.append_assoc], ?_, hpost⟩
  have hnone : skipped.filter p = [] := List.filter_eq_nil_iff.mpr fun x hx => by
    simpa using hskipped x hx
  rw [List.filter_append, hnone, List.append_nil, hpre]

/-- A handler stands at one place of a list without repetitions. -/
theorem split_unique {l pre post pre' post' : List StanzaHandler} {h h' : StanzaHandler}
    (hnodup : (l.map (·.id)).Nodup) (hsplit : l = pre ++ h :: post)
    (hsplit' : l = pre' ++ h' :: post') (hid : h'.id = h.id) :
    pre' = pre ∧ h' = h ∧ post' = post := by
  induction pre generalizing l pre' with
  | nil =>
    cases pre' with
    | nil => grind
    | cons x pre' =>
      exfalso
      subst hsplit
      simp only [List.nil_append, List.cons_append, List.cons.injEq] at hsplit'
      obtain ⟨rfl, rfl⟩ := hsplit'
      simp [hid] at hnodup
  | cons y pre ih =>
    cases pre' with
    | nil =>
      exfalso
      subst hsplit
      simp only [List.nil_append, List.cons_append, List.cons.injEq] at hsplit'
      obtain ⟨rfl, rfl⟩ := hsplit'
      simp [hid] at hnodup
    | cons x pre' =>
      subst hsplit
      simp only [List.cons_append, List.cons.injEq] at hsplit'
      obtain ⟨rfl, htail⟩ := hsplit'
      have hrest := ih (l := pre ++ h :: post) (List.nodup_cons.mp hnodup).2 rfl htail
      exact ⟨by rw [hrest.1], hrest.2⟩

/-- Ids are not used twice, so that taking one handler out takes out all with its id. -/
theorem eraseP_eq_filter {l : List StanzaHandler} (hnodup : (l.map (·.id)).Nodup)
    (id : HandlerId) : l.eraseP (·.id = id) = l.filter (·.id ≠ id) := by
  induction l with
  | nil => rfl
  | cons x l ih =>
    obtain ⟨hnotmem, hrest⟩ := List.nodup_cons.mp hnodup
    by_cases hx : x.id = id
    · have hkept : l.filter (·.id ≠ id) = l := List.filter_eq_self.mpr fun y hy =>
        decide_eq_true fun heq => hnotmem (List.mem_map.mpr ⟨y, hy, heq.trans hx.symm⟩)
      rw [List.eraseP_cons_of_pos (by simpa using hx), List.filter_cons_of_neg (by simpa using hx),
        hkept]
    · rw [List.eraseP_cons_of_neg (by simpa using hx), List.filter_cons_of_pos (by simpa using hx),
        ih hrest]

/-! ## Places -/

/-- Where a call of `handle_stanza` is.  `offering` says that the callback of the handler has been
called. -/
structure Place where
  dispatch : Dispatch
  link : Option HandlerId
  offering : Bool

/-- A call of `handle_stanza` is at the handler `h`, which stands between `pre` and `post`. -/
structure Place.At (p : Place) (offers pre : List StanzaHandler) (h : StanzaHandler)
    (post : List StanzaHandler) : Prop where
  /-- the handlers in front have had the stanza -/
  passed : ∀ x ∈ pre, x.id < p.dispatch.firstNewId → x.accepts p.dispatch = true → x ∈ offers
  offering : p.offering = true → h ∈ offers
  lower : ∀ o ∈ offers, h.priority ≤ o.priority
  /-- the handlers behind have not had it -/
  ahead : ∀ o ∈ offers, ∀ x ∈ post, o.id ≠ x.id
  fresh : p.offering = false → ∀ o ∈ offers, o.id ≠ h.id

/-- What has been offered where a call of `handle_stanza` is. -/
def Place.Stands (p : Place) (offers handlers : List StanzaHandler) : Prop :=
  match p.link with
  | none => ∀ h ∈ handlers, h.id < p.dispatch.firstNewId → h.accepts p.dispatch = true → h ∈ offers
  | some id => ∀ pre h post, handlers = pre ++ h :: post → h.id = id → p.At offers pre h post

/-- Handlers with the id `k` have come or gone. -/
theorem Place.Stands.change {p : Place} {offers l l' : List StanzaHandler} {k : HandlerId}
    (h : p.Stands offers l) (hl : l.filter (·.id ≠ k) = l'.filter (·.id ≠ k))
    (hnew : ∀ x ∈ l', x.id = k →
      p.dispatch.firstNewId ≤ k ∧ p.link ≠ some k ∧ ∀ o ∈ offers, o.id ≠ k) :
    p.Stands offers l' := by
  unfold Stands at h ⊢
  split
  · next hlink =>
    rw [hlink] at h
    intro x hx hold haccepts
    have hne : x.id ≠ k := fun hk => Nat.not_lt_of_le (hnew x hx hk).1 (hk ▸ hold)
    have hmem : x ∈ l.filter (·.id ≠ k) := hl ▸ List.mem_filter.mpr ⟨hx, decide_eq_true hne⟩
    exact h x (List.mem_filter.mp hmem).1 hold haccepts
  · next id hlink =>
    rw [hlink] at h
    intro pre x post hsplit hid
    have hx : x ∈ l' := hsplit ▸ List.mem_append_right _ List.mem_cons_self
    have hne : x.id ≠ k := fun hk => (hnew x hx hk).2.1 (by rw [hlink, ← hid, hk])
    obtain ⟨pre', post', hsplit', hpre, hpost⟩ := split_of_filter hl hsplit (decide_eq_true hne)
    have hat := h pre' x post' hsplit' hid
    have hkept : ∀ {a b : List StanzaHandler} {y : StanzaHandler},
        a.filter (·.id ≠ k) = b.filter (·.id ≠ k) → y ∈ b → y.id ≠ k → y ∈ a :=
      fun hab hy hyk =>
        (List.mem_filter.mp (hab ▸ List.mem_filter.mpr ⟨hy, decide_eq_true hyk⟩)).1
    refine ⟨fun y hy hold haccepts => ?_, hat.offering, hat.lower, fun o ho y hy => ?_, hat.fresh⟩
    · have hyl : y ∈ l' := hsplit ▸ List.mem_append_left _ hy
      have hyk : y.id ≠ k := fun hk => Nat.not_lt_of_le (hnew y hyl hk).1 (hk ▸ hold)
      exact hat.passed y (hkept hpre hy hyk) hold haccepts
    · have hyl : y ∈ l' := hsplit ▸ List.mem_append_right _ (List.mem_cons_of_mem _ hy)
      by_cases hyk : y.id = k
      · exact hyk ▸ (hnew y hyl hyk).2.2 o ho
      · exact hat.ahead o ho y (hkept hpost hy hyk)

/-- A call goes on to the next handler, with no need to offer the stanza to this one any more. -/
theorem Place.Stands.next {offering : Bool} {offers l : List StanzaHandler}
    (hp : Place.Stands ⟨d, some h.id, offering⟩ offers l)
    (hnodup : (l.map (·.id)).Nodup) (hl : ByPriority l) (hmem : h ∈ l)
    (hpassed : h.accepts d = true → h ∈ offers) :
    Place.Stands ⟨d, ListCursor.next h.id (l.map (·.id)), false⟩ offers l := by
  obtain ⟨pre, post, hsplit⟩ := List.append_of_mem hmem
  have hat := hp pre h post hsplit rfl
  have hpre : ∀ x ∈ pre ++ [h], x.id < d.firstNewId → x.accepts d = true → x ∈ offers := by
    refine List.forall_mem_append.mpr ⟨hat.passed, fun x hx _ haccepts => ?_⟩
    obtain rfl := List.mem_singleton.mp hx
    exact hpassed haccepts
  have hnotmem : h.id ∉ pre.map (·.id) := by
    rw [hsplit, List.map_append, List.map_cons] at hnodup
    exact fun hin => (List.nodup_append.mp hnodup).2.2 _ hin _ List.mem_cons_self rfl
  have hnext : ListCursor.next h.id (l.map (·.id)) = (post.map (·.id)).head? := by
    rw [hsplit, List.map_append, List.map_cons, ListCursor.next_append hnotmem]
  rw [hnext]
  cases post with
  | nil =>
    change ∀ x ∈ l, _
    rw [hsplit]
    exact hpre
  | cons y post =>
    intro pre' x post' hsplit' hid
    have hl' : l = (pre ++ [h]) ++ y :: post := by rw [hsplit, List.append_assoc]; rfl
    obtain ⟨rfl, rfl, rfl⟩ := split_unique hnodup hl' hsplit' hid
    have hlower : x.priority ≤ h.priority := by
      rw [hsplit] at hl
      exact List.rel_of_pairwise_cons (List.pairwise_append.mp hl).2.1 List.mem_cons_self
    refine ⟨hpre, by rintro ⟨⟩, fun o ho => hlower.trans (hat.lower o ho), fun o ho z hz => ?_,
      fun _ o ho => hat.ahead o ho x List.mem_cons_self⟩
    exact hat.ahead o ho z (List.mem_cons_of_mem _ hz)

/-- The stanza is offered to the handler that a call is at. -/
theorem Place.Stands.offer {offers l : List StanzaHandler}
    (hp : Place.Stands ⟨d, some h.id, false⟩ offers l) (hnodup : (l.map (·.id)).Nodup)
    (hmem : h ∈ l) : Place.Stands ⟨d, some h.id, true⟩ (offers ++ [h]) l := by
  intro pre x post hsplit hid
  have hat := hp pre x post hsplit hid
  have hx : x = h := by
    obtain ⟨pre', post', hsplit'⟩ := List.append_of_mem hmem
    exact (split_unique hnodup hsplit' hsplit hid).2.1
  subst hx
  refine ⟨fun y hy hold haccepts => List.mem_append_left _ (hat.passed y hy hold haccepts),
    fun _ => List.mem_append_right _ List.mem_cons_self, ?_, ?_, by rintro ⟨⟩⟩
  · refine List.forall_mem_append.mpr ⟨hat.lower, fun o ho => ?_⟩
    exact (congrArg StanzaHandler.priority (List.mem_singleton.mp ho)).ge
  · refine List.forall_mem_append.mpr ⟨hat.ahead, fun o ho y hy => ?_⟩
    rw [List.mem_singleton.mp ho]
    rw [hsplit, List.map_append, List.map_cons] at hnodup
    have hnotmem := (List.nodup_cons.mp (List.nodup_append.mp hnodup).2.1).1
    exact fun heq => hnotmem (heq ▸ List.mem_map_of_mem hy)

/-! ## Scenes -/

/-- What the order of the offers depends on: the calls of `handle_stanza`, what they have offered
and which of the offers were taken, and the handlers. -/
structure Scene where
  places : List Place
  offered : List (Dispatch × StanzaHandler)
  taken : List (Dispatch × HandlerId)
  handlers : List StanzaHandler
  nextHandlerId : ℕ
  dispatches : ℕ

namespace Scene

/-- What the call with a number has offered the stanza to. -/
def offers (c : Scene) (n : ℕ) : List StanzaHandler :=
  (c.offered.filter (·.1.number = n)).map (·.2)

/-- A call of `handle_stanza` is where the scene allows. -/
structure Admits (c : Scene) (p : Place) : Prop where
  number : p.dispatch.number < c.dispatches
  firstNewId : p.dispatch.firstNewId ≤ c.nextHandlerId
  link : ∀ id, p.link = some id → id < c.nextHandlerId
  stands : p.Stands (c.offers p.dispatch.number) c.handlers
  last : p.offering = true → (c.offers p.dispatch.number).getLast?.map (·.id) = p.link

/-- The offers are in order. -/
structure Orderly (c : Scene) : Prop where
  ids : (c.handlers.map (·.id)).Nodup
  sorted : ByPriority c.handlers
  below : ∀ h ∈ c.handlers, h.id < c.nextHandlerId
  numbers : (c.places.map (·.dispatch.number)).Nodup
  places : ∀ p ∈ c.places, c.Admits p
  offered : ∀ o ∈ c.offered,
    o.1.number < c.dispatches ∧ o.2.id < c.nextHandlerId ∧ o.2.accepts o.1 = true
  inOrder : ∀ n, (c.offers n).Pairwise fun a b => b.priority ≤ a.priority ∧ a.id ≠ b.id
  taken : ∀ t ∈ c.taken, t.1.number < c.dispatches ∧
    (∀ p ∈ c.places, p.dispatch.number ≠ t.1.number) ∧
    (c.offers t.1.number).getLast?.map (·.id) = some t.2

variable {c : Scene}

theorem mem_offers {n : ℕ} :
    h ∈ c.offers n ↔ ∃ d, (d, h) ∈ c.offered ∧ d.number = n := by
  simp [offers]

/-- A call of `handle_stanza` ends. -/
def leave (c : Scene) : Scene := { c with places := c.places.tail }

theorem Orderly.leave (hc : Orderly c) : Orderly c.leave where
  ids := hc.ids
  sorted := hc.sorted
  below := hc.below
  numbers := by
    have hsub : (c.places.tail.map (·.dispatch.number)).Sublist
        (c.places.map (·.dispatch.number)) := (List.tail_sublist _).map _
    exact hc.numbers.sublist hsub
  places p hp := by
    have h := hc.places p (List.mem_of_mem_tail hp)
    exact ⟨h.number, h.firstNewId, h.link, h.stands, h.last⟩
  offered := hc.offered
  inOrder := hc.inOrder
  taken t ht := by
    obtain ⟨hnumber, hother, hlast⟩ := hc.taken t ht
    exact ⟨hnumber, fun p hp => hother p (List.mem_of_mem_tail hp), hlast⟩

/-- A call of `handle_stanza` begins. -/
def enter (c : Scene) (d : Dispatch) : Scene :=
  { c with
    places := ⟨d, c.handlers.head?.map (·.id), false⟩ :: c.places
    dispatches := c.dispatches + 1 }

/-- What there was before is still in order when a call begins. -/
theorem Admits.enter {p : Place} (h : c.Admits p) (d : Dispatch) : (c.enter d).Admits p :=
  ⟨Nat.lt_succ_of_lt h.number, h.firstNewId, h.link, h.stands, h.last⟩

theorem Orderly.enter (hc : Orderly c) (hnumber : d.number = c.dispatches)
    (hfirst : d.firstNewId = c.nextHandlerId) : Orderly (c.enter d) where
  ids := hc.ids
  sorted := hc.sorted
  below := hc.below
  numbers := by
    refine List.nodup_cons.mpr ⟨fun hmem => ?_, hc.numbers⟩
    obtain ⟨p, hp, heq⟩ := List.mem_map.mp hmem
    exact Nat.not_lt_of_le (hnumber.symm.trans heq.symm).le (hc.places p hp).number
  places := by
    have hoffers : c.offers d.number = [] := by
      refine List.eq_nil_iff_forall_not_mem.mpr fun h hh => ?_
      obtain ⟨d', hmem, heq⟩ := mem_offers.mp hh
      exact Nat.not_lt_of_le (hnumber.symm.trans heq.symm).le (hc.offered _ hmem).1
    refine List.forall_mem_cons.mpr ⟨⟨?_, hfirst.le, fun id hid => ?_, ?_, by rintro ⟨⟩⟩,
      fun p hp => (hc.places p hp).enter d⟩
    · exact hnumber ▸ Nat.lt_succ_self _
    · obtain ⟨h, hhead, rfl⟩ := Option.map_eq_some_iff.mp hid
      exact hc.below h (List.mem_of_mem_head? hhead)
    · change Place.Stands _ (c.offers d.number) c.handlers
      rw [hoffers]
      cases hhandlers : c.handlers with
      | nil => exact List.forall_mem_nil _
      | cons x l =>
        intro pre h post hsplit hid
        have hcons : x :: l = [] ++ x :: l := rfl
        obtain ⟨rfl, -, -⟩ := split_unique (hhandlers ▸ hc.ids) hcons hsplit hid
        exact ⟨List.forall_mem_nil _, by rintro ⟨⟩, List.forall_mem_nil _, List.forall_mem_nil _,
          fun _ => List.forall_mem_nil _⟩
  offered o ho := by
    obtain ⟨hn, hid, haccepts⟩ := hc.offered o ho
    exact ⟨Nat.lt_succ_of_lt hn, hid, haccepts⟩
  inOrder := hc.inOrder
  taken t ht := by
    obtain ⟨hn, hother, hlast⟩ := hc.taken t ht
    refine ⟨Nat.lt_succ_of_lt hn, List.forall_mem_cons.mpr ⟨?_, hother⟩, hlast⟩
    exact fun heq => Nat.not_lt_of_le (hnumber.symm.trans heq).le hn

/-- The call that began last goes past the handler it is at. -/
def pass (c : Scene) (d : Dispatch) (id : HandlerId) : Scene :=
  { c with
    places := ⟨d, ListCursor.next id (c.handlers.map (·.id)), false⟩ :: c.places.tail }

theorem Orderly.pass (hc : Orderly c) {offering : Bool}
    {rest : List Place} (hplaces : c.places = ⟨d, some h.id, offering⟩ :: rest)
    (hmem : h ∈ c.handlers) (hpassed : h.accepts d = true → offering = true) :
    Orderly (c.pass d h.id) := by
  have hp : c.Admits ⟨d, some h.id, offering⟩ := hc.places _ (hplaces ▸ List.mem_cons_self)
  have hoffers : h.accepts d = true → h ∈ c.offers d.number := by
    intro haccepts
    obtain ⟨pre, post, hsplit⟩ := List.append_of_mem hmem
    exact (hp.stands pre h post hsplit rfl).offering (hpassed haccepts)
  have hnext := hp.stands.next hc.ids hc.sorted hmem hoffers
  have hnumbers := hc.numbers
  have hplace := hc.places
  have htaken := hc.taken
  rw [hplaces] at hnumbers hplace htaken
  have hrest : (c.pass d h.id).places =
      ⟨d, ListCursor.next h.id (c.handlers.map (·.id)), false⟩ :: rest := by
    rw [Scene.pass, hplaces, List.tail_cons]
  refine ⟨hc.ids, hc.sorted, hc.below, ?_, ?_, hc.offered, hc.inOrder, fun t ht => ?_⟩
  · rw [hrest]
    exact hnumbers
  · rw [hrest]
    refine List.forall_mem_cons.mpr ⟨⟨hp.number, hp.firstNewId, fun id hid => ?_, hnext,
      by rintro ⟨⟩⟩, fun p hp => ?_⟩
    · obtain ⟨x, hx, rfl⟩ := List.mem_map.mp (ListCursor.mem_of_next hid)
      exact hc.below x hx
    · have h' := hplace p (List.mem_cons_of_mem _ hp)
      exact ⟨h'.number, h'.firstNewId, h'.link, h'.stands, h'.last⟩
  · obtain ⟨hn, hother, hlast⟩ := htaken t ht
    rw [hrest]
    refine ⟨hn, List.forall_mem_cons.mpr ⟨?_, (List.forall_mem_cons.mp hother).2⟩, hlast⟩
    exact (List.forall_mem_cons.mp hother).1

/-- The call that began last offers its stanza to the handler it is at. -/
def offer (c : Scene) (d : Dispatch) (h : StanzaHandler) : Scene :=
  { c with
    places := ⟨d, some h.id, true⟩ :: c.places.tail
    offered := c.offered ++ [(d, h)] }

theorem offers_offer (d : Dispatch) (h : StanzaHandler) (n : ℕ) :
    (c.offer d h).offers n = if d.number = n then c.offers n ++ [h] else c.offers n := by
  by_cases hn : d.number = n <;> simp [offers, offer, hn]

theorem Orderly.offer (hc : Orderly c) {rest : List Place}
    (hplaces : c.places = ⟨d, some h.id, false⟩ :: rest) (hmem : h ∈ c.handlers)
    (haccepts : h.accepts d = true) : Orderly (c.offer d h) := by
  have hp : c.Admits ⟨d, some h.id, false⟩ := hc.places _ (hplaces ▸ List.mem_cons_self)
  have hnumbers := hc.numbers
  have hplace := hc.places
  have htaken := hc.taken
  rw [hplaces] at hnumbers hplace htaken
  have hrest : (c.offer d h).places = ⟨d, some h.id, true⟩ :: rest := by
    rw [Scene.offer, hplaces, List.tail_cons]
  have hother : ∀ p ∈ rest, d.number ≠ p.dispatch.number := fun p hp heq =>
    (List.nodup_cons.mp hnumbers).1 (List.mem_map.mpr ⟨p, hp, heq.symm⟩)
  refine ⟨hc.ids, hc.sorted, hc.below, ?_, ?_, ?_, fun n => ?_, fun t ht => ?_⟩
  · rw [hrest]
    exact hnumbers
  · rw [hrest]
    refine List.forall_mem_cons.mpr ⟨⟨hp.number, hp.firstNewId, hp.link, ?_, fun _ => ?_⟩,
      fun p hp => ?_⟩
    · rw [offers_offer, if_pos rfl]
      exact hp.stands.offer hc.ids hmem
    · rw [offers_offer, if_pos rfl, List.getLast?_concat]
      rfl
    · have h' := hplace p (List.mem_cons_of_mem _ hp)
      refine ⟨h'.number, h'.firstNewId, h'.link, ?_, ?_⟩
      · rw [offers_offer, if_neg (hother p hp)]
        exact h'.stands
      · rw [offers_offer, if_neg (hother p hp)]
        exact h'.last
  · refine List.forall_mem_append.mpr ⟨hc.offered, fun o ho => ?_⟩
    rw [List.mem_singleton.mp ho]
    exact ⟨hp.number, hc.below h hmem, haccepts⟩
  · rw [offers_offer]
    split
    · next hn =>
      subst hn
      obtain ⟨pre, post, hsplit⟩ := List.append_of_mem hmem
      have hat := hp.stands pre h post hsplit rfl
      refine List.pairwise_append.mpr ⟨hc.inOrder _, List.pairwise_singleton _ _, ?_⟩
      intro o ho x hx
      rw [List.mem_singleton.mp hx]
      exact ⟨hat.lower o ho, hat.fresh rfl o ho⟩
    · exact hc.inOrder n
  · obtain ⟨hn, hplaces', hlast⟩ := htaken t ht
    have hne := (List.forall_mem_cons.mp hplaces').1
    rw [hrest, offers_offer, if_neg hne]
    exact ⟨hn, List.forall_mem_cons.mpr ⟨hne, (List.forall_mem_cons.mp hplaces').2⟩, hlast⟩

/-- The handler takes the stanza. -/
def take (c : Scene) (d : Dispatch) (id : HandlerId) : Scene :=
  { c.leave with taken := c.taken ++ [(d, id)] }

theorem Orderly.take (hc : Orderly c) {id : HandlerId} {rest : List Place}
    (hplaces : c.places = ⟨d, some id, true⟩ :: rest) : Orderly (c.take d id) := by
  have hp : c.Admits ⟨d, some id, true⟩ := hc.places _ (hplaces ▸ List.mem_cons_self)
  have hleft := hc.leave
  have hrest : c.leave.places = rest := by rw [Scene.leave, hplaces, List.tail_cons]
  refine ⟨hleft.ids, hleft.sorted, hleft.below, hleft.numbers, fun p hp => ?_, hleft.offered,
    hleft.inOrder, ?_⟩
  · have h := hleft.places p hp
    exact ⟨h.number, h.firstNewId, h.link, h.stands, h.last⟩
  · refine List.forall_mem_append.mpr ⟨hleft.taken, fun t ht => ?_⟩
    rw [List.mem_singleton.mp ht]
    refine ⟨hp.number, fun p hmem heq => ?_, hp.last rfl⟩
    have hnumbers := hc.numbers
    rw [hplaces] at hnumbers
    change p ∈ c.leave.places at hmem
    rw [hrest] at hmem
    exact (List.nodup_cons.mp hnumbers).1 (List.mem_map.mpr ⟨p, hmem, heq⟩)

/-- A handler is registered. -/
def register (c : Scene) (h : StanzaHandler) : Scene :=
  { c with
    handlers := c.handlers.orderedInsert (fun a b => b.priority ≤ a.priority) h
    nextHandlerId := c.nextHandlerId + 1 }

theorem Orderly.register (hc : Orderly c) (hid : h.id = c.nextHandlerId) :
    Orderly (c.register h) := by
  obtain ⟨pre, post, hl, hinsert⟩ := orderedInsert_split h c.handlers
  have hperm : (c.register h).handlers.Perm (h :: c.handlers) :=
    List.perm_orderedInsert _ h c.handlers
  have hnew : h.id ∉ c.handlers.map (·.id) := fun hmem => by
    obtain ⟨x, hx, heq⟩ := List.mem_map.mp hmem
    exact Nat.not_lt_of_le (hid.symm.trans heq.symm).le (hc.below x hx)
  have hfilter : c.handlers.filter (·.id ≠ h.id) = (c.register h).handlers.filter (·.id ≠ h.id) := by
    rw [Scene.register, hinsert, hl, List.filter_append, List.filter_append,
      List.filter_cons_of_neg (by simp)]
  have hgrow : ∀ {n}, n < c.nextHandlerId → n < (c.register h).nextHandlerId :=
    fun hn => Nat.lt_succ_of_lt hn
  refine ⟨?_, byPriority_orderedInsert hc.sorted h, fun x hx => ?_, hc.numbers, fun p hp => ?_,
    fun o ho => ?_, hc.inOrder, hc.taken⟩
  · exact ((hperm.map _).nodup_iff).mpr (List.nodup_cons.mpr ⟨hnew, hc.ids⟩)
  · cases List.mem_cons.mp (hperm.mem_iff.mp hx) with
    | inl heq =>
      rw [heq, hid]
      exact Nat.lt_succ_self _
    | inr hmem => exact hgrow (hc.below x hmem)
  · have h' := hc.places p hp
    refine ⟨h'.number, h'.firstNewId.trans (Nat.le_succ _), fun id hlink => hgrow (h'.link id hlink),
      h'.stands.change hfilter fun x _ hx => ⟨hid ▸ h'.firstNewId, fun hlink => ?_,
        fun o ho heq => ?_⟩, h'.last⟩
    · exact Nat.lt_irrefl _ (hid ▸ h'.link _ hlink)
    · obtain ⟨d, hmem, -⟩ := mem_offers.mp ho
      have hlt := (hc.offered _ hmem).2.1
      exact Nat.lt_irrefl _ (hid ▸ heq ▸ hlt)
  · obtain ⟨hn, hlt, haccepts⟩ := hc.offered o ho
    exact ⟨hn, hgrow hlt, haccepts⟩

/-- A handler is unregistered. -/
def unregister (c : Scene) (id : HandlerId) : Scene :=
  { c with handlers := c.handlers.eraseP (·.id = id) }

theorem Orderly.unregister (hc : Orderly c) (id : HandlerId) : Orderly (c.unregister id) := by
  have hfilter : (c.unregister id).handlers = c.handlers.filter (·.id ≠ id) :=
    eraseP_eq_filter hc.ids id
  have hsub : (c.unregister id).handlers.Sublist c.handlers := List.eraseP_sublist
  refine ⟨hc.ids.sublist (hsub.map _), hc.sorted.sublist hsub,
    fun x hx => hc.below x (hsub.subset hx), hc.numbers, fun p hp => ?_, hc.offered, hc.inOrder,
    hc.taken⟩
  have h := hc.places p hp
  refine ⟨h.number, h.firstNewId, h.link, h.stands.change (k := id) ?_ fun x hx heq => ?_, h.last⟩
  · rw [hfilter, List.filter_filter]
    simp only [Bool.and_self]
  · rw [hfilter] at hx
    exact absurd heq (of_decide_eq_true (List.mem_filter.mp hx).2)

end Scene

/-! ## The scene of a state -/

/-- The place of a call of `handle_stanza`. -/
def Frame.place : Frame → Option Place
  | dispatch d link => some ⟨d, link, false⟩
  | dispatched d id => some ⟨d, some id, true⟩
  | _ => none

def Action.offer : Action → Option (Dispatch × StanzaHandler)
  | offered d h => some (d, h)
  | _ => none

def Action.taking : Action → Option (Dispatch × HandlerId)
  | taken d id => some (d, id)
  | _ => none

namespace State

/-- The scene of a state. -/
def scene (s : State) : Scene :=
  ⟨s.stack.filterMap Frame.place, s.log.filterMap Action.offer, s.log.filterMap Action.taking,
    s.handlers, s.nextHandlerId, s.dispatches⟩

/-- The handlers that the call of `handle_stanza` with a number has offered its stanza to. -/
def offers (s : State) (n : ℕ) : List StanzaHandler := s.scene.offers n

variable {g : Addressing.GLib} {j : Jids} {s s' : State}

theorem scene_of_calm (h : Calm s s') : s'.scene = s.scene := by
  have hplaces : s'.stack.filterMap Frame.place = s.stack.filterMap Frame.place :=
    h.filterMap_stack fun f hcalm => by cases f <;> first | rfl | cases hcalm
  have hoffers : s'.log.filterMap Action.offer = s.log.filterMap Action.offer :=
    h.filterMap_log fun a hcalm => by cases a <;> first | rfl | cases hcalm
  have htakings : s'.log.filterMap Action.taking = s.log.filterMap Action.taking :=
    h.filterMap_log fun a hcalm => by cases a <;> first | rfl | cases hcalm
  rw [scene, hplaces, hoffers, htakings, h.handlers, h.nextHandlerId, h.dispatches]
  rfl

theorem orderly_of_calm (h : s.scene.Orderly) (hc : Calm s s') : s'.scene.Orderly :=
  (scene_of_calm hc).symm ▸ h

theorem scene_push {f : Frame} (hf : f.place = none) : (s.push f).scene = s.scene := by
  simp [scene, push, hf]

theorem scene_note {a : Action} (hoffer : a.offer = none) (htaking : a.taking = none) :
    (s.note a).scene = s.scene := by
  simp [scene, note, hoffer, htaking]

theorem scene_pop {f : Frame} (hstack : s.stack = f :: rest) (hf : f.place = none) (taken : Bool) :
    State.scene { s with stack := rest, returned := taken } = s.scene := by
  simp only [scene, hstack, List.filterMap_cons_none hf]

/-- A frame of a call of `handle_stanza` is popped. -/
theorem scene_leave {f : Frame} {p : Place} (hstack : s.stack = f :: rest)
    (hf : f.place = some p) : State.scene { s with stack := rest } = s.scene.leave := by
  simp only [scene, Scene.leave, hstack, List.filterMap_cons_some hf, List.tail_cons]

theorem scene_handleIqReply (reply : Stanza) : (s.handleIqReply g j reply).scene = s.scene := by
  unfold handleIqReply
  split
  · rfl
  split
  · rfl
  split
  · rfl
  split
  · rw [call, scene_push rfl, scene_note rfl rfl, scene_push rfl]
    rfl
  · next h _ _ _ =>
    have hremoved := scene_of_calm (calm_maybeRemove (s := s) h.call)
    exact hremoved

theorem scene_handleStanza (stanza : Stanza) :
    (s.handleStanza g j stanza).scene =
      s.scene.enter (Dispatch.new g j s.dispatches s.nextHandlerId stanza) := by
  simp [scene, Scene.enter, handleStanza, push, beginDispatch, Frame.place, Action.offer,
    Action.taking]

theorem orderly_handleStanza (h : s.scene.Orderly) (stanza : Stanza) :
    (s.handleStanza g j stanza).scene.Orderly := by
  rw [scene_handleStanza]
  exact h.enter rfl rfl

theorem scene_refuse (d : Dispatch) : (s.refuse d).scene = s.scene := by
  have hnote : (s.note (.unhandled d)).scene = s.scene := scene_note rfl rfl
  unfold refuse
  split
  · split
    · exact hnote
    · rw [scene_of_calm (calm_sendAsync _ _ _), hnote]
  · exact hnote

/-- The callback of a handler is called, whatever it does. -/
theorem scene_callHandler {link : Option HandlerId} (hstack : s.stack = .dispatch d link :: rest) :
    (State.callHandler g j { s with stack := rest } d h).scene = s.scene.offer d h := by
  have hoffer : ((State.note { s with stack := rest } (.offered d h)).push
      (.dispatched d h.id)).scene = s.scene.offer d h := by
    simp [scene, Scene.offer, push, note, hstack, Frame.place, Action.offer, Action.taking]
  unfold callHandler
  split
  · rw [scene_handleIqReply, hoffer]
  · rw [scene_of_calm (calm_remoteConnectionClosed _), scene_push rfl, hoffer]
  · rw [scene_push rfl, hoffer]

/-- The call that began last goes on to the next handler. -/
theorem scene_pass {id : HandlerId} {f : Frame} {p : Place}
    (hstack : s.stack = f :: rest) (hf : f.place = some p) :
    (State.push { s with stack := rest }
      (.dispatch d (State.nextLink { s with stack := rest } id))).scene = s.scene.pass d id := by
  simp only [scene, Scene.pass, push, hstack, List.filterMap_cons_some hf, List.tail_cons]
  rfl

/-! ## The order over a run -/

theorem orderly_dispatchRound (h : s.scene.Orderly) {link : Option HandlerId}
    (hstack : s.stack = .dispatch d link :: rest) :
    (State.dispatchRound g j { s with stack := rest } d link).scene.Orderly := by
  have hplaces : s.scene.places = ⟨d, link, false⟩ :: rest.filterMap Frame.place := by
    rw [scene, hstack]
    rfl
  have hleft : (State.scene { s with stack := rest }).Orderly := by
    rw [scene_leave hstack rfl]
    exact h.leave
  unfold dispatchRound
  split
  · rw [scene_refuse]
    exact hleft
  · next id =>
    split
    · exact hleft
    · next hd hfind =>
      have hmem : hd ∈ s.handlers := List.mem_of_find?_eq_some hfind
      have hid : hd.id = id := by simpa using List.find?_some hfind
      subst hid
      split
      · next haccepts =>
        rw [scene_callHandler hstack]
        exact h.offer hplaces hmem haccepts
      · next hdeclined =>
        rw [scene_pass hstack rfl]
        exact h.pass hplaces hmem fun haccepts => absurd haccepts hdeclined

theorem orderly_dispatchedRest (h : s.scene.Orderly) {id : HandlerId}
    (hstack : s.stack = .dispatched d id :: rest) :
    (State.dispatchedRest { s with stack := rest } d id).scene.Orderly := by
  have hplaces : s.scene.places = ⟨d, some id, true⟩ :: rest.filterMap Frame.place := by
    rw [scene, hstack]
    rfl
  unfold dispatchedRest
  split
  · have htake : (State.note { s with stack := rest } (.taken d id)).scene = s.scene.take d id := by
      simp [scene, Scene.take, Scene.leave, note, hstack, Frame.place, Action.offer, Action.taking]
    rw [htake]
    exact h.take hplaces
  · split
    · next hany =>
      obtain ⟨hd, hmem, hid⟩ := List.any_eq_true.mp hany
      have hid : hd.id = id := by simpa using hid
      subst hid
      rw [scene_pass hstack rfl]
      exact h.pass hplaces hmem fun _ => rfl
    · change (State.scene { s with stack := rest }).Orderly
      rw [scene_leave hstack rfl]
      exact h.leave

theorem orderly_flush (h : s.scene.Orderly) {after : AfterFlush} :
    (s.flushUnimportantQueue g j after).scene.Orderly := by
  unfold flushUnimportantQueue
  split
  · next queue _ =>
    refine orderly_handleStanza ?_ _
    rw [scene_push rfl]
    exact h
  · split
    · exact orderly_handleStanza h _
    · exact h

theorem orderly_resume {f : Frame} (h : s.scene.Orderly) (hstack : s.stack = f :: rest) :
    (State.resume g j { s with stack := rest } f).scene.Orderly := by
  have hpop : f.place = none → (State.scene { s with stack := rest }).Orderly := fun hf =>
    (scene_pop hstack hf s.returned).symm ▸ h
  have hcalm : ∀ {s₁ : State}, f.place = none → Calm { s with stack := rest } s₁ →
      s₁.scene.Orderly := fun hf hc => orderly_of_calm (hpop hf) hc
  cases f with
  | user code => exact hpop rfl
  | sendNext => exact hcalm rfl calm_sendNext
  | closeIfWaiting => exact hcalm rfl calm_closeIfWaiting
  | terminate e => exact hcalm rfl (calm_terminateSendingOperations e)
  | iqSentCb c => exact hcalm rfl (calm_maybeRemove c)
  | handleIqReply c =>
    have hremoved : ((State.maybeRemove { s with stack := rest } c).scene).Orderly :=
      hcalm rfl (calm_maybeRemove c)
    exact hremoved
  | handleStreamError => exact hpop rfl
  | dispatch d link => exact orderly_dispatchRound h hstack
  | dispatched d id => exact orderly_dispatchedRest h hstack
  | flush after => exact orderly_flush (hpop rfl)
  | received =>
    change (receivedRest _).scene.Orderly
    unfold receivedRest forceShutdown
    split
    · exact hpop rfl
    split
    · exact hpop rfl
    split <;> exact hpop rfl
  | remoteClosed e => exact hcalm rfl (calm_remoteClosedRest e)
  | stopReceiving => exact hpop rfl
  | closing => exact hcalm rfl calm_closeAsyncRest
  | forceClosing c cancellable =>
    change (forceClosingRest _ c cancellable).scene.Orderly
    unfold forceClosingRest
    split <;> exact hpop rfl
  | forceTerminated c =>
    change (forceTerminatedRest _ c).scene.Orderly
    unfold forceTerminatedRest
    split
    · split <;> exact hpop rfl
    · exact hpop rfl

theorem orderly_returnFrom (h : s.scene.Orderly) {taken : Bool}
    (hstep : s.returnFrom taken = some s') : s'.scene.Orderly := by
  unfold State.returnFrom at hstep
  split at hstep
  · next hstack =>
    cases hstep
    exact (scene_pop hstack rfl taken).symm ▸ h
  · next hstack =>
    cases hstep
    exact (scene_pop hstack rfl s.returned).symm ▸ h
  · cases hstep

theorem orderly_registerHandler (h : s.scene.Orderly) (type : StanzaType) (subType : SubType)
    (sender : Sender) (priority : ℕ) (pattern : Option Node) :
    (s.registerHandler g type subType sender priority pattern).scene.Orderly := by
  have hregister : ∀ senderMatch, (s.registerHandlerInternal type subType senderMatch priority
      pattern .user).scene.Orderly := fun senderMatch =>
    h.register (h := ⟨s.nextHandlerId, type, subType, senderMatch, priority, pattern, .user⟩) rfl
  unfold registerHandler
  split
  · exact hregister _
  · exact hregister _
  · split
    · exact h
    · exact hregister _

theorem scene_sendIqAsync (c : Call) (stanza : Stanza) (id : UriEscape.Bytes)
    (cancellable : Bool) : (s.sendIqAsync g c stanza id cancellable).scene = s.scene := by
  unfold sendIqAsync
  split
  · rfl
  split
  · rfl
  · rw [scene_of_calm (calm_sendAsync _ _ _)]
    exact scene_note (s := s) (a := .asked c id (recipientOf g stanza)) rfl rfl

theorem scene_forceCloseAsync (c : Call) (cancellable : Bool) :
    (s.forceCloseAsync c cancellable).scene = s.scene := by
  rcases calm_forceCloseAsync c cancellable with hcalm | ⟨s₁, hbefore, hafter⟩
  · exact scene_of_calm hcalm
  · rw [scene_of_calm hafter, scene_push rfl, scene_of_calm hbefore]

theorem orderly_api (h : s.scene.Orderly) {e : Event} (hstep : s.api g e = some s') :
    s'.scene.Orderly := by
  have hnext : s.nextCall.scene.Orderly := h
  unfold State.api at hstep
  split at hstep
  · cases hstep
    unfold start
    split <;> exact h
  · cases hstep
    exact orderly_of_calm hnext (calm_sendAsync _ _ _)
  · split at hstep <;> cases hstep
    rw [scene_sendIqAsync]
    exact h
  · cases hstep
    exact orderly_of_calm hnext (calm_sendWhitespacePingAsync _)
  · cases hstep
    exact orderly_of_calm hnext (calm_closeAsync _ _)
  · cases hstep
    rw [scene_forceCloseAsync]
    exact h
  · cases hstep
    exact orderly_registerHandler h _ _ _ _ _
  · cases hstep
    exact h.unregister _
  · cases hstep
    unfold enablePowerSavingMode
    split
    · rw [scene_push rfl]
      exact h
    · exact h
  · exact orderly_of_calm h (calm_sendCancelledCb hstep)
  · exact orderly_of_calm h (calm_sendIqCancelledCb hstep)
  · split at hstep <;> cases hstep
    exact h
  · cases hstep

theorem orderly_stanzaReceivedCb (h : s.scene.Orderly) (r : Except Error Stanza) :
    (s.stanzaReceivedCb g j r).scene.Orderly := by
  unfold State.stanzaReceivedCb
  split
  · split
    · split
      · exact h
      · exact h
    · exact orderly_of_calm h (calm_remoteConnectionClosed _)
  · next stanza =>
    have harrived : ((s.note (.arrived stanza)).push .received).scene.Orderly := by
      rw [scene_push rfl, scene_note rfl rfl]
      exact h
    unfold queueOrHandleStanza
    split
    · split
      · rw [scene_push rfl]
        exact harrived
      · exact harrived
    · exact orderly_handleStanza harrived stanza

theorem orderly_mainLoop (h : s.scene.Orderly) {e : Event} (hstep : s.mainLoop g j e = some s') :
    s'.scene.Orderly := by
  unfold State.mainLoop at hstep
  split at hstep
  · obtain ⟨op, -, rfl⟩ := Option.map_eq_some_iff.mp hstep
    have htaken : (State.scene { s with output := none }).Orderly := h
    exact orderly_of_calm htaken (calm_written op _)
  · next k =>
    obtain ⟨op, -, rfl⟩ := Option.map_eq_some_iff.mp hstep
    have htaken : (State.scene { s with refused := s.refused.eraseIdx k }).Orderly := h
    exact orderly_of_calm htaken (calm_written op _)
  · split at hstep
    · cases hstep
    · cases hstep
      have htaken : (State.scene { s with receives := s.receives - 1 }).Orderly := h
      exact orderly_stanzaReceivedCb htaken _
  · split at hstep
    · cases hstep
    · cases hstep
      unfold connectionForceCloseCb
      split
      · exact h
      · rw [call, scene_push rfl, scene_note rfl rfl]
        exact h
  · next k =>
    obtain ⟨entry, -, rfl⟩ := Option.map_eq_some_iff.mp hstep
    have htaken : (State.scene { s with idle := s.idle.eraseIdx k }).Orderly := h
    refine orderly_of_calm htaken (calm_complete entry.1 fun c => ?_)
    cases entry.2 <;> rfl
  · cases hstep

theorem orderly_step (h : s.scene.Orderly) {e : Event} (hstep : State.step g j s e = some s') :
    s'.scene.Orderly := by
  unfold State.step at hstep
  split at hstep
  · cases hstep
  split at hstep
  · unfold goOn at hstep
    split at hstep
    · cases hstep
    · cases hstep
    · next hstack =>
      cases hstep
      exact orderly_resume h hstack
  · exact orderly_returnFrom h hstep
  · split at hstep
    · next hapi =>
      split at hapi
      · cases hstep
        exact orderly_api h hapi
      · cases hapi
    · split at hstep
      · exact orderly_mainLoop h hstep
      · cases hstep

theorem orderly_new : State.new.scene.Orderly := by
  refine ⟨by decide, by unfold ByPriority; decide, by decide, List.nodup_nil,
    List.forall_mem_nil _, List.forall_mem_nil _, fun n => List.Pairwise.nil,
    List.forall_mem_nil _⟩

/-- **Handlers are asked in order.**  In every run, whatever handlers do while they have a stanza,
each call of `handle_stanza` offers its stanza to handlers that accept it, of decreasing priority
and to none twice, and to no other once a handler has taken it; and when it gives up, it has
offered it to each registered handler that accepts it and that was there when the call began.  The
exception is a handler that unregisters itself and then declines: the call reads freed memory, which
is `Fault.useAfterFree`, and the run ends.  The `guint` that numbers the handlers does not wrap. -/
theorem offers_sorted (es : List Event)
    (hrun : Transition.run (State.step g j) State.new es = some s) :
    (∀ n, (s.offers n).Pairwise fun a b => b.priority ≤ a.priority ∧ a.id ≠ b.id) ∧
      (∀ d h, .offered d h ∈ s.log → h.accepts d = true) ∧
      (∀ d id, .taken d id ∈ s.log → (s.offers d.number).getLast?.map (·.id) = some id) ∧
      ∀ d rest, s.stack = .dispatch d none :: rest →
        ∀ h ∈ s.handlers, h.id < d.firstNewId → h.accepts d = true → h ∈ s.offers d.number := by
  have horderly : s.scene.Orderly :=
    (Transition.reachable_of_run es (Transition.admits_anyEvent es) hrun).invariant
      (I := fun s => s.scene.Orderly) orderly_new fun _ _ _ h _ hstep => orderly_step h hstep
  refine ⟨horderly.inOrder, fun d h hmem => ?_, fun d id hmem => ?_, fun d rest hstack => ?_⟩
  · exact (horderly.offered (d, h) (List.mem_filterMap.mpr ⟨_, hmem, rfl⟩)).2.2
  · exact (horderly.taken (d, id) (List.mem_filterMap.mpr ⟨_, hmem, rfl⟩)).2.2
  · have hplace : (⟨d, none, false⟩ : Place) ∈ s.scene.places :=
      List.mem_filterMap.mpr ⟨.dispatch d none, hstack ▸ List.mem_cons_self, rfl⟩
    exact (horderly.places _ hplace).stands

/-- Two handlers for messages are registered, and a message comes in; the first declines it. -/
def decliningRun (stanza : Stanza) : List Event :=
  [.registerHandler .message .none .anyone 5 none, .registerHandler .message .none .anyone 7 none,
    .start, .received (.ok stanza), .tau, .tau, .tau, .tau, .ret false, .tau, .tau]

/-- The state that this comes to: both have had the message. -/
def declining : State :=
  (Transition.run (State.step Addressing.asciiGLib ⟨[97], [97], [97]⟩) State.new
    (decliningRun (.mk (CText.ascii "message") (some nsJabberClient) none none [] []))).getD State.new

theorem offers_sorted_declining :
    (∀ n, (declining.offers n).Pairwise fun a b => b.priority ≤ a.priority ∧ a.id ≠ b.id) ∧
      (∀ d h, .offered d h ∈ declining.log → h.accepts d = true) ∧
      (∀ d id, .taken d id ∈ declining.log →
        (declining.offers d.number).getLast?.map (·.id) = some id) ∧
      ∀ d rest, declining.stack = .dispatch d none :: rest →
        ∀ h ∈ declining.handlers, h.id < d.firstNewId → h.accepts d = true →
          h ∈ declining.offers d.number :=
  offers_sorted (g := Addressing.asciiGLib) (j := ⟨[97], [97], [97]⟩)
    (decliningRun (.mk (CText.ascii "message") (some nsJabberClient) none none [] [])) rfl

end State

end Porter
