/-
# Falling back to the next method

While a method is left when one fails, a multiple bytestream has exactly one
bytestream to work with.  When the last one has failed it has none, and says
nothing of it; this module has the invariant of the runs in which that does not
happen, and shows that the condition on them is exact.
-/
import Gabble.BytestreamMultiple
import Mathlib.Data.List.Nodup

namespace Multiple

open Base64 (Bytes)
open Ibb (BytestreamState GError)
open Transition

variable {s s' : State}
variable {sub : Sub} {method : String} {rest : List String}

/-! ## The invariant -/

/-- No two bytestreams of one method are held by the factory. -/
def Distinct (subs : List Sub) : Prop :=
  ∀ sub ∈ subs, ∀ sub' ∈ subs, sub.registered = true → sub'.registered = true →
    sub.method = sub'.method → sub.id = sub'.id

/-- Bytestreams are numbered as they are created. -/
def Numbered (subs : List Sub) : Prop := subs.map (·.id) = List.range subs.length

/-- The methods that were offered are the ones that were tried, and then the
ones that are left. -/
def Ordered (s : State) : Prop := s.subs.map (·.method) ++ s.fallbackStreamMethods = s.offered

/-- What holds of a multiple bytestream as long as a method is left when one
fails. -/
structure Inv (s : State) : Prop where
  alive : s.aborted = false
  ordered : Ordered s
  numbered : Numbered s.subs
  distinct : Distinct s.subs
  supported : ∀ method ∈ s.offered, streamMethodSupported method = true
  connected : ∀ sub ∈ s.subs, sub.connected = true ↔ s.activeBytestream = some sub.id
  empty : s.offered = [] → s.activeBytestream = none
  active : s.offered ≠ [] → ∃ sub ∈ s.subs, s.activeBytestream = some sub.id ∧
    (s.state ≠ .closed → sub.registered = true)
  handed : s.phase = .handed → s.offered ≠ []

theorem eq_of_id_eq {subs : List Sub} (h : Numbered subs) {sub sub' : Sub} (hmem : sub ∈ subs)
    (hmem' : sub' ∈ subs) (hid : sub.id = sub'.id) : sub = sub' := by
  have hnodup : (subs.map (·.id)).Nodup := by
    rw [h]
    exact List.nodup_range
  exact List.inj_on_of_nodup_map hnodup hmem hmem' hid

/-- The bytestreams of `s'` are those of `s`, each changed in place. -/
structure Changes (f : Sub → Sub) (s s' : State) : Prop where
  subs : s'.subs = s.subs.map f
  id : ∀ sub, (f sub).id = sub.id
  method : ∀ sub, (f sub).method = sub.method
  active : s'.activeBytestream = s.activeBytestream
  fallback : s'.fallbackStreamMethods = s.fallbackStreamMethods
  offered : s'.offered = s.offered
  phase : s'.phase = s.phase
  aborted : s'.aborted = s.aborted

variable {f : Sub → Sub}

theorem Changes.mem (h : Changes f s s') :
    sub ∈ s'.subs ↔ ∃ old ∈ s.subs, f old = sub := by
  rw [h.subs, List.mem_map]

theorem Changes.ordered (h : Changes f s s') (ho : Ordered s) : Ordered s' := by
  have hmethods : s'.subs.map (·.method) = s.subs.map (·.method) := by
    rw [h.subs, List.map_map]
    exact List.map_congr_left fun sub _ => h.method sub
  rw [Ordered, hmethods, h.fallback, h.offered]
  exact ho

theorem Changes.numbered (h : Changes f s s') (hn : Numbered s.subs) : Numbered s'.subs := by
  have hids : s'.subs.map (·.id) = s.subs.map (·.id) := by
    rw [h.subs, List.map_map]
    exact List.map_congr_left fun sub _ => h.id sub
  rw [Numbered, hids, h.subs, List.length_map]
  exact hn

/-- **Changing bytestreams in place.**  The signals stay connected, the factory
takes nothing in, and it keeps the active bytestream unless all is closed. -/
theorem Changes.inv (h : Changes f s s') (hinv : Inv s)
    (hconnected : ∀ sub ∈ s.subs, (f sub).connected = sub.connected)
    (hregistered : ∀ sub ∈ s.subs, (f sub).registered = true → sub.registered = true)
    (hactive : s'.state ≠ .closed → ∀ sub ∈ s.subs, s.activeBytestream = some sub.id →
      (f sub).registered = true) : Inv s' where
  alive := h.aborted.trans hinv.alive
  ordered := h.ordered hinv.ordered
  numbered := h.numbered hinv.numbered
  distinct := by
    intro sub hmem sub' hmem' hreg hreg' hmethod
    obtain ⟨old, hold, rfl⟩ := h.mem.mp hmem
    obtain ⟨old', hold', rfl⟩ := h.mem.mp hmem'
    rw [h.method, h.method] at hmethod
    rw [h.id, h.id]
    exact hinv.distinct old hold old' hold' (hregistered old hold hreg)
      (hregistered old' hold' hreg') hmethod
  supported := by
    rw [h.offered]
    exact hinv.supported
  connected := by
    intro sub hmem
    obtain ⟨old, hold, rfl⟩ := h.mem.mp hmem
    rw [hconnected old hold, h.id, h.active]
    exact hinv.connected old hold
  empty := by
    rw [h.offered, h.active]
    exact hinv.empty
  active := by
    intro hoffered
    rw [h.offered] at hoffered
    obtain ⟨sub, hmem, hsub, -⟩ := hinv.active hoffered
    refine ⟨f sub, h.mem.mpr ⟨sub, hmem, rfl⟩, ?_, fun hstate => hactive hstate sub hmem hsub⟩
    rw [h.active, h.id]
    exact hsub
  handed := by
    rw [h.phase, h.offered]
    exact hinv.handed

/-- The active bytestream is the one that is connected, and the factory holds it. -/
theorem Inv.registered (h : Inv s) (hstate : s.state ≠ .closed) (hmem : sub ∈ s.subs)
    (hactive : s.activeBytestream = some sub.id) : sub.registered = true := by
  have hoffered : s.offered ≠ [] := by
    intro hempty
    rw [h.empty hempty] at hactive
    cases hactive
  obtain ⟨sub', hmem', hactive', hregistered⟩ := h.active hoffered
  rw [hactive] at hactive'
  rw [eq_of_id_eq h.numbered hmem hmem' (Option.some.inj hactive')]
  exact hregistered hstate

/-- Neither what is called nor whether reading is blocked matters. -/
theorem Inv.of_eq (h : Inv s) (hsubs : s'.subs = s.subs) (hstate : s'.state = s.state)
    (hactive : s'.activeBytestream = s.activeBytestream)
    (hfallback : s'.fallbackStreamMethods = s.fallbackStreamMethods)
    (hoffered : s'.offered = s.offered) (hphase : s'.phase = s.phase)
    (haborted : s'.aborted = s.aborted) : Inv s' := by
  have hchanges : Changes id s s' :=
    ⟨by rw [hsubs, List.map_id], fun _ => rfl, fun _ => rfl, hactive, hfallback, hoffered, hphase,
      haborted⟩
  refine hchanges.inv h (fun _ _ => rfl) (fun _ _ hreg => hreg) ?_
  rw [hstate]
  exact fun hne sub hmem hsub => h.registered hne hmem hsub

theorem inv_emit (effect : Effect) (h : Inv s) : Inv (emit effect s) :=
  h.of_eq rfl rfl rfl rfl rfl rfl rfl

theorem inv_new (incoming : Bool) : Inv (new incoming) where
  alive := rfl
  ordered := rfl
  numbered := rfl
  distinct := fun _ hmem => absurd hmem List.not_mem_nil
  supported := fun _ hmem => absurd hmem List.not_mem_nil
  connected := fun _ hmem => absurd hmem List.not_mem_nil
  empty := fun _ => rfl
  active := fun h => absurd rfl h
  handed := fun h => nomatch h

/-! ## Activating a method -/

/-- A bytestream between two methods: nothing is connected, and the next method
is there. -/
structure Detached (s : State) : Prop where
  alive : s.aborted = false
  ordered : Ordered s
  numbered : Numbered s.subs
  distinct : Distinct s.subs
  supported : ∀ method ∈ s.offered, streamMethodSupported method = true
  connected : ∀ sub ∈ s.subs, sub.connected = false
  active : s.activeBytestream = none

/-- What `bytestream_activate_next` does when a method is left. -/
theorem activateNext_eq (h : Detached s) (hfallback : s.fallbackStreamMethods = method :: rest) :
    activateNext s = emit (.blockReading s.subs.length s.readBlocked)
      (createFromMethod method { s with fallbackStreamMethods := rest }) := by
  have hsupported : streamMethodSupported method = true := by
    refine h.supported method ?_
    rw [← h.ordered, hfallback]
    exact List.mem_append_right _ List.mem_cons_self
  rw [activateNext, if_neg (not_not.mpr h.active), hfallback]
  dsimp only
  rw [if_pos hsupported]

/-- A bytestream that the factory drops when it is of the method. -/
def dropped (method : String) (sub : Sub) : Sub :=
  if sub.method = method then { sub with registered := false } else sub

@[simp] theorem id_dropped (method : String) (sub : Sub) : (dropped method sub).id = sub.id := by
  rw [dropped]
  split <;> rfl

@[simp] theorem method_dropped (method : String) (sub : Sub) :
    (dropped method sub).method = sub.method := by
  rw [dropped]
  split <;> rfl

@[simp] theorem connected_dropped (method : String) (sub : Sub) :
    (dropped method sub).connected = sub.connected := by
  rw [dropped]
  split <;> rfl

theorem registered_dropped :
    (dropped method sub).registered = true ↔ sub.registered = true ∧ sub.method ≠ method := by
  rw [dropped]
  split
  · rename_i hmethod
    exact iff_of_false (fun hno => nomatch hno) fun h => h.2 hmethod
  · rename_i hmethod
    exact (and_iff_left hmethod).symm

theorem changes_unregister (method : String) (s : State) :
    Changes (dropped method) s (unregister method s) :=
  ⟨rfl, id_dropped method, method_dropped method, rfl, rfl, rfl, rfl, rfl⟩

/-- The bytestream that a method is tried with. -/
def fresh (method : String) (s : State) : Sub where
  id := s.subs.length
  method := method
  state := s.state
  readBlocked := s.readBlocked
  connected := true
  registered := true

theorem subs_createFromMethod (method : String) (s : State) :
    (createFromMethod method s).subs = s.subs.map (dropped method) ++ [fresh method s] := by
  change (unregister method s).subs ++ [fresh method (unregister method s)] = _
  rw [fresh, (changes_unregister method s).subs, List.length_map]
  rfl

theorem active_createFromMethod (method : String) (s : State) :
    (createFromMethod method s).activeBytestream = some s.subs.length :=
  congrArg some (List.length_map _)

theorem Numbered.lt {subs : List Sub} (h : Numbered subs) (hmem : sub ∈ subs) :
    sub.id < subs.length := by
  have hrange := List.mem_map_of_mem (f := (·.id)) hmem
  rw [h] at hrange
  exact List.mem_range.mp hrange

theorem Distinct.create {subs : List Sub} (h : Distinct subs) (method : String)
    (hmethod : sub.method = method) : Distinct (subs.map (dropped method) ++ [sub]) := by
  -- no bytestream of the method but the new one is held
  have hother : ∀ old ∈ subs.map (dropped method), old.registered = true → old.method ≠ method := by
    intro old hmem hreg
    obtain ⟨old, -, rfl⟩ := List.mem_map.mp hmem
    rw [method_dropped]
    exact (registered_dropped.mp hreg).2
  intro a ha b hb hareg hbreg hab
  rcases List.mem_append.mp ha with hold | hnew <;> rcases List.mem_append.mp hb with hold' | hnew'
  · obtain ⟨a, hmem, rfl⟩ := List.mem_map.mp hold
    obtain ⟨b, hmem', rfl⟩ := List.mem_map.mp hold'
    rw [method_dropped, method_dropped] at hab
    rw [id_dropped, id_dropped]
    exact h a hmem b hmem' (registered_dropped.mp hareg).1 (registered_dropped.mp hbreg).1 hab
  · rw [List.mem_singleton.mp hnew', hmethod] at hab
    exact absurd hab (hother a hold hareg)
  · rw [List.mem_singleton.mp hnew, hmethod] at hab
    exact absurd hab.symm (hother b hold' hbreg)
  · rw [List.mem_singleton.mp hnew, List.mem_singleton.mp hnew']

/-- **Trying a method.**  The new bytestream is the active one. -/
theorem inv_createFromMethod (h : Detached s)
    (hfallback : s.fallbackStreamMethods = method :: rest) :
    Inv (createFromMethod method { s with fallbackStreamMethods := rest }) := by
  set s' := { s with fallbackStreamMethods := rest } with hs'
  have hsubs : (createFromMethod method s').subs = s.subs.map (dropped method) ++ [fresh method s'] :=
    subs_createFromMethod method s'
  have hactive : (createFromMethod method s').activeBytestream = some s.subs.length :=
    active_createFromMethod method s'
  have hoffered : s.offered ≠ [] := by
    rw [← h.ordered, hfallback]
    simp
  refine ⟨h.alive, ?_, ?_, ?_, h.supported, ?_, fun hempty => absurd hempty hoffered, ?_,
    fun _ => hoffered⟩
  · change (createFromMethod method s').subs.map (·.method) ++ rest = s.offered
    rw [hsubs, List.map_append, List.map_map, ← h.ordered, hfallback, List.append_assoc]
    exact congrArg (· ++ method :: rest) (List.map_congr_left fun sub _ => method_dropped method sub)
  · rw [hsubs, Numbered, List.map_append, List.map_map, List.length_append, List.length_map,
      List.length_singleton, List.range_succ, ← h.numbered]
    exact congrArg (· ++ [s.subs.length]) (List.map_congr_left fun sub _ => id_dropped method sub)
  · rw [hsubs]
    exact h.distinct.create method rfl
  · intro sub hmem
    rw [hactive]
    rw [hsubs] at hmem
    rcases List.mem_append.mp hmem with hold | hnew
    · obtain ⟨old, hmem', rfl⟩ := List.mem_map.mp hold
      rw [connected_dropped, h.connected old hmem', id_dropped]
      refine iff_of_false (fun hno => nomatch hno) fun heq => ?_
      exact absurd (Option.some.inj heq) (Nat.ne_of_gt (h.numbered.lt hmem'))
    · rw [List.mem_singleton.mp hnew]
      exact iff_of_true rfl rfl
  · intro _
    refine ⟨fresh method s', ?_, hactive, fun _ => rfl⟩
    rw [hsubs]
    exact List.mem_append_right _ (List.mem_singleton.mpr rfl)

theorem inv_activateNext (h : Detached s) (hfallback : s.fallbackStreamMethods ≠ []) :
    Inv (activateNext s) := by
  obtain ⟨method, rest, hcons⟩ := List.exists_cons_of_ne_nil hfallback
  rw [activateNext_eq h hcons]
  exact inv_emit _ (inv_createFromMethod h hcons)

/-! ## One step -/

theorem inv_addStreamMethod (h : Inv s)
    (hsupported : streamMethodSupported method = true) : Inv (addStreamMethod method s) := by
  set added := { s with
    offered := s.offered ++ [method]
    fallbackStreamMethods := s.fallbackStreamMethods ++ [method] }
  have hordered : Ordered added := by
    change s.subs.map (·.method) ++ (s.fallbackStreamMethods ++ [method]) = s.offered ++ [method]
    rw [← List.append_assoc, h.ordered]
  have hall : ∀ method ∈ added.offered, streamMethodSupported method = true := by
    intro method' hmem
    rcases List.mem_append.mp hmem with hold | hnew
    · exact h.supported method' hold
    · rw [List.mem_singleton.mp hnew]
      exact hsupported
  by_cases hactive : s.activeBytestream = none
  · have hdetached : Detached added := by
      refine ⟨h.alive, hordered, h.numbered, h.distinct, hall, fun sub hmem => ?_, hactive⟩
      have hiff := h.connected sub hmem
      rw [hactive] at hiff
      exact eq_false_of_ne_true fun hconnected => nomatch hiff.mp hconnected
    rw [addStreamMethod, if_pos hactive]
    exact inv_activateNext hdetached (List.concat_ne_nil method s.fallbackStreamMethods)
  · rw [addStreamMethod, if_neg hactive]
    have hoffered : s.offered ≠ [] := fun hempty => hactive (h.empty hempty)
    exact ⟨h.alive, hordered, h.numbered, h.distinct, hall, h.connected,
      fun hempty => absurd hempty (by simp), fun _ => h.active hoffered,
      fun _ => List.concat_ne_nil method s.offered⟩

theorem changes_updateSub (id : ℕ) {g : Sub → Sub} (s : State) (hid : ∀ sub, (g sub).id = sub.id)
    (hmethod : ∀ sub, (g sub).method = sub.method) :
    Changes (fun sub => if sub.id = id then g sub else sub) s (updateSub id g s) := by
  refine ⟨rfl, fun sub => ?_, fun sub => ?_, rfl, rfl, rfl, rfl, rfl⟩
  · split
    · exact hid sub
    · rfl
  · split
    · exact hmethod sub
    · rfl

/-- What a bytestream does on its own does not connect or register anything. -/
theorem inv_updateSub (id : ℕ) {g : Sub → Sub} (h : Inv s) (hid : ∀ sub, (g sub).id = sub.id)
    (hmethod : ∀ sub, (g sub).method = sub.method)
    (hconnected : ∀ sub, (g sub).connected = sub.connected)
    (hregistered : ∀ sub, (g sub).registered = sub.registered) : Inv (updateSub id g s) := by
  have hsame : ∀ sub : Sub, (if sub.id = id then g sub else sub).registered = sub.registered := by
    intro sub
    split
    · exact hregistered sub
    · rfl
  refine (changes_updateSub id s hid hmethod).inv h (fun sub _ => ?_) (fun sub _ hreg => ?_)
    (fun hstate sub hmem hsub => ?_)
  · split
    · exact hconnected sub
    · rfl
  · rwa [hsame] at hreg
  · rw [hsame]
    exact h.registered hstate hmem hsub

/-- The factory drops a bytestream that is not the active one. -/
theorem inv_unregister (method : String) (h : Inv s)
    (hother : s.state ≠ .closed → ∀ sub ∈ s.subs, s.activeBytestream = some sub.id →
      sub.method ≠ method) : Inv (unregister method s) := by
  refine (changes_unregister method s).inv h (fun sub _ => connected_dropped method sub)
    (fun sub _ hreg => (registered_dropped.mp hreg).1) (fun hstate sub hmem hsub => ?_)
  exact registered_dropped.mpr ⟨h.registered hstate hmem hsub, hother hstate sub hmem hsub⟩

theorem Changes.trans {g : Sub → Sub} {s'' : State} (h : Changes f s s') (h' : Changes g s' s'') :
    Changes (g ∘ f) s s'' where
  subs := by rw [h'.subs, h.subs, List.map_map]
  id sub := (h'.id (f sub)).trans (h.id sub)
  method sub := (h'.method (f sub)).trans (h.method sub)
  active := h'.active.trans h.active
  fallback := h'.fallback.trans h.fallback
  offered := h'.offered.trans h.offered
  phase := h'.phase.trans h.phase
  aborted := h'.aborted.trans h.aborted

theorem changes_setState (state : BytestreamState) (s : State) :
    Changes id s (setState state s) := by
  rw [setState]
  split <;>
    exact ⟨(List.map_id _).symm, fun _ => rfl, fun _ => rfl, rfl, rfl, rfl, rfl, rfl⟩

@[simp] theorem state_setState (state : BytestreamState) (s : State) :
    (setState state s).state = state := by
  rw [setState]
  split
  · assumption
  · rfl

theorem sub_spec {id : ℕ} (h : s.sub id = some sub) :
    sub ∈ s.subs ∧ sub.id = id ∧ sub.registered = true := by
  have hfound := List.find?_some h
  rw [Bool.and_eq_true, decide_eq_true_iff] at hfound
  exact ⟨List.mem_of_find?_eq_some h, hfound.1, hfound.2⟩

theorem Inv.offered_ne_nil (h : Inv s) (hmem : sub ∈ s.subs) : s.offered ≠ [] := by
  intro hempty
  have hordered := h.ordered
  rw [Ordered, hempty, List.append_eq_nil_iff, List.map_eq_nil_iff] at hordered
  rw [hordered.1] at hmem
  cases hmem

/-- A bytestream that nobody listens to is of another method than the active
one. -/
theorem Inv.method_ne (h : Inv s) (hmem : sub ∈ s.subs)
    (hregistered : sub.registered = true) (hconnected : sub.connected = false) :
    s.state ≠ .closed → ∀ sub' ∈ s.subs, s.activeBytestream = some sub'.id →
      sub'.method ≠ sub.method := by
  intro hstate sub' hmem' hactive hmethod
  have hid := h.distinct sub' hmem' sub hmem (h.registered hstate hmem' hactive) hregistered hmethod
  rw [hid] at hactive
  rw [(h.connected sub hmem).mpr hactive] at hconnected
  cases hconnected

theorem inv_subSetState {state : BytestreamState} (h : Inv s) (hmem : sub ∈ s.subs)
    (hregistered : sub.registered = true) : Inv (subSetState sub state s) := by
  rw [subSetState]
  split
  · exact h
  · set u := updateSub sub.id (fun sub => { sub with state := state }) s with hu
    have hupdate : Changes _ s u := changes_updateSub sub.id s (fun _ => rfl) fun _ => rfl
    have hinv : Inv u :=
      inv_updateSub sub.id h (fun _ => rfl) (fun _ => rfl) (fun _ => rfl) fun _ => rfl
    -- the bytestream as it was before stands for the one in `u`
    have hold : ∀ sub' ∈ u.subs, ∃ old ∈ s.subs, old.id = sub'.id ∧ old.method = sub'.method ∧
        old.registered = sub'.registered := by
      intro sub' hmem'
      obtain ⟨old, hold, rfl⟩ := hupdate.mem.mp hmem'
      exact ⟨old, hold, by split <;> rfl, by split <;> rfl, by split <;> rfl⟩
    dsimp only
    by_cases hconnected : sub.connected = true
    · rw [if_pos hconnected]
      have hactive := (h.connected sub hmem).mp hconnected
      by_cases hclosed : state = .closed
      · -- the factory drops it, and the multiple bytestream is CLOSED with it
        rw [if_pos hclosed]
        refine ((changes_unregister sub.method u).trans (changes_setState state _)).inv hinv
          (fun _ _ => connected_dropped _ _) (fun _ _ hreg => (registered_dropped.mp hreg).1) ?_
        exact fun hne => absurd (state_setState state _ |>.trans hclosed) hne
      · rw [if_neg hclosed]
        refine (changes_setState state u).inv hinv (fun _ _ => rfl) (fun _ _ hreg => hreg) ?_
        intro _ sub' hmem' hactive'
        obtain ⟨old, hold', hid, -, hreg⟩ := hold sub' hmem'
        change s.activeBytestream = some sub'.id at hactive'
        rw [hactive, ← hid] at hactive'
        have heq := eq_of_id_eq h.numbered hmem hold' (Option.some.inj hactive')
        change sub'.registered = true
        rw [← hreg, ← heq]
        exact hregistered
    · rw [if_neg hconnected]
      split
      · refine inv_unregister sub.method hinv ?_
        intro hstate sub' hmem' hactive' hmethod
        obtain ⟨old, hold', hid, hmethod', -⟩ := hold sub' hmem'
        refine h.method_ne hmem hregistered (eq_false_of_ne_true hconnected) hstate old hold' ?_
          (hmethod'.trans hmethod)
        rw [hid]
        exact hactive'
      · exact hinv

/-! ## A connection error -/

theorem detached_disconnect (h : Inv s) (hactive : s.activeBytestream = some sub.id) :
    Detached (disconnect sub.id s) := by
  have hchanges : Changes _ s (updateSub sub.id (fun sub => { sub with connected := false }) s) :=
    changes_updateSub sub.id s (fun _ => rfl) fun _ => rfl
  have hold : ∀ sub' ∈ (disconnect sub.id s).subs, ∃ old ∈ s.subs,
      (if old.id = sub.id then { old with connected := false } else old) = sub' ∧
        sub'.id = old.id ∧ sub'.method = old.method ∧ sub'.registered = old.registered := by
    intro sub' hmem'
    obtain ⟨old, hmem, rfl⟩ := hchanges.mem.mp hmem'
    exact ⟨old, hmem, rfl, by split <;> rfl, by split <;> rfl, by split <;> rfl⟩
  refine ⟨h.alive, hchanges.ordered h.ordered, hchanges.numbered h.numbered, ?_, h.supported, ?_,
    rfl⟩
  · intro a ha b hb hareg hbreg hmethod
    obtain ⟨old, hmem, -, hid, hold_method, hreg⟩ := hold a ha
    obtain ⟨old', hmem', -, hid', hold_method', hreg'⟩ := hold b hb
    rw [hid, hid']
    rw [hold_method, hold_method'] at hmethod
    exact h.distinct old hmem old' hmem' (hreg ▸ hareg) (hreg' ▸ hbreg) hmethod
  · intro a ha
    obtain ⟨old, hmem, rfl, -⟩ := hold a ha
    split
    · rfl
    · rename_i hne
      refine eq_false_of_ne_true fun hconnected => hne ?_
      have hid := (h.connected old hmem).mp hconnected
      rw [hactive] at hid
      exact (Option.some.inj hid).symm

/-- Initiating the next bytestream only calls it. -/
theorem initiateNext_cases {id : ℕ} (hactive : s.activeBytestream = some id) :
    initiateNext s = s ∨ initiateNext s = emit (.initiate id) s := by
  rw [initiateNext, hactive]
  split
  · exact .inr rfl
  · exact .inl rfl

/-- **The next method.**  It is tried with a bytestream of its own, which is the
active one then. -/
theorem nextMethod_spec (h : Detached s) (hfallback : s.fallbackStreamMethods = method :: rest) :
    Inv (initiateNext (activateNext s)) ∧
      ∀ sub ∈ (initiateNext (activateNext s)).subs,
        (initiateNext (activateNext s)).activeBytestream = some sub.id → sub.method = method := by
  have hinv : Inv (activateNext s) := inv_activateNext h (by simp [hfallback])
  have heq := activateNext_eq h hfallback
  have hactive : (activateNext s).activeBytestream = some s.subs.length := by
    rw [heq]
    exact active_createFromMethod method { s with fallbackStreamMethods := rest }
  have hsubs : (activateNext s).subs = s.subs.map (dropped method) ++
      [fresh method { s with fallbackStreamMethods := rest }] := by
    rw [heq]
    exact subs_createFromMethod method { s with fallbackStreamMethods := rest }
  have hmethod : ∀ sub ∈ (activateNext s).subs,
      (activateNext s).activeBytestream = some sub.id → sub.method = method := by
    intro sub hmem hsub
    rw [hactive] at hsub
    have hfresh : fresh method { s with fallbackStreamMethods := rest } ∈ (activateNext s).subs := by
      rw [hsubs]
      exact List.mem_append_right _ (List.mem_singleton.mpr rfl)
    rw [eq_of_id_eq hinv.numbered hmem hfresh (Option.some.inj hsub).symm]
    rfl
  rcases initiateNext_cases hactive with hsame | hcalled
  · rw [hsame]
    exact ⟨hinv, hmethod⟩
  · rw [hcalled]
    exact ⟨inv_emit _ hinv, hmethod⟩

/-- The steps that leave the bytestream something to work with: an error of the
bytestream it listens to comes while it is being initiated or accepted, a method
is left, and that is another one if the failed bytestream closes itself. -/
def Within (s : State) : Event → Prop
  | .connectionError id closes => ∀ sub ∈ s.sub id, sub.connected = true →
      (s.state = .initiating ∨ s.state = .accepted) ∧ s.fallbackStreamMethods ≠ [] ∧
        (closes = true → s.fallbackStreamMethods.head? ≠ some sub.method)
  | _ => True

instance (s : State) (e : Event) : Decidable (Within s e) :=
  match e with
  | .connectionError id closes =>
    inferInstanceAs (Decidable (∀ sub ∈ s.sub id, sub.connected = true →
      (s.state = .initiating ∨ s.state = .accepted) ∧ s.fallbackStreamMethods ≠ [] ∧
        (closes = true → s.fallbackStreamMethods.head? ≠ some sub.method)))
  | .addStreamMethod _ => .isTrue trivial
  | .handOver _ => .isTrue trivial
  | .accept _ => .isTrue trivial
  | .send _ => .isTrue trivial
  | .close _ => .isTrue trivial
  | .blockReading _ => .isTrue trivial
  | .subState _ _ => .isTrue trivial
  | .dataReceived _ _ => .isTrue trivial
  | .writeBlocked _ _ => .isTrue trivial

/-- A bytestream that sets itself `CLOSED` while nobody listens. -/
theorem inv_closeItself (sub : Sub) (h : Inv s)
    (hother : s.state ≠ .closed → ∀ sub' ∈ s.subs, s.activeBytestream = some sub'.id →
      sub'.method ≠ sub.method) :
    Inv (unregister sub.method (updateSub sub.id (fun sub => { sub with state := .closed }) s)) := by
  have hupdate : Changes _ s (updateSub sub.id (fun sub => { sub with state := .closed }) s) :=
    changes_updateSub sub.id s (fun _ => rfl) fun _ => rfl
  refine inv_unregister sub.method
    (inv_updateSub sub.id h (fun _ => rfl) (fun _ => rfl) (fun _ => rfl) fun _ => rfl) ?_
  intro hstate sub' hmem' hactive'
  obtain ⟨old, hmem, rfl⟩ := hupdate.mem.mp hmem'
  rw [hupdate.id old] at hactive'
  rw [hupdate.method old]
  exact hother hstate old hmem hactive'

theorem inv_connectionError {closes : Bool} (h : Inv s) (hmem : sub ∈ s.subs)
    (hregistered : sub.registered = true)
    (hwithin : sub.connected = true →
      (s.state = .initiating ∨ s.state = .accepted) ∧ s.fallbackStreamMethods ≠ [] ∧
        (closes = true → s.fallbackStreamMethods.head? ≠ some sub.method)) :
    Inv (connectionError sub closes s) := by
  rw [connectionError]
  by_cases hconnected : sub.connected = true
  · obtain ⟨hstate, hfallback, hnext⟩ := hwithin hconnected
    have hactive := (h.connected sub hmem).mp hconnected
    obtain ⟨method, rest, hcons⟩ := List.exists_cons_of_ne_nil hfallback
    have hdetached := detached_disconnect h hactive
    obtain ⟨hinv, hmethod⟩ := nextMethod_spec (s := disconnect sub.id s) hdetached hcons
    have hcallback : connectionErrorCb sub.id s =
        initiateNext (activateNext (disconnect sub.id s)) := by
      rw [connectionErrorCb, if_neg (not_not.mpr hactive), if_neg (by tauto)]
      dsimp only
      rw [if_neg (show (disconnect sub.id s).fallbackStreamMethods ≠ [] from hfallback)]
    rw [if_pos hconnected, hcallback]
    split
    · rename_i hcloses
      refine inv_closeItself sub hinv fun _ sub' hmem' hactive' heq => ?_
      have hne := hnext hcloses
      rw [hcons, List.head?_cons, ← hmethod sub' hmem' hactive', heq] at hne
      exact hne rfl
    · exact hinv
  · rw [if_neg hconnected]
    split
    · exact inv_closeItself sub h
        (h.method_ne hmem hregistered (eq_false_of_ne_true hconnected))
    · exact h

theorem state_nextMethod (h : Detached s) (hfallback : s.fallbackStreamMethods = method :: rest) :
    (initiateNext (activateNext s)).state = s.state ∧
      (initiateNext (activateNext s)).offered = s.offered := by
  have heq := activateNext_eq h hfallback
  have hactive : (activateNext s).activeBytestream = some s.subs.length := by
    rw [heq]
    exact active_createFromMethod method { s with fallbackStreamMethods := rest }
  have hkept : (activateNext s).state = s.state ∧ (activateNext s).offered = s.offered := by
    rw [heq]
    exact ⟨rfl, rfl⟩
  rcases initiateNext_cases hactive with hsame | hcalled
  · rw [hsame]
    exact hkept
  · rw [hcalled]
    exact hkept

/-- What a bytestream that closes itself leaves alone. -/
theorem closesItself_spec (sub : Sub) (closes : Bool) (s : State) :
    let s' := if closes = true then
        unregister sub.method (updateSub sub.id (fun sub => { sub with state := .closed }) s)
      else s
    s'.aborted = s.aborted ∧ s'.offered = s.offered ∧ s'.activeBytestream = s.activeBytestream := by
  cases closes <;> exact ⟨rfl, rfl, rfl⟩

/-- An error that is not one of those leaves nothing to work with. -/
theorem not_inv_connectionError {closes : Bool} (h : Inv s) (hmem : sub ∈ s.subs)
    (hconnected : sub.connected = true)
    (hbeyond : ¬ ((s.state = .initiating ∨ s.state = .accepted) ∧ s.fallbackStreamMethods ≠ [] ∧
      (closes = true → s.fallbackStreamMethods.head? ≠ some sub.method))) :
    ¬ Inv (connectionError sub closes s) := by
  have hactive := (h.connected sub hmem).mp hconnected
  have hoffered := h.offered_ne_nil hmem
  intro hafter
  rw [connectionError, if_pos hconnected] at hafter
  by_cases hstate : s.state = .initiating ∨ s.state = .accepted
  · by_cases hfallback : s.fallbackStreamMethods = []
    · -- the last method: nothing is active, and the state is not CLOSED
      have hcallback : connectionErrorCb sub.id s = disconnect sub.id s := by
        rw [connectionErrorCb, if_neg (not_not.mpr hactive), if_neg (by tauto)]
        exact if_pos hfallback
      rw [hcallback] at hafter
      obtain ⟨-, hoff, hact⟩ := closesItself_spec sub closes (disconnect sub.id s)
      obtain ⟨sub', -, hsub', -⟩ := hafter.active (by rw [hoff]; exact hoffered)
      rw [hact] at hsub'
      cases hsub'
    · -- the failed bytestream takes the new one of its method along
      obtain ⟨method, rest, hcons⟩ := List.exists_cons_of_ne_nil hfallback
      obtain ⟨hcloses, hhead⟩ : closes = true ∧ s.fallbackStreamMethods.head? = some sub.method := by
        tauto
      rw [hcons, List.head?_cons, Option.some.injEq] at hhead
      have hdetached := detached_disconnect h hactive
      obtain ⟨hnext, hmethod⟩ := nextMethod_spec (s := disconnect sub.id s) hdetached hcons
      obtain ⟨hkept, hkept'⟩ := state_nextMethod (s := disconnect sub.id s) hdetached hcons
      have hcallback : connectionErrorCb sub.id s =
          initiateNext (activateNext (disconnect sub.id s)) := by
        rw [connectionErrorCb, if_neg (not_not.mpr hactive), if_neg (by tauto)]
        dsimp only
        rw [if_neg (show (disconnect sub.id s).fallbackStreamMethods ≠ [] from hfallback)]
      set next := initiateNext (activateNext (disconnect sub.id s))
      rw [hcallback, if_pos hcloses] at hafter
      have hupdate : Changes _ next
          (updateSub sub.id (fun sub => { sub with state := .closed }) next) :=
        changes_updateSub sub.id next (fun _ => rfl) fun _ => rfl
      have hdrop := changes_unregister sub.method
        (updateSub sub.id (fun sub => { sub with state := .closed }) next)
      have hne : next.offered ≠ [] := by
        rw [hkept']
        exact hoffered
      obtain ⟨sub', hmem', hsub', hregistered⟩ := hafter.active hne
      obtain ⟨old, hold, rfl⟩ := hdrop.mem.mp hmem'
      obtain ⟨older, holder, rfl⟩ := hupdate.mem.mp hold
      have hstate' : next.state ≠ .closed := by
        rw [hkept]
        change s.state ≠ .closed
        rcases hstate with hstate | hstate <;> rw [hstate] <;> exact fun hno => nomatch hno
      have hother := (registered_dropped.mp (hregistered hstate')).2
      rw [hdrop.id, hupdate.id] at hsub'
      rw [hupdate.method, hmethod older holder hsub', hhead] at hother
      exact hother rfl
  · have hcallback : connectionErrorCb sub.id s = abort s := by
      rw [connectionErrorCb, if_neg (not_not.mpr hactive), if_pos (by tauto)]
    rw [hcallback] at hafter
    have halive := hafter.alive
    rw [(closesItself_spec sub closes (abort s)).1] at halive
    cases halive

/-! ## Runs -/

theorem inv_send (str : Bytes) (h : Inv s) (hhanded : s.phase = .handed) : Inv (send str s) := by
  rw [send]
  split
  · exact h
  · obtain ⟨sub, -, hactive, -⟩ := h.active (h.handed hhanded)
    rw [hactive]
    exact inv_emit _ h

theorem inv_accept (sent : Bool) (h : Inv s) : Inv (accept sent s) := by
  rw [accept]
  split
  · exact h
  · rename_i hpending
    split
    · exact h
    · rename_i sub hfind
      have hfound := List.find?_some hfind
      have hactive := of_decide_eq_true hfound
      have hmem := List.mem_of_find?_eq_some hfind
      have hne : s.state ≠ .closed := by
        rw [not_not.mp hpending]
        exact fun hno => nomatch hno
      dsimp only
      split
      · exact inv_subSetState (inv_emit _ h) hmem (h.registered hne hmem hactive)
      · exact inv_emit _ h

theorem inv_close (error : Option GError) (h : Inv s) : Inv (close error s) := by
  rw [close]
  split
  · exact h
  · rcases s.activeBytestream with _ | id
    · have hchanges := changes_setState .closed s
      exact hchanges.inv h (fun _ _ => rfl) (fun _ _ hreg => hreg)
        fun hne => absurd (state_setState .closed s) hne
    · exact inv_emit _ h

theorem inv_blockReading (block : Bool) (h : Inv s) (hhanded : s.phase = .handed) :
    Inv (blockReading block s) := by
  rw [blockReading]
  split
  · exact h
  · obtain ⟨sub, -, hactive, -⟩ := h.active (h.handed hhanded)
    have hblocked : Inv { s with readBlocked := block } := h.of_eq rfl rfl rfl rfl rfl rfl rfl
    dsimp only
    split
    · rename_i hnone
      rw [hactive] at hnone
      cases hnone
    · exact inv_emit _ (inv_updateSub _ hblocked (fun _ => rfl) (fun _ => rfl) (fun _ => rfl)
        fun _ => rfl)

theorem inv_handOver (ok : Bool) (h : Inv s) : Inv (handOver ok s) := by
  have hphase : ∀ {t : State} (phase : Phase), Inv t → (phase = .handed → t.offered ≠ []) →
      Inv { t with phase := phase } := fun phase ht hhanded =>
    ⟨ht.alive, ht.ordered, ht.numbered, ht.distinct, ht.supported, ht.connected, ht.empty,
      ht.active, hhanded⟩
  rw [handOver]
  split
  · have hinitiate : Inv (initiate s) ∧ (initiate s).offered = s.offered := by
      rw [initiate]
      split
      · exact ⟨h, rfl⟩
      · split
        · exact ⟨h, rfl⟩
        · exact ⟨inv_emit _ h, rfl⟩
    split
    · rename_i hactive
      refine hphase .handed hinitiate.1 fun _ => ?_
      rw [hinitiate.2]
      exact fun hempty => hactive.1 (h.empty hempty)
    · exact hphase .refused hinitiate.1 fun hno => nomatch hno
  · split
    · rename_i hhas
      refine hphase .handed h fun _ hempty => ?_
      have hfallback : s.fallbackStreamMethods = [] := by
        have hordered := h.ordered
        rw [Ordered, hempty, List.append_eq_nil_iff] at hordered
        exact hordered.2
      rw [hasStreamMethod, h.empty hempty, hfallback] at hhas
      cases hhas
    · exact hphase .refused (inv_close none h) fun hno => nomatch hno

/-- **One step.**  The invariant is kept exactly by the steps that leave
something to work with. -/
theorem inv_step_iff {e : Event} (h : Inv s) (hstep : step s e = some s') :
    Inv s' ↔ Within s e := by
  cases e with
  | addStreamMethod method =>
    obtain ⟨hguard, hstep⟩ := Option.ite_none_right_eq_some.mp hstep
    cases hstep
    exact iff_of_true (inv_addStreamMethod h hguard.2) trivial
  | handOver ok =>
    obtain ⟨-, hstep⟩ := Option.ite_none_right_eq_some.mp hstep
    cases hstep
    exact iff_of_true (inv_handOver ok h) trivial
  | accept sent =>
    obtain ⟨-, hstep⟩ := Option.ite_none_right_eq_some.mp hstep
    cases hstep
    exact iff_of_true (inv_accept sent h) trivial
  | send str =>
    obtain ⟨hhanded, hstep⟩ := Option.ite_none_right_eq_some.mp hstep
    cases hstep
    exact iff_of_true (inv_send str h hhanded) trivial
  | close error =>
    obtain ⟨-, hstep⟩ := Option.ite_none_right_eq_some.mp hstep
    cases hstep
    exact iff_of_true (inv_close error h) trivial
  | blockReading block =>
    obtain ⟨hhanded, hstep⟩ := Option.ite_none_right_eq_some.mp hstep
    cases hstep
    exact iff_of_true (inv_blockReading block h hhanded) trivial
  | subState id state =>
    obtain ⟨sub, hsub, rfl⟩ := Option.map_eq_some_iff.mp hstep
    obtain ⟨hmem, -, hregistered⟩ := sub_spec hsub
    exact iff_of_true (inv_subSetState h hmem hregistered) trivial
  | connectionError id closes =>
    obtain ⟨sub, hsub, rfl⟩ := Option.map_eq_some_iff.mp hstep
    obtain ⟨hmem, -, hregistered⟩ := sub_spec hsub
    constructor
    · intro hafter sub' hsub' hconnected
      rw [Option.mem_def, hsub] at hsub'
      cases hsub'
      by_contra hbeyond
      exact not_inv_connectionError h hmem hconnected hbeyond hafter
    · exact fun hwithin => inv_connectionError h hmem hregistered (hwithin sub hsub)
  | dataReceived id str =>
    obtain ⟨sub, -, rfl⟩ := Option.map_eq_some_iff.mp hstep
    refine iff_of_true ?_ trivial
    split
    · exact inv_emit _ h
    · exact h
  | writeBlocked id blocked =>
    obtain ⟨sub, -, rfl⟩ := Option.map_eq_some_iff.mp hstep
    refine iff_of_true ?_ trivial
    split
    · exact inv_emit _ h
    · exact h

/-- What an owner relies on. -/
structure Sound (s : State) : Prop where
  /-- No assertion has failed. -/
  alive : s.aborted = false
  /-- Methods are tried in the order in which they were offered, each once. -/
  ordered : s.subs.map (·.method) ++ s.fallbackStreamMethods = s.offered
  /-- One bytestream is listened to at most. -/
  single : ∀ sub ∈ s.subs, ∀ sub' ∈ s.subs, sub.connected = true → sub'.connected = true →
    sub = sub'
  /-- When every method has failed, the bytestream is `CLOSED`. -/
  exhausted : s.offered ≠ [] → s.fallbackStreamMethods = [] →
    (∀ sub ∈ s.subs, sub.connected = false) → s.state = .closed
  /-- Until it is told, the owner has a bytestream to call. -/
  callable : s.phase = .handed → s.state ≠ .closed →
    ∃ sub ∈ s.subs, s.activeBytestream = some sub.id ∧ sub.registered = true

theorem Inv.sound (h : Inv s) : Sound s where
  alive := h.alive
  ordered := h.ordered
  single := by
    intro sub hmem sub' hmem' hconnected hconnected'
    have hactive := (h.connected sub hmem).mp hconnected
    rw [(h.connected sub' hmem').mp hconnected'] at hactive
    exact eq_of_id_eq h.numbered hmem hmem' (Option.some.inj hactive).symm
  exhausted := by
    intro hoffered _ hnone
    obtain ⟨sub, hmem, hactive, -⟩ := h.active hoffered
    have hconnected := (h.connected sub hmem).mpr hactive
    rw [hnone sub hmem] at hconnected
    cases hconnected
  callable := by
    intro hhanded hstate
    obtain ⟨sub, hmem, hactive, hregistered⟩ := h.active (h.handed hhanded)
    exact ⟨sub, hmem, hactive, hregistered hstate⟩

/-- **Falling back.**  In a run in which a connection error always leaves
another method to try, the bytestream is sound in every state. -/
theorem sound_of_within (incoming : Bool) (h : Reachable step Within (new incoming) s) :
    Sound s := by
  have hinv : Inv s := h.invariant (inv_new incoming) fun _ _ _ h hwithin hstep =>
    (inv_step_iff h hstep).mpr hwithin
  exact hinv.sound

/-- The target cannot be reached with SOCKS5, and IBB takes its place. -/
def socks5ThenIbb : List Event :=
  [.addStreamMethod nsBytestreams, .addStreamMethod nsIbb, .handOver true, .blockReading true,
    .connectionError 0 true, .subState 1 .opened, .send [1, 2]]

theorem sound_of_within_socks5ThenIbb :
    ∃ s, run step (new false) socks5ThenIbb = some s ∧ s.state = .opened ∧
      s.activeBytestream = some 1 ∧ Sound s := by
  have hrun : ((run step (new false) socks5ThenIbb).any fun s =>
      decide (s.state = .opened ∧ s.activeBytestream = some 1)) = true := by decide +kernel
  obtain ⟨s, hs, hfacts⟩ := (Option.any_eq_true _ _).mp hrun
  obtain ⟨hstate, hactive⟩ := of_decide_eq_true hfacts
  have hwithin : Admits Within step (new false) socks5ThenIbb := by decide +kernel
  exact ⟨s, hs, hstate, hactive, sound_of_within false (reachable_of_run socks5ThenIbb hwithin hs)⟩

/-- The only method fails: the bytestream stays `INITIATING` with nothing
behind it, and blocking it fails an assertion. -/
theorem last_method_failed :
    ∃ s, run step (new false)
        [.addStreamMethod nsBytestreams, .handOver true, .connectionError 0 true] = some s ∧
      s.state = .initiating ∧ s.phase = .handed ∧ s.activeBytestream = none ∧
      (blockReading true s).aborted = true ∧ ¬ Sound s := by
  have hrun : ((run step (new false)
      [.addStreamMethod nsBytestreams, .handOver true, .connectionError 0 true]).any fun s =>
      decide (s.state = .initiating ∧ s.phase = .handed ∧ s.activeBytestream = none ∧
        (blockReading true s).aborted = true)) = true := by decide +kernel
  obtain ⟨s, hs, hfacts⟩ := (Option.any_eq_true _ _).mp hrun
  obtain ⟨hstate, hhanded, hactive, hblocked⟩ := of_decide_eq_true hfacts
  refine ⟨s, hs, hstate, hhanded, hactive, hblocked, fun hsound => ?_⟩
  obtain ⟨sub, -, hsome, -⟩ := hsound.callable hhanded (by rw [hstate]; exact fun hno => nomatch hno)
  rw [hactive] at hsome
  cases hsome

end Multiple
