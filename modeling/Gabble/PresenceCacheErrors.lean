/-
# The presence cache: errors

A waiter leaves the pending table when a reply serves everybody, when it answers
itself, or when an error comes and nobody is left to ask.  The first two ways
announce that the capabilities of the contact are known now.  The last one throws
the whole list away, without a word and also for contacts that are about to
answer.  The module proves that this is the only way in which a waiter is lost.
-/
import Gabble.PresenceCacheWaiters

namespace PresenceCache

open Transition

variable {capsHash : Query → Option String} {s s' : State}
variable {handle : Handle}

/-! ## Who waits -/

/-- Whoever waits in the first state waits for the same URI in the second. -/
def KeepsWaiters (s s' : State) : Prop :=
  ∀ uri, (s.discoPending uri).map key ⊆ (s'.discoPending uri).map key

theorem capsPending_iff :
    capsPending s handle ↔ ∃ uri, ∃ k ∈ (s.discoPending uri).map key, k.1 = handle := by
  refine exists_congr fun uri => ⟨?_, ?_⟩
  · rintro ⟨w, hw, hhandle⟩
    exact ⟨key w, List.mem_map_of_mem hw, hhandle⟩
  · rintro ⟨k, hk, hhandle⟩
    obtain ⟨w, hw, rfl⟩ := List.mem_map.mp hk
    exact ⟨w, hw, hhandle⟩

theorem KeepsWaiters.setWaiters (h : KeepsWaiters s s') {uri : String} {ws : List Waiter}
    (hws : (s.discoPending uri).map key ⊆ ws.map key) :
    KeepsWaiters s (setWaiters s' uri ws) :=
  (Function.forall_update_iff s'.discoPending fun u (ws : List Waiter) =>
    (s.discoPending u).map key ⊆ ws.map key).mpr ⟨hws, fun u _ => h u⟩

theorem KeepsWaiters.capsPending (h : KeepsWaiters s s')
    (hpending : capsPending s handle) : capsPending s' handle := by
  obtain ⟨uri, k, hk, hhandle⟩ := capsPending_iff.mp hpending
  exact capsPending_iff.mpr ⟨uri, k, h uri hk, hhandle⟩

/-- Answers are replies and errors. -/
def isAnswer : Event → Bool
  | .reply .. | .error .. => true
  | _ => false

/-- Without an answer nobody stops waiting. -/
theorem keepsWaiters_of_step {e : Event} (he : isAnswer e = false)
    (hstep : step capsHash s e = some s') : KeepsWaiters s s' := by
  refine step_invariant (I := KeepsWaiters s) (fun _ e => isAnswer e = false)
    (fun t t' hq ht uri => ?_) (fun t _ _ _ _ ht => ht)
    (fun t uri handle resource hash ver serial _ ht => ?_)
    (fun _ _ _ hok => by cases hok) (fun _ _ hok => by cases hok)
    (fun t ver capSet dataForms _ ht => ?_) (fun t uri ht => ht)
    (fun t jid ht => ht) s e s' (fun _ => List.Subset.refl _) he hstep
  · rw [hq.discoPending]
    exact ht uri
  · rcases awaitUri_cases t uri handle resource hash ver serial with
      ⟨w, -, heq⟩ | ⟨-, heq | ⟨-, heq⟩⟩
    · rw [heq]
      apply ht.setWaiters
      rw [map_setSerial (fun _ _ => rfl)]
      exact ht uri
    · rw [heq]
      exact ht.setWaiters (List.subset_cons_of_subset _ (ht uri))
    · rw [heq]
      exact ht.setWaiters (List.subset_cons_of_subset _ (ht uri))
  · rw [addOwnCaps]
    split
    · exact ht
    · exact ht

/-- After an error the waiters are those there were, or they are all gone. -/
theorem discoFailed_cases (s : State) (uri : String) :
    ((∃ w ∈ s.discoPending uri, w.discoRequested = false) ∧
      KeepsWaiters s (discoFailed s uri)) ∨
    ((∀ w ∈ s.discoPending uri, w.discoRequested = true) ∧
      discoFailed s uri = setWaiters s uri []) := by
  rw [discoFailed]
  split
  · next w ws' hfirst =>
    have hasks := asks_of_askFirst hfirst
    refine .inl ⟨⟨w, hasks.of_mem_asked List.mem_cons_self⟩, ?_⟩
    refine KeepsWaiters.setWaiters (fun _ => List.Subset.refl _) ?_
    rw [hasks.keys]
    exact List.Subset.refl _
  · next hnone => exact .inr ⟨asked_of_askFirst_none hnone, rfl⟩

/-- The waiter that answered leaves, and no other. -/
theorem keys_dropWaiter (s : State) (uri : String) (self : Waiter) (trust : ℕ) (u : String)
    {k : Handle × Option String} (hk : k ∈ (s.discoPending u).map key) :
    k ∈ ((dropWaiter s uri self trust).discoPending u).map key ∨ k = key self := by
  by_cases hself : k = key self
  · exact .inr hself
  · refine .inl ?_
    revert u
    refine (Function.forall_update_iff _ fun u (ws : List Waiter) =>
      k ∈ (s.discoPending u).map key → k ∈ ws.map key).mpr ⟨fun hk => ?_, fun u _ hk => hk⟩
    obtain ⟨ws', heq, hasks⟩ := asks_of_askEnough trust []
      ((s.discoPending uri).eraseP (isMatching self.handle self.resource))
    obtain ⟨w, hw, rfl⟩ := List.mem_map.mp hk
    rw [heq, List.nil_append, hasks.keys]
    refine List.mem_map_of_mem ((List.mem_eraseP_of_neg fun hmatch => hself ?_).mpr hw)
    obtain ⟨hhandle, hresource⟩ := of_decide_eq_true hmatch
    exact Prod.ext hhandle hresource

/-! ## Where somebody waits -/

theorem awaitUri_waits {uri u : String} {resource hash ver : Option String}
    {serial : ℕ} (h : (awaitUri s uri handle resource hash ver serial).discoPending u ≠ []) :
    s.discoPending u ≠ [] ∨ u = uri := by
  by_cases hu : u = uri
  · exact .inr hu
  · refine .inl ?_
    have hother : ∀ ws : List Waiter, (setWaiters s uri ws).discoPending u = s.discoPending u :=
      fun ws => Function.update_of_ne hu _ _
    rcases awaitUri_cases s uri handle resource hash ver serial with
      ⟨w, -, heq⟩ | ⟨-, heq | ⟨-, heq⟩⟩
    all_goals
      rw [heq] at h
      exact fun hnil => h ((hother _).trans hnil)

theorem discoFailed_waits {uri u : String} (h : (discoFailed s uri).discoPending u ≠ []) :
    s.discoPending u ≠ [] := by
  intro hnil
  apply h
  rw [discoFailed]
  split
  · next w ws' hfirst =>
    by_cases hu : u = uri
    · subst hu
      rw [hnil] at hfirst
      cases hfirst
    · exact (Function.update_of_ne hu _ _).trans hnil
  · by_cases hu : u = uri
    · subst hu
      exact Function.update_self _ _ _
    · exact (Function.update_of_ne hu _ _).trans hnil

theorem dropWaiter_waits {uri u : String} {self : Waiter} {trust : ℕ}
    (h : (dropWaiter s uri self trust).discoPending u ≠ []) : s.discoPending u ≠ [] := by
  intro hnil
  apply h
  by_cases hu : u = uri
  · subst hu
    rw [dropWaiter, hnil]
    exact Function.update_self _ _ _
  · exact (Function.update_of_ne hu _ _).trans hnil

/-- Only waiters, requests, signals and presences changed. -/
structure SameStore (s s' : State) : Prop where
  capabilities : s'.capabilities = s.capabilities
  capsCache : s'.capsCache = s.capsCache
  reports : s'.reports = s.reports
  settings : s'.settings = s.settings

theorem sameStore_awaitUri (s : State) (uri : String) (handle : Handle)
    (resource hash ver : Option String) (serial : ℕ) :
    SameStore s (awaitUri s uri handle resource hash ver serial) := by
  rcases awaitUri_cases s uri handle resource hash ver serial with
    ⟨w, -, heq⟩ | ⟨-, heq | ⟨-, heq⟩⟩
  all_goals
    rw [heq]
    exact ⟨rfl, rfl, rfl, rfl⟩

theorem sameStore_discoFailed (s : State) (uri : String) : SameStore s (discoFailed s uri) := by
  rw [discoFailed]
  split
  · exact ⟨rfl, rfl, rfl, rfl⟩
  · exact ⟨rfl, rfl, rfl, rfl⟩

theorem sameStore_dropWaiter (s : State) (uri : String) (self : Waiter) (trust : ℕ) :
    SameStore s (dropWaiter s uri self trust) := ⟨rfl, rfl, rfl, rfl⟩

theorem sameStore_answered (s : State) (req : Answer) : SameStore s (answered s req) :=
  ⟨rfl, rfl, rfl, rfl⟩

theorem Quiet.sameStore (h : Quiet s s') : SameStore s s' :=
  ⟨h.capabilities, h.capsCache, h.reports, h.settings⟩

/-! ## The signal -/

/-- The signals emitted between two states. -/
def emitted (s s' : State) : List Signal := s'.signals.drop s.signals.length

/-- Serving a list of waiters announces each of them. -/
theorem serve_emits (uri : String) (capSet : CapabilitySet) (clientTypes : ℕ)
    (dataForms : List DataForm) (responder : Handle) (n : ℕ) (ws : List Waiter) (t : State)
    (hn : n ≤ t.signals.length) :
    t.signals <+: (ws.foldl (fun s w =>
        emit (setCapsFor s uri w capSet clientTypes dataForms responder)
          (.capabilitiesDiscovered w.handle)) t).signals ∧
      ∀ w ∈ ws, Signal.capabilitiesDiscovered w.handle ∈ (ws.foldl (fun s w =>
        emit (setCapsFor s uri w capSet clientTypes dataForms responder)
          (.capabilitiesDiscovered w.handle)) t).signals.drop n := by
  induction ws generalizing t with
  | nil => exact ⟨List.prefix_refl _, fun w hw => by cases hw⟩
  | cons w ws ih =>
    have hset : t.signals <+: (setCapsFor t uri w capSet clientTypes dataForms
        responder).signals := by
      refine setCapsFor_invariant (I := fun t' => t.signals <+: t'.signals)
        (fun t₁ t₂ hq ht => ht.trans hq.signals) id (List.prefix_refl _)
    have hone := hset.trans (List.prefix_append _ [.capabilitiesDiscovered w.handle])
    obtain ⟨hgrows, hrest⟩ := ih (emit (setCapsFor t uri w capSet clientTypes dataForms
      responder) (.capabilitiesDiscovered w.handle)) (hn.trans hone.length_le)
    refine ⟨hone.trans hgrows, fun x hx => ?_⟩
    rcases List.mem_cons.mp hx with rfl | hx
    · refine (hgrows.drop n).subset ?_
      rw [emit, List.drop_append_of_le_length (hn.trans hset.length_le)]
      exact List.mem_append_right _ List.mem_cons_self
    · exact hrest x hx

theorem serveWaiters_emits {uri : String} {q : Query} {clientTypes : ℕ} {responder : Handle}
    {w : Waiter} (hw : w ∈ s.discoPending uri) :
    Signal.capabilitiesDiscovered w.handle ∈
      emitted s (serveWaiters s uri q clientTypes responder) :=
  (serve_emits uri q.capSet clientTypes q.dataForms responder _ _ (taken s uri q) le_rfl).2 w hw

theorem dropWaiter_emits {uri : String} {self : Waiter} {trust n : ℕ}
    (hn : n ≤ s.signals.length) :
    Signal.capabilitiesDiscovered self.handle ∈
      (dropWaiter s uri self trust).signals.drop n := by
  rw [dropWaiter, send, setWaiters, emit, List.drop_append_of_le_length hn]
  exact List.mem_append_right _ List.mem_cons_self

/-- **A reply announces.**  If a contact stops waiting because of a reply, that is
announced. -/
theorem capsDiscoReply_emits (req : Answer) (q : Query) (hbefore : capsPending s handle)
    (hafter : ¬ capsPending (capsDiscoReply capsHash s req q) handle) :
    Signal.capabilitiesDiscovered handle ∈ emitted s (capsDiscoReply capsHash s req q) := by
  obtain ⟨uri, k, hk, rfl⟩ := capsPending_iff.mp hbefore
  have hdrop : ∀ (t : State) (self : Waiter) (trust : ℕ), t.discoPending = s.discoPending →
      s.signals <+: t.signals →
      ¬ capsPending (dropWaiter t req.uri self trust) k.1 →
      Signal.capabilitiesDiscovered k.1 ∈ emitted s (dropWaiter t req.uri self trust) := by
    intro t self trust hpending hsignals hgone
    rw [← hpending] at hk
    rcases keys_dropWaiter t req.uri self trust uri hk with hstays | rfl
    · exact absurd (capsPending_iff.mpr ⟨uri, k, hstays, rfl⟩) hgone
    · exact dropWaiter_emits hsignals.length_le
  rcases capsDiscoReply_cases capsHash s req q with
    ⟨-, heq⟩ | ⟨self, -, ⟨-, heq⟩ | ⟨trustInc, -, ⟨-, heq⟩ | ⟨-, heq⟩⟩⟩
  · rw [heq] at hafter
    exact absurd hbefore hafter
  · rw [heq] at hafter ⊢
    exact hdrop s self 0 rfl (List.prefix_refl _) hafter
  · rw [heq] at hafter ⊢
    by_cases huri : uri = req.uri
    · subst huri
      obtain ⟨w, hw, rfl⟩ := List.mem_map.mp hk
      exact serveWaiters_emits (s := reported s req self q trustInc) hw
    · have hpending : (serveWaiters (reported s req self q trustInc) req.uri q
          (q.clientTypes self.resource) req.handle).discoPending =
          Function.update s.discoPending req.uri [] :=
        serveWaiters_invariant
          (I := fun t => t.discoPending = Function.update s.discoPending req.uri [])
          (fun t t' hq ht => hq.discoPending.trans ht) (fun t w _ ht => ht) rfl
      refine absurd (capsPending_iff.mpr ⟨uri, k, ?_, rfl⟩) hafter
      rwa [hpending, Function.update_of_ne huri]
  · rw [heq] at hafter ⊢
    refine hdrop _ self _ (setCapsFor_discoPending ..) ?_ hafter
    exact setCapsFor_invariant (I := fun t => s.signals <+: t.signals)
      (fun t t' hq ht => ht.trans hq.signals) id (List.prefix_refl _)

/-- A contact that stops waiting is announced in that step. -/
def Announces (capsHash : Query → Option String) (s : State) (e : Event) : Prop :=
  ∀ s', step capsHash s e = some s' → ∀ handle, capsPending s handle →
    ¬ capsPending s' handle → Signal.capabilitiesDiscovered handle ∈ emitted s s'

/-- When an error comes and everybody who waits for the URI was asked, all of them
wait for something else too. -/
def WaitsElsewhere (s : State) : Event → Prop
  | .error req => Answers s req →
      (∀ w ∈ s.discoPending req.uri, w.discoRequested = true) →
      ∀ w ∈ s.discoPending req.uri, ∃ uri, uri ≠ req.uri ∧
        ∃ w' ∈ s.discoPending uri, w'.handle = w.handle
  | _ => True

/-- What an error does to somebody who waits, if the list is thrown away. -/
theorem capsPending_clear {uri : String} :
    capsPending (setWaiters s uri []) handle ↔
      ∃ u, u ≠ uri ∧ ∃ w ∈ s.discoPending u, w.handle = handle := by
  refine exists_congr fun u => ?_
  by_cases hu : u = uri
  · subst hu
    simp [setWaiters]
  · simp [setWaiters, hu]

theorem announces_error_iff (req : Answer) :
    Announces capsHash s (.error req) ↔ WaitsElsewhere s (.error req) := by
  have hstep : ∀ s', step capsHash s (.error req) = some s' ↔
      Answers s req ∧ discoFailed (answered s req) req.uri = s' := by
    intro s'
    rw [step, Option.ite_none_right_eq_some, Option.some_inj]
  constructor
  · intro h hreq hall w hw
    by_contra hnone
    -- the list is thrown away, and no signal is emitted
    have heq : discoFailed (answered s req) req.uri =
        setWaiters (answered s req) req.uri [] := by
      rcases discoFailed_cases (answered s req) req.uri with ⟨⟨x, hx, hunasked⟩, -⟩ | ⟨-, heq⟩
      · rw [hall x hx] at hunasked
        cases hunasked
      · exact heq
    have hmem := h _ ((hstep _).mpr ⟨hreq, heq⟩) w.handle ⟨req.uri, w, hw, rfl⟩
      (fun hpending => hnone (capsPending_clear.mp hpending))
    have hnil : emitted s (setWaiters (answered s req) req.uri []) = [] := List.drop_length
    rw [hnil] at hmem
    cases hmem
  · intro h s' hs' handle hbefore hafter
    obtain ⟨hreq, rfl⟩ := (hstep s').mp hs'
    rcases discoFailed_cases (answered s req) req.uri with ⟨-, hkeeps⟩ | ⟨hall, heq⟩
    · exact absurd (hkeeps.capsPending hbefore) hafter
    · refine absurd ?_ hafter
      rw [heq]
      obtain ⟨uri, w, hw, rfl⟩ := hbefore
      by_cases huri : uri = req.uri
      · subst huri
        exact capsPending_clear.mpr (h hreq hall w hw)
      · exact capsPending_clear.mpr ⟨uri, huri, w, hw, rfl⟩

theorem announces_iff (e : Event) : Announces capsHash s e ↔ WaitsElsewhere s e := by
  cases e with
  | error req => exact announces_error_iff req
  | reply req q =>
    refine iff_of_true (fun s' hs' handle hbefore hafter => ?_) trivial
    obtain ⟨-, heq⟩ := Option.ite_none_right_eq_some.mp hs'
    cases heq
    exact capsDiscoReply_emits (s := answered s req) req q hbefore hafter
  | presence | unavailable | addOwnCaps | cacheLost | roomMember =>
    refine iff_of_true (fun s' hs' handle hbefore hafter => ?_) trivial
    exact absurd ((keepsWaiters_of_step rfl hs').capsPending hbefore) hafter

/-- **Announcements.**  Every contact that stops waiting in a run is announced, if
and only if no error comes while everybody who waits for its URI was asked and one
of them waits for nothing else. -/
theorem capabilities_discovered_iff (capsHash : Query → Option String) (s : State)
    (es : List Event) :
    Admits (Announces capsHash) (step capsHash) s es ↔
      Admits WaitsElsewhere (step capsHash) s es :=
  admits_congr (fun _ e => announces_iff e) es

/-- A contact answers with an error; it does not wait any more and nothing is
announced. -/
theorem error_not_announced :
    ∃ s s', run (step emptyHash) (State.new "me" fun _ => none) [available "b" none "v"] = some s ∧
      step emptyHash s (.error ⟨"n#v", "b", some "r"⟩) = some s' ∧
      capsPending s "b" ∧ ¬ capsPending s' "b" ∧
      Signal.capabilitiesDiscovered "b" ∉ emitted s s' := by
  refine ⟨_, _, rfl, rfl, ⟨"n#v", ?_⟩, ?_, by decide +kernel⟩
  · decide +kernel
  · rintro ⟨uri, w, hw, -⟩
    by_cases huri : uri = "n#v"
    · subst huri
      exact List.not_mem_nil hw
    · have hother : ∀ (f : String → List Waiter) (ws ws' : List Waiter),
          w ∈ Function.update (Function.update f "n#v" ws) "n#v" ws' uri → w ∈ f uri := by
        intro f ws ws' hw
        rwa [Function.update_of_ne huri, Function.update_of_ne huri] at hw
      exact List.not_mem_nil (hother (fun _ => []) _ _ hw)

/-! ## Replies to requests under way -/

/-- The settings made between two states. -/
def settled (s s' : State) : List Setting := s'.settings.drop s.settings.length

/-- The capabilities of a reply, as they are set for a waiter. -/
def settingFor (uri : String) (q : Query) (clientTypes : ℕ) (responder : Handle) (w : Waiter) :
    Setting :=
  ⟨w.handle, w.resource, uri, q.capSet, q.dataForms, clientTypes, some responder⟩

theorem setCapsFor_settings (uri : String) (w : Waiter) (q : Query) (clientTypes : ℕ)
    (responder : Handle) :
    s.settings <+: (setCapsFor s uri w q.capSet clientTypes q.dataForms responder).settings ∧
      (s.presence w.handle ≠ none →
        (setCapsFor s uri w q.capSet clientTypes q.dataForms responder).settings =
          s.settings ++ [settingFor uri q clientTypes responder w]) := by
  rcases setCapsFor_cases s uri w q.capSet clientTypes q.dataForms responder with
    ⟨hnone, heq⟩ | ⟨-, hq⟩
  · rw [heq]
    exact ⟨List.prefix_refl _, fun h => absurd hnone h⟩
  · rw [hq.settings]
    exact ⟨List.prefix_append _ _, fun _ => rfl⟩

theorem emitCapabilitiesUpdate_presence (s : State) (handle : Handle) (old new : CapabilitySet) :
    (emitCapabilitiesUpdate s handle old new).presence = s.presence := by
  rw [emitCapabilitiesUpdate]
  split
  · rfl
  · rfl

theorem emitClientTypesUpdated_presence (s : State) (handle : Handle) (changed : Bool) :
    (emitClientTypesUpdated s handle changed).presence = s.presence := by
  rw [emitClientTypesUpdated]
  split
  · rfl
  · rfl

theorem setCapsFor_presence (uri : String) (w : Waiter) (q : Query)
    (clientTypes : ℕ) (responder : Handle) (h : s.presence handle ≠ none) :
    (setCapsFor s uri w q.capSet clientTypes q.dataForms responder).presence handle ≠ none := by
  rw [setCapsFor]
  split
  · exact h
  · dsimp only
    rw [emitClientTypesUpdated_presence, emitCapabilitiesUpdate_presence, setPresence]
    dsimp only
    rw [Function.update_apply]
    split
    · exact Option.some_ne_none _
    · exact h

/-- Everybody who is served and whose presence is known gets the capabilities. -/
theorem serve_settles (uri : String) (q : Query) (clientTypes : ℕ) (responder : Handle) (n : ℕ)
    (ws : List Waiter) (t : State) (hn : n ≤ t.settings.length) :
    t.settings <+: (ws.foldl (fun s w =>
        emit (setCapsFor s uri w q.capSet clientTypes q.dataForms responder)
          (.capabilitiesDiscovered w.handle)) t).settings ∧
      ∀ w ∈ ws, t.presence w.handle ≠ none →
        settingFor uri q clientTypes responder w ∈ (ws.foldl (fun s w =>
          emit (setCapsFor s uri w q.capSet clientTypes q.dataForms responder)
            (.capabilitiesDiscovered w.handle)) t).settings.drop n := by
  induction ws generalizing t with
  | nil => exact ⟨List.prefix_refl _, fun w hw => by cases hw⟩
  | cons w ws ih =>
    obtain ⟨hone, hset⟩ := setCapsFor_settings (s := t) uri w q clientTypes responder
    obtain ⟨hgrows, hrest⟩ := ih (emit (setCapsFor t uri w q.capSet clientTypes q.dataForms
      responder) (.capabilitiesDiscovered w.handle)) (hn.trans hone.length_le)
    refine ⟨hone.trans hgrows, fun x hx hpresence => ?_⟩
    rcases List.mem_cons.mp hx with rfl | hx
    · refine (hgrows.drop n).subset ?_
      show _ ∈ List.drop n (setCapsFor t uri x q.capSet clientTypes q.dataForms
        responder).settings
      rw [hset hpresence, List.drop_append_of_le_length hn]
      exact List.mem_append_right _ List.mem_cons_self
    · exact hrest x hx (setCapsFor_presence uri w q clientTypes responder hpresence)

/-- **A valid reply of somebody who waits is used.** -/
theorem capsDiscoReply_settles {req : Answer} {q : Query} {w : Waiter}
    (hw : findMatchingWaiter (s.discoPending req.uri) req.handle req.resource = some w)
    (hvalid : trustOf capsHash w q ≠ none) (hpresence : s.presence req.handle ≠ none) :
    settingFor req.uri q (q.clientTypes w.resource) req.handle w ∈
      settled s (capsDiscoReply capsHash s req q) := by
  obtain ⟨hmem, hhandle, -⟩ := findMatchingWaiter_some hw
  rw [← hhandle] at hpresence
  rcases capsDiscoReply_cases capsHash s req q with
    ⟨hnone, -⟩ | ⟨self, hself, hcases⟩
  · rw [hw] at hnone
    cases hnone
  · rw [hw] at hself
    cases hself
    rcases hcases with ⟨hbad, -⟩ | ⟨trustInc, -, ⟨-, heq⟩ | ⟨-, heq⟩⟩
    · exact absurd hbad hvalid
    · rw [heq]
      exact (serve_settles req.uri q _ req.handle _ _
        (taken (reported s req w q trustInc) req.uri q) le_rfl).2 w hmem hpresence
    · rw [heq]
      show _ ∈ List.drop _ (setCapsFor (reported s req w q trustInc) req.uri w q.capSet
        (q.clientTypes w.resource) q.dataForms req.handle).settings
      rw [(setCapsFor_settings (s := reported s req w q trustInc) req.uri w q _ req.handle).2
        hpresence]
      show _ ∈ List.drop s.settings.length (s.settings ++ [_])
      rw [List.drop_left]
      exact List.mem_cons_self

/-- An error of one contact leaves every other contact that may still answer on
the list; and who is on the list and sends a valid reply gets its capabilities. -/
def SparesOthers (capsHash : Query → Option String) (s : State) (e : Event) : Prop :=
  ∀ s', step capsHash s e = some s' →
    match e with
    | .error req => ∀ w ∈ s.discoPending req.uri, w.handle ≠ req.handle →
        requestTo req.uri w ∈ s.requests.erase req.request →
        key w ∈ (s'.discoPending req.uri).map key
    | .reply req q => ∀ w,
        findMatchingWaiter (s.discoPending req.uri) req.handle req.resource = some w →
        trustOf capsHash w q ≠ none → s.presence req.handle ≠ none →
        settingFor req.uri q (q.clientTypes w.resource) req.handle w ∈ settled s s'
    | _ => True

/-- When an error comes and everybody who waits for the URI was asked, no other
contact among them may still answer. -/
def NobodyElseAsked (s : State) : Event → Prop
  | .error req => Answers s req →
      (∀ w ∈ s.discoPending req.uri, w.discoRequested = true) →
      ∀ w ∈ s.discoPending req.uri, w.handle ≠ req.handle →
        requestTo req.uri w ∉ s.requests.erase req.request
  | _ => True

theorem sparesOthers_error_iff (req : Answer) :
    SparesOthers capsHash s (.error req) ↔ NobodyElseAsked s (.error req) := by
  constructor
  · intro h hreq hall w hw hother hrequest
    have hkey := h _ (if_pos hreq) w hw hother hrequest
    rcases discoFailed_cases (answered s req) req.uri with ⟨⟨x, hx, hunasked⟩, -⟩ | ⟨-, heq⟩
    · rw [hall x hx] at hunasked
      cases hunasked
    · rw [heq, setWaiters] at hkey
      simp at hkey
  · intro h s' hs' w hw hother hrequest
    obtain ⟨hreq, heq⟩ := Option.ite_none_right_eq_some.mp hs'
    cases heq
    rcases discoFailed_cases (answered s req) req.uri with ⟨-, hkeeps⟩ | ⟨hall, -⟩
    · exact hkeeps req.uri (List.mem_map_of_mem hw)
    · exact absurd hrequest (h hreq hall w hw hother)

theorem sparesOthers_iff (e : Event) : SparesOthers capsHash s e ↔ NobodyElseAsked s e := by
  cases e with
  | error req => exact sparesOthers_error_iff req
  | reply req q =>
    refine iff_of_true (fun s' hs' w hw hvalid hpresence => ?_) trivial
    obtain ⟨-, heq⟩ := Option.ite_none_right_eq_some.mp hs'
    cases heq
    exact capsDiscoReply_settles (s := answered s req) hw hvalid hpresence
  | presence | unavailable | addOwnCaps | cacheLost | roomMember =>
    exact iff_of_true (fun _ _ => trivial) trivial

/-- **Errors and the requests of others.**  Every error in a run spares the other
contacts that may still answer, whose valid replies are then used, if and only if
no error comes while everybody who waits for its URI was asked and the request of
another of them is under way. -/
theorem error_spares_others_iff (capsHash : Query → Option String) (s : State)
    (es : List Event) :
    Admits (SparesOthers capsHash) (step capsHash) s es ↔
      Admits NobodyElseAsked (step capsHash) s es :=
  admits_congr (fun _ e => sparesOthers_iff e) es

/-- Two contacts are asked; the first answers with an error, and the valid reply of
the second is ignored. -/
theorem reply_ignored_after_error :
    ∃ s s' s'', run (step emptyHash) (State.new "me" fun _ => none)
        [available "b" none "v", available "c" none "v"] = some s ∧
      step emptyHash s (.error ⟨"n#v", "b", some "r"⟩) = some s' ∧
      step emptyHash s' (.reply ⟨"n#v", "c", some "r"⟩ ⟨["feature"], [], []⟩) = some s'' ∧
      (("c", some "r") : Handle × Option String) ∈ (s.discoPending "n#v").map key ∧
      (⟨"n#v", ⟨"c", some "r"⟩⟩ : Request) ∈ s.requests ∧
      (("c", some "r") : Handle × Option String) ∉ (s'.discoPending "n#v").map key ∧
      s''.settings = [] :=
  ⟨_, _, _, rfl, rfl, rfl, by decide +kernel, by decide +kernel, by decide +kernel, rfl⟩

end PresenceCache
