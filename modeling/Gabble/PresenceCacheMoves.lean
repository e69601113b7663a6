/-
# The presence cache: what an event does

Presence stanzas change presences, serials and signals in many places, and most
properties of the cache do not look at those.  The module says once which parts
of the state each function leaves alone, and turns that into one rule: a property
that survives each kind of real change survives every event.
-/
import Gabble.PresenceCache

namespace PresenceCache

open CInt (guintSize)
open Transition

variable {capsHash : Query → Option String} {s s' s'' : State}
variable {handle : Handle}

/-! ## Quiet changes -/

/-- Between the two states only presences, the next serial and signals changed. -/
structure Quiet (s s' : State) : Prop where
  selfHandle : s'.selfHandle = s.selfHandle
  members : s'.members = s.members
  capabilities : s'.capabilities = s.capabilities
  discoPending : s'.discoPending = s.discoPending
  capsCache : s'.capsCache = s.capsCache
  requests : s'.requests = s.requests
  reports : s'.reports = s.reports
  settings : s'.settings = s.settings
  signals : s.signals <+: s'.signals

namespace Quiet

theorem refl (s : State) : Quiet s s := ⟨rfl, rfl, rfl, rfl, rfl, rfl, rfl, rfl, List.prefix_refl _⟩

theorem trans (h : Quiet s s') (h' : Quiet s' s'') : Quiet s s'' where
  selfHandle := h'.selfHandle.trans h.selfHandle
  members := h'.members.trans h.members
  capabilities := h'.capabilities.trans h.capabilities
  discoPending := h'.discoPending.trans h.discoPending
  capsCache := h'.capsCache.trans h.capsCache
  requests := h'.requests.trans h.requests
  reports := h'.reports.trans h.reports
  settings := h'.settings.trans h.settings
  signals := h.signals.trans h'.signals

end Quiet

section

variable (s)

theorem quiet_emit (signal : Signal) : Quiet s (emit s signal) :=
  ⟨rfl, rfl, rfl, rfl, rfl, rfl, rfl, rfl, List.prefix_append _ _⟩

theorem quiet_setPresence (handle : Handle) (p : Option Presence) :
    Quiet s (setPresence s handle p) :=
  ⟨rfl, rfl, rfl, rfl, rfl, rfl, rfl, rfl, List.prefix_refl _⟩

theorem quiet_capsSerial (n : ℕ) : Quiet s { s with capsSerial := n } :=
  ⟨rfl, rfl, rfl, rfl, rfl, rfl, rfl, rfl, List.prefix_refl _⟩

theorem quiet_emitCapabilitiesUpdate (handle : Handle) (old new : CapabilitySet) :
    Quiet s (emitCapabilitiesUpdate s handle old new) := by
  rw [emitCapabilitiesUpdate]
  split
  · exact .refl s
  · exact quiet_emit s _

theorem quiet_emitClientTypesUpdated (handle : Handle) (changed : Bool) :
    Quiet s (emitClientTypesUpdated s handle changed) := by
  rw [emitClientTypesUpdated]
  split
  · exact quiet_emit s _
  · exact .refl s

theorem quiet_setCapabilities (handle : Handle) (resource : Option String)
    (capSet : CapabilitySet) (serial : ℕ) :
    Quiet s (setCapabilities s handle resource capSet serial) := by
  rw [setCapabilities]
  split
  · exact .refl s
  · exact quiet_setPresence s handle _

theorem quiet_parseNode (handle : Handle) (resource : Option String) (c : CapsNode)
    (serial : ℕ) : Quiet s (parseNode s handle resource c serial) := by
  rw [parseNode]
  split
  · exact .refl s
  · exact quiet_setCapabilities s handle resource _ serial

theorem quiet_maybeRemove (handle : Handle) : Quiet s (maybeRemove s handle) := by
  rw [maybeRemove]
  split
  · exact .refl s
  · split
    · exact quiet_setPresence s handle none
    · exact .refl s

theorem quiet_update (handle : Handle) (resource : Option String) (status : PresenceId)
    (statusMessage : Option String) (priority now : ℤ) :
    Quiet s (update s handle resource status statusMessage priority now) := by
  rw [update]
  refine .trans ?_ (quiet_maybeRemove _ handle)
  refine .trans ?_ (quiet_emitClientTypesUpdated _ handle _)
  split
  · refine .trans ?_ (quiet_emit _ _)
    exact (quiet_setPresence s handle _).trans (quiet_emitCapabilitiesUpdate _ handle _ _)
  · exact (quiet_setPresence s handle _).trans (quiet_emitCapabilitiesUpdate _ handle _ _)

end

/-! ## Capabilities of a contact -/

@[simp] theorem setPresence_self (s : State) (handle : Handle) (p : Option Presence) :
    (setPresence s handle p).presence handle = p := Function.update_self _ _ _

theorem setPresence_of_ne (s : State) {handle handle' : Handle} (h : handle' ≠ handle)
    (p : Option Presence) : (setPresence s handle p).presence handle' = s.presence handle' :=
  Function.update_of_ne h _ _

/-- `set_caps_for` records what it sets, and nothing for an unknown contact. -/
theorem setCapsFor_cases (s : State) (uri : String) (w : Waiter) (capSet : CapabilitySet)
    (clientTypes : ℕ) (dataForms : List DataForm) (responder : Handle) :
    (s.presence w.handle = none ∧
      setCapsFor s uri w capSet clientTypes dataForms responder = s) ∨
    (s.presence w.handle ≠ none ∧
      Quiet (record s
          ⟨w.handle, w.resource, uri, capSet, dataForms, clientTypes, some responder⟩)
        (setCapsFor s uri w capSet clientTypes dataForms responder)) := by
  rw [setCapsFor]
  split
  · next h => exact .inl ⟨h, rfl⟩
  · next p h =>
    refine .inr ⟨by simp [h], ?_⟩
    refine .trans ?_ (quiet_emitClientTypesUpdated _ w.handle _)
    exact (quiet_setPresence _ w.handle _).trans (quiet_emitCapabilitiesUpdate _ w.handle _ _)

/-- What is stored for a URI, as it is set for a resource. -/
def storedSetting (s : State) (uri : String) (handle : Handle) (resource : Option String) :
    Setting :=
  let info := s.capabilities uri
  let cached := s.capsCache uri
  ⟨handle, resource, uri, cached.elim (info.capSet.getD ∅) Query.capSet, info.dataForms,
    cached.elim info.clientTypes fun q => q.clientTypes resource, none⟩

theorem applyStored_cases (s : State) (uri : String) (handle : Handle) (resource : Option String)
    (serial : ℕ) :
    applyStored s uri handle resource serial = s ∨
      Quiet (record s (storedSetting s uri handle resource))
        (applyStored s uri handle resource serial) := by
  rw [applyStored]
  split
  · exact .inl rfl
  · refine .inr (.trans ?_ (quiet_emitClientTypesUpdated _ handle _))
    exact quiet_setPresence _ handle _

/-! ## Replies -/

variable {I : State → Prop}

/-- What survives quiet changes and the record of a setting survives
`set_caps_for`. -/
theorem setCapsFor_invariant (hquiet : ∀ s s', Quiet s s' → I s → I s') {uri : String}
    {w : Waiter} {capSet : CapabilitySet} {clientTypes : ℕ} {dataForms : List DataForm}
    {responder : Handle}
    (hrecord : I s → I (record s
      ⟨w.handle, w.resource, uri, capSet, dataForms, clientTypes, some responder⟩))
    (h : I s) : I (setCapsFor s uri w capSet clientTypes dataForms responder) := by
  rcases setCapsFor_cases s uri w capSet clientTypes dataForms responder with ⟨-, heq⟩ | ⟨-, hq⟩
  · rw [heq]
    exact h
  · exact hquiet _ _ hq (hrecord h)

section Frame

variable (s : State) (uri : String) (w : Waiter) (capSet : CapabilitySet) (clientTypes : ℕ)
  (dataForms : List DataForm) (responder : Handle)

@[simp] theorem setCapsFor_discoPending :
    (setCapsFor s uri w capSet clientTypes dataForms responder).discoPending =
      s.discoPending :=
  setCapsFor_invariant (I := fun t => t.discoPending = s.discoPending)
    (fun _ _ hq ht => hq.discoPending.trans ht) id rfl

@[simp] theorem setCapsFor_requests :
    (setCapsFor s uri w capSet clientTypes dataForms responder).requests = s.requests :=
  setCapsFor_invariant (I := fun t => t.requests = s.requests)
    (fun _ _ hq ht => hq.requests.trans ht) id rfl

end Frame

/-- The state in which the waiters of a URI are served. -/
def taken (s : State) (uri : String) (q : Query) : State :=
  { setWaiters s uri [] with capsCache := cacheInsert s.capsCache uri q }

@[simp] theorem taken_discoPending (s : State) (uri : String) (q : Query) :
    (taken s uri q).discoPending uri = [] := Function.update_self _ _ _

/-- What the shared cache has afterwards it had before, or it is the new reply. -/
theorem cacheInsert_some {cache : String → Option Query} {uri u : String} {q p : Query}
    (h : cacheInsert cache uri q u = some p) : cache u = some p ∨ u = uri ∧ p = q := by
  rw [cacheInsert] at h
  by_cases hu : u = uri
  · subst hu
    rw [Function.update_self] at h
    cases hold : cache u with
    | some p' =>
      rw [hold] at h
      exact .inl h
    | none =>
      rw [hold] at h
      cases h
      exact .inr ⟨rfl, rfl⟩
  · rw [Function.update_of_ne hu] at h
    exact .inl h

theorem serveWaiters_invariant (hquiet : ∀ s s', Quiet s s' → I s → I s') {uri : String}
    {q : Query} {clientTypes : ℕ} {responder : Handle}
    (hrecord : ∀ t, ∀ w ∈ s.discoPending uri, I t → I (record t
      ⟨w.handle, w.resource, uri, q.capSet, q.dataForms, clientTypes, some responder⟩))
    (h : I (taken s uri q)) : I (serveWaiters s uri q clientTypes responder) := by
  refine List.foldlRecOn (s.discoPending uri) _ h fun t ht w hw => ?_
  refine hquiet _ _ (quiet_emit _ _) ?_
  exact setCapsFor_invariant hquiet (hrecord t w hw) ht

/-- What the store knows after a reply was taken into account. -/
def newInfo (s : State) (req : Answer) (self : Waiter) (q : Query) (trustInc : ℕ) :
    CapabilityInfo :=
  capabilityInfoRecvd (s.capabilities req.uri) req.handle q.capSet trustInc
    (q.clientTypes self.resource) q.dataForms

def newReport (req : Answer) (self : Waiter) (q : Query) : Report :=
  ⟨req.uri, req.handle, q, q.clientTypes self.resource, self.hash, self.ver⟩

/-- The state after a reply was taken into account. -/
def reported (s : State) (req : Answer) (self : Waiter) (q : Query) (trustInc : ℕ) : State :=
  report (setInfo s req.uri (newInfo s req self q trustInc)) (newReport req self q)

/-- **What a reply does.**  Nobody waits for it; or its hash is bad; or it is
trusted; or it is not trusted yet. -/
theorem capsDiscoReply_cases (capsHash : Query → Option String) (s : State) (req : Answer)
    (q : Query) :
    (findMatchingWaiter (s.discoPending req.uri) req.handle req.resource = none ∧
      capsDiscoReply capsHash s req q = s) ∨
    ∃ self, findMatchingWaiter (s.discoPending req.uri) req.handle req.resource = some self ∧
      ((trustOf capsHash self q = none ∧
          capsDiscoReply capsHash s req q = dropWaiter s req.uri self 0) ∨
        ∃ trustInc, trustOf capsHash self q = some trustInc ∧
          ((newInfo s req self q trustInc).trust ≥ enoughTrust ∧
              capsDiscoReply capsHash s req q =
                serveWaiters (reported s req self q trustInc) req.uri q
                  (q.clientTypes self.resource) req.handle ∨
            (newInfo s req self q trustInc).trust < enoughTrust ∧
              capsDiscoReply capsHash s req q =
                dropWaiter (setCapsFor (reported s req self q trustInc) req.uri self q.capSet
                  (q.clientTypes self.resource) q.dataForms req.handle) req.uri self
                  (newInfo s req self q trustInc).trust)) := by
  cases hself : findMatchingWaiter (s.discoPending req.uri) req.handle req.resource with
  | none =>
    refine .inl ⟨rfl, ?_⟩
    rw [capsDiscoReply, hself]
  | some self =>
    refine .inr ⟨self, rfl, ?_⟩
    cases htrust : trustOf capsHash self q with
    | none =>
      refine .inl ⟨rfl, ?_⟩
      simp only [capsDiscoReply, hself, htrust]
    | some trustInc =>
      refine .inr ⟨trustInc, rfl, ?_⟩
      by_cases henough : (newInfo s req self q trustInc).trust ≥ enoughTrust
      · refine .inl ⟨henough, ?_⟩
        simp only [capsDiscoReply, hself, htrust]
        exact if_pos henough
      · refine .inr ⟨Nat.lt_of_not_ge henough, ?_⟩
        simp only [capsDiscoReply, hself, htrust]
        exact if_neg henough

/-- The waiter that answers. -/
theorem findMatchingWaiter_some {ws : List Waiter} {resource : Option String}
    {w : Waiter} (h : findMatchingWaiter ws handle resource = some w) :
    w ∈ ws ∧ w.handle = handle ∧ w.resource = resource := by
  refine ⟨List.mem_of_find?_eq_some h, ?_⟩
  simpa [isMatching] using List.find?_some h

theorem findMatchingWaiter_none {ws : List Waiter} {resource : Option String}
    (h : findMatchingWaiter ws handle resource = none) {w : Waiter} (hw : w ∈ ws) :
    ¬ (w.handle = handle ∧ w.resource = resource) := by
  simpa [isMatching] using List.find?_eq_none.mp h w hw

/-! ## A URI that has to be asked about -/

def newWaiter (handle : Handle) (resource hash ver : Option String) (serial : ℕ) : Waiter :=
  ⟨handle, resource, serial, false, hash, ver⟩

/-- The resource waits already; or it is asked; or others were asked and their
answers may be enough. -/
theorem awaitUri_cases (s : State) (uri : String) (handle : Handle)
    (resource hash ver : Option String) (serial : ℕ) :
    (∃ w, findMatchingWaiter (s.discoPending uri) handle resource = some w ∧
      awaitUri s uri handle resource hash ver serial =
        setWaiters s uri (setSerial handle resource serial (s.discoPending uri))) ∨
    findMatchingWaiter (s.discoPending uri) handle resource = none ∧
      (awaitUri s uri handle resource hash ver serial =
          send (setWaiters s uri
            (ask (newWaiter handle resource hash ver serial) :: s.discoPending uri))
            [requestTo uri (newWaiter handle resource hash ver serial)] ∨
        ((s.capabilities uri).trust + requestCount
            (newWaiter handle resource hash ver serial :: s.discoPending uri)) % guintSize ≥
          enoughTrust ∧
        awaitUri s uri handle resource hash ver serial =
          setWaiters s uri (newWaiter handle resource hash ver serial :: s.discoPending uri)) := by
  cases hfind : findMatchingWaiter (s.discoPending uri) handle resource with
  | some w =>
    refine .inl ⟨w, rfl, ?_⟩
    simp only [awaitUri, hfind]
  | none =>
    refine .inr ⟨rfl, ?_⟩
    by_cases hlt : ((s.capabilities uri).trust + requestCount
        (newWaiter handle resource hash ver serial :: s.discoPending uri)) % guintSize <
      enoughTrust
    · refine .inl ?_
      simp only [awaitUri, hfind]
      exact if_pos hlt
    · refine .inr ⟨Nat.le_of_not_lt hlt, ?_⟩
      simp only [awaitUri, hfind]
      exact if_neg hlt

theorem trust_of_not_isKnown {uri : String} (h : ¬ isKnown s uri handle = true) :
    (s.capabilities uri).trust < enoughTrust := by
  by_contra hge
  exact h (decide_eq_true (.inr (.inl (Nat.le_of_not_lt hge))))

theorem capsCache_of_not_isKnown {uri : String}
    (h : ¬ isKnown s uri handle = true) : s.capsCache uri = none := by
  by_contra hne
  exact h (decide_eq_true (.inl (Option.isSome_iff_ne_none.mpr hne)))

/-! ## The rule -/

/-- What survives the two branches of `_process_caps_uri` that are not quiet
survives the function. -/
theorem processCapsUri_invariant
    (hquiet : ∀ s s', Quiet s s' → I s → I s') {resource hash ver : Option String}
    {node : String} {serial : ℕ} (fragment : String)
    (hstored : ∀ s, isKnown s (uriOf node fragment) handle = true → I s →
      I (record s (storedSetting s (uriOf node fragment) handle resource)))
    (hawait : ∀ s, ¬ isKnown s (uriOf node fragment) handle = true →
      googleCap hash fragment = none → I s → I (awaitUri s (uriOf node fragment) handle
        resource hash ver serial))
    (h : I s) : I (processCapsUri s handle resource node hash ver serial fragment) := by
  rw [processCapsUri]
  split
  · next hknown =>
    rcases applyStored_cases s (uriOf node fragment) handle resource serial with heq | hq
    · rw [heq]
      exact h
    · exact hquiet _ _ hq (hstored s hknown h)
  · next hunknown =>
    split
    · exact hquiet _ _ (quiet_setCapabilities s handle resource _ serial) h
    · next hnone => exact hawait s hunknown hnone h

/-- What survives a presence stanza, URI by URI. -/
theorem processCaps_invariant
    (hquiet : ∀ s s', Quiet s s' → I s → I s') {resource : Option String} {caps : Option CapsNode}
    (huri : ∀ c ∈ caps, ∀ fragment ∈ parseCapBundles c, ∀ s serial, I s →
      I (processCapsUri s handle resource (c.node.getD "") c.hash c.ver serial fragment))
    (h : I s) : I (processCaps s handle resource caps) := by
  have hserial := hquiet s _ (quiet_capsSerial s ((s.capsSerial + 1) % guintSize)) h
  cases caps with
  | none => exact hserial
  | some c =>
    refine hquiet _ _ (quiet_emitCapabilitiesUpdate _ handle _ _) ?_
    rw [processUris]
    refine List.foldlRecOn (parseCapBundles c) _ ?_ fun s hs fragment hmem =>
      huri c rfl fragment hmem s _ hs
    exact hquiet _ _ (quiet_parseNode _ handle resource c _) hserial

/-- **The rule.**  A property that survives quiet changes, the use of what is
stored, a URI that has to be asked about, replies, errors, own capabilities, the
loss of cache entries and new room members survives every event. -/
theorem step_invariant (ok : State → Event → Prop)
    (hquiet : ∀ s s', Quiet s s' → I s → I s')
    (hstored : ∀ s uri handle resource, isKnown s uri handle = true → I s →
      I (record s (storedSetting s uri handle resource)))
    (hawait : ∀ s uri handle resource hash ver serial, ¬ isKnown s uri handle = true → I s →
      I (awaitUri s uri handle resource hash ver serial))
    (hreply : ∀ s req q, ok s (.reply req q) → Answers s req → I s →
      I (capsDiscoReply capsHash (answered s req) req q))
    (herror : ∀ s req, ok s (.error req) → Answers s req → I s →
      I (discoFailed (answered s req) req.uri))
    (hown : ∀ s ver capSet dataForms, ok s (.addOwnCaps ver capSet dataForms) → I s →
      I (addOwnCaps s ver capSet dataForms))
    (hlost : ∀ s uri, I s → I { s with capsCache := Function.update s.capsCache uri none })
    (hmember : ∀ s jid, I s → I { s with members := insert jid s.members })
    (s : State) (e : Event) (s' : State) (h : I s) (hok : ok s e)
    (hstep : step capsHash s e = some s') : I s' := by
  cases e with
  | presence handle resource status statusMessage priority now caps =>
    obtain ⟨-, heq⟩ := Option.ite_none_right_eq_some.mp hstep
    cases heq
    refine processCaps_invariant hquiet (fun c _ fragment _ s serial hs => ?_)
      (hquiet _ _ (quiet_update s handle resource status statusMessage priority now) h)
    exact processCapsUri_invariant hquiet fragment (fun s => hstored s _ handle resource)
      (fun s hunknown _ => hawait s _ handle resource c.hash c.ver serial hunknown) hs
  | unavailable handle resource status statusMessage priority now =>
    obtain ⟨-, heq⟩ := Option.ite_none_right_eq_some.mp hstep
    cases heq
    exact hquiet _ _ (quiet_update s handle resource status statusMessage priority now) h
  | reply req q =>
    obtain ⟨hreq, heq⟩ := Option.ite_none_right_eq_some.mp hstep
    cases heq
    exact hreply s req q hok hreq h
  | error req =>
    obtain ⟨hreq, heq⟩ := Option.ite_none_right_eq_some.mp hstep
    cases heq
    exact herror s req hok hreq h
  | addOwnCaps ver capSet dataForms =>
    cases hstep
    exact hown s ver capSet dataForms hok h
  | cacheLost uri =>
    cases hstep
    exact hlost s uri h
  | roomMember room nick =>
    cases hstep
    exact hmember s ⟨room, some nick⟩ h

end PresenceCache
