/-
# The presence cache: building up the capabilities of a resource

A presence stanza names several URIs.  Some are known at once, the others are asked
about one by one, and meanwhile newer stanzas may name other URIs.  The module
assumes that every URI stands for one set, whoever is asked about it, and follows
how the capabilities of one resource are put together for its last advertisement.
-/
import Gabble.PresenceCacheVersions

namespace PresenceCache

open CInt (guintSize)
open Transition Versioned

variable {capsHash : Query → Option String} {initial : String → Option Query}
variable {uri : String}
  {capsOf : String → CapabilitySet} {h : Handle} {n : String} {s s' t : State}

/-! ## URIs that stand for one set -/

/-- Whatever is stored for a URI is what it stands for. -/
structure Faithful (capsOf : String → CapabilitySet) (s : State) : Prop where
  cached : ∀ uri q, s.capsCache uri = some q → q.capSet = capsOf uri
  entries : ∀ uri, (s.capabilities uri).capSet = some (capsOf uri) ∨
    (s.capabilities uri).trust = 0 ∧ (s.capabilities uri).guys = ∅

section

variable (hs : Faithful capsOf s)

include hs

theorem Faithful.congr (hinfo : t.capabilities = s.capabilities)
    (hcache : t.capsCache = s.capsCache) : Faithful capsOf t := by
  refine ⟨?_, ?_⟩
  · rw [hcache]
    exact hs.cached
  · rw [hinfo]
    exact hs.entries

/-- What is stored for a known URI. -/
theorem Faithful.storedSetting {handle : Handle}
    (hknown : isKnown s uri handle = true) (resource : Option String) :
    (storedSetting s uri handle resource).capSet = capsOf uri := by
  cases hcached : s.capsCache uri with
  | some q =>
    simp only [PresenceCache.storedSetting, hcached, Option.elim_some]
    exact hs.cached uri q hcached
  | none =>
    have hset : (s.capabilities uri).capSet = some (capsOf uri) := by
      refine (hs.entries uri).resolve_right ?_
      rintro ⟨htrust, hguys⟩
      rcases of_decide_eq_true hknown with hsome | hge | hmem
      · rw [hcached] at hsome
        cases hsome
      · rw [htrust] at hge
        exact absurd hge (by decide)
      · rw [hguys] at hmem
        exact absurd hmem (Finset.notMem_empty handle)
    simp only [PresenceCache.storedSetting, hcached, Option.elim_none, hset, Option.getD_some]

/-- An entry is replaced by one for the same set. -/
theorem Faithful.setInfo {info : CapabilityInfo}
    (hinfo : info.capSet = some (capsOf uri)) : Faithful capsOf (setInfo s uri info) := by
  refine ⟨hs.cached, ?_⟩
  refine (Function.forall_update_iff s.capabilities fun u (info : CapabilityInfo) =>
    info.capSet = some (capsOf u) ∨ info.trust = 0 ∧ info.guys = ∅).mpr ?_
  exact ⟨.inl hinfo, fun u _ => hs.entries u⟩

theorem Faithful.cacheLost (uri : String) :
    Faithful capsOf { s with capsCache := Function.update s.capsCache uri none } := by
  refine ⟨?_, hs.entries⟩
  refine (Function.forall_update_iff s.capsCache fun u (cached : Option Query) =>
    ∀ q, cached = some q → q.capSet = capsOf u).mpr ?_
  exact ⟨fun q hq => (by cases hq), fun u _ => hs.cached u⟩

theorem Faithful.reported (req : Answer) (self : Waiter) {q : Query}
    (trustInc : ℕ) (hq : q.capSet = capsOf req.uri) :
    Faithful capsOf (reported s req self q trustInc) := by
  have hset : (newInfo s req self q trustInc).capSet = some (capsOf req.uri) := by
    rw [capSet_newInfo, hq]
  exact (hs.setInfo hset).congr rfl rfl

theorem Faithful.taken {q : Query}
    (hq : q.capSet = capsOf uri) : Faithful capsOf (taken s uri q) := by
  refine ⟨fun u p hp => ?_, hs.entries⟩
  rcases cacheInsert_some hp with hold | ⟨rfl, rfl⟩
  · exact hs.cached u p hold
  · exact hq

end

theorem faithful_new (selfHandle : Handle) (hcache : ∀ uri q, initial uri = some q →
      q.capSet = capsOf uri) (hbundles : ∀ b ∈ bundles, capsOf b.1 = {b.2}) :
    Faithful capsOf (State.new selfHandle initial) := by
  refine ⟨hcache, fun uri => ?_⟩
  by_cases huri : uri ∈ bundles.map Prod.fst
  · obtain ⟨b, hb, rfl⟩ := List.mem_map.mp huri
    refine .inl ?_
    have hempty : (State.new selfHandle initial).capabilities =
      (State.new "" fun _ => none).capabilities := rfl
    rw [hbundles b hb, hempty]
    revert b
    decide
  · refine .inr ?_
    rw [State.new, capabilities_addBundles bundles huri]
    exact ⟨rfl, rfl⟩

/-! ## Events about others -/

/-- Nothing changed for the resource `n` of `h`, nor for what is stored. -/
structure Alike (h : Handle) (n : String) (s t : State) : Prop where
  versions : versionsOf h n t = versionsOf h n s
  serials : ∀ u, serials h n (t.discoPending u) = serials h n (s.discoPending u)
  alive : AliveAt h s → AliveAt h t
  capabilities : t.capabilities = s.capabilities
  capsCache : t.capsCache = s.capsCache

namespace Alike

theorem refl (s : State) : Alike h n s s := ⟨rfl, fun _ => rfl, id, rfl, rfl⟩

theorem trans (hs : Alike h n s s') (ht : Alike h n s' t) : Alike h n s t where
  versions := ht.versions.trans hs.versions
  serials := fun u => (ht.serials u).trans (hs.serials u)
  alive := fun halive => ht.alive (hs.alive halive)
  capabilities := ht.capabilities.trans hs.capabilities
  capsCache := ht.capsCache.trans hs.capsCache

/-- Only signals and the next serial changed. -/
theorem of_presence (hq : Quiet s t) (hpresence : t.presence = s.presence) : Alike h n s t where
  versions := by rw [versionsOf, versionsOf, hpresence]
  serials := fun u => by rw [hq.discoPending]
  alive := fun halive p hp => halive p (hpresence ▸ hp)
  capabilities := hq.capabilities
  capsCache := hq.capsCache

end Alike

section Others

variable {handle : Handle} {resource : Option String} (hne : ¬ (handle = h ∧ resource = some n))

include hne

theorem Applies.alike {capSet : CapabilitySet} {serial : ℕ}
    (happ : Applies s t handle resource capSet serial) (hpending : t.discoPending = s.discoPending)
    (hinfo : t.capabilities = s.capabilities) (hcache : t.capsCache = s.capsCache) :
    Alike h n s t :=
  ⟨happ.versionsOf_of_ne hne, fun u => by rw [hpending], happ.aliveAt, hinfo, hcache⟩

theorem alike_setCapabilities (s : State) (capSet : CapabilitySet) (serial : ℕ) :
    Alike h n s (setCapabilities s handle resource capSet serial) :=
  have hq := quiet_setCapabilities s handle resource capSet serial
  (applies_setCapabilities s handle resource capSet serial).alike hne hq.discoPending
    hq.capabilities hq.capsCache

theorem alike_applyStored (s : State) (uri : String) (serial : ℕ) :
    Alike h n s (applyStored s uri handle resource serial) := by
  have happ := applies_applyStored s uri handle resource serial
  rcases applyStored_cases s uri handle resource serial with heq | hq
  · rw [heq]
    exact .refl s
  · exact happ.alike hne hq.discoPending hq.capabilities hq.capsCache

theorem alike_awaitUri (s : State) (uri : String) (hash ver : Option String) (serial : ℕ) :
    Alike h n s (awaitUri s uri handle resource hash ver serial) := by
  have hsame := sameStore_awaitUri s uri handle resource hash ver serial
  have hnew : ∀ w ws, (w : Waiter).handle = handle → w.resource = resource →
      serials h n (w :: ws) = serials h n ws := by
    intro w ws hhandle hresource
    rw [serials, List.filter_cons_of_neg]
    · rfl
    · rw [isMatching_self, hhandle, hresource]
      exact hne
  have hserials : ∀ ws, serials h n ws = serials h n (s.discoPending uri) →
      ∀ u, serials h n ((setWaiters s uri ws).discoPending u) =
        serials h n (s.discoPending u) := by
    intro ws hws
    exact (Function.forall_update_iff s.discoPending fun u (ws : List Waiter) =>
      serials h n ws = serials h n (s.discoPending u)).mpr ⟨hws, fun _ _ => rfl⟩
  rcases awaitUri_cases s uri handle resource hash ver serial with
    ⟨w, -, heq⟩ | ⟨-, heq | ⟨-, heq⟩⟩
  · rw [heq] at hsame ⊢
    exact ⟨rfl, hserials _ (serials_setSerial_of_ne hne serial _), id, hsame.capabilities,
      hsame.capsCache⟩
  · rw [heq] at hsame ⊢
    exact ⟨rfl, hserials _ (hnew _ _ rfl rfl), id, hsame.capabilities, hsame.capsCache⟩
  · rw [heq] at hsame ⊢
    exact ⟨rfl, hserials _ (hnew _ _ rfl rfl), id, hsame.capabilities, hsame.capsCache⟩

theorem alike_processCapsUri (s : State) (node : String) (hash ver : Option String)
    (serial : ℕ) (fragment : String) :
    Alike h n s (processCapsUri s handle resource node hash ver serial fragment) := by
  rw [processCapsUri]
  split
  · exact alike_applyStored hne s _ serial
  · split
    · exact alike_setCapabilities hne s _ serial
    · exact alike_awaitUri hne s _ hash ver serial

theorem alike_processCaps (s : State) (caps : Option CapsNode) :
    Alike h n s (processCaps s handle resource caps) := by
  have hserial : Alike h n s { s with capsSerial := (s.capsSerial + 1) % guintSize } :=
    .of_presence (quiet_capsSerial s _) rfl
  cases caps with
  | none => exact hserial
  | some c =>
    refine .trans ?_ (.of_presence (quiet_emitCapabilitiesUpdate _ handle _ _)
      (emitCapabilitiesUpdate_presence _ handle _ _))
    refine List.foldlRecOn (motive := fun t => Alike h n s t) (parseCapBundles c) _ ?_
      fun t ht fragment _ => ht.trans (alike_processCapsUri hne t _ c.hash c.ver _ fragment)
    rw [parseNode]
    split
    · exact hserial
    · exact hserial.trans (alike_setCapabilities hne _ _ _)

end Others

/-! ## Building up the capabilities -/

/-- The serials with which the resource `n` of `h` waits for a URI. -/
def pendingOf (h : Handle) (n : String) (s : State) (uri : String) : List ℕ :=
  serials h n (s.discoPending uri)

theorem pendingOf_congr (hpending : t.discoPending = s.discoPending) :
    pendingOf h n t = pendingOf h n s := by
  funext u
  rw [pendingOf, hpending, pendingOf]

/-- The capabilities of the resource are built up, for a stanza with the serial
`version` that named the URIs `names` and whose node implies `base`. -/
structure Building (capsOf : String → CapabilitySet) (h : Handle) (n : String)
    (base : Option CapabilitySet) (names : List String) (version : ℕ) (s : State) : Prop where
  faithful : Faithful capsOf s
  alive : AliveAt h s
  online : base ≠ none ∨ names ≠ [] → versionsOf h n s ≠ []
  collects : Collects capsOf base names version (versionsOf h n s) (pendingOf h n s)

section Building

variable {base : Option CapabilitySet} {names : List String} {version : ℕ}

theorem Alike.building (ha : Alike h n s t) (hs : Building capsOf h n base names version s) :
    Building capsOf h n base names version t := by
  have hpending : pendingOf h n t = pendingOf h n s := funext ha.serials
  refine ⟨hs.faithful.congr ha.capabilities ha.capsCache, ha.alive hs.alive, ?_, ?_⟩
  · rw [ha.versions]
    exact hs.online
  · rw [ha.versions, hpending]
    exact hs.collects

/-- A URI of the stanza is known. -/
theorem Building.applies (hs : Building capsOf h n base names version s)
    (honline : versionsOf h n s ≠ []) (happ : Applies s t h (some n) (capsOf uri) version)
    (hpending : t.discoPending = s.discoPending) (hinfo : t.capabilities = s.capabilities)
    (hcache : t.capsCache = s.capsCache) :
    Building capsOf h n base (names ++ [uri]) version t := by
  refine ⟨hs.faithful.congr hinfo hcache, happ.aliveAt hs.alive, fun _ => ?_, ?_⟩
  · rw [happ.versionsOf_self]
    simpa using honline
  · rw [happ.versionsOf_self, pendingOf_congr hpending]
    exact hs.collects.name uri

/-- A waiter of the resource is put in front of the list. -/
theorem serials_cons_self {w : Waiter} (hmatch : isMatching h (some n) w = true)
    (ws : List Waiter) :
    w.serial ∈ serials h n (w :: ws) ∧
      ∀ k ∈ serials h n (w :: ws), k ∈ serials h n ws ∨ k = w.serial := by
  rw [serials, List.filter_cons_of_pos hmatch, List.map_cons]
  exact ⟨List.mem_cons_self, fun k hk => (List.mem_cons.mp hk).symm⟩

/-- Afterwards the resource waits for the URI with the new serial. -/
theorem awaitUri_waiters (s : State) (uri : String) (hash ver : Option String) (serial : ℕ) :
    ∃ ws, (awaitUri s uri h (some n) hash ver serial).discoPending =
        Function.update s.discoPending uri ws ∧
      (awaitUri s uri h (some n) hash ver serial).presence = s.presence ∧
      serial ∈ serials h n ws ∧
      ∀ k ∈ serials h n ws, k ∈ serials h n (s.discoPending uri) ∨ k = serial := by
  have hmatch : isMatching h (some n) (newWaiter h (some n) hash ver serial) = true :=
    isMatching_self.mpr ⟨rfl, rfl⟩
  rcases awaitUri_cases s uri h (some n) hash ver serial with
    ⟨w, hfind, heq⟩ | ⟨-, heq | ⟨-, heq⟩⟩
  · rw [heq]
    exact ⟨_, rfl, rfl, serials_setSerial_self hfind serial⟩
  · rw [heq]
    refine ⟨_, rfl, rfl, ?_⟩
    exact serials_cons_self (w := ask (newWaiter h (some n) hash ver serial)) hmatch _
  · rw [heq]
    exact ⟨_, rfl, rfl, serials_cons_self hmatch _⟩

/-- A URI of the stanza has to be asked about. -/
theorem Building.awaitUri (hs : Building capsOf h n base names version s)
    (honline : versionsOf h n s ≠ []) (uri : String)
    (hash ver : Option String) :
    Building capsOf h n base (names ++ [uri]) version
      (awaitUri s uri h (some n) hash ver version) := by
  have hsame := sameStore_awaitUri s uri h (some n) hash ver version
  obtain ⟨ws, hpending, hpresence, hmem, hold⟩ :=
    awaitUri_waiters (h := h) (n := n) s uri hash ver version
  refine ⟨hs.faithful.congr hsame.capabilities hsame.capsCache, ?_, fun _ => ?_, ?_⟩
  · intro p hp
    rw [hpresence] at hp
    exact hs.alive p hp
  · rw [versionsOf, hpresence]
    exact honline
  · rw [versionsOf, hpresence]
    have hself : pendingOf h n (PresenceCache.awaitUri s uri h (some n) hash ver version) uri =
        serials h n ws := by
      rw [pendingOf, hpending, Function.update_self]
    refine hs.collects.await ?_ ?_ fun u hu => ?_
    · rw [hself]
      exact hmem
    · rw [hself]
      exact hold
    · rw [pendingOf, hpending, Function.update_of_ne hu, pendingOf]

/-- One URI of the stanza. -/
theorem Building.processCapsUri (hs : Building capsOf h n base names version s)
    (honline : versionsOf h n s ≠ []) (node : String) {hash : Option String}
    (ver : Option String) {fragment : String}
    (hgoogle : ∀ X ∈ googleCap hash fragment, capsOf (uriOf node fragment) = X) :
    Building capsOf h n base (names ++ [uriOf node fragment]) version
      (processCapsUri s h (some n) node hash ver version fragment) := by
  rw [PresenceCache.processCapsUri]
  split
  · next hknown =>
    -- what is stored for the URI is what it stands for
    have happ := applies_applyStored s (uriOf node fragment) h (some n) version
    rw [hs.faithful.storedSetting hknown] at happ
    rcases applyStored_cases s (uriOf node fragment) h (some n) version with heq | hq
    · rw [heq] at happ ⊢
      exact hs.applies honline happ rfl rfl rfl
    · exact hs.applies honline happ hq.discoPending hq.capabilities hq.capsCache
  · split
    · next X hX =>
      have happ := applies_setCapabilities s h (some n) X version
      have hq := quiet_setCapabilities s h (some n) X version
      rw [← hgoogle X hX] at happ hq ⊢
      exact hs.applies honline happ hq.discoPending hq.capabilities hq.capsCache
    · exact hs.awaitUri honline _ hash ver

/-- The URIs of the stanza, one after the other. -/
theorem Building.processUris (node : String) {hash : Option String} (ver : Option String)
    (fragments : List String)
    (hgoogle : ∀ fragment ∈ fragments, ∀ X ∈ googleCap hash fragment,
      capsOf (uriOf node fragment) = X)
    (hs : Building capsOf h n base names version s) (honline : versionsOf h n s ≠ []) :
    Building capsOf h n base (names ++ fragments.map (uriOf node)) version
      (fragments.foldl (fun s fragment =>
        PresenceCache.processCapsUri s h (some n) node hash ver version fragment) s) := by
  induction fragments generalizing s names with
  | nil =>
    rw [List.map_nil, List.append_nil]
    exact hs
  | cons fragment fragments ih =>
    have hone := hs.processCapsUri honline node ver
      (hgoogle fragment List.mem_cons_self)
    rw [List.map_cons, List.append_cons]
    refine ih (fun f hf => hgoogle f (List.mem_cons_of_mem fragment hf)) hone ?_
    exact hone.online (.inr (by simp))

/-! ## Advertisements -/

/-- The URIs of a `c` node. -/
def urisOf (c : CapsNode) : List String := (parseCapBundles c).map (uriOf (c.node.getD ""))

/-- The node implies capabilities, or there are URIs. -/
def Advertises (c : CapsNode) : Prop := c.node.bind nodeCaps ≠ none ∨ urisOf c ≠ []

instance (c : CapsNode) : Decidable (Advertises c) :=
  inferInstanceAs (Decidable (_ ∨ _))

/-- A new stanza starts with what its node implies. -/
theorem Building.parseNode (hs : Building capsOf h n base names version s)
    (honline : versionsOf h n s ≠ []) {serial : ℕ} (hlt : version < serial) (c : CapsNode) :
    Building capsOf h n (c.node.bind nodeCaps) [] serial (parseNode s h (some n) c serial) ∧
      versionsOf h n (PresenceCache.parseNode s h (some n) c serial) ≠ [] := by
  have hsets : ∀ v ∈ versionsOf h n s, v.1 < serial :=
    fun v hv => (hs.collects.le v hv).trans_lt hlt
  have hpending : ∀ u, ∀ k ∈ pendingOf h n s u, k < serial :=
    fun u k hk => (hs.collects.bounded u k hk).1.trans_lt hlt
  rw [PresenceCache.parseNode]
  cases c.node.bind nodeCaps with
  | none =>
    exact ⟨⟨hs.faithful, hs.alive, fun _ => honline, collects_start hsets hpending⟩, honline⟩
  | some X =>
    have happ := applies_setCapabilities s h (some n) X serial
    have hq := quiet_setCapabilities s h (some n) X serial
    have hnew : versionsOf h n (setCapabilities s h (some n) X serial) ≠ [] := by
      rw [happ.versionsOf_self]
      simpa using honline
    refine ⟨⟨hs.faithful.congr hq.capabilities hq.capsCache, happ.aliveAt hs.alive,
      fun _ => hnew, ?_⟩, hnew⟩
    dsimp only
    rw [happ.versionsOf_self, pendingOf_congr hq.discoPending]
    exact collects_start_with hsets hpending X

/-- A new advertisement. -/
theorem Building.processCaps (hs : Building capsOf h n base names version s)
    (honline : versionsOf h n s ≠ []) (hlt : version < s.capsSerial) (c : CapsNode)
    (hgoogle : ∀ fragment ∈ parseCapBundles c, ∀ X ∈ googleCap c.hash fragment,
      capsOf (uriOf (c.node.getD "") fragment) = X) :
    Building capsOf h n (c.node.bind nodeCaps) (urisOf c) s.capsSerial
      (processCaps s h (some n) (some c)) := by
  let s₁ : State := { s with capsSerial := (s.capsSerial + 1) % guintSize }
  have hserial : Building capsOf h n base names version s₁ :=
    Alike.building (.of_presence (quiet_capsSerial s _) rfl) hs
  obtain ⟨hnode, honline'⟩ := hserial.parseNode honline hlt c
  refine Alike.building (.of_presence (quiet_emitCapabilitiesUpdate _ h _ _)
    (emitCapabilitiesUpdate_presence _ h _ _)) ?_
  exact Building.processUris (c.node.getD "") c.ver (parseCapBundles c) hgoogle hnode honline'

/-- A stanza that names nothing leaves the capabilities alone. -/
theorem alike_processCaps_of_not_advertises {c : CapsNode} (hc : ¬ Advertises c) (s : State)
    (handle : Handle) (resource : Option String) :
    Alike h n s (PresenceCache.processCaps s handle resource (some c)) := by
  obtain ⟨hnode, huris⟩ := not_or.mp hc
  have huris : parseCapBundles c = [] := List.map_eq_nil_iff.mp (not_not.mp huris)
  refine .trans (.of_presence (quiet_capsSerial s ((s.capsSerial + 1) % guintSize)) rfl) ?_
  refine .trans ?_ (.of_presence (quiet_emitCapabilitiesUpdate _ handle _ _)
    (emitCapabilitiesUpdate_presence _ handle _ _))
  rw [PresenceCache.processUris, huris, PresenceCache.parseNode, not_not.mp hnode]
  exact .refl _

section

variable (hs : Building capsOf h n base names version s)

include hs

/-- The resource sends a presence stanza. -/
theorem Building.update {status : PresenceId}
    (hstatus : status > PresenceId.lastUnavailable) (statusMessage : Option String)
    (priority now : ℤ) :
    Building capsOf h n base names version
        (update s h (some n) status statusMessage priority now) ∧
      versionsOf h n
        (PresenceCache.update s h (some n) status statusMessage priority now) ≠ [] := by
  have hq := quiet_update s h (some n) status statusMessage priority now
  obtain ⟨hversions, halive⟩ :=
    update_self (n := n) hs.alive status statusMessage priority now hstatus
  have honline : versionsOf h n
      (PresenceCache.update s h (some n) status statusMessage priority now) ≠ [] := by
    rw [hversions]
    split
    · exact List.cons_ne_nil _ _
    · assumption
  refine ⟨⟨hs.faithful.congr hq.capabilities hq.capsCache, halive, fun _ => honline, ?_⟩, honline⟩
  rw [hversions, pendingOf_congr hq.discoPending]
  split
  · next hnil =>
    -- the resource is new, so it cannot have advertised anything
    obtain ⟨hbase, hnames⟩ := not_or.mp fun hsome => hs.online hsome hnil
    have hcollects := hs.collects
    rw [not_not.mp hbase, not_not.mp hnames, hnil] at hcollects
    rw [not_not.mp hbase, not_not.mp hnames]
    exact hcollects.first
  · exact hs.collects

/-- Another resource sends a presence stanza. -/
theorem Building.update_of_ne {handle : Handle}
    {resource : Option String} (hne : ¬ (handle = h ∧ resource = some n))
    (hbare : handle = h → resource ≠ none) (status : PresenceId) (statusMessage : Option String)
    (priority now : ℤ) :
    Building capsOf h n base names version
      (PresenceCache.update s handle resource status statusMessage priority now) := by
  have hq := quiet_update s handle resource status statusMessage priority now
  obtain ⟨hversions, halive⟩ :=
    PresenceCache.update_of_ne hs.alive status statusMessage priority now hne hbare
  refine Alike.building ⟨hversions, fun u => ?_, fun _ => halive, hq.capabilities, hq.capsCache⟩ hs
  rw [hq.discoPending]

/-! ## Replies -/

/-- A reply gives the resource the capabilities of a URI for which it waits. -/
theorem Building.served
    {ks : List ℕ} (hks : ks ⊆ pendingOf h n s uri) (hfaithful : Faithful capsOf t)
    (halive : AliveAt h t)
    (hversions : versionsOf h n t = addAll (capsOf uri) ks (versionsOf h n s))
    (hsub : ∀ u, pendingOf h n t u ⊆ pendingOf h n s u)
    (hdone : ∀ u, ∀ k ∈ pendingOf h n s u, k ∈ pendingOf h n t u ∨ u = uri ∧ k ∈ ks) :
    Building capsOf h n base names version t := by
  -- the set arrives once for each serial, and then nothing is pending under those
  obtain ⟨hcollects, harrived⟩ := hs.collects.partAll fun k hk =>
    hs.collects.bounded uri k (hks hk)
  refine ⟨hfaithful, halive, fun hsome => ?_, ?_⟩
  · rw [hversions]
    exact addAll_ne_nil _ ks (hs.online hsome)
  · rw [hversions]
    refine hcollects.forget hsub fun u _ hmem => ?_
    refine (hdone u version hmem).imp_right ?_
    rintro ⟨rfl, hk⟩
    exact harrived hk

end

end Building

/-- What `set_caps_for` gives the resource: nothing, unless it is its waiter. -/
theorem setCapsFor_versions (s : State) (uri : String) (w : Waiter) (capSet : CapabilitySet)
    (clientTypes : ℕ) (dataForms : List DataForm) (responder : Handle) :
    versionsOf h n (setCapsFor s uri w capSet clientTypes dataForms responder) =
      addAll capSet (serials h n [w]) (versionsOf h n s) := by
  have happ := applies_setCapsFor s uri w capSet clientTypes dataForms responder
  by_cases hmatch : isMatching h (some n) w = true
  · obtain ⟨hhandle, hresource⟩ := isMatching_self.mp hmatch
    rw [hhandle, hresource] at happ
    rw [happ.versionsOf_self, serials, List.filter_cons_of_pos hmatch]
    rfl
  · rw [happ.versionsOf_of_ne fun hself => hmatch (isMatching_self.mpr hself), serials,
      List.filter_cons_of_neg hmatch]
    rfl

/-- All the waiters of a list are served. -/
theorem serve_versions (uri : String) (q : Query) (clientTypes : ℕ) (responder : Handle)
    (ws : List Waiter) (s : State) (halive : AliveAt h s) :
    versionsOf h n (ws.foldl (fun s w =>
        emit (setCapsFor s uri w q.capSet clientTypes q.dataForms responder)
          (.capabilitiesDiscovered w.handle)) s) =
      addAll q.capSet (serials h n ws) (versionsOf h n s) ∧
    AliveAt h (ws.foldl (fun s w =>
      emit (setCapsFor s uri w q.capSet clientTypes q.dataForms responder)
        (.capabilitiesDiscovered w.handle)) s) := by
  induction ws generalizing s with
  | nil => exact ⟨rfl, halive⟩
  | cons w ws ih =>
    -- one waiter is served, and the others find the resource as it is then
    have happ := applies_setCapsFor s uri w q.capSet clientTypes q.dataForms responder
    have hsplit : serials h n (w :: ws) = serials h n [w] ++ serials h n ws := by
      rw [serials, serials, serials, ← List.map_append, ← List.filter_append]
      rfl
    obtain ⟨hversions, halive'⟩ :=
      ih (emit (setCapsFor s uri w q.capSet clientTypes q.dataForms responder)
        (.capabilitiesDiscovered w.handle)) (happ.aliveAt halive)
    refine ⟨hversions.trans ?_, halive'⟩
    rw [hsplit, addAll, addAll, List.foldl_append]
    exact congrArg (addAll q.capSet (serials h n ws))
      (setCapsFor_versions s uri w q.capSet clientTypes q.dataForms responder)

section Reply

variable {base : Option CapabilitySet} {names : List String} {version : ℕ}

section

variable (hs : Building capsOf h n base names version s)

include hs

/-- A reply that is trusted. -/
theorem Building.serveWaiters
    {q : Query} (hq : q.capSet = capsOf uri) (clientTypes : ℕ) (responder : Handle) :
    Building capsOf h n base names version (serveWaiters s uri q clientTypes responder) := by
  have hstore : Faithful capsOf (PresenceCache.serveWaiters s uri q clientTypes responder) ∧
      (PresenceCache.serveWaiters s uri q clientTypes responder).discoPending =
        Function.update s.discoPending uri [] := by
    refine serveWaiters_invariant (I := fun t => Faithful capsOf t ∧ t.discoPending =
      Function.update s.discoPending uri []) ?_ ?_ ⟨hs.faithful.taken hq, rfl⟩
    · rintro t t' hquiet ⟨hfaithful, hpending⟩
      exact ⟨hfaithful.congr hquiet.capabilities hquiet.capsCache,
        hquiet.discoPending.trans hpending⟩
    · rintro t w - ⟨hfaithful, hpending⟩
      exact ⟨hfaithful.congr rfl rfl, hpending⟩
  obtain ⟨hversions, halive⟩ := serve_versions (n := n) uri q clientTypes responder
    (s.discoPending uri) (taken s uri q) hs.alive
  obtain ⟨hfaithful, hpending⟩ := hstore
  -- all the waiters of the URI are gone, so all its serials are served
  refine hs.served (List.Subset.refl (pendingOf h n s uri)) hfaithful halive (hq ▸ hversions)
    (fun u => ?_) fun u k hk => ?_
  · rw [pendingOf, hpending]
    by_cases hu : u = uri
    · rw [hu, Function.update_self]
      exact List.nil_subset _
    · rw [Function.update_of_ne hu, pendingOf]
      exact List.Subset.refl _
  · by_cases hu : u = uri
    · subst hu
      exact .inr ⟨rfl, hk⟩
    · rw [pendingOf, hpending, Function.update_of_ne hu]
      exact .inl hk

/-- A reply that is not trusted yet. -/
theorem Building.dropWaiter {self : Waiter}
    (hself : findMatchingWaiter (s.discoPending uri) self.handle self.resource = some self)
    {q : Query} (hq : q.capSet = capsOf uri) (clientTypes : ℕ) (responder : Handle) (trust : ℕ) :
    Building capsOf h n base names version (dropWaiter
      (setCapsFor s uri self q.capSet clientTypes q.dataForms responder) uri self trust) := by
  have happ := applies_setCapsFor s uri self q.capSet clientTypes q.dataForms responder
  have hversions := setCapsFor_versions (h := h) (n := n) s uri self q.capSet clientTypes
    q.dataForms responder
  have hpending := setCapsFor_discoPending s uri self q.capSet clientTypes q.dataForms responder
  have hfaithful : Faithful capsOf
      (setCapsFor s uri self q.capSet clientTypes q.dataForms responder) :=
    setCapsFor_invariant (fun t t' hquiet ht => ht.congr hquiet.capabilities hquiet.capsCache)
      (fun ht => ht.congr rfl rfl) hs.faithful
  rw [hq] at happ hversions hpending hfaithful ⊢
  -- the serials of the waiters that are left
  have hleft : ∀ u, pendingOf h n (PresenceCache.dropWaiter
      (setCapsFor s uri self (capsOf uri) clientTypes q.dataForms responder) uri self trust) u =
      if u = uri then
        serials h n ((s.discoPending uri).eraseP (isMatching self.handle self.resource))
      else pendingOf h n s u := by
    intro u
    rw [pendingOf, PresenceCache.dropWaiter, hpending]
    by_cases hu : u = uri
    · obtain ⟨ws, hws, hasks⟩ := asks_of_askEnough trust []
        ((s.discoPending uri).eraseP (isMatching self.handle self.resource))
      rw [if_pos hu, hu, ← hasks.serials]
      exact congrArg (serials h n) ((Function.update_self _ _ _).trans hws)
    · rw [if_neg hu]
      refine congrArg (serials h n) ((Function.update_of_ne hu _ _).trans ?_)
      exact congrFun hpending u
  obtain ⟨hsub, hgone⟩ := serials_eraseP (h := h) (n := n) hself
  have hone : serials h n [self] ⊆ pendingOf h n s uri := by
    intro k hk
    obtain ⟨w, hw, hmatch, rfl⟩ := mem_serials.mp hk
    rw [List.mem_singleton.mp hw] at hmatch ⊢
    exact mem_serials.mpr ⟨self, (findMatchingWaiter_some hself).1, hmatch, rfl⟩
  refine hs.served hone (hfaithful.congr rfl rfl) (happ.aliveAt hs.alive) hversions
    (fun u => ?_) fun u k hk => ?_
  · rw [hleft]
    split
    · next hu =>
      rw [hu]
      exact hsub
    · exact List.Subset.refl _
  · rw [hleft]
    split
    · next hu =>
      subst hu
      refine (hgone k hk).imp_right ?_
      rintro ⟨hmatch, rfl⟩
      exact ⟨rfl, mem_serials.mpr ⟨self, List.mem_singleton_self self, hmatch, rfl⟩⟩
    · exact .inl hk

theorem Building.capsDiscoReply {req : Answer} {q : Query} (hq : q.capSet = capsOf req.uri)
    (hgood : ∀ self ∈ findMatchingWaiter (s.discoPending req.uri) req.handle req.resource,
      trustOf capsHash self q ≠ none) :
    Building capsOf h n base names version (capsDiscoReply capsHash s req q) := by
  rcases capsDiscoReply_cases capsHash s req q with ⟨-, heq⟩ | ⟨self, hself, htrust⟩
  · rw [heq]
    exact hs
  have hreported : ∀ trustInc,
      Building capsOf h n base names version (reported s req self q trustInc) :=
    fun trustInc => ⟨hs.faithful.reported req self trustInc hq, hs.alive, hs.online, hs.collects⟩
  rcases htrust with ⟨hbad, -⟩ | ⟨trustInc, -, ⟨-, heq⟩ | ⟨-, heq⟩⟩
  · exact absurd hbad (hgood self hself)
  · rw [heq]
    exact (hreported trustInc).serveWaiters hq _ req.handle
  · obtain ⟨-, hhandle, hresource⟩ := findMatchingWaiter_some hself
    rw [heq]
    refine (hreported trustInc).dropWaiter ?_ hq _ req.handle _
    rw [hhandle, hresource]
    exact hself

end

end Reply

end PresenceCache
