/-
# The connections of a stream tube on D-Bus

A connection is announced on D-Bus with `NewLocalConnection` or `NewRemoteConnection`, and
its end with `ConnectionClosed`.  The tube finds the id by the transport, and forgets it
when the end has been signalled.  Two kinds of ends go wrong.  A transport whose stream
initiation waits is in neither table, so that it is missed when the tube is closed.  And a
remote connection has its id before it is announced, so that its end is signalled even when
its transport never gets connected.
-/
import Mathlib.Tactic.Common
import Gabble.Lifecycle
import Gabble.TubeStreamTables

open CInt (guintSize)
open Ibb (BytestreamState)
open InverseTables Lifecycle Transition

namespace TubeStream

variable {s s' s'' : State} {b b' : Bytestream} {t t' : Transport} {e : Event} {a : Action}
  {id : ConnectionId}

/-! ## The signals -/

/-- The connection that a signal announces. -/
def Action.announces : Action → Option ConnectionId
  | .newLocalConnection id => some id
  | .newRemoteConnection _ _ id => some id
  | _ => none

/-- The connection whose end a signal announces. -/
def Action.ends : Action → Option ConnectionId
  | .connectionClosed id _ _ => some id
  | _ => none

/-- The connection ids that have been announced. -/
def State.announced (s : State) : List ConnectionId := s.log.filterMap Action.announces

/-- The connection ids whose end has been announced. -/
def State.ended (s : State) : List ConnectionId := s.log.filterMap Action.ends

/-! ## The condition -/

/-- The event closes the tube. -/
def Event.closesTube (s : State) : Event → Bool
  | .close _ => true
  | .accept listening => s.tubeState = .localPending && !listening
  | _ => false

/-- The transports that an event disconnects, or whose connection it ends. -/
def Event.ends (s : State) (e : Event) : List Transport :=
  match e with
  | .stateChanged b .closed =>
    if (s.bytestream b).stateChanged then
      (s.bytestreamToTransport.lookup b).toList.filter fun t => (s.transport t).bufferEmpty
    else []
  | .disconnected t => [t]
  | .bufferEmpty t =>
    if (s.transport t).signals ∧
        (s.transportToBytestream.lookup t).any fun b => (s.bytestream b).state = .closed then [t]
    else []
  | .close _ | .accept _ =>
    if e.closesTube s then s.bytestreamToTransport.entries.map fun entry => entry.2 else []
  | _ => []

/-- There is no access control parameter, or it can be found out. -/
def State.readable (s : State) (param : Option AccessParam) : Bool :=
  s.config.accessControl = .localhost || param.isSome

/-- A remote connection that the event should announce cannot be announced. -/
def Event.failsToAnnounce (s : State) : Event → Bool
  | .addBytestream _ outcome _ param =>
    s.config.requested && !(s.config.addressType = .unix && outcome ≠ .connected) &&
      match outcome with
      | .connected => !s.readable param
      | .connecting => false
      | .disconnected | .disconnecting => true
  | .connected t param => (s.transport t).connectedFor.isSome && !s.readable param
  | _ => false

/-- The event gives out a connection id. -/
def Event.givesId (s : State) : Event → Bool
  | .localConnection incoming presence =>
    (s.checkIncomingConnection s.nextTransport incoming).2 &&
      (s.startStreamInitiation s.nextTransport presence).2
  | .credentials t received presence =>
    received = .received 1 s.config.uid && (s.startStreamInitiation t presence).2
  | .addBytestream _ outcome _ _ =>
    s.config.requested && !(s.config.addressType = .unix && outcome ≠ .connected)
  | _ => false

/-- **The condition on one event.**  The local socket of a remote connection gets connected,
and its access control parameter is known; the tube is not closed while a stream initiation
waits for its answer; and there are connection ids left. -/
structure Established (s : State) (e : Event) : Prop where
  connected : ∀ t ∈ e.ends s, (s.transport t).state ≠ .connecting
  announces : e.failsToAnnounce s = false
  settled : e.closesTube s = true → s.negotiations = []
  ids : e.givesId s = true → s.lastConnectionId + 1 < guintSize

instance (s : State) (e : Event) : Decidable (Established s e) :=
  decidable_of_iff ((∀ t ∈ e.ends s, (s.transport t).state ≠ .connecting) ∧
      e.failsToAnnounce s = false ∧ (e.closesTube s = true → s.negotiations = []) ∧
      (e.givesId s = true → s.lastConnectionId + 1 < guintSize))
    ⟨fun h => ⟨h.1, h.2.1, h.2.2.1, h.2.2.2⟩, fun h => ⟨h.connected, h.announces, h.settled, h.ids⟩⟩

/-! ## The invariant -/

/-- A connection with an id has not ended, and one that was announced has ended or has its
id. -/
structure Accounted (s : State) : Prop where
  orderly : Orderly Action.announces Action.ends s.log
  live : ∀ t id, s.transportToId.lookup t = some id →
    0 < id ∧ id ≤ s.lastConnectionId ∧ id ∉ s.ended
  injective : ∀ t t' id, s.transportToId.lookup t = some id → s.transportToId.lookup t' = some id →
    t = t'
  announced : ∀ id ∈ s.announced, 0 < id ∧ id ≤ s.lastConnectionId ∧
    (id ∈ s.ended ∨ ∃ t, s.transportToId.lookup t = some id)

/-- A connection with an id waits for the answer to its stream initiation, and has been
announced, or it is in the tables. -/
def Placed (s : State) : Prop :=
  ∀ t id, s.transportToId.lookup t = some id →
    (t ∈ s.negotiations ∧ id ∈ s.announced) ∨ s.transportToBytestream.lookup t ≠ none

/-- The transport waits to be connected, and its connection is then announced. -/
def State.Awaits (s : State) (t : Transport) : Prop :=
  (s.transport t).state = .connecting ∧ (s.transport t).connectedFor ≠ none ∧ t < s.nextTransport

/-- The connection of the transport, if it has one, has been announced or will be. -/
def State.Heard (s : State) (t : Transport) : Prop :=
  ∀ id, s.transportToId.lookup t = some id → id ∈ s.announced ∨ s.Awaits t

/-- The connection of the transport, if it has one, has been announced. -/
def State.Known (s : State) (t : Transport) : Prop :=
  ∀ id, s.transportToId.lookup t = some id → id ∈ s.announced

theorem State.Heard.known (hs : s.Heard t) (h : ¬ s.Awaits t) : s.Known t :=
  fun id hid => (hs id hid).resolve_right h

theorem accounted_new (config : Config) : Accounted (State.new config) where
  orderly := orderly_nil
  live _ _ h := by cases h
  injective _ _ _ h := by cases h
  announced _ h := by cases h

theorem placed_new (config : Config) : Placed (State.new config) := fun _ _ h => by cases h

/-! ## What signals nothing -/

/-- An action that is no signal about a connection. -/
def Action.quiet (a : Action) : Prop := a.announces = none ∧ a.ends = none

/-- The ids are the same, and nothing is signalled about connections. -/
structure Still (s s' : State) : Prop where
  transportToId : s'.transportToId = s.transportToId
  lastConnectionId : s'.lastConnectionId = s.lastConnectionId
  negotiations : s'.negotiations = s.negotiations
  transportToBytestream : s'.transportToBytestream = s.transportToBytestream
  closed : s'.closed = s.closed
  awaits : ∀ t, s'.Awaits t ↔ s.Awaits t
  log : ∃ actions, s'.log = s.log ++ actions ∧ ∀ a ∈ actions, a.quiet

theorem Still.refl (s : State) : Still s s :=
  ⟨rfl, rfl, rfl, rfl, rfl, fun _ => Iff.rfl, [], (List.append_nil _).symm, fun _ h => by cases h⟩

theorem Still.trans (h : Still s s') (h' : Still s' s'') : Still s s'' := by
  obtain ⟨actions, hlog, hquiet⟩ := h.log
  obtain ⟨actions', hlog', hquiet'⟩ := h'.log
  refine ⟨h'.transportToId.trans h.transportToId, h'.lastConnectionId.trans h.lastConnectionId,
    h'.negotiations.trans h.negotiations,
    h'.transportToBytestream.trans h.transportToBytestream, h'.closed.trans h.closed,
    fun t => (h'.awaits t).trans (h.awaits t), actions ++ actions', ?_, ?_⟩
  · rw [hlog', hlog, List.append_assoc]
  · intro a ha
    rcases List.mem_append.mp ha with ha | ha
    · exact hquiet a ha
    · exact hquiet' a ha

theorem still_of_eq (hid : s'.transportToId = s.transportToId)
    (hlast : s'.lastConnectionId = s.lastConnectionId)
    (hneg : s'.negotiations = s.negotiations)
    (htable : s'.transportToBytestream = s.transportToBytestream) (hclosed : s'.closed = s.closed)
    (htransport : s'.transport = s.transport) (hnext : s'.nextTransport = s.nextTransport)
    (hlog : s'.log = s.log) : Still s s' :=
  ⟨hid, hlast, hneg, htable, hclosed,
    fun t => by rw [State.Awaits, htransport, hnext, State.Awaits],
    [], by rw [hlog, List.append_nil], fun _ h => by cases h⟩

theorem still_record (s : State) (ha : a.quiet) : Still s (s.record a) :=
  ⟨rfl, rfl, rfl, rfl, rfl, fun _ => Iff.rfl, [a], rfl, fun _ h => List.mem_singleton.mp h ▸ ha⟩

/-- A transport that changes waits to be connected if it did before. -/
theorem still_setTransport (s : State) (t : Transport) {info : TransportInfo}
    (hawaits : info.state = .connecting ∧ info.connectedFor ≠ none ∧ t < s.nextTransport ↔
      s.Awaits t) : Still s (s.setTransport t info) := by
  refine ⟨rfl, rfl, rfl, rfl, rfl, fun t' => ?_, [], (List.append_nil _).symm,
    fun _ h => by cases h⟩
  by_cases ht : t' = t
  · rw [ht, ← hawaits, State.Awaits, State.setTransport_self]
    exact Iff.rfl
  · rw [State.Awaits, State.setTransport_of_ne s info ht]
    exact Iff.rfl

theorem still_blockReceiving (s : State) (t : Transport) (block : Bool) :
    Still s (s.blockReceiving t block) :=
  still_setTransport s t Iff.rfl

/-- A transport that does not wait to be connected is forgotten. -/
theorem still_forgetTransport (h : ¬ s.Awaits t) : Still s (s.forgetTransport t) :=
  still_setTransport s t (iff_of_false (fun hwait => hwait.2.1 rfl) h)

theorem still_setBytestream (s : State) (b : Bytestream) (info : BytestreamInfo) :
    Still s (s.setBytestream b info) :=
  still_of_eq rfl rfl rfl rfl rfl rfl rfl rfl

theorem still_fail (s : State) (f : Fault) : Still s (s.fail f) :=
  still_of_eq rfl rfl rfl rfl rfl rfl rfl rfl

theorem Still.announced (h : Still s s') : s'.announced = s.announced := by
  obtain ⟨actions, hlog, hquiet⟩ := h.log
  rw [State.announced, hlog, List.filterMap_append,
    List.filterMap_eq_nil_iff.mpr fun a ha => (hquiet a ha).1, List.append_nil]
  rfl

theorem Still.ended (h : Still s s') : s'.ended = s.ended := by
  obtain ⟨actions, hlog, hquiet⟩ := h.log
  rw [State.ended, hlog, List.filterMap_append,
    List.filterMap_eq_nil_iff.mpr fun a ha => (hquiet a ha).2, List.append_nil]
  rfl

theorem Still.orderly (h : Still s s') (hs : Orderly Action.announces Action.ends s.log) :
    Orderly Action.announces Action.ends s'.log := by
  obtain ⟨actions, hlog, hquiet⟩ := h.log
  rw [hlog]
  clear hlog h
  induction actions using List.reverseRecOn with
  | nil => rwa [List.append_nil]
  | append_singleton actions a ih =>
    rw [← List.append_assoc]
    refine (ih fun a' ha' => hquiet a' (List.mem_append_left _ ha')).concat_of_none ?_
    exact (hquiet a (by simp)).2

theorem Still.accounted (h : Still s s') (hs : Accounted s) : Accounted s' where
  orderly := h.orderly hs.orderly
  live t id hid := by
    rw [h.lastConnectionId, h.ended]
    exact hs.live t id (h.transportToId ▸ hid)
  injective t t' id hid hid' := by
    rw [h.transportToId] at hid hid'
    exact hs.injective t t' id hid hid'
  announced id hid := by
    rw [h.lastConnectionId, h.ended, h.transportToId]
    exact hs.announced id (h.announced ▸ hid)

theorem Still.placed (h : Still s s') (hs : Placed s) : Placed s' := by
  intro t id hid
  rw [h.negotiations, h.announced, h.transportToBytestream]
  exact hs t id (h.transportToId ▸ hid)

/-- An action that is announced or ended after the others. -/
theorem announced_record (s : State) (a : Action) :
    id ∈ (s.record a).announced ↔ id ∈ s.announced ∨ a.announces = some id :=
  mem_filterMap_concat

theorem ended_record (s : State) (a : Action) :
    id ∈ (s.record a).ended ↔ id ∈ s.ended ∨ a.ends = some id :=
  mem_filterMap_concat

/-! ## The end of a connection -/

/-- Connections may have ended, and nothing else has happened to them. -/
structure Sheds (s s' : State) : Prop where
  accounted : Accounted s'
  kept : ∀ t id, s'.transportToId.lookup t = some id → s.transportToId.lookup t = some id
  announced : s'.announced = s.announced
  negotiations : s'.negotiations = s.negotiations
  transportToBytestream : s'.transportToBytestream = s.transportToBytestream
  closed : s'.closed = s.closed
  awaits : ∀ t, s'.Awaits t ↔ s.Awaits t

theorem Sheds.trans (h : Sheds s s') (h' : Sheds s' s'') : Sheds s s'' where
  accounted := h'.accounted
  kept t id hid := h.kept t id (h'.kept t id hid)
  announced := h'.announced.trans h.announced
  negotiations := h'.negotiations.trans h.negotiations
  transportToBytestream := h'.transportToBytestream.trans h.transportToBytestream
  closed := h'.closed.trans h.closed
  awaits t := (h'.awaits t).trans (h.awaits t)

theorem Still.sheds (h : Still s s') (hs : Accounted s) : Sheds s s' where
  accounted := h.accounted hs
  kept _ _ hid := h.transportToId ▸ hid
  announced := h.announced
  negotiations := h.negotiations
  transportToBytestream := h.transportToBytestream
  closed := h.closed
  awaits := h.awaits

theorem Sheds.placed (h : Sheds s s') (hs : Placed s) : Placed s' := by
  intro t id hid
  rw [h.negotiations, h.announced, h.transportToBytestream]
  exact hs t id (h.kept t id hid)

theorem Sheds.known (h : Sheds s s') (hs : s.Known t) : s'.Known t := by
  intro id hid
  rw [h.announced]
  exact hs id (h.kept t id hid)

theorem Sheds.heard (h : Sheds s s') (hs : s.Heard t) : s'.Heard t := by
  intro id hid
  rw [h.announced, h.awaits]
  exact hs id (h.kept t id hid)

theorem Still.known (h : Still s s') (hs : s.Known t) : s'.Known t := by
  intro id hid
  rw [h.announced]
  exact hs id (h.transportToId ▸ hid)

theorem Still.heard (h : Still s s') (hs : s.Heard t) : s'.Heard t := by
  intro id hid
  rw [h.announced, h.awaits]
  exact hs id (h.transportToId ▸ hid)

section

variable (hs : Accounted s)

include hs

/-- `fire_connection_closed` by cases: an id is never zero. -/
theorem Accounted.fire_cases (t : Transport) (error : CloseError) (debugMsg : String) :
    (s.transportToId.lookup t = none ∧ s.fireConnectionClosed t error debugMsg = s) ∨
      ∃ id, s.transportToId.lookup t = some id ∧ s.fireConnectionClosed t error debugMsg =
        { s with transportToId := s.transportToId.erase t }.record
          (.connectionClosed id error debugMsg) := by
  unfold State.fireConnectionClosed
  cases hid : s.transportToId.lookup t with
  | none => exact .inl ⟨rfl, rfl⟩
  | some id =>
    refine .inr ⟨id, rfl, ?_⟩
    have hpos : 0 < id := (hs.live t id hid).1
    simp [Nat.pos_iff_ne_zero.mp hpos]

/-- The connection is over. -/
theorem Accounted.fire_gone (t : Transport) (error : CloseError) (debugMsg : String) :
    (s.fireConnectionClosed t error debugMsg).transportToId.lookup t = none := by
  rcases hs.fire_cases t error debugMsg with ⟨hnone, heq⟩ | ⟨id, -, heq⟩
  · rw [heq, hnone]
  · rw [heq]
    exact AList.lookup_erase t _

/-- **The end of a connection** that has been announced. -/
theorem Accounted.fire (hknown : s.Known t) (error : CloseError)
    (debugMsg : String) : Sheds s (s.fireConnectionClosed t error debugMsg) := by
  rcases hs.fire_cases t error debugMsg with ⟨-, heq⟩ | ⟨id, hid, heq⟩
  · rw [heq]
    exact (Still.refl s).sheds hs
  · rw [heq]
    obtain ⟨-, -, hnot⟩ := hs.live t id hid
    -- another transport has another id
    have hother (t' : Transport) (id' : ConnectionId)
        (hlookup : (s.transportToId.erase t).lookup t' = some id') :
        s.transportToId.lookup t' = some id' ∧ id' ≠ id := by
      have hne : t' ≠ t := by
        rintro rfl
        rw [AList.lookup_erase] at hlookup
        cases hlookup
      rw [AList.lookup_erase_ne hne] at hlookup
      exact ⟨hlookup, fun heq' => hne (hs.injective t' t id (heq' ▸ hlookup) hid)⟩
    have hann : (({ s with transportToId := s.transportToId.erase t } : State).record
        (.connectionClosed id error debugMsg)).announced = s.announced := by
      simp [State.announced, State.record, Action.announces]
    refine ⟨⟨?_, ?_, ?_, ?_⟩, fun t' id' hlookup => (hother t' id' hlookup).1, hann, rfl, rfl, rfl,
      fun _ => Iff.rfl⟩
    · refine hs.orderly.concat fun k hk => ?_
      cases hk
      exact ⟨hknown id hid, hnot⟩
    · intro t' id' hlookup
      obtain ⟨hold, hne⟩ := hother t' id' hlookup
      obtain ⟨hpos', hle', hnot'⟩ := hs.live t' id' hold
      refine ⟨hpos', hle', fun hmem => ?_⟩
      rcases (ended_record _ _).mp hmem with hmem | heq'
      · exact hnot' hmem
      · exact hne (Option.some.inj heq').symm
    · intro t₁ t₂ id' h₁ h₂
      exact hs.injective t₁ t₂ id' (hother t₁ id' h₁).1 (hother t₂ id' h₂).1
    · intro id' hmem
      obtain ⟨hpos', hle', hcase⟩ := hs.announced id' (hann ▸ hmem)
      refine ⟨hpos', hle', ?_⟩
      rcases hcase with hended | ⟨t', hlookup⟩
      · exact .inl ((ended_record _ _).mpr (.inl hended))
      · by_cases ht : t' = t
        · rw [ht, hid] at hlookup
          exact .inl ((ended_record _ _).mpr (.inr hlookup))
        · exact .inr ⟨t', by rw [← hlookup]; exact AList.lookup_erase_ne ht⟩

theorem Accounted.transportDisconnectedCb (hknown : s.Known t) :
    Sheds s (s.transportDisconnectedCb t) := by
  have hfire := hs.fire hknown .cancelled "local socket has been disconnected"
  unfold State.transportDisconnectedCb
  dsimp only
  split
  · exact hfire
  · exact hfire.trans ((still_record _ ⟨rfl, rfl⟩).sheds hfire.accounted)

/-- The tube learns that a transport is disconnected when it listens to it. -/
theorem Accounted.disconnected (hwait : ¬ s.Awaits t)
    (hknown : (s.transport t).signals = true → s.Known t) : Sheds s (s.disconnected t) := by
  have hset : Still s (s.setTransport t
      { s.transport t with state := .disconnected, bufferEmpty := true }) :=
    still_setTransport s t (iff_of_false (fun h => nomatch h.1) hwait)
  unfold State.disconnected
  dsimp only
  split
  · rename_i hsignals
    have hcb := (hset.accounted hs).transportDisconnectedCb (hset.known (hknown hsignals))
    exact (hset.sheds hs).trans hcb
  · exact hset.sheds hs

theorem Accounted.transportDisconnect (hwait : ¬ s.Awaits t)
    (hknown : (s.transport t).signals = true → s.Known t) :
    Sheds s (s.transportDisconnect t) := by
  unfold State.transportDisconnect
  split
  · exact (Still.refl s).sheds hs
  · exact hs.disconnected hwait hknown

/-- The ids depend on nothing else. -/
theorem Accounted.congr (hlog : s'.log = s.log)
    (hid : ∀ t, s'.transportToId.lookup t = s.transportToId.lookup t)
    (hlast : s'.lastConnectionId = s.lastConnectionId) : Accounted s' := by
  have hann : s'.announced = s.announced := congrArg (List.filterMap Action.announces) hlog
  have hended : s'.ended = s.ended := congrArg (List.filterMap Action.ends) hlog
  refine ⟨hlog ▸ hs.orderly, fun t id h => ?_, fun t t' id h h' => ?_, fun id h => ?_⟩
  · rw [hlast, hended]
    exact hs.live t id (hid t ▸ h)
  · exact hs.injective t t' id (hid t ▸ h) (hid t' ▸ h')
  · simp only [hlast, hended, hid]
    exact hs.announced id (hann ▸ h)

end

/-! ## The handlers -/

/-- All connections are accounted for, and the tube is not closed. -/
structure Upright (s : State) : Prop where
  accounted : Accounted s
  placed : Placed s
  heard : ∀ t, s.Heard t
  closed : s.closed = false

theorem Sheds.upright (h : Sheds s s') (hs : Upright s) : Upright s' :=
  ⟨h.accounted, h.placed hs.placed, fun t => h.heard (hs.heard t), h.closed.trans hs.closed⟩

theorem Still.upright (h : Still s s') (hs : Upright s) : Upright s' :=
  (h.sheds hs.accounted).upright hs

/-- A transport whose connection is over may leave the tables. -/
theorem Upright.leave (hs : Upright s) (hgone : s.transportToId.lookup t = none)
    (hlog : s'.log = s.log) (hid : ∀ t', s'.transportToId.lookup t' = s.transportToId.lookup t')
    (hlast : s'.lastConnectionId = s.lastConnectionId) (hneg : s'.negotiations = s.negotiations)
    (htable : s'.transportToBytestream = s.transportToBytestream.erase t)
    (htransport : s'.transport = s.transport) (hnext : s'.nextTransport = s.nextTransport)
    (hclosed : s'.closed = s.closed) : Upright s' := by
  have hann : s'.announced = s.announced := congrArg (List.filterMap Action.announces) hlog
  refine ⟨hs.accounted.congr hlog hid hlast, fun t' id h => ?_, fun t' id h => ?_,
    hclosed.trans hs.closed⟩
  · rw [hid] at h
    have hne : t' ≠ t := by
      rintro rfl
      rw [hgone] at h
      cases h
    rw [hneg, hann, htable, AList.lookup_erase_ne hne]
    exact hs.placed t' id h
  · rw [hid] at h
    rw [hann, State.Awaits, htransport, hnext]
    exact hs.heard t' id h

/-- A connection that has been announced ends because its bytestream is closed. -/
theorem Upright.removeTransport (hs : Upright s) (hwait : ¬ s.Awaits t) (b : Bytestream) :
    Upright (s.removeTransport b t) := by
  have hforget := still_forgetTransport hwait
  have hwait' : ¬ (s.forgetTransport t).Awaits t := fun h => hwait ((hforget.awaits t).mp h)
  have hdisconnect := (hforget.accounted hs.accounted).transportDisconnect hwait' fun h => by
    rw [forgetTransport_signals] at h
    cases h
  have hshed := (hforget.sheds hs.accounted).trans hdisconnect
  have hfire := hshed.accounted.fire (hshed.known ((hs.heard t).known hwait)) .connectionLost
    "bytestream has been broken"
  have hgone := hshed.accounted.fire_gone t .connectionLost "bytestream has been broken"
  refine ((hshed.trans hfire).upright hs).leave hgone rfl (fun t' => ?_) rfl rfl rfl rfl rfl rfl
  by_cases hne : t' = t
  · rw [hne, hgone]
    exact AList.lookup_erase t _
  · exact AList.lookup_erase_ne hne

theorem Upright.transportBufferEmptyCb (hs : Upright s)
    (hwait : (∃ b, s.transportToBytestream.lookup t = some b ∧
      (s.bytestream b).state = .closed) → ¬ s.Awaits t) : Upright (s.transportBufferEmptyCb t) := by
  unfold State.transportBufferEmptyCb
  cases hlookup : s.transportToBytestream.lookup t with
  | none => exact (still_fail s _).upright hs
  | some b =>
    dsimp only
    split
    · rename_i hclosed
      exact hs.removeTransport (hwait ⟨b, hlookup, hclosed⟩) b
    · exact (still_setBytestream s b _).upright hs

theorem still_addTransport (s : State) (t : Transport) : Still s (s.addTransport t) := by
  unfold State.addTransport
  split
  · exact still_fail s _
  · have hlisten : Still s (s.setTransport t
        { s.transport t with handler := true, signals := true }) :=
      still_setTransport s t Iff.rfl
    exact hlisten.trans (still_blockReceiving _ t false)

theorem Upright.extraBytestreamStateChangedCb (hs : Upright s) (b : Bytestream)
    (state : BytestreamState)
    (hwait : state = .closed → ∀ t, s.bytestreamToTransport.lookup b = some t →
      (s.transport t).bufferEmpty = true → ¬ s.Awaits t) :
    Upright (s.extraBytestreamStateChangedCb b state) := by
  cases state with
  | opened =>
    have hset := still_setBytestream s b { s.bytestream b with dataReceived := true }
    have hlisten := hset.upright hs
    unfold State.extraBytestreamStateChangedCb
    dsimp only
    split
    · exact (still_fail _ _).upright hlisten
    · exact (still_addTransport _ _).upright hlisten
  | closed =>
    unfold State.extraBytestreamStateChangedCb
    dsimp only
    split
    · exact hs
    · rename_i t hlookup
      split
      · rename_i hempty
        exact hs.removeTransport (hwait rfl t hlookup hempty) b
      · exact hs
  | localPending => exact hs
  | accepted => exact hs
  | initiating => exact hs
  | closing => exact hs

section

variable (s)

theorem still_bytestreamWriteBlockedCb (b : Bytestream) (blocked : Bool) :
    Still s (s.bytestreamWriteBlockedCb b blocked) := by
  unfold State.bytestreamWriteBlockedCb
  split
  · exact still_fail s _
  · exact still_blockReceiving s _ blocked

theorem still_dataReceivedCb (b : Bytestream) (data : List UInt8) :
    Still s (s.dataReceivedCb b data) := by
  unfold State.dataReceivedCb
  split
  · exact still_fail s _
  · rename_i t _
    split
    · exact still_fail s _
    · have hsend : Still s (s.record (.transportSend t data)) := still_record s ⟨rfl, rfl⟩
      refine hsend.trans ?_
      exact still_of_eq rfl rfl rfl rfl rfl rfl rfl rfl

theorem still_dataSent (b : Bytestream) (t : Transport) (result : State.SendResult) :
    Still s (s.dataSent b t result) := by
  cases result with
  | failed => exact .refl s
  | sent buffered =>
    have hset : Still s (s.setTransport t { s.transport t with
        bufferEmpty := (s.transport t).bufferEmpty &&
          !(buffered && (s.transport t).state = .connected) }) :=
      still_setTransport s t Iff.rfl
    unfold State.dataSent
    dsimp only
    split
    · exact hset
    · exact hset.trans (still_setBytestream _ b _)

theorem still_transportHandler (t : Transport) (data : List UInt8) :
    Still s (s.transportHandler t data) := by
  unfold State.transportHandler
  split
  · exact .refl s
  · exact still_record s ⟨rfl, rfl⟩

theorem still_frames (frames : List Frame) : Still s { s with frames := frames } :=
  still_of_eq rfl rfl rfl rfl rfl rfl rfl rfl

theorem still_remoteConnectionFired (t : Transport) :
    Still s (s.remoteConnectionFired t) := by
  unfold State.remoteConnectionFired
  split <;> exact still_of_eq rfl rfl rfl rfl rfl rfl rfl rfl

end

/-! ## Announcing a connection -/

/-- **A new id** for a transport that has none. -/
theorem Accounted.generateConnectionId (hs : Accounted s)
    (hnone : s.transportToId.lookup t = none) (hids : s.lastConnectionId + 1 < guintSize) :
    Accounted (s.generateConnectionId t) ∧
      (s.generateConnectionId t).transportToId.lookup t = some (s.lastConnectionId + 1) := by
  have hlast : (s.generateConnectionId t).lastConnectionId = s.lastConnectionId + 1 :=
    Nat.mod_eq_of_lt hids
  have hself : (s.generateConnectionId t).transportToId.lookup t = some (s.lastConnectionId + 1) :=
    hlast ▸ AList.lookup_insert s.transportToId
  have hne {t' : Transport} (h : t' ≠ t) :
      (s.generateConnectionId t).transportToId.lookup t' = s.transportToId.lookup t' :=
    AList.lookup_insert_ne h
  refine ⟨⟨hs.orderly, fun t' id h => ?_, fun t₁ t₂ id h₁ h₂ => ?_, fun id h => ?_⟩, hself⟩
  · rw [hlast]
    by_cases ht : t' = t
    · rw [ht, hself] at h
      cases h
      refine ⟨Nat.succ_pos _, Nat.le_refl _, fun hended => ?_⟩
      have hann : s.lastConnectionId + 1 ∈ s.announced := hs.orderly.mem_opens hended
      exact absurd (hs.announced _ hann).2.1 (Nat.not_succ_le_self _)
    · rw [hne ht] at h
      obtain ⟨hpos, hle, hnot⟩ := hs.live t' id h
      exact ⟨hpos, Nat.le_succ_of_le hle, hnot⟩
  · -- an old id is smaller than the new one
    have hold {t' : Transport} (ht : t' ≠ t)
        (h : (s.generateConnectionId t).transportToId.lookup t' = some (s.lastConnectionId + 1)) :
        False := by
      rw [hne ht] at h
      exact absurd (hs.live t' _ h).2.1 (Nat.not_succ_le_self _)
    by_cases ht₁ : t₁ = t
    · by_contra hdiff
      rw [ht₁, hself] at h₁
      cases h₁
      exact hold (fun ht₂ => hdiff (ht₁.trans ht₂.symm)) h₂
    · by_cases ht₂ : t₂ = t
      · rw [ht₂, hself] at h₂
        cases h₂
        exact (hold ht₁ h₁).elim
      · rw [hne ht₁] at h₁
        rw [hne ht₂] at h₂
        exact hs.injective t₁ t₂ id h₁ h₂
  · rw [hlast]
    obtain ⟨hpos, hle, hcase⟩ := hs.announced id h
    refine ⟨hpos, Nat.le_succ_of_le hle, hcase.imp_right fun ⟨t', ht'⟩ => ⟨t', ?_⟩⟩
    rw [hne]
    · exact ht'
    · rintro rfl
      rw [hnone] at ht'
      cases ht'

/-- A connection with an id is announced. -/
theorem Accounted.announce (hs : Accounted s) (hid : s.transportToId.lookup t = some id)
    (ha : a.announces = some id) (hends : a.ends = none) : Accounted (s.record a) := by
  have hended : (s.record a).ended = s.ended := by
    simp [State.ended, State.record, hends]
  refine ⟨hs.orderly.concat_of_none hends, fun t' id' h => ?_, hs.injective, fun id' h => ?_⟩
  · rw [hended]
    exact hs.live t' id' h
  · rw [hended]
    rcases (announced_record s a).mp h with h | h
    · exact hs.announced id' h
    · rw [ha] at h
      cases h
      exact ⟨(hs.live t id hid).1, (hs.live t id hid).2.1, .inr ⟨t, hid⟩⟩

/-! ## New connections -/

/-- A transport that is in no table and waits for no stream initiation has no id. -/
theorem Placed.fresh (hs : Placed s) (ht : s.transportToBytestream.lookup t = none)
    (hneg : t ∉ s.negotiations) : s.transportToId.lookup t = none := by
  rw [Option.eq_none_iff_forall_ne_some]
  intro id hid
  rcases hs t id hid with ⟨hmem, -⟩ | hin
  · exact hneg hmem
  · exact hin ht

/-- Whether a stream initiation can start depends on the tube and on the presence. -/
theorem startStreamInitiation_snd (s s' : State) (hconfig : s'.config = s.config) (t : Transport)
    (presence : Option (Option String)) :
    (s'.startStreamInitiation t presence).2 = (s.startStreamInitiation t presence).2 := by
  unfold State.startStreamInitiation
  rw [hconfig]
  cases s.config.targetHandleType with
  | room => rfl
  | contact =>
    cases presence with
    | none => rfl
    | some resource => cases resource <;> rfl

theorem checkIncomingConnection_snd (s s' : State) (hconfig : s'.config = s.config)
    (t : Transport) (incoming : State.Incoming) :
    (s'.checkIncomingConnection t incoming).2 = (s.checkIncomingConnection t incoming).2 := by
  unfold State.checkIncomingConnection
  rw [hconfig]
  cases s.config.accessControl with
  | localhost => rfl
  | port host port => rfl
  | credentials => cases incoming.recvCredentials <;> rfl

/-- **A local connection** gets its id when it is announced. -/
theorem Upright.initiateLocal (hs : Upright s) (hnone : s.transportToId.lookup t = none)
    (presence : Option (Option String))
    (hids : (s.startStreamInitiation t presence).2 = true → s.lastConnectionId + 1 < guintSize) :
    Upright (s.initiateLocal t presence) := by
  unfold State.initiateLocal
  rcases startStreamInitiation_cases s t presence with heq | ⟨fullJid, child, heq⟩
  · rw [heq]
    exact hs
  · rw [heq] at hids ⊢
    have hlt : s.lastConnectionId + 1 < guintSize := hids rfl
    let s₁ := { s with negotiations := s.negotiations ++ [t] }.record
      (.streamInit fullJid child s.config.id)
    have hinit : Still { s with negotiations := s.negotiations ++ [t] } s₁ :=
      still_record _ ⟨rfl, rfl⟩
    have haccounted : Accounted s₁ :=
      hinit.accounted (hs.accounted.congr rfl (fun _ => rfl) rfl)
    obtain ⟨hgenerated, hid⟩ := haccounted.generateConnectionId hnone hlt
    have hlast : (s₁.generateConnectionId t).lastConnectionId = s.lastConnectionId + 1 :=
      Nat.mod_eq_of_lt hlt
    have hannounces : (Action.newLocalConnection
        (s₁.generateConnectionId t).lastConnectionId).announces = some (s.lastConnectionId + 1) :=
      congrArg some hlast
    have hsame : s₁.announced = s.announced := hinit.announced
    have hann {id : ConnectionId} (hmem : id ∈ s.announced) :
        id ∈ (s₁.fireNewLocalConnection t).announced :=
      (announced_record _ _).mpr (.inl (hsame.symm ▸ hmem))
    have hnew {id : ConnectionId}
        (h : (s₁.fireNewLocalConnection t).transportToId.lookup t = some id) :
        id ∈ (s₁.fireNewLocalConnection t).announced :=
      (announced_record _ _).mpr (.inr (hannounces.trans (hid.symm.trans h)))
    have hold {t' : Transport} {id : ConnectionId} (ht : t' ≠ t)
        (h : (s₁.fireNewLocalConnection t).transportToId.lookup t' = some id) :
        s.transportToId.lookup t' = some id :=
      (AList.lookup_insert_ne ht).symm.trans h
    refine ⟨hgenerated.announce hid hannounces rfl, fun t' id h => ?_, fun t' id h => ?_,
      hs.closed⟩
    · by_cases ht : t' = t
      · rw [ht] at h ⊢
        exact .inl ⟨List.mem_append_right _ (List.mem_singleton_self t), hnew h⟩
      · exact (hs.placed t' id (hold ht h)).imp_left fun ⟨hmem, hknown⟩ =>
          ⟨List.mem_append_left _ hmem, hann hknown⟩
    · by_cases ht : t' = t
      · rw [ht] at h
        exact .inl (hnew h)
      · exact (hs.heard t' id (hold ht h)).imp_left hann

theorem Upright.credentialsReceivedCb (hs : Upright s) (hnone : s.transportToId.lookup t = none)
    (credentials : State.Credentials) (presence : Option (Option String))
    (hids : credentials = .received 1 s.config.uid →
      (s.startStreamInitiation t presence).2 = true → s.lastConnectionId + 1 < guintSize) :
    Upright (s.credentialsReceivedCb t credentials presence) := by
  have hblocked := (still_blockReceiving s t true).upright hs
  unfold State.credentialsReceivedCb
  cases credentials with
  | error => exact hblocked
  | received length uid =>
    dsimp only
    split_ifs with hlength huid
    · exact hblocked
    · exact hblocked
    · have hcredentials : State.Credentials.received length uid = .received 1 s.config.uid := by
        rw [not_not.mp hlength]
        exact congrArg _ (not_not.mp huid)
      have hsame := startStreamInitiation_snd s (s.blockReceiving t true) rfl t presence
      exact hblocked.initiateLocal hnone presence fun hok =>
        hids hcredentials (hsame.symm.trans hok)

theorem still_newTransport (s : State) (state : TransportState) :
    Still s (s.newTransport state) := by
  refine ⟨rfl, rfl, rfl, rfl, rfl, fun t => ?_, [], (List.append_nil _).symm, fun _ h => by cases h⟩
  by_cases ht : t = s.nextTransport
  · refine iff_of_false (fun h => ?_) fun h => absurd h.2.2 (Nat.not_lt.mpr (Nat.le_of_eq ht.symm))
    have hnew : (s.newTransport state).transport t = .new state := by
      rw [ht]
      exact State.setTransport_self ..
    exact h.2.1 (by rw [hnew]; rfl)
  · have hsame : (s.newTransport state).transport t = s.transport t :=
      State.setTransport_of_ne s _ ht
    rw [State.Awaits, hsame]
    refine and_congr_right fun _ => and_congr_right fun _ => ?_
    exact ⟨fun h => Nat.lt_of_le_of_ne (Nat.le_of_lt_succ h) ht, Nat.lt_succ_of_lt⟩

theorem Upright.localNewConnectionCb (hs : Upright s)
    (hnone : s.transportToId.lookup s.nextTransport = none) (incoming : State.Incoming)
    (presence : Option (Option String))
    (hids : (s.checkIncomingConnection s.nextTransport incoming).2 = true →
      (s.startStreamInitiation s.nextTransport presence).2 = true →
        s.lastConnectionId + 1 < guintSize) :
    Upright (s.localNewConnectionCb incoming presence) := by
  let s₁ := (s.newTransport .connected).blockReceiving s.nextTransport true
  have hnew : Still s s₁ := (still_newTransport s .connected).trans (still_blockReceiving _ _ true)
  have hcheck := checkIncomingConnection_snd s s₁ rfl s.nextTransport incoming
  unfold State.localNewConnectionCb
  dsimp only
  rcases checkIncomingConnection_cases s₁ s.nextTransport incoming with ⟨ok, heq⟩ | heq
  · rw [heq] at hcheck ⊢
    cases ok with
    | false => exact hnew.upright hs
    | true =>
      have hsame := startStreamInitiation_snd s s₁ rfl s.nextTransport presence
      exact (hnew.upright hs).initiateLocal hnone presence fun hok =>
        hids hcheck.symm (hsame.symm.trans hok)
  · rw [heq]
    have hwait : Still s₁ { s₁.blockReceiving s.nextTransport false with
        awaitingCredentials := s₁.awaitingCredentials ++ [s.nextTransport] } :=
      (still_blockReceiving s₁ s.nextTransport false).trans
        (still_of_eq rfl rfl rfl rfl rfl rfl rfl rfl)
    exact (hnew.trans hwait).upright hs

/-- All connections are accounted for, but that of `t` may not have been announced. -/
structure Unheard (t : Transport) (s : State) : Prop where
  accounted : Accounted s
  placed : Placed s
  heard : ∀ t', t' ≠ t → s.Heard t'
  closed : s.closed = false

theorem Still.unheard (h : Still s s') (hs : Unheard t s) : Unheard t s' :=
  ⟨h.accounted hs.accounted, h.placed hs.placed, fun t' ht => h.heard (hs.heard t' ht),
    h.closed.trans hs.closed⟩

theorem Unheard.upright (hs : Unheard t s) (ht : s.Heard t) : Upright s := by
  refine ⟨hs.accounted, hs.placed, fun t' => ?_, hs.closed⟩
  by_cases hne : t' = t
  · rw [hne]
    exact ht
  · exact hs.heard t' hne

theorem Upright.unheard (hs : Upright s) (t : Transport) : Unheard t s :=
  ⟨hs.accounted, hs.placed, fun t' _ => hs.heard t', hs.closed⟩

/-- Whether the transport itself waits to be connected does not matter. -/
theorem Unheard.setTransport (hs : Unheard t s) (info : TransportInfo) :
    Unheard t (s.setTransport t info) := by
  refine ⟨hs.accounted.congr rfl (fun _ => rfl) rfl, hs.placed, fun t' ht id hid => ?_, hs.closed⟩
  rw [State.Awaits, State.setTransport_of_ne s info ht]
  exact hs.heard t' ht id hid

/-- An id and a place in the tables for a transport. -/
def State.enterTransport (s : State) (b : Bytestream) (t : Transport) : State :=
  ((s.generateConnectionId t).blockReading b true).insertPair b t

theorem newConnectionToSocket_eq (s : State) (b : Bytestream) {outcome : TransportState}
    (hconnect : ¬ (s.config.addressType = .unix ∧ outcome ≠ .connected)) :
    s.newConnectionToSocket b outcome =
      ((s.newTransport outcome).blockReceiving s.nextTransport true).enterTransport b
        s.nextTransport :=
  if_neg hconnect

theorem enterTransport_frame (s : State) (b : Bytestream) (t : Transport) :
    (s.enterTransport b t).transport = s.transport ∧
      (s.enterTransport b t).nextTransport = s.nextTransport ∧
      (s.enterTransport b t).config = s.config ∧ (s.enterTransport b t).fault = s.fault :=
  ⟨rfl, rfl, rfl, rfl⟩

/-- **A remote connection** gets its id with its place in the tables. -/
theorem Upright.enterTransport (hs : Upright s) (hnone : s.transportToId.lookup t = none)
    (b : Bytestream) (hids : s.lastConnectionId + 1 < guintSize) :
    Unheard t (s.enterTransport b t) := by
  obtain ⟨hgenerated, -⟩ := hs.accounted.generateConnectionId hnone hids
  have hold {t' : Transport} {id : ConnectionId} (ht : t' ≠ t)
      (h : (s.enterTransport b t).transportToId.lookup t' = some id) :
      s.transportToId.lookup t' = some id :=
    (AList.lookup_insert_ne ht).symm.trans h
  refine ⟨hgenerated.congr rfl (fun _ => rfl) rfl, fun t' id h => ?_, fun t' ht id h => ?_,
    hs.closed⟩
  · rw [State.enterTransport, State.insertPair_transportToBytestream]
    by_cases ht : t' = t
    · rw [ht, AList.lookup_insert]
      exact .inr (Option.some_ne_none b)
    · rw [AList.lookup_insert_ne ht]
      exact hs.placed t' id (hold ht h)
  · exact hs.heard t' id (hold ht h)

/-- The new transport. -/
theorem newConnectionToSocket_frame (s : State) (b : Bytestream) {outcome : TransportState}
    (hconnect : ¬ (s.config.addressType = .unix ∧ outcome ≠ .connected)) :
    ((s.newConnectionToSocket b outcome).transport s.nextTransport).state = outcome ∧
      s.nextTransport < (s.newConnectionToSocket b outcome).nextTransport ∧
      (s.newConnectionToSocket b outcome).config = s.config ∧
      (s.newConnectionToSocket b outcome).fault = s.fault := by
  have hnew : (s.newTransport outcome).transport s.nextTransport = .new outcome :=
    State.setTransport_self ..
  obtain ⟨htransport, hnext, hconfig, hfault⟩ := enterTransport_frame
    ((s.newTransport outcome).blockReceiving s.nextTransport true) b s.nextTransport
  rw [newConnectionToSocket_eq s b hconnect, htransport, hnext, hconfig, hfault,
    State.blockReceiving, State.setTransport_self, hnew]
  exact ⟨rfl, Nat.lt_succ_self _, rfl, rfl⟩

/-- **The announcement** of a remote connection, when the parameter is known. -/
theorem Unheard.fireNewRemoteConnection (hs : Unheard t s) (contact : Handle)
    {param : Option AccessParam} (hreadable : s.readable param = true) :
    Upright (s.fireNewRemoteConnection t contact param) := by
  have hemit (param : AccessParam) : Upright
      (if (s.transportToId.lookup t).getD 0 = 0 then s.fail .connectionIdZero
        else s.record (.newRemoteConnection contact param
          ((s.transportToId.lookup t).getD 0))) := by
    cases hid : s.transportToId.lookup t with
    | none =>
      refine (still_fail s _).upright (hs.upright fun id h => ?_)
      rw [hid] at h
      cases h
    | some id =>
      have hpos : 0 < id := (hs.accounted.live t id hid).1
      rw [Option.getD_some, if_neg (Nat.pos_iff_ne_zero.mp hpos)]
      have hann {id' : ConnectionId} (h : id' ∈ s.announced) :
          id' ∈ (s.record (.newRemoteConnection contact param id)).announced :=
        (announced_record s _).mpr (.inl h)
      refine ⟨hs.accounted.announce hid rfl rfl, fun t' id' h => ?_, fun t' id' h => ?_,
        hs.closed⟩
      · exact (hs.placed t' id' h).imp_left fun ⟨hneg, hmem⟩ => ⟨hneg, hann hmem⟩
      · by_cases ht : t' = t
        · rw [ht] at h
          have hsame : id = id' := Option.some.inj (hid.symm.trans h)
          exact .inl ((announced_record s _).mpr (.inr (congrArg some hsame)))
        · exact (hs.heard t' ht id' h).imp_left hann
  unfold State.fireNewRemoteConnection
  unfold State.readable at hreadable
  cases haccess : s.config.accessControl with
  | localhost => exact hemit .dummy
  | credentials =>
    cases param with
    | none => simp [haccess] at hreadable
    | some param => exact hemit param
  | port host port =>
    cases param with
    | none => simp [haccess] at hreadable
    | some param => exact hemit param

theorem still_openTube (s : State) : Still s s.openTube := by
  unfold State.openTube
  split
  · exact ⟨rfl, rfl, rfl, rfl, rfl, fun _ => Iff.rfl, [.tubeChannelStateChanged .opened], rfl,
      fun a ha => List.mem_singleton.mp ha ▸ ⟨rfl, rfl⟩⟩
  · exact .refl s

theorem still_bytestreamAccept (s : State) (b : Bytestream) (sent : Bool) :
    Still s (s.bytestreamAccept b sent) := by
  have hrecord : Still s (s.record (.bytestreamAccept b)) := still_record s ⟨rfl, rfl⟩
  unfold State.bytestreamAccept
  dsimp only
  split
  · exact hrecord.trans (still_setBytestream _ b _)
  · exact hrecord

/-- Opening the tube and accepting the bytestream do not touch the transports. -/
theorem bytestreamAccept_transport (s : State) (b : Bytestream) (sent : Bool) :
    (s.openTube.bytestreamAccept b sent).transport = s.transport ∧
      (s.openTube.bytestreamAccept b sent).nextTransport = s.nextTransport ∧
      (s.openTube.bytestreamAccept b sent).config = s.config := by
  unfold State.bytestreamAccept State.openTube
  dsimp only
  split <;> split <;> exact ⟨rfl, rfl, rfl⟩

/-- The connection is announced now, or when its transport is connected. -/
theorem Unheard.announceRemote (hs : Unheard t s) (b : Bytestream) (contact : Handle)
    {param : Option AccessParam} (hlt : t < s.nextTransport)
    (hstate : (s.transport t).state = .connected ∧ s.readable param = true ∨
      (s.transport t).state = .connecting) :
    Upright (s.announceRemote b t contact param) := by
  unfold State.announceRemote
  rcases hstate with ⟨hconnected, hreadable⟩ | hconnecting
  · rw [if_pos hconnected]
    exact ((still_setBytestream s b _).unheard hs).fireNewRemoteConnection contact hreadable
  · rw [if_neg (by rw [hconnecting]; exact nofun)]
    refine (hs.setTransport _).upright fun id _ => .inr ⟨?_, ?_, hlt⟩
    · rw [State.setTransport_self]
      exact hconnecting
    · rw [State.setTransport_self]
      exact Option.some_ne_none contact

theorem Upright.addBytestream (hs : Upright s) (hfault : s.fault = none)
    (hnone : s.transportToId.lookup s.nextTransport = none) (contact : Handle)
    {outcome : TransportState} (sent : Bool) {param : Option AccessParam}
    (hids : s.config.requested = true → ¬ (s.config.addressType = .unix ∧ outcome ≠ .connected) →
      s.lastConnectionId + 1 < guintSize ∧
        (outcome = .connected ∧ s.readable param = true ∨ outcome = .connecting)) :
    Upright (s.addBytestream contact outcome sent param) := by
  let s₁ := s.newBytestream .localPending
  have hstill : Still s s₁ := still_of_eq rfl rfl rfl rfl rfl rfl rfl rfl
  have hnew := hstill.upright hs
  unfold State.addBytestream
  dsimp only
  split
  · exact (still_record s₁ ⟨rfl, rfl⟩).upright hnew
  · rename_i hrequested
    have hrequested' : s.config.requested = true := by
      change ¬ (!s.config.requested) = true at hrequested
      simpa using hrequested
    by_cases hconnect : s.config.addressType = .unix ∧ outcome ≠ .connected
    · have hfail : s₁.newConnectionToSocket s.nextBytestream outcome = s₁.fail .connectError :=
        if_pos hconnect
      have hfaulty : (s₁.fail .connectError).fault.isSome = true := rfl
      rw [hfail, if_pos hfaulty]
      exact (still_fail s₁ _).upright hnew
    · obtain ⟨hlt, hcase⟩ := hids hrequested' hconnect
      have htransport : Still s₁ ((s₁.newTransport outcome).blockReceiving s₁.nextTransport true) :=
        (still_newTransport s₁ outcome).trans (still_blockReceiving _ _ true)
      have hunheard : Unheard s₁.nextTransport
          (s₁.newConnectionToSocket s.nextBytestream outcome) := by
        have hstays := hstill.trans htransport
        rw [newConnectionToSocket_eq s₁ s.nextBytestream hconnect]
        refine (htransport.upright hnew).enterTransport ?_ s.nextBytestream ?_
        · rw [hstays.transportToId]
          exact hnone
        · rw [hstays.lastConnectionId]
          exact hlt
      obtain ⟨hstate, hnext, hconfig, hfault'⟩ :=
        newConnectionToSocket_frame s₁ s.nextBytestream hconnect
      have hnofault :
          ¬ (s₁.newConnectionToSocket s.nextBytestream outcome).fault.isSome = true := by
        rw [hfault', show s₁.fault = none from hfault]
        exact nofun
      rw [if_neg hnofault]
      obtain ⟨htransport, hnext', hconfig'⟩ := bytestreamAccept_transport
        (s₁.newConnectionToSocket s.nextBytestream outcome) s.nextBytestream sent
      refine Unheard.announceRemote ((still_bytestreamAccept _ _ sent).unheard
        ((still_openTube _).unheard hunheard)) _ contact (by rw [hnext']; exact hnext) ?_
      rw [htransport, State.readable, hconfig', hconfig]
      rcases hcase with ⟨rfl, hreadable⟩ | rfl
      · exact .inl ⟨hstate, hreadable⟩
      · exact .inr hstate

/-! ## Closing the tube -/

/-- One connection ends with the tube, before its pair is erased. -/
theorem Upright.removeEntry_sheds (hs : Upright s) (hwait : ¬ s.Awaits t) (b : Bytestream) :
    ∃ s₁, Sheds s s₁ ∧ s₁.transportToId.lookup t = none ∧
      s.removeEntry ⟨b, t⟩ = s₁.erasePair b t := by
  let s₁ := s.setBytestream b { s.bytestream b with stateChanged := false, dataReceived := false }
  let s₂ := (s₁.forgetTransport t).record (.bytestreamClose b)
  have hdeafen : Still s s₁ := still_setBytestream s b _
  have hwait₁ : ¬ s₁.Awaits t := fun h => hwait ((hdeafen.awaits t).mp h)
  have hforget : Still s s₂ :=
    (hdeafen.trans (still_forgetTransport hwait₁)).trans (still_record _ ⟨rfl, rfl⟩)
  have hwait₂ : ¬ s₂.Awaits t := fun h => hwait ((hforget.awaits t).mp h)
  have hdeaf : (s₂.transport t).signals = false := forgetTransport_signals s₁ t
  have hdisconnect : Sheds s₂ (s₂.transportDisconnect t) :=
    (hforget.accounted hs.accounted).transportDisconnect hwait₂ fun h =>
      absurd h (Bool.eq_false_iff.mp hdeaf)
  have hshed := (hforget.sheds hs.accounted).trans hdisconnect
  have hknown := hshed.known ((hs.heard t).known hwait)
  exact ⟨_, hshed.trans (hshed.accounted.fire hknown .cancelled "tube is closing"),
    hshed.accounted.fire_gone t .cancelled "tube is closing", rfl⟩

/-- One connection ends with the tube. -/
theorem Upright.removeEntry (hs : Upright s) (hwait : ¬ s.Awaits t) (b : Bytestream) :
    Upright (s.removeEntry ⟨b, t⟩) ∧ (s.removeEntry ⟨b, t⟩).negotiations = s.negotiations ∧
      ∀ t', (s.removeEntry ⟨b, t⟩).Awaits t' ↔ s.Awaits t' := by
  obtain ⟨s₁, hshed, hgone, heq⟩ := hs.removeEntry_sheds hwait b
  rw [heq]
  refine ⟨?_, hshed.negotiations, hshed.awaits⟩
  exact (hshed.upright hs).leave hgone rfl (fun _ => rfl) rfl rfl rfl rfl rfl rfl

/-- **The loop** ends the connections one after the other. -/
theorem Upright.foldl_removeEntry (entries : List (Σ _ : Bytestream, Transport)) (hs : Upright s)
    (hwait : ∀ entry ∈ entries, ¬ s.Awaits entry.2) :
    Upright (entries.foldl State.removeEntry s) ∧
      (entries.foldl State.removeEntry s).negotiations = s.negotiations := by
  induction entries generalizing s with
  | nil => exact ⟨hs, rfl⟩
  | cons entry entries ih =>
    obtain ⟨hentry, hneg, hawaits⟩ := hs.removeEntry (hwait entry List.mem_cons_self) entry.1
    obtain ⟨hloop, hneg'⟩ := ih hentry fun entry' hmem h =>
      hwait entry' (List.mem_cons_of_mem _ hmem) ((hawaits entry'.2).mp h)
    exact ⟨hloop, hneg'.trans hneg⟩

/-- The loop empties the first table. -/
theorem Tables.foldl_removeEntry_empty (entries : List (Σ _ : Bytestream, Transport))
    (hs : Tables s) (hkeys : entries.NodupKeys)
    (hin : ∀ b t, s.bytestreamToTransport.lookup b = some t ↔ ⟨b, t⟩ ∈ entries) :
    ∀ b, (entries.foldl State.removeEntry s).bytestreamToTransport.lookup b = none := by
  induction entries generalizing s with
  | nil =>
    intro b
    rw [Option.eq_none_iff_forall_ne_some]
    intro t hlookup
    cases (hin b t).mp hlookup
  | cons entry entries ih =>
    obtain ⟨hnot, hkeys⟩ := List.nodupKeys_cons.mp hkeys
    obtain ⟨htables, herase⟩ := hs.removeEntry ((hin entry.1 entry.2).mpr List.mem_cons_self)
    refine ih htables hkeys fun b t => ?_
    rw [herase]
    by_cases hb : b = entry.1
    · rw [hb, AList.lookup_erase]
      refine iff_of_false nofun fun hmem => hnot ?_
      exact List.mem_keys.mpr ⟨t, hmem⟩
    · rw [AList.lookup_erase_ne hb, hin]
      refine ⟨fun hmem => (List.mem_cons.mp hmem).resolve_left fun heq => hb ?_,
        List.mem_cons_of_mem entry⟩
      exact congrArg Sigma.fst heq

/-- **A tube that is closed** has ended all the connections that it announced, when none of
them waits for its stream initiation. -/
theorem Upright.streamClose (hs : Upright s) (htables : Tables s) (hneg : s.negotiations = [])
    (hwait : ∀ entry ∈ s.bytestreamToTransport.entries, ¬ s.Awaits entry.2)
    (closedRemotely : Bool) :
    Accounted (s.streamClose closedRemotely) ∧
      ∀ id ∈ (s.streamClose closedRemotely).announced,
        id ∈ (s.streamClose closedRemotely).ended := by
  let s₁ := s.bytestreamToTransport.entries.foldl State.removeEntry s
  obtain ⟨hloop, hneg₁⟩ : Upright s₁ ∧ s₁.negotiations = s.negotiations :=
    hs.foldl_removeEntry s.bytestreamToTransport.entries hwait
  have hkeys := s.bytestreamToTransport.nodupKeys
  have htables₁ : Tables s₁ :=
    htables.foldl_removeEntry _ hkeys fun entry hmem => AList.mem_lookup_iff.mpr hmem
  have hempty : ∀ b, s₁.bytestreamToTransport.lookup b = none :=
    htables.foldl_removeEntry_empty _ hkeys fun b t => AList.mem_lookup_iff
  have hnone (t : Transport) : s₁.transportToId.lookup t = none := by
    refine hloop.placed.fresh ?_ ?_
    · rw [Option.eq_none_iff_forall_ne_some]
      intro b hlookup
      rw [← htables₁.inverse, hempty] at hlookup
      cases hlookup
    · rw [hneg₁, hneg]
      exact List.not_mem_nil
  have hended (id : ConnectionId) (hid : id ∈ s₁.announced) : id ∈ s₁.ended := by
    obtain ⟨-, -, hended | ⟨t, ht⟩⟩ := hloop.accounted.announced id hid
    · exact hended
    · rw [hnone] at ht
      cases ht
  have hclose {s₂ : State} (hstill : Still s₁ s₂) : Accounted { s₂ with closed := true } ∧
      ∀ id ∈ State.announced { s₂ with closed := true },
        id ∈ State.ended { s₂ with closed := true } := by
    refine ⟨(hstill.accounted hloop.accounted).congr rfl (fun _ => rfl) rfl, ?_⟩
    intro id (hid : id ∈ s₂.announced)
    change id ∈ s₂.ended
    rw [hstill.announced] at hid
    rw [hstill.ended]
    exact hended id hid
  unfold State.streamClose
  dsimp only
  split
  · exact hclose (still_record s₁ ⟨rfl, rfl⟩)
  · exact hclose (.refl s₁)

/-! ## Runs -/

/-- What holds in every state that is reached. -/
structure Sound (s : State) : Prop where
  tables : Tables s
  accounted : Accounted s
  placed : s.fault = none → s.closed = false → Placed s
  heard : s.closed = false → ∀ t, s.Heard t
  ended : s.closed = true → ∀ id ∈ s.announced, id ∈ s.ended

theorem sound_new (config : Config) : Sound (State.new config) where
  tables := tables_new config
  accounted := accounted_new config
  placed _ _ := placed_new config
  heard _ _ _ h := by cases h
  ended h := by cases h

theorem Upright.sound (hs : Upright s) (htables : Tables s) : Sound s :=
  ⟨htables, hs.accounted, fun _ _ => hs.placed, fun _ => hs.heard, fun h => by
    rw [hs.closed] at h
    cases h⟩

theorem Established.not_awaits (h : Established s e) (ht : t ∈ e.ends s) : ¬ s.Awaits t :=
  fun hwait => h.connected t ht hwait.1

section

variable (hs : Upright s)

include hs

/-- The tube is closed, by an event that ends all connections in the tables. -/
theorem Upright.sound_streamClose (htables : Tables s)
    (hok : Established s e) (hcloses : e.closesTube s = true)
    (hends : e.ends s = s.bytestreamToTransport.entries.map fun entry => entry.2)
    (closedRemotely : Bool) : Sound (s.streamClose closedRemotely) := by
  obtain ⟨haccounted, hended⟩ := hs.streamClose htables (hok.settled hcloses)
    (fun entry hmem => hok.not_awaits (hends ▸ List.mem_map_of_mem hmem)) closedRemotely
  refine ⟨htables.streamClose closedRemotely, haccounted, fun _ hopen => ?_, fun hopen => ?_,
    fun _ => hended⟩
  · cases hopen
  · cases hopen

/-- The answer to a stream initiation. -/
theorem Upright.siReply (htables : Tables s) (ht : t ∈ s.negotiations)
    {accepted : Option BytestreamState} (hop : operation s (.siReply t accepted) = some s')
    (htables' : Tables s') : Sound s' := by
  have htable := (htables.waiting_mem (List.mem_append_left _ ht)).1
  have herased : Accounted { s with negotiations := s.negotiations.erase t } :=
    hs.accounted.congr rfl (fun _ => rfl) rfl
  -- the connection was announced when the initiation was sent
  have hknown : s.Known t := fun id hid =>
    (hs.placed t id hid).elim And.right fun hin => absurd htable hin
  simp only [operation, if_pos ht] at hop
  cases accepted with
  | none =>
    cases hop
    have hfire := herased.fire hknown .connectionRefused "connection has been refused"
    have hgone := herased.fire_gone t .connectionRefused "connection has been refused"
    refine Upright.sound ⟨hfire.accounted, fun t' id h => ?_, fun t' => hfire.heard (hs.heard t'),
      hfire.closed.trans hs.closed⟩ htables'
    have hne : t' ≠ t := by
      rintro rfl
      rw [State.extraBytestreamNegotiateCb, hgone] at h
      cases h
    rcases hs.placed t' id (hfire.kept t' id h) with ⟨hneg, hmem⟩ | hin
    · refine .inl ⟨?_, hfire.announced.symm ▸ hmem⟩
      exact hfire.negotiations.symm ▸ (List.mem_erase_of_ne hne).mpr hneg
    · exact .inr (hfire.transportToBytestream.symm ▸ hin)
  | some state =>
    cases hop
    let s₁ := { s with negotiations := s.negotiations.erase t }.newBytestream state
    have haccounted : Accounted s₁ := herased.congr rfl (fun _ => rfl) rfl
    unfold State.extraBytestreamNegotiateCb at htables' ⊢
    dsimp only at htables' ⊢
    split at htables'
    · rename_i hstate
      rw [if_pos hstate]
      refine ⟨htables', (still_fail s₁ _).accounted haccounted, by rintro ⟨⟩, fun _ => hs.heard,
        fun hclosed => ?_⟩
      rw [show (s₁.fail .negotiateNotConnected).closed = false from hs.closed] at hclosed
      cases hclosed
    · rename_i hstate
      rw [if_neg hstate]
      refine Upright.sound ⟨haccounted.congr rfl (fun _ => rfl) rfl, fun t' id h => ?_,
        hs.heard, hs.closed⟩ htables'
      rw [State.insertPair_transportToBytestream]
      by_cases hne : t' = t
      · rw [hne, AList.lookup_insert]
        exact .inr (Option.some_ne_none _)
      · rw [AList.lookup_insert_ne hne]
        exact (hs.placed t' id h).imp_left (And.imp_left (List.mem_erase_of_ne hne).mpr)

/-- The tube is accepted, or closed because it cannot be opened. -/
theorem Upright.accept (htables : Tables s) {listening : Bool}
    (hok : Established s (.accept listening)) : Sound (s.accept listening) := by
  have htables' := htables.accept listening
  unfold State.accept at htables' ⊢
  split_ifs at htables' ⊢ with hstate hlistening
  · exact hs.sound htables'
  · have hopened : Still s ({ s with tubeState := .opened }.record
        (.tubeChannelStateChanged .opened)) :=
      ⟨rfl, rfl, rfl, rfl, rfl, fun _ => Iff.rfl, [.tubeChannelStateChanged .opened], rfl,
        fun a ha => List.mem_singleton.mp ha ▸ ⟨rfl, rfl⟩⟩
    exact (hopened.upright hs).sound htables'
  · have hcloses : (Event.accept listening).closesTube s = true := by
      simp only [Event.closesTube]
      simp [not_not.mp hstate, hlistening]
    refine hs.sound_streamClose htables hok hcloses ?_ true
    simp only [Event.ends, hcloses, if_true]

/-- A transport gets its credentials. -/
theorem Upright.credentials (htables : Tables s) (ht : t ∈ s.awaitingCredentials)
    {credentials : State.Credentials} {presence : Option (Option String)}
    (hok : Established s (.credentials t credentials presence)) :
    Upright ({ s with awaitingCredentials := s.awaitingCredentials.erase t }.credentialsReceivedCb
      t credentials presence) := by
  let s₁ : State := { s with awaitingCredentials := s.awaitingCredentials.erase t }
  have hpop : Still s s₁ := still_of_eq rfl rfl rfl rfl rfl rfl rfl rfl
  have hnone := hs.placed.fresh (htables.waiting_mem (List.mem_append_right _ ht)).1
    fun hmem => (htables.eraseCredentials ht).2 (List.mem_append_left _ hmem)
  refine (hpop.upright hs).credentialsReceivedCb hnone credentials presence ?_
  intro hcredentials hinit
  rw [startStreamInitiation_snd s s₁ rfl t presence] at hinit
  exact hok.ids (by simpa [Event.givesId, hinit] using hcredentials)

/-- A bytestream changes its state. -/
theorem Upright.stateChanged {state : BytestreamState} (hok : Established s (.stateChanged b state))
    (hchanged : (s.bytestream b).stateChanged = true) :
    Upright ((s.setBytestream b
      { s.bytestream b with state := state }).extraBytestreamStateChangedCb b state) := by
  have hset := still_setBytestream s b { s.bytestream b with state := state }
  refine (hset.upright hs).extraBytestreamStateChangedCb b state ?_
  rintro rfl t (hlookup : s.bytestreamToTransport.lookup b = some t)
    (hempty : (s.transport t).bufferEmpty = true)
  rw [hset.awaits]
  exact hok.not_awaits (by simp [Event.ends, hchanged, hlookup, hempty])

/-- The buffer of a transport is empty. -/
theorem Upright.bufferEmpty (hok : Established s (.bufferEmpty t))
    (hsignals : (s.transport t).signals = true) :
    Upright ((s.setTransport t { s.transport t with bufferEmpty := true }).transportBufferEmptyCb
      t) := by
  have hset : Still s (s.setTransport t { s.transport t with bufferEmpty := true }) :=
    still_setTransport s t Iff.rfl
  refine (hset.upright hs).transportBufferEmptyCb ?_
  rintro ⟨b, (hlookup : s.transportToBytestream.lookup t = some b),
    (hclosed : (s.bytestream b).state = .closed)⟩
  rw [hset.awaits]
  exact hok.not_awaits (by simp [Event.ends, hsignals, hlookup, hclosed])

/-- A transport is connected, and its connection is announced. -/
theorem Upright.connected {param : Option AccessParam} {contact : Handle}
    (hok : Established s (.connected t param))
    (hcontact : (s.transport t).connectedFor = some contact) :
    Upright ((s.setTransport t { s.transport t with state := .connected }).transportConnectedCb t
      contact param) := by
  have hreadable : s.readable param = true := by
    simpa [Event.failsToAnnounce, hcontact] using hok.announces
  have hset := (hs.unheard t).setTransport { s.transport t with state := .connected }
  exact (still_frames _ _).upright (hset.fireNewRemoteConnection contact hreadable)

end

/-- **One step** that meets the condition keeps the connections accounted for. -/
theorem Sound.step (hs : Sound s) (hok : Established s e) (hstep : step s e = some s') :
    Sound s' := by
  obtain ⟨hfault, hopen, hop⟩ := operation_of_step hstep
  have htables' := hs.tables.step hstep
  have hup : Upright s := ⟨hs.accounted, hs.placed hfault hopen, hs.heard hopen, hopen⟩
  -- a transport that is new in this step has no connection id yet
  obtain ⟨hfresh, hwait⟩ := hs.tables.freshTransport s.nextTransport (Nat.le_refl _)
  have hnone : s.transportToId.lookup s.nextTransport = none :=
    hup.placed.fresh hfresh fun hmem => hwait (List.mem_append_left _ hmem)
  cases e with
  | accept listening =>
    simp only [operation, Option.ite_none_left_eq_some, Option.some.injEq] at hop
    obtain ⟨-, rfl⟩ := hop
    exact hup.accept hs.tables hok
  | localConnection incoming presence =>
    simp only [operation, Option.ite_none_left_eq_some, Option.some.injEq] at hop
    obtain ⟨-, rfl⟩ := hop
    refine Upright.sound
      (hup.localNewConnectionCb hnone incoming presence fun hcheck hinit => ?_) htables'
    exact hok.ids (by simp [Event.givesId, hcheck, hinit])
  | credentials t credentials presence =>
    simp only [operation, Option.ite_none_right_eq_some, Option.some.injEq] at hop
    obtain ⟨ht, rfl⟩ := hop
    exact (hup.credentials hs.tables ht hok).sound htables'
  | siReply t accepted =>
    have ht : t ∈ s.negotiations := by
      by_contra hnot
      simp only [operation, if_neg hnot] at hop
      cases hop
    exact hup.siReply hs.tables ht hop htables'
  | addBytestream contact outcome sent param =>
    cases hop
    refine (hup.addBytestream hfault hnone contact sent fun hreq hconnect => ⟨?_, ?_⟩).sound
      htables'
    · exact hok.ids (by simpa [Event.givesId, hreq, imp_iff_not_or] using hconnect)
    · have hannounces := hok.announces
      simp only [Event.failsToAnnounce, hreq, Bool.true_and] at hannounces
      cases outcome with
      | connected => exact .inl ⟨rfl, by simpa using hannounces⟩
      | connecting => exact .inr rfl
      | disconnected => exact absurd ⟨by simpa using hannounces, by rintro ⟨⟩⟩ hconnect
      | disconnecting => exact absurd ⟨by simpa using hannounces, by rintro ⟨⟩⟩ hconnect
  | stateChanged b state =>
    simp only [operation, Option.ite_none_left_eq_some, Option.some.injEq] at hop
    obtain ⟨-, rfl⟩ := hop
    refine Upright.sound ?_ htables'
    split
    · rename_i hchanged
      exact hup.stateChanged hok hchanged
    · exact (still_setBytestream s b _).upright hup
  | writeBlocked b blocked =>
    simp only [operation, Option.ite_none_left_eq_some, Option.some.injEq] at hop
    obtain ⟨-, rfl⟩ := hop
    refine Upright.sound ?_ htables'
    split
    · exact (still_bytestreamWriteBlockedCb s b blocked).upright hup
    · exact hup
  | dataReceived b data =>
    simp only [operation, Option.ite_none_left_eq_some, Option.some.injEq] at hop
    obtain ⟨-, rfl⟩ := hop
    refine Upright.sound ?_ htables'
    split
    · exact (still_dataReceivedCb s b data).upright hup
    · exact hup
  | transportData t data =>
    simp only [operation, Option.ite_none_left_eq_some, Option.some.injEq] at hop
    obtain ⟨-, rfl⟩ := hop
    refine Upright.sound ?_ htables'
    split
    · exact (still_transportHandler s t data).upright hup
    · exact hup
  | connected t param =>
    simp only [operation, Option.ite_none_left_eq_some] at hop
    obtain ⟨-, hop⟩ := hop
    split at hop
    · rename_i hcontact
      cases hop
      have hset : Still s (s.setTransport t { s.transport t with state := .connected }) :=
        still_setTransport s t (iff_of_false (by rintro ⟨⟨⟩, -⟩) fun h => h.2.1 hcontact)
      exact (hset.upright hup).sound htables'
    · rename_i contact hcontact
      cases hop
      exact (hup.connected hok hcontact).sound htables'
  | disconnected t =>
    simp only [operation, Option.ite_none_left_eq_some, Option.some.injEq] at hop
    obtain ⟨-, rfl⟩ := hop
    have hwait : ¬ s.Awaits t := hok.not_awaits (List.mem_singleton_self t)
    have hshed := hs.accounted.disconnected hwait fun _ => (hup.heard t).known hwait
    exact (hshed.upright hup).sound htables'
  | bufferEmpty t =>
    simp only [operation, Option.ite_none_left_eq_some, Option.some.injEq] at hop
    obtain ⟨-, rfl⟩ := hop
    refine Upright.sound ?_ htables'
    split
    · rename_i hsignals
      exact hup.bufferEmpty hok hsignals
    · have hset : Still s (s.setTransport t { s.transport t with bufferEmpty := true }) :=
        still_setTransport s t Iff.rfl
      exact hset.upright hup
  | resume result =>
    cases hframes : s.frames with
    | nil =>
      simp only [operation, hframes] at hop
      cases hop
    | cons frame frames =>
      have hpop := still_frames s frames
      simp only [operation, hframes] at hop
      cases frame with
      | send b t =>
        cases hop
        exact ((hpop.trans (still_dataSent _ b t result)).upright hup).sound htables'
      | connected t =>
        cases hop
        exact ((hpop.trans (still_remoteConnectionFired _ t)).upright hup).sound htables'
  | close closedRemotely =>
    cases hop
    exact hup.sound_streamClose hs.tables hok rfl rfl closedRemotely

/-- **The connections of a stream tube.**  In a run that meets the condition,
`ConnectionClosed` is only emitted for a connection that has been announced, and not twice;
when the tube has been closed, it has been emitted once for each of them. -/
theorem connections_closed_once (config : Config)
    (hreach : Reachable step Established (State.new config) s) :
    Orderly Action.announces Action.ends s.log ∧
      (s.closed = true → ∀ id ∈ s.announced, s.ended.count id = 1) := by
  have hsound : Sound s :=
    hreach.invariant (sound_new config) fun _ _ _ hs hok hstep => hs.step hok hstep
  refine ⟨hsound.accounted.orderly, fun hclosed id hid => ?_⟩
  exact hsound.accounted.orderly.count_eq_one (hsound.ended hclosed id hid)

/-- Two local connections: one ends with its socket, the other one with the tube. -/
def closedRun : List Event :=
  [.accept true, .localConnection ⟨true, none⟩ (some (some "orchard")),
    .siReply 0 (some .initiating), .localConnection ⟨true, none⟩ (some (some "orchard")),
    .stateChanged 0 .opened, .siReply 1 (some .initiating), .disconnected 0,
    .stateChanged 0 .closed, .stateChanged 1 .opened, .close false]

theorem connections_closed_once_closedRun :
    ∃ s, run step (State.new acceptedTube) closedRun = some s ∧ s.closed = true ∧
      s.announced = [1, 2] ∧ s.ended = [1, 2] ∧
      Orderly Action.announces Action.ends s.log ∧
      (s.closed = true → ∀ id ∈ s.announced, s.ended.count id = 1) :=
  ⟨_, rfl, rfl, by decide, by decide,
    connections_closed_once acceptedTube (reachable_of_run closedRun (by decide) rfl)⟩

/-- A tube that the local user offered, on a port of the local host. -/
def offeredTube : Config where
  id := 6
  requested := true
  targetHandleType := .contact
  addressType := .ipv4
  accessControl := .localhost
  initiator := "juliet@capulet.lit"
  uid := 1000

/-- A local connection waits for its stream initiation when the tube is closed, and its end
is not announced; the bytestream of a remote connection is closed before the local socket is
connected, and the end of a connection is announced that was not. -/
theorem connection_end_lost_or_early :
    (∃ s, run step (State.new acceptedTube)
        [.accept true, .localConnection ⟨true, none⟩ (some (some "orchard")), .close false] =
          some s ∧ s.closed = true ∧ s.announced = [1] ∧ s.ended = []) ∧
      ∃ s, run step (State.new offeredTube)
        [.addBytestream 3 .connecting true none, .stateChanged 0 .closed, .close false] =
          some s ∧ s.closed = true ∧ s.announced = [] ∧ s.ended = [1] :=
  ⟨⟨_, rfl, rfl, by decide, by decide⟩, ⟨_, rfl, rfl, by decide, by decide⟩⟩

end TubeStream
