/-
# The two tables of a stream tube

Each handler of a stream tube finds one end of a connection by the other, in one of two
tables.  A transport that the tube listens to has a bytestream, and a bytestream that the
tube listens to and that is not closed has a transport, so that no handler looks in vain.
-/
import Mathlib.Tactic.Common
import Gabble.TubeStream

open Ibb (BytestreamState)
open InverseTables Transition

namespace TubeStream

variable {s s' s'' : State} {b b' : Bytestream} {t t' : Transport} {e : Event}

/-! ## The invariant -/

/-- The transports that may still get a bytestream from a stream initiation. -/
def State.waiting (s : State) : List Transport := s.negotiations ++ s.awaitingCredentials

/-- The tube listens to the bytestream, and it is not closed. -/
def State.attends (s : State) (b : Bytestream) : Prop :=
  ((s.bytestream b).stateChanged = true ∨ (s.bytestream b).dataReceived = true) ∧
    (s.bytestream b).state ≠ .closed

/-- The tables are inverse, and what the tube listens to is in them. -/
structure Tables (s : State) : Prop where
  inverse : Inverse s.bytestreamToTransport s.transportToBytestream
  signals : ∀ t, (s.transport t).signals = true → s.transportToBytestream.lookup t ≠ none
  attends : ∀ b, s.attends b → s.bytestreamToTransport.lookup b ≠ none
  waiting : s.waiting.Nodup ∧ ∀ t ∈ s.waiting, s.transportToBytestream.lookup t = none
  freshTransport : ∀ t, s.nextTransport ≤ t → s.transportToBytestream.lookup t = none ∧
    t ∉ s.waiting
  freshBytestream : ∀ b, s.nextBytestream ≤ b → s.bytestreamToTransport.lookup b = none
  fault : ∀ f, s.fault = some f → f.lookup = false

theorem tables_new (config : Config) : Tables (State.new config) where
  inverse := inverse_empty
  signals _ h := by cases h
  attends _ h := absurd rfl h.2
  waiting := ⟨List.nodup_nil, fun _ h => by cases h⟩
  freshTransport _ _ := ⟨AList.lookup_empty _, by simp [State.waiting, State.new]⟩
  freshBytestream _ _ := AList.lookup_empty _
  fault _ h := by cases h

/-! ## What does not touch the tables -/

/-- The tables are the same, the tube listens to nothing new, and no lookup has failed. -/
structure Quiet (s s' : State) : Prop where
  bytestreamToTransport : s'.bytestreamToTransport = s.bytestreamToTransport
  transportToBytestream : s'.transportToBytestream = s.transportToBytestream
  waiting : s'.waiting = s.waiting
  nextTransport : s'.nextTransport = s.nextTransport
  nextBytestream : s'.nextBytestream = s.nextBytestream
  signals : ∀ t, (s'.transport t).signals = true → (s.transport t).signals = true
  attends : ∀ b, s'.attends b → s.attends b
  closed : ∀ b, (s.bytestream b).state = .closed → (s'.bytestream b).state = .closed
  fault : ∀ f, s'.fault = some f → s.fault = some f ∨ f.lookup = false

theorem Quiet.refl (s : State) : Quiet s s :=
  ⟨rfl, rfl, rfl, rfl, rfl, fun _ h => h, fun _ h => h, fun _ h => h, fun _ h => .inl h⟩

theorem Quiet.trans (h : Quiet s s') (h' : Quiet s' s'') : Quiet s s'' where
  bytestreamToTransport := h'.bytestreamToTransport.trans h.bytestreamToTransport
  transportToBytestream := h'.transportToBytestream.trans h.transportToBytestream
  waiting := h'.waiting.trans h.waiting
  nextTransport := h'.nextTransport.trans h.nextTransport
  nextBytestream := h'.nextBytestream.trans h.nextBytestream
  signals t hs := h.signals t (h'.signals t hs)
  attends b hb := h.attends b (h'.attends b hb)
  closed b hb := h'.closed b (h.closed b hb)
  fault f hf := (h'.fault f hf).elim (h.fault f) .inr

theorem Quiet.tables (h : Quiet s s') (hs : Tables s) : Tables s' where
  inverse := by
    rw [h.bytestreamToTransport, h.transportToBytestream]
    exact hs.inverse
  signals t ht := by
    rw [h.transportToBytestream]
    exact hs.signals t (h.signals t ht)
  attends b hb := by
    rw [h.bytestreamToTransport]
    exact hs.attends b (h.attends b hb)
  waiting := by
    rw [h.waiting, h.transportToBytestream]
    exact hs.waiting
  freshTransport t ht := by
    rw [h.waiting, h.transportToBytestream]
    exact hs.freshTransport t (h.nextTransport ▸ ht)
  freshBytestream b hb := by
    rw [h.bytestreamToTransport]
    exact hs.freshBytestream b (h.nextBytestream ▸ hb)
  fault f hf := (h.fault f hf).elim (hs.fault f) id

/-- Changes of what the tables do not depend on. -/
theorem quiet_of_eq (hb : s'.bytestreamToTransport = s.bytestreamToTransport)
    (ht : s'.transportToBytestream = s.transportToBytestream) (hw : s'.waiting = s.waiting)
    (hnt : s'.nextTransport = s.nextTransport) (hnb : s'.nextBytestream = s.nextBytestream)
    (htransport : s'.transport = s.transport) (hbytestream : s'.bytestream = s.bytestream)
    (hfault : s'.fault = s.fault) : Quiet s s' where
  bytestreamToTransport := hb
  transportToBytestream := ht
  waiting := hw
  nextTransport := hnt
  nextBytestream := hnb
  signals _ h := htransport ▸ h
  attends _ h := by rwa [State.attends, hbytestream] at h
  closed _ h := by rwa [hbytestream]
  fault _ h := .inl (hfault ▸ h)

section

variable (s)

theorem quiet_record (a : Action) : Quiet s (s.record a) :=
  quiet_of_eq rfl rfl rfl rfl rfl rfl rfl rfl

theorem quiet_fail {f : Fault} (hf : f.lookup = false) : Quiet s (s.fail f) :=
  ⟨rfl, rfl, rfl, rfl, rfl, fun _ h => h, fun _ h => h, fun _ h => h,
    fun _ h => .inr (Option.some.inj h ▸ hf)⟩

/-- The tube does not start to listen to the transport. -/
theorem quiet_setTransport (t : Transport) {info : TransportInfo}
    (hsignals : info.signals = true → (s.transport t).signals = true) :
    Quiet s (s.setTransport t info) := by
  refine ⟨rfl, rfl, rfl, rfl, rfl, fun t' h => ?_, fun _ h => h, fun _ h => h, fun _ h => .inl h⟩
  by_cases ht : t' = t
  · subst ht
    rw [State.setTransport_self] at h
    exact hsignals h
  · rwa [State.setTransport_of_ne s info ht] at h

/-- The tube does not start to listen to the bytestream, and it stays closed. -/
theorem quiet_setBytestream (b : Bytestream) {info : BytestreamInfo}
    (hchanged : info.stateChanged = true → (s.bytestream b).stateChanged = true)
    (hdata : info.dataReceived = true → (s.bytestream b).dataReceived = true)
    (hclosed : (s.bytestream b).state = .closed → info.state = .closed) :
    Quiet s (s.setBytestream b info) := by
  refine ⟨rfl, rfl, rfl, rfl, rfl, fun _ h => h, fun b' h => ?_, fun b' h => ?_, fun _ h => .inl h⟩
  · by_cases hb : b' = b
    · subst hb
      rw [State.attends, State.setBytestream_self] at h
      exact ⟨h.1.imp hchanged hdata, fun hstate => h.2 (hclosed hstate)⟩
    · rwa [State.attends, State.setBytestream_of_ne s info hb] at h
  · by_cases hb : b' = b
    · subst hb
      rw [State.setBytestream_self]
      exact hclosed h
    · rwa [State.setBytestream_of_ne s info hb]

theorem quiet_blockReading (b : Bytestream) (block : Bool) :
    Quiet s (s.blockReading b block) :=
  quiet_setBytestream s b id id id

theorem quiet_blockReceiving (t : Transport) (block : Bool) :
    Quiet s (s.blockReceiving t block) :=
  quiet_setTransport s t id

theorem quiet_forgetTransport (t : Transport) : Quiet s (s.forgetTransport t) :=
  quiet_setTransport s t fun h => by cases h

theorem quiet_fireConnectionClosed (t : Transport) (error : CloseError)
    (debugMsg : String) : Quiet s (s.fireConnectionClosed t error debugMsg) := by
  unfold State.fireConnectionClosed
  dsimp only
  split
  · exact .refl s
  · exact quiet_of_eq rfl rfl rfl rfl rfl rfl rfl rfl

theorem quiet_transportDisconnectedCb (t : Transport) :
    Quiet s (s.transportDisconnectedCb t) := by
  have hfire := quiet_fireConnectionClosed s t .cancelled "local socket has been disconnected"
  unfold State.transportDisconnectedCb
  dsimp only
  split
  · exact hfire
  · exact hfire.trans (quiet_record _ _)

theorem quiet_disconnected (t : Transport) : Quiet s (s.disconnected t) := by
  have hset : Quiet s (s.setTransport t
      { s.transport t with state := .disconnected, bufferEmpty := true }) :=
    quiet_setTransport s t id
  unfold State.disconnected
  dsimp only
  split
  · exact hset.trans (quiet_transportDisconnectedCb _ t)
  · exact hset

theorem quiet_transportDisconnect (t : Transport) :
    Quiet s (s.transportDisconnect t) := by
  unfold State.transportDisconnect
  split
  · exact .refl s
  · exact quiet_disconnected s t

theorem quiet_generateConnectionId (t : Transport) :
    Quiet s (s.generateConnectionId t) :=
  quiet_of_eq rfl rfl rfl rfl rfl rfl rfl rfl

theorem quiet_fireNewLocalConnection (t : Transport) :
    Quiet s (s.fireNewLocalConnection t) :=
  (quiet_generateConnectionId s t).trans (quiet_record _ _)

theorem quiet_fireNewRemoteConnection (t : Transport) (contact : Handle)
    (param : Option AccessParam) : Quiet s (s.fireNewRemoteConnection t contact param) := by
  have hemit (param : AccessParam) : Quiet s
      (if (s.transportToId.lookup t).getD 0 = 0 then s.fail .connectionIdZero
        else s.record (.newRemoteConnection contact param
          ((s.transportToId.lookup t).getD 0))) := by
    split
    · exact quiet_fail s rfl
    · exact quiet_record s _
  unfold State.fireNewRemoteConnection
  cases s.config.accessControl with
  | localhost => exact hemit .dummy
  | credentials =>
    cases param with
    | none => exact quiet_transportDisconnect s t
    | some param => exact hemit param
  | port host port =>
    cases param with
    | none => exact quiet_transportDisconnect s t
    | some param => exact hemit param

end

/-! ## Inserting and removing a pair -/

/-- **A new pair.** -/
theorem Tables.insertPair (hs : Tables s) (hb : s.bytestreamToTransport.lookup b = none)
    (ht : s.transportToBytestream.lookup t = none) (hwait : t ∉ s.waiting)
    (hbnext : b < s.nextBytestream) (htnext : t < s.nextTransport) : Tables (s.insertPair b t) where
  inverse := hs.inverse.insert hb ht
  signals t' h := by
    have hold := hs.signals t' h
    have hne : t' ≠ t := fun heq => hold (heq ▸ ht)
    rwa [State.insertPair_transportToBytestream, AList.lookup_insert_ne hne]
  attends b' h := by
    by_cases hne : b' = b
    · subst hne
      rw [State.insertPair_bytestreamToTransport, AList.lookup_insert]
      exact Option.some_ne_none t
    · rw [State.insertPair_bytestreamToTransport, AList.lookup_insert_ne hne]
      refine hs.attends b' ?_
      rwa [State.attends, State.insertPair, State.setBytestream_of_ne _ _ hne] at h
  waiting := by
    refine ⟨hs.waiting.1, fun t' ht' => ?_⟩
    have hne : t' ≠ t := fun heq => hwait (heq ▸ ht')
    rw [State.insertPair_transportToBytestream, AList.lookup_insert_ne hne]
    exact hs.waiting.2 t' ht'
  freshTransport t' h := by
    have hne : t' ≠ t := fun heq => absurd htnext (Nat.not_lt.mpr (heq ▸ h))
    rw [State.insertPair_transportToBytestream, AList.lookup_insert_ne hne]
    exact hs.freshTransport t' h
  freshBytestream b' h := by
    have hne : b' ≠ b := fun heq => absurd hbnext (Nat.not_lt.mpr (heq ▸ h))
    rw [State.insertPair_bytestreamToTransport, AList.lookup_insert_ne hne]
    exact hs.freshBytestream b' h
  fault := hs.fault

/-- Take a pair out of both tables. -/
def State.erasePair (s : State) (b : Bytestream) (t : Transport) : State :=
  { s with
    transportToBytestream := s.transportToBytestream.erase t
    bytestreamToTransport := s.bytestreamToTransport.erase b }

/-- **A pair goes** that the tube does not listen to any more. -/
theorem Tables.erasePair (hs : Tables s) (hbt : s.bytestreamToTransport.lookup b = some t)
    (hsignals : (s.transport t).signals = false) (hattends : ¬ s.attends b) :
    Tables (s.erasePair b t) where
  inverse := hs.inverse.erase hbt
  signals t' h := by
    have hne : t' ≠ t := by
      rintro rfl
      rw [show ((s.erasePair b t').transport t').signals = false from hsignals] at h
      cases h
    rw [State.erasePair, AList.lookup_erase_ne hne]
    exact hs.signals t' h
  attends b' h := by
    have hne : b' ≠ b := fun heq => hattends (heq ▸ h)
    rw [State.erasePair, AList.lookup_erase_ne hne]
    exact hs.attends b' h
  waiting := by
    refine ⟨hs.waiting.1, fun t' ht' => ?_⟩
    by_cases hne : t' = t
    · rw [State.erasePair, hne, AList.lookup_erase]
    · rw [State.erasePair, AList.lookup_erase_ne hne]
      exact hs.waiting.2 t' ht'
  freshTransport t' h := by
    refine ⟨?_, (hs.freshTransport t' h).2⟩
    by_cases hne : t' = t
    · rw [State.erasePair, hne, AList.lookup_erase]
    · rw [State.erasePair, AList.lookup_erase_ne hne]
      exact (hs.freshTransport t' h).1
  freshBytestream b' h := by
    by_cases hne : b' = b
    · rw [State.erasePair, hne, AList.lookup_erase]
    · rw [State.erasePair, AList.lookup_erase_ne hne]
      exact hs.freshBytestream b' h
  fault := hs.fault

/-- The tube does not listen to a transport that it has forgotten. -/
theorem forgetTransport_signals (s : State) (t : Transport) :
    ((s.forgetTransport t).transport t).signals = false := by
  rw [State.forgetTransport, State.setTransport_self]

theorem Quiet.signals_false (h : Quiet s s') (hs : (s.transport t).signals = false) :
    (s'.transport t).signals = false := by
  by_contra hne
  rw [h.signals t (eq_true_of_ne_false hne)] at hs
  cases hs

section

variable (hs : Tables s)

include hs

theorem Tables.removeTransport (hbt : s.bytestreamToTransport.lookup b = some t)
    (hclosed : (s.bytestream b).state = .closed) : Tables (s.removeTransport b t) := by
  have hforget := quiet_forgetTransport s t
  have hlater : Quiet (s.forgetTransport t)
      (((s.forgetTransport t).transportDisconnect t).fireConnectionClosed t .connectionLost
        "bytestream has been broken") :=
    (quiet_transportDisconnect _ t).trans (quiet_fireConnectionClosed _ t _ _)
  have hquiet := hforget.trans hlater
  have hpair := (hquiet.tables hs).erasePair (b := b) (t := t)
    (by rw [hquiet.bytestreamToTransport, hbt])
    (hlater.signals_false (forgetTransport_signals s t))
    fun hattends => (hquiet.attends b hattends).2 hclosed
  refine Quiet.tables ?_ hpair
  exact quiet_of_eq rfl rfl rfl rfl rfl rfl rfl rfl

/-! ## The handlers -/

theorem Tables.lookup_eq (hbt : s.bytestreamToTransport.lookup b = some t) :
    s.transportToBytestream.lookup t = some b := (hs.inverse b t).mp hbt

theorem Tables.transportBufferEmptyCb (hsignals : (s.transport t).signals = true) :
    Tables (s.transportBufferEmptyCb t) := by
  unfold State.transportBufferEmptyCb
  cases hlookup : s.transportToBytestream.lookup t with
  | none => exact absurd hlookup (hs.signals t hsignals)
  | some b =>
    dsimp only
    split
    · rename_i hclosed
      exact hs.removeTransport ((hs.inverse b t).mpr hlookup) hclosed
    · exact (quiet_blockReading s b false).tables hs

theorem Tables.addTransport (ht : s.transportToBytestream.lookup t ≠ none) :
    Tables (s.addTransport t) := by
  unfold State.addTransport
  split
  · exact (quiet_fail s rfl).tables hs
  · refine (quiet_blockReceiving _ t false).tables ?_
    refine ⟨hs.inverse, fun t' h => ?_, hs.attends, hs.waiting, hs.freshTransport,
      hs.freshBytestream, hs.fault⟩
    by_cases hne : t' = t
    · rw [hne]
      exact ht
    · rw [State.setTransport_of_ne _ _ hne] at h
      exact hs.signals t' h

theorem Tables.bytestreamWriteBlockedCb (hattends : s.attends b) (blocked : Bool) :
    Tables (s.bytestreamWriteBlockedCb b blocked) := by
  unfold State.bytestreamWriteBlockedCb
  cases hlookup : s.bytestreamToTransport.lookup b with
  | none => exact absurd hlookup (hs.attends b hattends)
  | some t => exact (quiet_blockReceiving s t blocked).tables hs

theorem Tables.dataReceivedCb (hattends : s.attends b) (data : List UInt8) :
    Tables (s.dataReceivedCb b data) := by
  unfold State.dataReceivedCb
  cases hlookup : s.bytestreamToTransport.lookup b with
  | none => exact absurd hlookup (hs.attends b hattends)
  | some t =>
    dsimp only
    split
    · exact (quiet_fail s rfl).tables hs
    · refine Quiet.tables ?_ hs
      exact quiet_of_eq rfl rfl rfl rfl rfl rfl rfl rfl

/-- A bytestream that the tube listens to changes its state. -/
theorem Tables.stateChanged {state : BytestreamState}
    (hchanged : (s.bytestream b).stateChanged = true)
    (hstate : (s.bytestream b).state ≠ .closed) :
    Tables ((s.setBytestream b { s.bytestream b with state := state }).extraBytestreamStateChangedCb
      b state) := by
  have hattends : s.attends b := ⟨.inl hchanged, hstate⟩
  have hset : Tables (s.setBytestream b { s.bytestream b with state := state }) := by
    refine Quiet.tables ?_ hs
    exact quiet_setBytestream s b id id fun h => absurd h hstate
  cases state with
  | opened =>
    have hfound := hs.attends b hattends
    cases hlookup : s.bytestreamToTransport.lookup b with
    | none => exact absurd hlookup hfound
    | some t =>
      have hlisten : Tables ((s.setBytestream b { s.bytestream b with state := .opened }
          ).setBytestream b { s.bytestream b with state := .opened, dataReceived := true }) := by
        refine ⟨hs.inverse, hs.signals, fun b' h => ?_, hs.waiting, hs.freshTransport,
          hs.freshBytestream, hs.fault⟩
        by_cases hne : b' = b
        · rw [hne]
          exact hfound
        · refine hset.attends b' ?_
          rwa [State.attends, State.setBytestream_of_ne _ _ hne] at h
      have hadd := hlisten.addTransport (t := t)
        (by rw [hlisten.lookup_eq hlookup]; exact Option.some_ne_none b)
      simpa [State.extraBytestreamStateChangedCb, State.setBytestream, hlookup] using hadd
  | closed =>
    unfold State.extraBytestreamStateChangedCb
    dsimp only
    split
    · exact hset
    · rename_i t hlookup
      split
      · refine hset.removeTransport hlookup ?_
        rw [State.setBytestream_self]
      · exact hset
  | localPending => exact hset
  | accepted => exact hset
  | initiating => exact hset
  | closing => exact hset

end

theorem quiet_transportHandler (s : State) (t : Transport) (data : List UInt8) :
    Quiet s (s.transportHandler t data) := by
  unfold State.transportHandler
  split
  · exact .refl s
  · exact quiet_record s _

theorem quiet_dataSent (s : State) (b : Bytestream) (t : Transport) (result : State.SendResult) :
    Quiet s (s.dataSent b t result) := by
  cases result with
  | failed => exact .refl s
  | sent buffered =>
    have hset : Quiet s (s.setTransport t { s.transport t with
        bufferEmpty := (s.transport t).bufferEmpty &&
          !(buffered && (s.transport t).state = .connected) }) :=
      quiet_setTransport s t id
    unfold State.dataSent
    dsimp only
    split
    · exact hset
    · exact hset.trans (quiet_blockReading _ b true)

theorem quiet_remoteConnectionFired (s : State) (t : Transport) :
    Quiet s (s.remoteConnectionFired t) := by
  unfold State.remoteConnectionFired
  split
  · exact .refl s
  · exact quiet_blockReading s _ false

theorem quiet_transportConnectedCb (s : State) (t : Transport) (contact : Handle)
    (param : Option AccessParam) : Quiet s (s.transportConnectedCb t contact param) := by
  refine (quiet_fireNewRemoteConnection s t contact param).trans ?_
  exact quiet_of_eq rfl rfl rfl rfl rfl rfl rfl rfl

/-! ## New objects -/

theorem Tables.newTransport (hs : Tables s) (state : TransportState) :
    Tables (s.newTransport state) := by
  have hquiet : Quiet s (s.setTransport s.nextTransport (.new state)) :=
    quiet_setTransport s _ fun h => by cases h
  have hset := hquiet.tables hs
  exact ⟨hset.inverse, hset.signals, hset.attends, hset.waiting,
    fun t ht => hs.freshTransport t (Nat.le_of_succ_le ht), hset.freshBytestream, hset.fault⟩

/-- The transport is in no table yet. -/
structure Fresh (s : State) (t : Transport) : Prop where
  table : s.transportToBytestream.lookup t = none
  waiting : t ∉ s.waiting
  lt : t < s.nextTransport

theorem Quiet.fresh (h : Quiet s s') (ht : Fresh s t) : Fresh s' t where
  table := by
    rw [h.transportToBytestream]
    exact ht.table
  waiting := by
    rw [h.waiting]
    exact ht.waiting
  lt := by
    rw [h.nextTransport]
    exact ht.lt

section

variable (hs : Tables s)

include hs

theorem Tables.fresh_newTransport (state : TransportState) :
    Fresh (s.newTransport state) s.nextTransport := by
  obtain ⟨htable, hwait⟩ := hs.freshTransport s.nextTransport (Nat.le_refl _)
  exact ⟨htable, hwait, Nat.lt_succ_self _⟩

theorem Tables.newBytestream (state : BytestreamState) :
    Tables (s.newBytestream state) := by
  refine ⟨hs.inverse, hs.signals, fun b h => ?_, hs.waiting, hs.freshTransport,
    fun b hb => hs.freshBytestream b (Nat.le_of_succ_le hb), hs.fault⟩
  by_cases hne : b = s.nextBytestream
  · subst hne
    obtain ⟨hlisten, -⟩ := h
    rw [State.newBytestream] at hlisten
    dsimp only at hlisten
    rw [State.setBytestream_self] at hlisten
    rcases hlisten with hchanged | hdata
    · cases hchanged
    · cases hdata
  · refine hs.attends b ?_
    simp only [State.attends, State.newBytestream, State.setBytestream_of_ne _ _ hne] at h
    exact h

/-- A transport that waits for something is no new one. -/
theorem Tables.waiting_lt (ht : t ∈ s.waiting) : t < s.nextTransport := by
  by_contra hlt
  exact (hs.freshTransport t (Nat.not_lt.mp hlt)).2 ht

/-- Other transports wait. -/
theorem Tables.setWaiting {negotiations awaitingCredentials : List Transport}
    (hnodup : (negotiations ++ awaitingCredentials).Nodup)
    (hmem : ∀ t ∈ negotiations ++ awaitingCredentials,
      s.transportToBytestream.lookup t = none ∧ t < s.nextTransport) :
    Tables { s with
      negotiations := negotiations, awaitingCredentials := awaitingCredentials } where
  inverse := hs.inverse
  signals := hs.signals
  attends := hs.attends
  waiting := ⟨hnodup, fun t ht => (hmem t ht).1⟩
  freshTransport t ht := ⟨(hs.freshTransport t ht).1, fun hmem' =>
    Nat.not_lt.mpr ht (hmem t hmem').2⟩
  freshBytestream := hs.freshBytestream
  fault := hs.fault

theorem Tables.waiting_mem (ht : t ∈ s.waiting) :
    s.transportToBytestream.lookup t = none ∧ t < s.nextTransport :=
  ⟨hs.waiting.2 t ht, hs.waiting_lt ht⟩

/-- One transport stops waiting for its stream initiation. -/
theorem Tables.eraseNegotiation (ht : t ∈ s.negotiations) :
    Tables { s with negotiations := s.negotiations.erase t } ∧
      t ∉ s.negotiations.erase t ++ s.awaitingCredentials := by
  have herase : s.waiting.erase t = s.negotiations.erase t ++ s.awaitingCredentials :=
    List.erase_append_left _ ht
  rw [← herase]
  refine ⟨hs.setWaiting (herase ▸ hs.waiting.1.erase t) fun t' ht' => ?_, hs.waiting.1.not_mem_erase⟩
  exact hs.waiting_mem (List.mem_of_mem_erase (herase ▸ ht'))

/-- One transport stops waiting for credentials. -/
theorem Tables.eraseCredentials (ht : t ∈ s.awaitingCredentials) :
    Tables { s with awaitingCredentials := s.awaitingCredentials.erase t } ∧
      t ∉ s.negotiations ++ s.awaitingCredentials.erase t := by
  have hnot : t ∉ s.negotiations := fun hmem =>
    (List.nodup_append.mp hs.waiting.1).2.2 t hmem t ht rfl
  have herase : s.waiting.erase t = s.negotiations ++ s.awaitingCredentials.erase t :=
    List.erase_append_right _ hnot
  rw [← herase]
  refine ⟨hs.setWaiting (herase ▸ hs.waiting.1.erase t) fun t' ht' => ?_, hs.waiting.1.not_mem_erase⟩
  exact hs.waiting_mem (List.mem_of_mem_erase (herase ▸ ht'))

end

/-! ## New connections -/

theorem startStreamInitiation_cases (s : State) (t : Transport)
    (presence : Option (Option String)) :
    s.startStreamInitiation t presence = (s, false) ∨
      ∃ fullJid child, s.startStreamInitiation t presence =
        ({ s with negotiations := s.negotiations ++ [t] }.record
          (.streamInit fullJid child s.config.id), true) := by
  unfold State.startStreamInitiation
  cases s.config.targetHandleType with
  | room => exact .inr ⟨_, _, rfl⟩
  | contact =>
    cases presence with
    | none => exact .inl rfl
    | some resource =>
      cases resource with
      | none => exact .inl rfl
      | some resource => exact .inr ⟨_, _, rfl⟩

theorem Tables.initiateLocal (hs : Tables s) (ht : s.transportToBytestream.lookup t = none)
    (hwait : t ∉ s.waiting) (hlt : t < s.nextTransport) (presence : Option (Option String)) :
    Tables (s.initiateLocal t presence) := by
  unfold State.initiateLocal
  rcases startStreamInitiation_cases s t presence with heq | ⟨fullJid, child, heq⟩
  · rw [heq]
    exact hs
  · rw [heq]
    refine ((quiet_record _ _).trans (quiet_fireNewLocalConnection _ t)).tables ?_
    have hperm : (s.negotiations ++ [t] ++ s.awaitingCredentials).Perm (t :: s.waiting) := by
      rw [List.append_assoc]
      exact List.perm_middle
    refine hs.setWaiting (hperm.nodup_iff.mpr (List.nodup_cons.mpr ⟨hwait, hs.waiting.1⟩))
      fun t' ht' => ?_
    rcases List.mem_cons.mp (hperm.mem_iff.mp ht') with rfl | ht'
    · exact ⟨ht, hlt⟩
    · exact hs.waiting_mem ht'

theorem checkIncomingConnection_cases (s : State) (t : Transport) (incoming : State.Incoming) :
    (∃ ok, s.checkIncomingConnection t incoming = (s, ok)) ∨
      s.checkIncomingConnection t incoming =
        ({ s.blockReceiving t false with awaitingCredentials := s.awaitingCredentials ++ [t] },
          false) := by
  unfold State.checkIncomingConnection
  cases s.config.accessControl with
  | localhost => exact .inl ⟨true, rfl⟩
  | port host port => exact .inl ⟨_, rfl⟩
  | credentials =>
    cases incoming.recvCredentials with
    | false => exact .inl ⟨false, rfl⟩
    | true => exact .inr rfl

section

variable (hs : Tables s)

include hs

theorem Tables.localNewConnectionCb (incoming : State.Incoming)
    (presence : Option (Option String)) : Tables (s.localNewConnectionCb incoming presence) := by
  have hblock := quiet_blockReceiving (s.newTransport .connected) s.nextTransport true
  have hnew := hblock.tables (hs.newTransport .connected)
  have hfresh := hblock.fresh (hs.fresh_newTransport .connected)
  unfold State.localNewConnectionCb
  dsimp only
  generalize (s.newTransport .connected).blockReceiving s.nextTransport true = s₁ at hnew hfresh ⊢
  rcases checkIncomingConnection_cases s₁ s.nextTransport incoming with ⟨ok, heq⟩ | heq
  · rw [heq]
    cases ok with
    | false => exact hnew
    | true => exact hnew.initiateLocal hfresh.table hfresh.waiting hfresh.lt presence
  · rw [heq]
    -- the transport waits for its credentials
    refine Tables.setWaiting ((quiet_blockReceiving s₁ s.nextTransport false).tables hnew) ?_ ?_
    · rw [← List.append_assoc]
      exact List.nodup_append.mpr ⟨hnew.waiting.1, List.nodup_singleton _, fun t ht t' ht' heq' =>
        hfresh.waiting (by rw [← List.mem_singleton.mp ht', ← heq']; exact ht)⟩
    · intro t ht
      rw [← List.append_assoc] at ht
      rcases List.mem_append.mp ht with ht | ht
      · exact ⟨hnew.waiting.2 t ht, hnew.waiting_lt ht⟩
      · rw [List.mem_singleton.mp ht]
        exact ⟨hfresh.table, hfresh.lt⟩

theorem Tables.credentialsReceivedCb
    (ht : s.transportToBytestream.lookup t = none) (hwait : t ∉ s.waiting)
    (hlt : t < s.nextTransport) (credentials : State.Credentials)
    (presence : Option (Option String)) :
    Tables (s.credentialsReceivedCb t credentials presence) := by
  have hblocked := (quiet_blockReceiving s t true).tables hs
  unfold State.credentialsReceivedCb
  cases credentials with
  | error => exact hblocked
  | received length uid =>
    dsimp only
    split_ifs
    · exact hblocked
    · exact hblocked
    · exact hblocked.initiateLocal ht hwait hlt presence

theorem Tables.extraBytestreamNegotiateCb
    (ht : s.transportToBytestream.lookup t = none) (hwait : t ∉ s.waiting)
    (hlt : t < s.nextTransport) (state : BytestreamState) :
    Tables ((s.newBytestream state).extraBytestreamNegotiateCb t (some s.nextBytestream)) := by
  have hnew := hs.newBytestream state
  unfold State.extraBytestreamNegotiateCb
  dsimp only
  split_ifs
  · exact (quiet_fail _ rfl).tables hnew
  · exact hnew.insertPair (hs.freshBytestream _ (Nat.le_refl _)) ht hwait (Nat.lt_succ_self _) hlt

theorem Tables.newConnectionToSocket
    (hb : s.bytestreamToTransport.lookup b = none) (hlt : b < s.nextBytestream)
    (outcome : TransportState) :
    Tables (s.newConnectionToSocket b outcome) ∧
      ((s.newConnectionToSocket b outcome).fault = none →
        (s.newConnectionToSocket b outcome).bytestreamToTransport.lookup b ≠ none) := by
  have hquiet := ((quiet_blockReceiving (s.newTransport outcome) s.nextTransport true).trans
    (quiet_generateConnectionId _ s.nextTransport)).trans (quiet_blockReading _ b true)
  have hfresh := hquiet.fresh (hs.fresh_newTransport outcome)
  unfold State.newConnectionToSocket
  dsimp only
  split_ifs
  · exact ⟨(quiet_fail s rfl).tables hs, fun h => by cases h⟩
  · constructor
    · refine (hquiet.tables (hs.newTransport outcome)).insertPair ?_ hfresh.table hfresh.waiting ?_
        hfresh.lt
      · rw [hquiet.bytestreamToTransport]
        exact hb
      · rw [hquiet.nextBytestream]
        exact hlt
    · intro _
      rw [State.insertPair_bytestreamToTransport, AList.lookup_insert]
      exact Option.some_ne_none _

/-- A bytestream that has a transport may change in any way. -/
theorem Tables.setBytestream (hb : s.bytestreamToTransport.lookup b ≠ none)
    (info : BytestreamInfo) : Tables (s.setBytestream b info) := by
  refine ⟨hs.inverse, hs.signals, fun b' h => ?_, hs.waiting, hs.freshTransport,
    hs.freshBytestream, hs.fault⟩
  by_cases hne : b' = b
  · rw [hne]
    exact hb
  · refine hs.attends b' ?_
    rwa [State.attends, State.setBytestream_of_ne _ _ hne] at h

end

theorem quiet_openTube (s : State) : Quiet s s.openTube := by
  unfold State.openTube
  split
  · exact quiet_of_eq rfl rfl rfl rfl rfl rfl rfl rfl
  · exact .refl s

theorem Tables.bytestreamAccept (hs : Tables s) (hb : s.bytestreamToTransport.lookup b ≠ none)
    (sent : Bool) : Tables (s.bytestreamAccept b sent) := by
  have hrecord := (quiet_record s (.bytestreamAccept b)).tables hs
  unfold State.bytestreamAccept
  dsimp only
  split
  · exact hrecord.setBytestream hb _
  · exact hrecord

theorem quiet_announceRemote (s : State) (b : Bytestream) (t : Transport) (contact : Handle)
    (param : Option AccessParam) : Quiet s (s.announceRemote b t contact param) := by
  unfold State.announceRemote
  split
  · exact (quiet_blockReading s b false).trans (quiet_fireNewRemoteConnection _ t contact param)
  · exact quiet_setTransport s t id

theorem Tables.addBytestream (hs : Tables s) (contact : Handle) (outcome : TransportState)
    (sent : Bool) (param : Option AccessParam) :
    Tables (s.addBytestream contact outcome sent param) := by
  have hnew := hs.newBytestream .localPending
  obtain ⟨hconnection, hin⟩ := hnew.newConnectionToSocket
    (hs.freshBytestream s.nextBytestream (Nat.le_refl _)) (Nat.lt_succ_self _) outcome
  unfold State.addBytestream
  dsimp only
  split_ifs with hrequested hfault
  · exact (quiet_record _ _).tables hnew
  · exact hconnection
  · have hopened := quiet_openTube ((s.newBytestream .localPending).newConnectionToSocket
      s.nextBytestream outcome)
    have hlookup := hin (Option.not_isSome_iff_eq_none.mp hfault)
    rw [← hopened.bytestreamToTransport] at hlookup
    exact (quiet_announceRemote _ _ _ contact param).tables
      ((hopened.tables hconnection).bytestreamAccept hlookup sent)

/-! ## Closing the tube -/

/-- A closed entry is in neither table, and the others stay. -/
theorem Tables.removeEntry (hs : Tables s) (hbt : s.bytestreamToTransport.lookup b = some t) :
    Tables (s.removeEntry ⟨b, t⟩) ∧
      (s.removeEntry ⟨b, t⟩).bytestreamToTransport = s.bytestreamToTransport.erase b := by
  let s₁ := s.setBytestream b { s.bytestream b with stateChanged := false, dataReceived := false }
  have hdeaf : Quiet s s₁ :=
    quiet_setBytestream s b (fun h => by cases h) (fun h => by cases h) id
  have hforget := quiet_forgetTransport s₁ t
  have hlater : Quiet (s₁.forgetTransport t)
      ((((s₁.forgetTransport t).record (.bytestreamClose b)).transportDisconnect
        t).fireConnectionClosed t .cancelled "tube is closing") :=
    ((quiet_record _ _).trans (quiet_transportDisconnect _ t)).trans
      (quiet_fireConnectionClosed _ t _ _)
  have hquiet := (hdeaf.trans hforget).trans hlater
  have hpair := (hquiet.tables hs).erasePair (b := b) (t := t)
    (by rw [hquiet.bytestreamToTransport, hbt])
    (hlater.signals_false (forgetTransport_signals s₁ t))
    fun hattends => by
      obtain ⟨hlisten, -⟩ := hforget.attends b (hlater.attends b hattends)
      rw [State.setBytestream_self] at hlisten
      rcases hlisten with h | h <;> cases h
  exact ⟨hpair, congrArg (fun table => table.erase b) hquiet.bytestreamToTransport⟩

/-- **The loop** over the first table closes one entry after the other. -/
theorem Tables.foldl_removeEntry (entries : List (Σ _ : Bytestream, Transport)) (hs : Tables s)
    (hkeys : entries.NodupKeys)
    (hin : ∀ entry ∈ entries, s.bytestreamToTransport.lookup entry.1 = some entry.2) :
    Tables (entries.foldl State.removeEntry s) := by
  induction entries generalizing s with
  | nil => exact hs
  | cons entry entries ih =>
    obtain ⟨hnot, hkeys⟩ := List.nodupKeys_cons.mp hkeys
    obtain ⟨htables, herase⟩ := hs.removeEntry (hin entry List.mem_cons_self)
    refine ih htables hkeys fun entry' hmem => ?_
    have hne : entry'.1 ≠ entry.1 := fun heq =>
      hnot (heq ▸ List.mem_keys_of_mem hmem)
    rw [herase, AList.lookup_erase_ne hne]
    exact hin entry' (List.mem_cons_of_mem _ hmem)

theorem Tables.streamClose (hs : Tables s) (closedRemotely : Bool) :
    Tables (s.streamClose closedRemotely) := by
  have hclosed := hs.foldl_removeEntry s.bytestreamToTransport.entries
    s.bytestreamToTransport.nodupKeys fun entry hmem => AList.mem_lookup_iff.mpr hmem
  refine Quiet.tables ?_ hclosed
  unfold State.streamClose
  dsimp only
  split <;> exact quiet_of_eq rfl rfl rfl rfl rfl rfl rfl rfl

theorem Tables.accept (hs : Tables s) (listening : Bool) : Tables (s.accept listening) := by
  unfold State.accept
  split_ifs
  · exact hs
  · refine Quiet.tables ?_ hs
    exact quiet_of_eq rfl rfl rfl rfl rfl rfl rfl rfl
  · exact hs.streamClose true

/-! ## Runs -/

/-- A step is an operation of a tube that is not closed, and in which nothing has failed. -/
theorem operation_of_step (hstep : step s e = some s') :
    s.fault = none ∧ s.closed = false ∧ operation s e = some s' := by
  unfold step at hstep
  split at hstep
  · cases hstep
  · rename_i hcond
    push Not at hcond
    exact ⟨Option.not_isSome_iff_eq_none.mp hcond.1, by simpa using hcond.2.1, hstep⟩

/-- **One step** keeps the tables inverse, and fails no lookup. -/
theorem Tables.step (hs : Tables s) (hstep : step s e = some s') : Tables s' := by
  obtain ⟨-, -, hstep⟩ := operation_of_step hstep
  cases e with
  | accept listening =>
    simp only [operation, Option.ite_none_left_eq_some, Option.some.injEq] at hstep
    obtain ⟨-, rfl⟩ := hstep
    exact hs.accept listening
  | localConnection incoming presence =>
    simp only [operation, Option.ite_none_left_eq_some, Option.some.injEq] at hstep
    obtain ⟨-, rfl⟩ := hstep
    exact hs.localNewConnectionCb incoming presence
  | credentials t credentials presence =>
    simp only [operation, Option.ite_none_right_eq_some, Option.some.injEq] at hstep
    obtain ⟨ht, rfl⟩ := hstep
    obtain ⟨herase, hwait⟩ := hs.eraseCredentials ht
    obtain ⟨hnone, hlt⟩ := hs.waiting_mem (List.mem_append_right _ ht)
    exact herase.credentialsReceivedCb hnone hwait hlt credentials presence
  | siReply t accepted =>
    simp only [operation] at hstep
    split at hstep
    · rename_i ht
      obtain ⟨herase, hwait⟩ := hs.eraseNegotiation ht
      obtain ⟨hnone, hlt⟩ := hs.waiting_mem (List.mem_append_left _ ht)
      cases accepted with
      | none =>
        cases hstep
        exact (quiet_fireConnectionClosed _ t _ _).tables herase
      | some state =>
        cases hstep
        exact herase.extraBytestreamNegotiateCb hnone hwait hlt state
    · cases hstep
  | addBytestream contact outcome sent param =>
    cases hstep
    exact hs.addBytestream contact outcome sent param
  | stateChanged b state =>
    simp only [operation, Option.ite_none_left_eq_some, Option.some.injEq] at hstep
    obtain ⟨hcond, rfl⟩ := hstep
    push Not at hcond
    split
    · rename_i hchanged
      exact hs.stateChanged hchanged hcond.1
    · refine Quiet.tables ?_ hs
      exact quiet_setBytestream s b id id fun h => absurd h hcond.1
  | writeBlocked b blocked =>
    simp only [operation, Option.ite_none_left_eq_some, Option.some.injEq] at hstep
    obtain ⟨hopen, rfl⟩ := hstep
    split
    · rename_i hdata
      exact hs.bytestreamWriteBlockedCb ⟨.inr hdata, hopen⟩ blocked
    · exact hs
  | dataReceived b data =>
    simp only [operation, Option.ite_none_left_eq_some, Option.some.injEq] at hstep
    obtain ⟨hopen, rfl⟩ := hstep
    split
    · rename_i hdata
      exact hs.dataReceivedCb ⟨.inr hdata, hopen⟩ data
    · exact hs
  | transportData t data =>
    simp only [operation, Option.ite_none_left_eq_some, Option.some.injEq] at hstep
    obtain ⟨-, rfl⟩ := hstep
    split
    · exact (quiet_transportHandler s t data).tables hs
    · exact hs
  | connected t param =>
    simp only [operation, Option.ite_none_left_eq_some] at hstep
    obtain ⟨-, hstep⟩ := hstep
    have hset : Quiet s (s.setTransport t { s.transport t with state := .connected }) :=
      quiet_setTransport s t id
    split at hstep
    · cases hstep
      exact hset.tables hs
    · rename_i contact _
      cases hstep
      exact (hset.trans (quiet_transportConnectedCb _ t contact param)).tables hs
  | disconnected t =>
    simp only [operation, Option.ite_none_left_eq_some, Option.some.injEq] at hstep
    obtain ⟨-, rfl⟩ := hstep
    exact (quiet_disconnected s t).tables hs
  | bufferEmpty t =>
    simp only [operation, Option.ite_none_left_eq_some, Option.some.injEq] at hstep
    obtain ⟨-, rfl⟩ := hstep
    have hset : Quiet s (s.setTransport t { s.transport t with bufferEmpty := true }) :=
      quiet_setTransport s t id
    split
    · rename_i hsignals
      refine (hset.tables hs).transportBufferEmptyCb ?_
      rw [State.setTransport_self]
      exact hsignals
    · exact hset.tables hs
  | resume result =>
    cases hframes : s.frames with
    | nil =>
      simp only [operation, hframes] at hstep
      cases hstep
    | cons frame frames =>
      have hpop : Quiet s { s with frames := frames } :=
        quiet_of_eq rfl rfl rfl rfl rfl rfl rfl rfl
      simp only [operation, hframes] at hstep
      cases frame with
      | send b t =>
        cases hstep
        exact (hpop.trans (quiet_dataSent _ b t result)).tables hs
      | connected t =>
        cases hstep
        exact (hpop.trans (quiet_remoteConnectionFired _ t)).tables hs
  | close closedRemotely =>
    cases hstep
    exact hs.streamClose closedRemotely

/-- **Inverse tables.**  In every state that a stream tube reaches the two tables are
inverse to each other, and no handler has looked for an entry in vain. -/
theorem tables_inverse (config : Config)
    (hreach : Reachable step anyEvent (State.new config) s) :
    Inverse s.bytestreamToTransport s.transportToBytestream ∧
      ∀ f, s.fault = some f → f.lookup = false := by
  have htables : Tables s :=
    hreach.invariant (tables_new config) fun _ _ _ hs _ hstep => hs.step hstep
  exact ⟨htables.inverse, htables.fault⟩

/-- A tube that was offered to the local user. -/
def acceptedTube : Config where
  id := 5
  requested := false
  targetHandleType := .contact
  addressType := .unix
  accessControl := .localhost
  initiator := "romeo@montague.lit"
  uid := 1000

/-- Two local connections.  The socket of the first one breaks while data is sent to it,
and its bytestream is closed from inside of that call. -/
def brokenRun : List Event :=
  [.accept true, .localConnection ⟨true, none⟩ (some (some "orchard")), .siReply 0 (some .initiating),
    .localConnection ⟨true, none⟩ (some (some "orchard")), .stateChanged 0 .opened,
    .siReply 1 (some .initiating), .dataReceived 0 [1], .disconnected 0, .stateChanged 0 .closed,
    .resume .failed, .stateChanged 1 .opened]

theorem tables_inverse_brokenRun :
    ∃ s, run step (State.new acceptedTube) brokenRun = some s ∧ s.fault = none ∧
      s.bytestreamToTransport.entries = [⟨1, 1⟩] ∧
      Inverse s.bytestreamToTransport s.transportToBytestream ∧
      ∀ f, s.fault = some f → f.lookup = false :=
  ⟨_, rfl, by decide, by decide,
    tables_inverse acceptedTube (reachable_of_run brokenRun (admits_anyEvent brokenRun) rfl)⟩

end TubeStream
