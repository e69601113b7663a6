/-
# How a file transfer ends

`COMPLETED` and `CANCELLED` are meant to be the last states of a transfer, and
most callbacks of the channel check for them.  Some do not, and this module says
exactly which: a run keeps to its first end if and only if none of its steps is
one of those.
-/
import Gabble.FtChannel

namespace FtChannel

open Base64 Transition

/-! ## The states of a transfer -/

/-- The states the channel has signalled, in order. -/
def states (out : List Effect) : List FileTransferState :=
  out.filterMap fun e =>
    match e with
    | .stateChanged state _ => some state
    | _ => none

/-- Nothing follows a state in which the transfer has ended. -/
def Absorbing (s : State) : Prop :=
  (states s.out).Pairwise fun earlier _ => earlier.ended = false

/-- The last state signalled is the state the channel is in. -/
def Current (s : State) : Prop := (states s.out).getLast? = some s.state

instance (s : State) : Decidable (Absorbing s) :=
  inferInstanceAs (Decidable (List.Pairwise _ _))

theorem states_append (out out' : List Effect) : states (out ++ out') = states out ++ states out' :=
  List.filterMap_append

theorem current_new (origin : Origin) (filename : String) (size initialOffset : UInt64)
    (resumeSupported metadata : Bool) :
    Current (new origin filename size initialOffset resumeSupported metadata) := rfl

theorem absorbing_new (origin : Origin) (filename : String) (size initialOffset : UInt64)
    (resumeSupported metadata : Bool) :
    Absorbing (new origin filename size initialOffset resumeSupported metadata) :=
  List.pairwise_singleton _ _

/-! ## Functions that do not touch the state -/

/-- Nothing was signalled about the state, and it is the same. -/
def Quiet (s s' : State) : Prop := s'.state = s.state ∧ states s'.out = states s.out

variable {s s' s'' : State}

theorem Quiet.refl (s : State) : Quiet s s := ⟨rfl, rfl⟩

theorem Quiet.trans (h : Quiet s s') (h' : Quiet s' s'') : Quiet s s'' :=
  ⟨h'.1.trans h.1, h'.2.trans h.2⟩

theorem Quiet.current (h : Quiet s s') (hc : Current s) : Current s' := by
  rw [Current, h.1, h.2]
  exact hc

theorem Quiet.absorbing (h : Quiet s s') : Absorbing s' ↔ Absorbing s := by
  rw [Absorbing, h.2, Absorbing]

/-- The effects that say nothing about the state. -/
def Effect.silent : Effect → Bool
  | .stateChanged _ _ => false
  | _ => true

theorem quiet_emit {e : Effect} (he : e.silent = true) (s : State) : Quiet s (emit e s) := by
  refine ⟨rfl, ?_⟩
  rw [emit, states_append]
  cases e with
  | stateChanged => cases he
  | _ => exact List.append_nil _

theorem Quiet.emit {e : Effect} (h : Quiet s s') (he : e.silent = true) :
    Quiet s (emit e s') := h.trans (quiet_emit he s')

theorem Quiet.of_eq (hstate : s'.state = s.state) (hout : s'.out = s.out) : Quiet s s' :=
  ⟨hstate, by rw [hout]⟩

theorem quiet_blockReceiving (block : Bool) (s : State) : Quiet s (blockReceiving block s) := by
  rw [blockReceiving]
  cases s.transport with
  | none => exact .refl s
  | some t => exact quiet_emit rfl _

theorem quiet_blockReading (block : Bool) (s : State) : Quiet s (blockReading block s) := by
  rw [blockReading]
  split
  · exact quiet_emit rfl s
  · split
    · exact quiet_emit rfl s
    · exact .refl s

theorem quiet_emitProgressUpdate (now : GTimeVal) (s : State) :
    Quiet s (emitProgressUpdate now s) := quiet_emit rfl _

theorem quiet_transferredChunk (count : UInt64) (now : GTimeVal) (s : State) :
    Quiet s (transferredChunk count now s) := by
  rw [transferredChunk]
  dsimp only
  split
  · exact quiet_emit rfl _
  · split
    · exact .refl s
    · split
      · exact quiet_emit rfl _
      · exact .refl s

/-! ## What a function does to the end of a transfer -/

/-- From `s`, which signals its own state last, to `s'`: the end of the transfer
is kept exactly when `ok` holds. -/
structure Ends (s s' : State) (ok : Prop) : Prop where
  current : Current s'
  absorbing : Absorbing s' ↔ Absorbing s ∧ ok

theorem Quiet.ends (h : Quiet s s') (hc : Current s) : Ends s s' True :=
  ⟨h.current hc, h.absorbing.trans (and_iff_left trivial).symm⟩

theorem Ends.trans {ok ok' : Prop} (h : Ends s s' ok) (h' : Ends s' s'' ok') :
    Ends s s'' (ok ∧ ok') :=
  ⟨h'.current, by rw [h'.absorbing, h.absorbing, and_assoc]⟩

theorem Ends.congr {ok ok' : Prop} (h : Ends s s' ok) (hiff : ok ↔ ok') : Ends s s' ok' :=
  ⟨h.current, by rw [h.absorbing, hiff]⟩

/-- After a function that is always right, only the next one matters. -/
theorem Ends.then {ok : Prop} (h : Ends s s' True) (h' : Ends s' s'' ok) : Ends s s'' ok :=
  (h.trans h').congr (iff_of_eq (true_and _))

/-- Before a function that is always right, only the one before matters. -/
theorem Ends.andThen {ok : Prop} (h : Ends s s' ok) (h' : Ends s' s'' True) : Ends s s'' ok :=
  (h.trans h').congr (iff_of_eq (and_true _))

/-- A state change keeps the end of a transfer if there was no end yet, or if it
changes nothing. -/
theorem ends_setState (state : FileTransferState) (reason : StateChangeReason)
    (hc : Current s) :
    Ends s (setState state reason s) (s.state.ended = true → s.state = state) := by
  rw [setState]
  split
  case isTrue heq => exact ((Quiet.refl s).ends hc).congr (by simp [heq])
  case isFalse hne =>
    have hstates : states (s.out ++ [Effect.stateChanged state reason]) = states s.out ++ [state] :=
      states_append _ _
    refine ⟨by rw [Current, hstates, List.getLast?_concat], ?_⟩
    rw [Absorbing, hstates, List.pairwise_append, Absorbing]
    -- the states before the last have not ended, the last is the channel's own
    obtain ⟨before, hbefore⟩ := List.getLast?_eq_some_iff.mp hc
    rw [hbefore, List.pairwise_append]
    constructor
    · rintro ⟨hpairs, -, hlast⟩
      refine ⟨hpairs, fun hended => ?_⟩
      have hstate := hlast s.state (List.mem_append_right _ List.mem_cons_self) state
        List.mem_cons_self
      rw [hended] at hstate
      cases hstate
    · rintro ⟨⟨hpairs, hsingle, hall⟩, hended⟩
      refine ⟨⟨hpairs, hsingle, hall⟩, List.pairwise_singleton _ _, fun earlier hmem next _ => ?_⟩
      rcases List.mem_append.mp hmem with hmem | hmem
      · exact hall earlier hmem s.state List.mem_cons_self
      · rw [List.mem_singleton.mp hmem]
        by_contra hne'
        exact hne (hended (by simpa using hne'))

@[simp]
theorem setState_state (state : FileTransferState) (reason : StateChangeReason) (s : State) :
    (setState state reason s).state = state := by
  rw [setState]
  split
  case isTrue heq => exact heq
  case isFalse => rfl

/-- A change that is made unless the transfer has ended is always right. -/
theorem ends_cancelUnlessEnded (reason : StateChangeReason) (hc : Current s) :
    Ends s (cancelUnlessEnded reason s) True := by
  rw [cancelUnlessEnded]
  split
  case isTrue => exact (Quiet.refl s).ends hc
  case isFalse hended =>
    exact (ends_setState _ _ hc).congr (iff_true_intro fun h => absurd h hended)

theorem cancelUnlessEnded_of_ended (reason : StateChangeReason) (h : s.state.ended = true) :
    cancelUnlessEnded reason s = s := if_pos h

section

variable (a : Answers)

theorem ends_terminateCollection (hc : Current s) :
    Ends s (terminateCollection a s) True := by
  have hemit := (quiet_emit (e := .collectionTerminate) rfl s).ends hc
  rw [terminateCollection]
  split
  · split
    · have hcancel := ends_cancelUnlessEnded .localStopped hemit.current
      exact (hemit.then hcancel).then ((quiet_emit rfl _).ends hcancel.current)
    · exact hemit
  · exact (Quiet.refl s).ends hc

theorem ends_bytestreamIfaceClose (hc : Current s) :
    Ends s (bytestreamIfaceClose a s) True := by
  have hemit := (quiet_emit (e := .bytestreamClose) rfl s).ends hc
  rw [bytestreamIfaceClose]
  split
  · exact hemit.then (ends_cancelUnlessEnded _ hemit.current)
  · exact hemit

theorem ends_closeSessionAndTransport (hc : Current s) :
    Ends s (closeSessionAndTransport a s) True := by
  rw [closeSessionAndTransport]
  have hterminate := ends_terminateCollection a hc
  have hdrop : ∀ s : State, Quiet s
      { s with gtalkFileCollection := false, bytestream := false, listener := false,
               transport := none } := fun s => ⟨rfl, rfl⟩
  split
  · have hclose := ends_bytestreamIfaceClose a hterminate.current
    exact (hterminate.then hclose).then ((hdrop _).ends hclose.current)
  · exact hterminate.then ((hdrop _).ends hterminate.current)

/-- Closing the session does not change the state of a transfer that has
ended. -/
theorem closeSessionAndTransport_state (h : s.state.ended = true) :
    (closeSessionAndTransport a s).state = s.state := by
  have hterminate : (terminateCollection a s).state = s.state := by
    rw [terminateCollection]
    split
    · split
      · rw [cancelUnlessEnded_of_ended _ (show (emit _ s).state.ended = true from h)]
        rfl
      · rfl
    · rfl
  rw [closeSessionAndTransport]
  dsimp only
  split
  · rw [bytestreamIfaceClose]
    split
    · rw [bytestreamClosed, cancelUnlessEnded_of_ended _
        (show (emit _ (terminateCollection a s)).state.ended = true from hterminate ▸ h)]
      exact hterminate
    · exact hterminate
  · exact hterminate

theorem closeSessionAndTransport_requested (s : State) :
    (closeSessionAndTransport a s).requested = s.requested := by
  have hcancel : ∀ reason (s : State), (cancelUnlessEnded reason s).requested = s.requested := by
    intro reason s
    rw [cancelUnlessEnded]
    split
    · rfl
    · rw [setState]
      split <;> rfl
  have hterminate : (terminateCollection a s).requested = s.requested := by
    rw [terminateCollection]
    split
    · split
      · exact hcancel _ _
      · rfl
    · rfl
  rw [closeSessionAndTransport]
  dsimp only
  split
  · rw [bytestreamIfaceClose]
    split
    · rw [bytestreamClosed, hcancel]
      exact hterminate
    · exact hterminate
  · exact hterminate

end

/-! ## The callbacks -/

theorem ends_channelOpen (hc : Current s) :
    Ends s (channelOpen s) (s.state.ended = false) := by
  have hopened : Quiet s { s with channelOpened := true } := ⟨rfl, rfl⟩
  rw [channelOpen]
  dsimp only
  split
  · have hemit : Quiet s
        (emit (.initialOffsetDefined s.initialOffset) { s with channelOpened := true }) :=
      hopened.trans (quiet_emit rfl _)
    have hset := ends_setState .opened .none (hemit.current hc)
    refine (((hemit.ends hc).then hset).andThen
      ((quiet_blockReceiving false _).ends hset.current)).congr ?_
    rw [hemit.1]
    cases s.state <;> simp [FileTransferState.ended]
  · refine ((hopened.ends hc).then
      (ends_setState .accepted .none (hopened.current hc))).congr ?_
    cases s.state <;> simp [FileTransferState.ended]

theorem ended_iff (s : State) :
    s.state.ended = true ↔ s.state = .completed ∨ s.state = .cancelled := by
  cases hs : s.state <;> simp [FileTransferState.ended]

/-- Cancelling a transfer keeps its end unless it is completed. -/
theorem ends_cancel (reason : StateChangeReason) (hc : Current s) :
    Ends s (setState .cancelled reason s) (s.state ≠ .completed) := by
  refine (ends_setState _ _ hc).congr ?_
  cases hs : s.state <;> simp [FileTransferState.ended]

/-- Completing a transfer keeps its end unless it is cancelled. -/
theorem ends_complete (reason : StateChangeReason) (hc : Current s) :
    Ends s (setState .completed reason s) (s.state ≠ .cancelled) := by
  refine (ends_setState _ _ hc).congr ?_
  cases hs : s.state <;> simp [FileTransferState.ended]

/-- The local socket may go once the transfer has completed, unless it is an
outgoing one with bytes to send. -/
def mayGo (s : State) : Bool := !(s.requested && short s && s.state = .completed)

theorem mayGo_iff (s : State) :
    mayGo s = true ↔ (s.requested = true → short s = true → s.state ≠ .completed) := by
  rw [mayGo]
  cases s.requested <;> cases short s <;> simp

theorem ends_transportDisconnectedCb (a : Answers) (hc : Current s) :
    Ends s (transportDisconnectedCb a s) (mayGo s = true) := by
  rw [transportDisconnectedCb]
  split
  case isTrue hcancel =>
    have hset := ends_cancel .localError hc
    refine (hset.andThen (ends_closeSessionAndTransport a hset.current)).congr ?_
    rw [mayGo_iff]
    rcases Bool.or_eq_true_iff.mp hcancel with h | h
    · obtain ⟨hrequested, hshort⟩ := Bool.and_eq_true_iff.mp h
      exact ⟨fun hne _ _ => hne, fun hgo => hgo hrequested hshort⟩
    · obtain ⟨hrequested, hne⟩ := Bool.and_eq_true_iff.mp h
      exact iff_of_true (by simpa using hne) fun _ _ => by simpa using hne
  case isFalse hstay =>
    refine ((Quiet.refl s).ends hc).congr (iff_of_true trivial ?_)
    rw [mayGo_iff]
    intro hrequested hshort
    exact absurd (by rw [hrequested, hshort]; rfl) hstay

theorem ends_transportDisconnect (a : Answers) (hc : Current s) :
    Ends s (transportDisconnect a s)
      ((s.transport.any Transport.connected = true) → mayGo s = true) := by
  rw [transportDisconnect]
  cases ht : s.transport with
  | none => exact ((Quiet.refl s).ends hc).congr (by simp)
  | some t =>
    have hemit := (quiet_emit (e := .transportDisconnect) rfl s).ends hc
    dsimp only
    split
    case isTrue hconn =>
      have hgone : Quiet s (transportGone t (emit .transportDisconnect s)) :=
        quiet_emit (e := .transportDisconnect) rfl s
      refine ((hgone.ends hc).then
        (ends_transportDisconnectedCb a (hgone.current hc))).congr ?_
      rw [Option.any_some, hconn]
      exact ⟨fun h _ => h, fun h => h rfl⟩
    case isFalse hconn =>
      refine hemit.congr (iff_of_true trivial ?_)
      rw [Option.any_some]
      exact fun h => absurd h hconn

theorem ends_disconnectIfEmpty (a : Answers) (hc : Current s) :
    Ends s (disconnectIfEmpty a s)
      ((s.transport.any fun t => t.connected && t.bufferEmpty) = true → mayGo s = true) := by
  rw [disconnectIfEmpty]
  cases ht : s.transport with
  | none => exact ((Quiet.refl s).ends hc).congr (by simp)
  | some t =>
    dsimp only
    split
    case isTrue hempty =>
      refine (ends_transportDisconnect a hc).congr ?_
      rw [ht, Option.any_some, Option.any_some, hempty, Bool.and_true]
    case isFalse hempty =>
      refine ((Quiet.refl s).ends hc).congr (iff_of_true trivial ?_)
      rw [Option.any_some]
      exact fun h => absurd (Bool.and_eq_true_iff.mp h).2 hempty

section

variable (state : FileTransferState)

@[simp]
theorem setState_transport (reason : StateChangeReason) (s : State) :
    (setState state reason s).transport = s.transport := by
  rw [setState]
  split <;> rfl

@[simp]
theorem setState_requested (reason : StateChangeReason) (s : State) :
    (setState state reason s).requested = s.requested := by
  rw [setState]
  split <;> rfl

@[simp]
theorem short_setState (reason : StateChangeReason) (s : State) :
    short (setState state reason s) = short s := by
  rw [setState]
  split <;> rfl

end

theorem blockReading_eq (block : Bool) (s : State) :
    ∃ out, blockReading block s = { s with out := out } := by
  rw [blockReading]
  split
  · exact ⟨_, rfl⟩
  · split <;> exact ⟨_, rfl⟩

/-- The local socket goes when its buffer is empty and the transfer has
ended. -/
theorem ends_goIfEnded {s' : State} (hc : Current s)
    (hgo : Ends (blockReading false s) s' (mayGo s = true)) :
    Ends s (if (blockReading false s).state.ended then s' else blockReading false s)
      (mayGo s = true) := by
  have hblock := quiet_blockReading false s
  split
  case isTrue => exact (hblock.ends hc).then hgo
  case isFalse hended =>
    refine (hblock.ends hc).congr (iff_of_true trivial ((mayGo_iff s).mpr fun _ _ hstate => ?_))
    rw [hblock.1, hstate] at hended
    exact hended rfl

theorem ends_transportBufferEmptyCb (a : Answers)
    (hconn : s.transport.any Transport.connected = true) (hc : Current s) :
    Ends s (transportBufferEmptyCb a s) (mayGo s = true) := by
  refine ends_goIfEnded hc
    ((ends_transportDisconnect a ((quiet_blockReading false s).current hc)).congr ?_)
  obtain ⟨out, hblock⟩ := blockReading_eq false s
  rw [hblock]
  exact ⟨fun h => h hconn, fun h _ => h⟩

/-- The collection's changes that keep the end of a transfer. -/
def collectionKeepsEnd (s : State) : GTalkFileCollectionState → Bool
  | .pending | .opened => !s.state.ended
  | .accepted | .terminated => true
  | .error | .connectionFailed => s.state ≠ .completed
  | .completed =>
    s.state ≠ .cancelled &&
      !(s.requested && short s && s.transport.any fun t => t.connected && t.bufferEmpty)

theorem ends_gtalkFileCollectionStateChanged (state : GTalkFileCollectionState)
    (localTerminator : Bool) (a : Answers) (hc : Current s) :
    Ends s (gtalkFileCollectionStateChanged state localTerminator a s)
      (collectionKeepsEnd s state = true) := by
  have hcancel : Ends s (closeSessionAndTransport a (setState .cancelled .localError s))
      (s.state ≠ .completed) :=
    (ends_cancel .localError hc).andThen
      (ends_closeSessionAndTransport a (ends_cancel .localError hc).current)
  cases state with
  | pending =>
    refine (ends_setState .pending .none hc).congr ?_
    rw [collectionKeepsEnd]
    cases s.state <;> simp [FileTransferState.ended]
  | accepted =>
    rw [gtalkFileCollectionStateChanged]
    split
    case isTrue hpending =>
      refine (ends_setState .accepted .none hc).congr (iff_of_true ?_ rfl)
      rw [hpending]
      exact fun h => nomatch h
    case isFalse => exact ((Quiet.refl s).ends hc).congr (iff_of_true trivial rfl)
  | opened =>
    refine (ends_channelOpen hc).congr ?_
    rw [collectionKeepsEnd, Bool.not_eq_true']
  | terminated =>
    have hguarded := ends_cancelUnlessEnded
      (if localTerminator then .localStopped else .remoteStopped) hc
    exact (hguarded.then (ends_closeSessionAndTransport a hguarded.current)).congr
      (iff_of_true trivial rfl)
  | error => exact hcancel.congr (by rw [collectionKeepsEnd, decide_eq_true_iff])
  | connectionFailed => exact hcancel.congr (by rw [collectionKeepsEnd, decide_eq_true_iff])
  | completed =>
    have hset := ends_complete .none hc
    refine (hset.trans (ends_disconnectIfEmpty a hset.current)).congr ?_
    rw [mayGo_iff, setState_transport, setState_requested, short_setState, setState_state,
      collectionKeepsEnd, Bool.and_eq_true_iff, decide_eq_true_iff]
    refine and_congr_right fun _ => ?_
    cases s.requested <;> cases short s <;> simp

/-! ## Data -/

/-- Bytes would still be missing after `count` more. -/
def shortAfter (count : UInt64) (s : State) : Bool :=
  short { s with transferredBytes := s.transferredBytes + count }

/-- What a chunk changes. -/
theorem transferredChunk_eq (count : UInt64) (now : GTimeVal) (s : State) :
    ∃ emitted timer out, transferredChunk count now s =
      { s with transferredBytes := s.transferredBytes + count,
               lastTransferredBytesEmitted := emitted, progressTimer := timer, out := out } := by
  rw [transferredChunk]
  dsimp only
  split
  · exact ⟨_, _, _, rfl⟩
  · split
    · exact ⟨_, _, _, rfl⟩
    · split <;> exact ⟨_, _, _, rfl⟩

theorem short_transferredChunk (count : UInt64) (now : GTimeVal) (s : State) :
    short (transferredChunk count now s) = shortAfter count s := by
  obtain ⟨emitted, timer, out, h⟩ := transferredChunk_eq count now s
  rw [h]
  rfl

/-- What is received keeps the end of an incoming transfer unless it completes a
cancelled one. -/
theorem ends_dataSent (len : UInt64) (now : GTimeVal) (a : Answers)
    (hincoming : s.requested = false) (hc : Current s) :
    Ends s (dataSent len now a s)
      (s.bytestream = true → shortAfter len s = false → s.state ≠ .cancelled) := by
  have hchunk := quiet_transferredChunk len now s
  obtain ⟨emitted, timer, out, heq⟩ := transferredChunk_eq len now s
  have hbytestream : (transferredChunk len now s).bytestream = s.bytestream := by rw [heq]
  have hrequested : (transferredChunk len now s).requested = false := by
    rw [heq]
    exact hincoming
  have habort : ∀ s : State, Quiet s (abort s) := fun s => ⟨rfl, rfl⟩
  rw [dataSent]
  dsimp only
  rw [short_transferredChunk, hbytestream]
  split
  case isTrue hdone =>
    obtain ⟨hb, hshort⟩ := Bool.and_eq_true_iff.mp hdone
    have hset := ends_complete .none (hchunk.current hc)
    have hcond : (s.bytestream = true → shortAfter len s = false → s.state ≠ .cancelled) ↔
        (transferredChunk len now s).state ≠ .cancelled := by
      rw [hchunk.1]
      exact ⟨fun h => h hb (by simpa using hshort), fun h _ _ => h⟩
    split
    · exact ((hchunk.ends hc).then (hset.andThen ((habort _).ends hset.current))).congr
        hcond.symm
    · refine ((hchunk.ends hc).then
        (hset.trans (ends_disconnectIfEmpty a hset.current))).congr (Iff.trans ?_ hcond.symm)
      refine and_iff_left fun _ => (mayGo_iff _).mpr fun h => ?_
      rw [setState_requested, hrequested] at h
      cases h
  case isFalse hdone =>
    have hcond : (s.bytestream = true → shortAfter len s = false → s.state ≠ .cancelled) ↔
        True := by
      refine iff_true_intro fun hb hshort => absurd ?_ hdone
      rw [hb, hshort]
      rfl
    split
    · exact ((hchunk.ends hc).then ((habort _).ends (hchunk.current hc))).congr hcond.symm
    · split
      · exact (hchunk.ends hc).congr hcond.symm
      · exact ((hchunk.ends hc).then
          ((quiet_blockReading true _).ends (hchunk.current hc))).congr hcond.symm

/-- The data that is received and keeps the end of an incoming transfer. -/
def dataKeepsEnd (s : State) (data : Bytes) : Sent → Bool
  | .failed => !(s.state = .completed && s.transport.any Transport.connected)
  | .partly =>
    !(s.state = .cancelled && s.bytestream && !shortAfter (UInt64.ofNat data.length) s &&
      s.transport.any Transport.connected)
  | .whole => true

/-- An incoming transfer whose socket is gone is completed or cancelled. -/
theorem transportDisconnectedCb_completed (a : Answers) (hincoming : s.requested = false) :
    (transportDisconnectedCb a s).state = .completed ↔ s.state = .completed := by
  rw [transportDisconnectedCb]
  split
  case isTrue hcancel =>
    have hne : s.state ≠ .completed := by simpa [hincoming] using hcancel
    rw [closeSessionAndTransport_state a (by rw [setState_state]; rfl), setState_state]
    exact iff_of_false (fun h => nomatch h) hne
  case isFalse => exact Iff.rfl

/-- What `transport_buffer_empty_cb` does to an incoming transfer: it stays in
its state, and it lets go of the bytestream if it is cancelled. -/
theorem transportBufferEmptyCb_incoming (a : Answers) (hincoming : s.requested = false)
    (hconn : s.transport.any Transport.connected = true) (hc : Current s) :
    Ends s (transportBufferEmptyCb a s) True ∧
      (transportBufferEmptyCb a s).requested = false ∧
      ((transportBufferEmptyCb a s).bytestream = true →
        (transportBufferEmptyCb a s).state ≠ .cancelled) := by
  refine ⟨(ends_transportBufferEmptyCb a hconn hc).congr (iff_true_intro ((mayGo_iff _).mpr
    fun h => absurd h (by simp [hincoming]))), ?_⟩
  obtain ⟨out, hblock⟩ := blockReading_eq false s
  rw [transportBufferEmptyCb, hblock]
  split
  case isFalse hended =>
    refine ⟨hincoming, fun _ hstate => hended ?_⟩
    rw [show s.state = .cancelled from hstate]
    rfl
  case isTrue hended =>
    obtain ⟨t, ht, hconn⟩ := (Option.any_eq_true _ _).mp hconn
    rw [transportDisconnect, ht]
    dsimp only
    rw [if_pos hconn, transportDisconnectedCb]
    split
    · refine ⟨?_, fun h => nomatch h⟩
      rw [closeSessionAndTransport_requested, setState_requested]
      exact hincoming
    case isFalse hstay =>
      refine ⟨hincoming, fun _ hstate => hstay ?_⟩
      have hcancelled : s.state = .cancelled := hstate
      simp [transportGone, emit, hincoming, hcancelled]

theorem ends_dataReceivedCb (data : Bytes) (sent : Sent) (now : GTimeVal) (a : Answers)
    (hincoming : s.requested = false) (hc : Current s) :
    Ends s (dataReceivedCb data sent now a s) (dataKeepsEnd s data sent = true) := by
  have habort : ∀ s : State, Quiet s (abort s) := fun s => ⟨rfl, rfl⟩
  rw [dataReceivedCb]
  cases ht : s.transport with
  | none =>
    refine ((habort s).ends hc).congr (iff_of_true trivial ?_)
    cases sent <;> simp [dataKeepsEnd, ht]
  | some t =>
    dsimp only
    split
    case isTrue hconn =>
      refine ((habort s).ends hc).congr (iff_of_true trivial ?_)
      cases sent <;> simp_all [dataKeepsEnd]
    case isFalse hconn =>
      have hconn : t.connected = true := by simpa using hconn
      have hany : s.transport.any Transport.connected = true := by rw [ht]; exact hconn
      have hsend : Quiet s (emit (.transportSend data) s) := quiet_emit rfl s
      cases sent with
      | failed =>
        have hgone : Quiet s (transportGone t (emit (.transportSend data) s)) := hsend
        have hcb := ends_transportDisconnectedCb a (hgone.current hc)
        refine ((hgone.ends hc).then (hcb.trans (ends_cancel _ hcb.current))).congr ?_
        have hrequested :
            (transportGone t (emit (.transportSend data) s)).requested = false := hincoming
        rw [dataKeepsEnd, hany, Bool.and_true, Bool.not_eq_true', decide_eq_false_iff_not,
          ne_eq, transportDisconnectedCb_completed a hrequested, hgone.1]
        refine and_iff_right ((mayGo_iff _).mpr fun h => ?_)
        rw [hrequested] at h
        cases h
      | whole =>
        obtain ⟨hempty, hrequested, hstate⟩ :=
          transportBufferEmptyCb_incoming (s := emit (.transportSend data) s) a hincoming
            (by exact hany) (hsend.current hc)
        refine ((hsend.ends hc).then (hempty.then
          (ends_dataSent _ now a hrequested hempty.current))).congr ?_
        exact iff_of_true (fun hb _ => hstate hb) rfl
      | partly =>
        have hbuffered : Quiet s { emit (.transportSend data) s with
                                     transport := some { t with bufferEmpty := false } } := hsend
        refine ((hbuffered.ends hc).then
          (ends_dataSent _ now a hincoming (hbuffered.current hc))).congr ?_
        rw [dataKeepsEnd, hany, Bool.and_true]
        cases hb : s.bytestream <;>
          cases hshort : shortAfter (UInt64.ofNat data.length) s <;>
            simp_all [emit, shortAfter, short]

/-- The local data that keeps the end of an outgoing transfer. -/
def localKeepsEnd (s : State) (data : Bytes) (ok : Bool) : Bool :=
  !(ok && s.state = .cancelled && s.bytestream && !shortAfter (UInt64.ofNat data.length) s)

theorem ends_dataForwarded (len : UInt64) (now : GTimeVal) (a : Answers) (hc : Current s) :
    Ends s (dataForwarded len now a s)
      (s.bytestream = true → shortAfter len s = false → s.state ≠ .cancelled) := by
  have hchunk := quiet_transferredChunk len now s
  obtain ⟨emitted, timer, out, heq⟩ := transferredChunk_eq len now s
  have hbytestream : (transferredChunk len now s).bytestream = s.bytestream := by rw [heq]
  rw [dataForwarded, short_transferredChunk, hbytestream]
  split
  case isTrue hshort =>
    exact (hchunk.ends hc).congr (iff_of_true trivial fun _ h => by simp [h] at hshort)
  case isFalse hshort =>
    split
    case isTrue hb =>
      have hset := ends_complete .none (hchunk.current hc)
      refine ((hchunk.ends hc).then
        (hset.andThen (ends_bytestreamIfaceClose a hset.current))).congr ?_
      rw [hchunk.1]
      exact ⟨fun h _ _ => h, fun h => h hb (by simpa using hshort)⟩
    case isFalse hb =>
      have hcond : (s.bytestream = true → shortAfter len s = false → s.state ≠ .cancelled) ↔
          True := iff_true_intro fun h => absurd h hb
      split
      · exact ((hchunk.ends hc).then
          ((quiet_emit rfl _).ends (hchunk.current hc))).congr hcond.symm
      · exact (hchunk.ends hc).congr hcond.symm

theorem ends_transportHandler (data : Bytes) (ok : Bool) (now : GTimeVal) (a : Answers)
    (hc : Current s) :
    Ends s (transportHandler data ok now a s) (localKeepsEnd s data ok = true) := by
  have hforward : ∀ {s' : State}, Quiet s s' → s'.bytestream = s.bytestream →
      shortAfter (UInt64.ofNat data.length) s' = shortAfter (UInt64.ofNat data.length) s →
      Ends s (dataForwarded (UInt64.ofNat data.length) now a s')
        (localKeepsEnd s data true = true) := by
    intro s' hq hb hshort
    refine ((hq.ends hc).then (ends_dataForwarded _ now a (hq.current hc))).congr ?_
    rw [hb, hshort, hq.1, localKeepsEnd]
    cases s.bytestream <;> cases shortAfter (UInt64.ofNat data.length) s <;> simp
  have hclose : ∀ {s' : State}, Quiet s s' →
      Ends s (closeSessionAndTransport a s') (localKeepsEnd s data false = true) :=
    fun hq => ((hq.ends hc).then (ends_closeSessionAndTransport a (hq.current hc))).congr
      (iff_of_true trivial rfl)
  have hsend : Quiet s (emit (.bytestreamSend data) s) := quiet_emit rfl s
  have hsendData : Quiet s (emit (.collectionSendData data) s) := quiet_emit rfl s
  rw [transportHandler]
  split
  case isTrue =>
    cases ok with
    | true => exact hforward hsend rfl rfl
    | false => exact hclose hsend
  case isFalse hb =>
    split
    · cases ok with
      | true => exact hforward hsendData rfl rfl
      | false => exact hclose hsendData
    · refine (hforward (.refl s) rfl rfl).congr (iff_of_true ?_ ?_) <;>
        simp [localKeepsEnd, hb]

/-! ## The user -/

theorem ends_acceptFile (addressType accessControl : ℕ) (offset : UInt64) (listens : Bool)
    (hc : Current s) :
    Ends s (acceptFile addressType accessControl offset listens s) True := by
  have hfail : ∀ e, Ends s (emit (.failed e) s) True := fun e => (quiet_emit rfl s).ends hc
  rw [acceptFile]
  split
  · exact hfail _
  split
  · exact hfail _
  case isFalse hpending =>
    have hpending : s.state = .pending := by simpa using hpending
    split
    · exact hfail _
    · have hlisten : Quiet s { s with listener := true, socketAddress := true } := ⟨rfl, rfl⟩
      have hset := (ends_setState .accepted .requested (hlisten.current hc)).congr
        (iff_true_intro fun h => by rw [hlisten.1, hpending] at h; cases h)
      have hreturn := ((hlisten.ends hc).then hset).then ((quiet_emit
        (e := .returned) rfl _).ends hset.current)
      rw [accepted]
      dsimp only
      refine hreturn.then (Quiet.ends ?_ hreturn.current)
      split
      · exact ((Quiet.of_eq rfl rfl).emit rfl).emit rfl
      · split
        · exact ((Quiet.of_eq rfl rfl).emit rfl).emit rfl
        · exact .of_eq rfl rfl

theorem ends_provideFile (addressType accessControl : ℕ) (listens : Bool) (hc : Current s) :
    Ends s (provideFile addressType accessControl listens s) True := by
  have hfail : ∀ e, Ends s (emit (.failed e) s) True := fun e => (quiet_emit rfl s).ends hc
  rw [provideFile]
  split
  · exact hfail _
  split
  · exact hfail _
  case isFalse hstate =>
    have hended : s.state.ended = false := by
      cases hs : s.state <;> simp_all [FileTransferState.ended]
    split
    · exact hfail _
    split
    · exact hfail _
    · have hlisten : Quiet s { s with listener := true, socketAddress := true } := ⟨rfl, rfl⟩
      rw [provided]
      dsimp only
      split
      · have hemit := hlisten.trans (quiet_emit (e := .initialOffsetDefined s.initialOffset) rfl _)
        have hset := (ends_setState .opened .requested (hemit.current hc)).congr
          (iff_true_intro fun h => by rw [hemit.1, hended] at h; cases h)
        exact ((hemit.ends hc).then hset).then ((quiet_emit rfl _).ends hset.current)
      · exact (hlisten.trans (quiet_emit rfl _)).ends hc

theorem quiet_newConnectionCb (s : State) : Quiet s (newConnectionCb s) := by
  rw [newConnectionCb]
  dsimp only
  split
  · exact ⟨(quiet_blockReceiving _ _).1, (quiet_blockReceiving _ _).2⟩
  · exact ⟨(quiet_blockReading _ _).1, (quiet_blockReading _ _).2⟩

theorem quiet_offerFile (contact : Contact) (s : State) : Quiet s (offerFile contact s) := by
  have hfail : ∀ e, Quiet s (emit (.failed e) { s with offered := true }) :=
    fun e => quiet_emit rfl _
  rw [offerFile]
  dsimp only
  split
  · exact ⟨rfl, rfl⟩
  split
  · exact ⟨rfl, rfl⟩
  split
  · exact hfail _
  split
  · exact hfail _
  split
  · exact quiet_emit rfl _
  split
  · exact quiet_emit rfl _
  · exact hfail _

theorem ends_close (a : Answers) (hc : Current s) : Ends s (close a s) True := by
  rw [close]
  split
  · exact (quiet_emit rfl s).ends hc
  case isFalse hended =>
    have hset := (ends_setState .cancelled .localStopped hc).congr
      (iff_true_intro fun h => absurd h hended)
    have hclose := hset.then (ends_closeSessionAndTransport a hset.current)
    exact hclose.then ((quiet_emit rfl _).ends hclose.current)

/-! ## Runs -/

/-- The steps that keep the end of a transfer.  The others are the callbacks that
do not look at the state before they change it:
* the peer refuses an offer whose transfer has completed;
* the bytestream or the collection opens, or the collection is pending, after the
  end;
* the collection fails after the transfer has completed, or completes after it
  was cancelled, or completes while the local socket of an outgoing transfer is
  connected and bytes are missing;
* the last bytes are received or sent over a bytestream after the transfer was
  cancelled, or writing them to the local socket fails after it has completed;
* the local socket of a completed outgoing transfer goes and bytes are
  missing. -/
def keepsEnd (s : State) : Event → Bool
  | .negotiated reply => reply.isSome || s.state ≠ .completed
  | .bytestreamStateChanged state => state ≠ .opened || !s.state.ended
  | .collectionStateChanged state _ _ => collectionKeepsEnd s state
  | .bytestreamDataReceived data sent _ _ | .collectionDataReceived data sent _ _ =>
    dataKeepsEnd s data sent
  | .localData data ok _ _ => localKeepsEnd s data ok
  | .transportDisconnected _ | .oldTransportDisconnected _ | .oldTransportBufferEmpty _ => mayGo s
  | .transportBufferEmpty _ => mayGo s
  | _ => true

/-- One event keeps the end of a transfer exactly when `keepsEnd` says so. -/
theorem ends_handle {e : Event} (henabled : enabled s e = true) (hc : Current s) :
    Ends s (handle s e) (keepsEnd s e = true) := by
  cases e with
  | offerFile contact => exact ((quiet_offerFile contact s).ends hc).congr (by simp [keepsEnd])
  | negotiated reply =>
    have hanswered : Quiet s { s with negotiating := false } := ⟨rfl, rfl⟩
    cases reply with
    | none =>
      refine ((hanswered.ends hc).then (ends_cancel _ (hanswered.current hc))).congr ?_
      simp [keepsEnd]
    | some offset =>
      refine (Quiet.ends ?_ hc).congr (iff_of_true trivial rfl)
      rw [handle, bytestreamNegotiateCb]
      dsimp only
      rw [setBytestream]
      split <;> exact .of_eq rfl rfl
  | bytestreamStateChanged state =>
    rw [handle]
    cases state with
    | opened => exact (ends_channelOpen hc).congr (by simp [keepsEnd])
    | closed => exact (ends_cancelUnlessEnded _ hc).congr (by simp [keepsEnd])
    | _ => exact ((Quiet.refl s).ends hc).congr (by simp [keepsEnd])
  | bytestreamDataReceived data sent now a =>
    have hincoming : s.requested = false := by
      simp only [enabled, Bool.and_eq_true, Bool.not_eq_true'] at henabled
      exact henabled.1.2
    exact ends_dataReceivedCb data sent now a hincoming hc
  | bytestreamWriteBlocked blocked =>
    exact ((quiet_blockReceiving blocked s).ends hc).congr (by simp [keepsEnd])
  | collectionStateChanged state localTerminator a =>
    exact ends_gtalkFileCollectionStateChanged state localTerminator a hc
  | collectionDataReceived data sent now a =>
    have hincoming : s.requested = false := by
      simp only [enabled, Bool.and_eq_true, Bool.not_eq_true'] at henabled
      exact henabled.1.2
    exact ends_dataReceivedCb data sent now a hincoming hc
  | collectionWriteBlocked blocked =>
    exact ((quiet_blockReceiving blocked s).ends hc).congr (by simp [keepsEnd])
  | acceptFile addressType accessControl offset listens =>
    exact (ends_acceptFile addressType accessControl offset listens hc).congr (by simp [keepsEnd])
  | provideFile addressType accessControl listens =>
    exact (ends_provideFile addressType accessControl listens hc).congr (by simp [keepsEnd])
  | newConnection => exact ((quiet_newConnectionCb s).ends hc).congr (by simp [keepsEnd])
  | localData data ok now a => exact ends_transportHandler data ok now a hc
  | transportDisconnected a =>
    have hgone : ∀ t, Quiet s { s with transport := t } := fun t => ⟨rfl, rfl⟩
    exact ((hgone _).ends hc).then (ends_transportDisconnectedCb a ((hgone _).current hc))
  | transportBufferEmpty a =>
    have hempty : Quiet s { s with transport := s.transport.map fun t =>
      { t with bufferEmpty := true } } := ⟨rfl, rfl⟩
    refine (hempty.ends hc).then (ends_transportBufferEmptyCb a ?_ (hempty.current hc))
    obtain ⟨t, ht, hconn⟩ := (Option.any_eq_true _ _).mp henabled
    rw [ht]
    exact (Bool.and_eq_true_iff.mp hconn).1
  | oldTransportDisconnected a =>
    have hgone : ∀ n, Quiet s { s with oldTransports := n } := fun n => ⟨rfl, rfl⟩
    exact ((hgone _).ends hc).then (ends_transportDisconnectedCb a ((hgone _).current hc))
  | oldTransportBufferEmpty a =>
    obtain ⟨out, hblock⟩ := blockReading_eq false s
    have hgone : ∀ n, Quiet (blockReading false s)
        { blockReading false s with oldTransports := n } := fun n => ⟨rfl, rfl⟩
    have hcurrent := (quiet_blockReading false s).current hc
    refine ends_goIfEnded hc (((hgone _).ends hcurrent).then
      ((ends_transportDisconnectedCb a ((hgone _).current hcurrent)).congr ?_))
    rw [hblock]
    exact Iff.rfl
  | presencesUpdated available =>
    rw [handle]
    split
    · exact ((Quiet.refl s).ends hc).congr (by simp [keepsEnd])
    · exact (ends_cancelUnlessEnded _ hc).congr (by simp [keepsEnd])
  | progressTimeout now =>
    exact ((quiet_emitProgressUpdate now s).ends hc).congr (by simp [keepsEnd])
  | close a => exact (ends_close a hc).congr (by simp [keepsEnd])
  | dispose a =>
    have hdispose : Quiet s { s with disposeHasRun := true, progressTimer := false } := ⟨rfl, rfl⟩
    exact ((hdispose.ends hc).then
      (ends_closeSessionAndTransport a (hdispose.current hc))).congr (by simp [keepsEnd])

/-- **The end of a transfer.**  Whoever made the channel and whatever happens to
it, `COMPLETED` and `CANCELLED` are the last of its states exactly when every
step of the run is one that keeps them. -/
theorem absorbing_iff_keepsEnd (origin : Origin) (filename : String) (size initialOffset : UInt64)
    (resumeSupported metadata : Bool) (es : List Event) (s : State)
    (hrun : run step (new origin filename size initialOffset resumeSupported metadata) es =
      some s) :
    Absorbing s ↔ Admits (fun s e => keepsEnd s e = true) step
      (new origin filename size initialOffset resumeSupported metadata) es := by
  have hstep : ∀ s e s', Current s → step s e = some s' →
      Current s' ∧ (Absorbing s' ↔ Absorbing s ∧ keepsEnd s e = true) := by
    intro s e s' hc hs
    rw [step] at hs
    split at hs
    case isTrue => cases hs
    case isFalse hready =>
      simp only [Bool.or_eq_true, Bool.not_eq_true', not_or, Bool.not_eq_false] at hready
      obtain ⟨hcurrent, habsorbing⟩ := ends_handle hready.2 hc
      cases hs
      exact ⟨hcurrent, habsorbing⟩
  refine (run_iff_admits hstep es (current_new ..) hrun).trans ?_
  exact and_iff_right (absorbing_new ..)

/-- A file of four bytes is received over a bytestream, in two pieces, and the
stream is closed. -/
def receivedRun : List Event :=
  [.acceptFile 0 0 0 true,
   .bytestreamStateChanged .opened,
   .newConnection,
   .bytestreamDataReceived [1, 2] .whole ⟨10, 0⟩ ⟨false, false⟩,
   .bytestreamDataReceived [3, 4] .partly ⟨11, 0⟩ ⟨false, false⟩,
   .bytestreamStateChanged .closed,
   .transportBufferEmpty ⟨false, true⟩,
   .close ⟨false, true⟩]

theorem absorbing_iff_keepsEnd_receivedRun :
    ∃ s, run step (new .stream "file" 4 0 false false) receivedRun = some s ∧
      s.state = .completed ∧ Absorbing s := by
  refine ⟨_, rfl, rfl, ?_⟩
  exact (absorbing_iff_keepsEnd .stream "file" 4 0 false false receivedRun _ rfl).mpr
    (by decide +kernel)

/-- A file of four bytes is offered and accepted, the contact goes offline, and
the client writes the bytes after that. -/
def offlineRun : List Event :=
  [.offerFile ⟨true, false, true, false, false⟩,
   .negotiated (some none),
   .bytestreamStateChanged .opened,
   .provideFile 0 0 true,
   .newConnection,
   .presencesUpdated false,
   .localData [1, 2, 3, 4] true ⟨10, 0⟩ ⟨false, true⟩]

/-- A transfer that was cancelled, because the contact is gone, completes. -/
theorem cancelled_then_completed :
    ∃ s, run step (new .request "file" 4 0 true false) offlineRun = some s ∧
      states s.out = [.pending, .accepted, .opened, .cancelled, .completed] ∧ ¬ Absorbing s :=
  ⟨_, rfl, by decide +kernel, by decide +kernel⟩

end FtChannel
