/-
# The hold state of a media channel

A client asks for hold with `RequestHold`, the streaming implementation answers
for each stream on its own, and the channel's hold state is recomputed from all
streams whenever one of them changes, appears or closes.  The Jingle session is
told on some of these moves; what it passes on to the peer is part of the model.
-/
import Gabble.Transition
import Mathlib.Data.List.Basic

namespace MediaChannel

open Transition

/-! ## The Jingle session -/

/-- `WockyJingleState`, in its order. -/
inductive JingleState where
  | pendingCreated
  | pendingInitiateSent
  | pendingInitiated
  | pendingAcceptSent
  | active
  | ended
  deriving DecidableEq

/-- The number of a state. -/
def JingleState.rank : JingleState → ℕ
  | pendingCreated => 0
  | pendingInitiateSent => 1
  | pendingInitiated => 2
  | pendingAcceptSent => 3
  | active => 4
  | ended => 5

/-- What the session keeps about local hold: its `local-hold` property, whether
its dialect has `session-info`, and the `<hold/>` (`true`) and `<unhold/>`
messages it has sent. -/
structure JingleSession where
  state : JingleState
  localHold : Bool
  definesSessionInfo : Bool
  sent : List Bool
  deriving DecidableEq

namespace JingleSession

/-- The peer can be told. -/
def live (sess : JingleSession) : Bool :=
  JingleState.pendingInitiated.rank ≤ sess.state.rank && sess.state.rank < JingleState.ended.rank

/-- `wocky_jingle_session_send_held`. -/
def sendHeld (sess : JingleSession) : JingleSession :=
  if sess.definesSessionInfo then { sess with sent := sess.sent ++ [sess.localHold] } else sess

/-- `wocky_jingle_session_set_local_hold`, with the property's setter. -/
def setLocalHold (held : Bool) (sess : JingleSession) : JingleSession :=
  if sess.localHold != held then
    let sess := { sess with localHold := held }
    if sess.live then sess.sendHeld else sess
  else sess

/-- `set_state`; an outstanding `<hold/>` is sent again on every move. -/
def setState (state : JingleState) (sess : JingleSession) : JingleSession :=
  if state.rank ≤ sess.state.rank then sess
  else
    let sess := { sess with state := state }
    if sess.localHold && sess.live then sess.sendHeld else sess

/-- What the peer believes about being on hold. -/
def peerHeld (sess : JingleSession) : Bool := sess.sent.getLast?.getD false

/-- The session of a call that a peer has started. -/
def incoming (definesSessionInfo : Bool) : JingleSession where
  state := .pendingInitiated
  localHold := false
  definesSessionInfo := definesSessionInfo
  sent := []

/-- `wocky_jingle_factory_create_session`. -/
def outgoing (definesSessionInfo localHold : Bool) : JingleSession where
  state := .pendingCreated
  localHold := localHold
  definesSessionInfo := definesSessionInfo
  sent := []

end JingleSession

/-! ## The channel -/

/-- `TpLocalHoldState`. -/
inductive LocalHoldState where
  | unheld
  | held
  | pendingHold
  | pendingUnhold
  deriving DecidableEq

/-- `TpLocalHoldStateReason`, as far as the channel uses it. -/
inductive LocalHoldStateReason where
  | none
  | requested
  | resourceNotAvailable
  deriving DecidableEq

/-- A media stream; `id` tells it from the others. -/
structure MediaStream where
  id : ℕ
  localHold : Bool
  deriving DecidableEq

/-- D-Bus signals and returns. -/
inductive Signal where
  | holdStateChanged (state : LocalHoldState) (reason : LocalHoldStateReason)
  | setStreamHeld (id : ℕ) (hold : Bool)
  | returnFromRequestHold
  deriving DecidableEq

/-- The fields of `GabbleMediaChannelPrivate` that hold uses. -/
structure Channel where
  streams : List MediaStream
  nextStreamId : ℕ
  session : Option JingleSession
  holdState : LocalHoldState
  holdStateReason : LocalHoldStateReason
  out : List Signal
  deriving DecidableEq

/-- A channel made for a call of our own (`none`), or for a peer's session. -/
def new (incoming : Option Bool) : Channel where
  streams := []
  nextStreamId := 0
  session := incoming.map JingleSession.incoming
  holdState := .unheld
  holdStateReason := .none
  out := []

def Channel.allHeld (self : Channel) : Bool := self.streams.all (·.localHold)

def Channel.anyHeld (self : Channel) : Bool := self.streams.any (·.localHold)

def emit (signal : Signal) (self : Channel) : Channel :=
  { self with out := self.out ++ [signal] }

/-- `HoldStateChanged` with the current state and reason. -/
def emitHoldStateChanged (self : Channel) : Channel :=
  emit (.holdStateChanged self.holdState self.holdStateReason) self

/-- Tell the session, if there is one. -/
def tellSession (held : Bool) (self : Channel) : Channel :=
  { self with session := self.session.map (JingleSession.setLocalHold held) }

/-- Emit `SetStreamHeld` on every stream. -/
def holdStreams (hold : Bool) (self : Channel) : Channel :=
  { self with out := self.out ++ self.streams.map fun stream => .setStreamHeld stream.id hold }

/-- `stream_hold_state_changed`. -/
def streamHoldStateChanged (self : Channel) : Channel :=
  if self.allHeld && !self.anyHeld then
    match self.holdState with
    | .pendingHold => emitHoldStateChanged { self with holdState := .held }
    | .pendingUnhold =>
      emitHoldStateChanged (tellSession false { self with holdState := .unheld })
    | .held | .unheld => self
  else if self.allHeld then
    match self.holdState with
    | .held => self
    -- keep claiming to be in that state
    | .pendingUnhold => self
    | .pendingHold => emitHoldStateChanged { self with holdState := .held }
    -- unexpectedly entered HELD; the session is not told
    | .unheld => emitHoldStateChanged { self with holdState := .held, holdStateReason := .none }
  else if self.anyHeld then
    match self.holdState with
    | .unheld =>
      emitHoldStateChanged { self with holdState := .pendingUnhold, holdStateReason := .none }
    | .held =>
      emitHoldStateChanged { self with holdState := .pendingHold, holdStateReason := .none }
    | .pendingHold | .pendingUnhold => self
  else
    match self.holdState with
    | .unheld => self
    | .pendingHold => self
    | .pendingUnhold =>
      emitHoldStateChanged (tellSession false { self with holdState := .unheld })
    | .held =>
      emitHoldStateChanged
        (tellSession false { self with holdState := .unheld, holdStateReason := .none })

/-- `stream_unhold_failed`. -/
def streamUnholdFailed (self : Channel) : Channel :=
  let self := emitHoldStateChanged
    { self with holdState := .pendingHold, holdStateReason := .resourceNotAvailable }
  let self := streamHoldStateChanged self
  if self.holdState = .held then self else holdStreams true self

/-- Set a stream's `local-hold`; the streams of the channel are the ones that
are looked at. -/
def setLocalHold (id : ℕ) (held : Bool) (self : Channel) : Channel :=
  { self with
    streams := self.streams.map fun stream =>
      if stream.id = id then { stream with localHold := held } else stream }

/-- `gabble_media_stream_hold_state`, with the handler of `notify::local-hold`. -/
def holdState (id : ℕ) (held : Bool) (self : Channel) : Channel :=
  streamHoldStateChanged (setLocalHold id held self)

/-- `gabble_media_stream_unhold_failure`, with the handlers of `unhold-failed`
and `notify::local-hold`. -/
def unholdFailure (id : ℕ) (self : Channel) : Channel :=
  streamHoldStateChanged (streamUnholdFailed (setLocalHold id true self))

/-- `construct_stream`, with `gabble_media_channel_hold_new_stream`. -/
def constructStream (self : Channel) : Channel :=
  let localHold := self.holdState = .held || self.holdState = .pendingHold
  streamHoldStateChanged
    { self with
      streams := self.streams ++ [{ id := self.nextStreamId, localHold := localHold }]
      nextStreamId := self.nextStreamId + 1 }

/-- `stream_close_cb`, with `gabble_media_channel_hold_stream_closed`. -/
def streamClose (id : ℕ) (self : Channel) : Channel :=
  streamHoldStateChanged
    { self with streams := self.streams.eraseP fun stream => stream.id = id }

/-- Closing a list of streams one by one. -/
def closeStreams : List MediaStream → Channel → Channel
  | [], self => self
  | stream :: streams, self => closeStreams streams (streamClose stream.id self)

/-- `session_terminated_cb`: a copy of the list of streams is closed. -/
def sessionTerminated (self : Channel) : Channel :=
  { closeStreams self.streams self with session := none }

/-- The state that `RequestHold` moves to, the session being told when it was
`UNHELD`. -/
def requestPending (hold : Bool) (self : Channel) : Channel :=
  if hold then
    { (if self.holdState = .unheld then tellSession true self else self) with
      holdState := .pendingHold }
  else { self with holdState := .pendingUnhold }

/-- Signal the state if it, or its reason, is not what it was. -/
def announceRequested (oldState : LocalHoldState) (self : Channel) : Channel :=
  if oldState ≠ self.holdState ∨ self.holdStateReason ≠ .requested then
    { emit (.holdStateChanged self.holdState .requested) self with holdStateReason := .requested }
  else self

/-- `gabble_media_channel_request_hold`. -/
def requestHold (hold : Bool) (self : Channel) : Channel :=
  if self.holdState = (if hold then .held else .unheld) then emit .returnFromRequestHold self
  else
    let self := announceRequested self.holdState (requestPending hold self)
    emit .returnFromRequestHold
      (if self.streams.length = 0 then streamHoldStateChanged self else holdStreams hold self)

/-! ## Runs -/

/-- What can happen to the channel. -/
inductive Event where
  /-- `create_session`, in a dialect with or without `session-info`. -/
  | createSession (definesSessionInfo : Bool)
  /-- The session moves to a state, on to its end. -/
  | sessionState (state : JingleState)
  | constructStream
  | streamClose (id : ℕ)
  | holdState (id : ℕ) (held : Bool)
  | unholdFailure (id : ℕ)
  | requestHold (hold : Bool)
  deriving DecidableEq

/-- One event.  Streams belong to a session, and one that has been closed may
still be called by the streaming client. -/
def step (self : Channel) : Event → Option Channel
  | .createSession definesSessionInfo =>
    if self.session = none ∧ self.streams = [] then
      some { self with
        session := some (.outgoing definesSessionInfo (self.holdState != .unheld)) }
    else none
  | .sessionState state =>
    self.session.map fun sess =>
      let self := { self with session := some (sess.setState state) }
      if state = .ended then sessionTerminated self else self
  | .constructStream => self.session.map fun _ => constructStream self
  | .streamClose id => if id < self.nextStreamId then some (streamClose id self) else none
  | .holdState id held => if id < self.nextStreamId then some (holdState id held self) else none
  | .unholdFailure id => if id < self.nextStreamId then some (unholdFailure id self) else none
  | .requestHold hold => some (requestHold hold self)

/-! ## The hold state and the streams -/

/-- `HELD` and `UNHELD` say how the streams are. -/
structure Settled (chan : Channel) : Prop where
  held : chan.holdState = .held → ∀ stream ∈ chan.streams, stream.localHold = true
  unheld : chan.holdState = .unheld → ∀ stream ∈ chan.streams, stream.localHold = false

variable {self self' : Channel}

theorem allHeld_iff : self.allHeld = true ↔ ∀ stream ∈ self.streams, stream.localHold = true :=
  List.all_eq_true

theorem anyHeld_iff : self.anyHeld = false ↔ ∀ stream ∈ self.streams, stream.localHold = false := by
  simp [Channel.anyHeld]

theorem settled_iff : Settled self ↔
    (self.holdState = .held → self.allHeld = true) ∧
      (self.holdState = .unheld → self.anyHeld = false) := by
  rw [allHeld_iff, anyHeld_iff]
  exact ⟨fun h => ⟨h.held, h.unheld⟩, fun h => ⟨h.1, h.2⟩⟩

/-- Neither signals nor the session are looked at. -/
theorem Settled.of_eq (h : Settled self) (hstate : self'.holdState = self.holdState)
    (hstreams : self'.streams = self.streams) : Settled self' := by
  obtain ⟨hheld, hunheld⟩ := h
  exact ⟨by rwa [hstate, hstreams], by rwa [hstate, hstreams]⟩

theorem settled_of_pending
    (h : self.holdState = .pendingHold ∨ self.holdState = .pendingUnhold) : Settled self := by
  rcases h with h | h <;> exact ⟨fun h' => by simp [h] at h', fun h' => by simp [h] at h'⟩

@[simp] theorem streams_emit (signal : Signal) : (emit signal self).streams = self.streams := rfl

@[simp] theorem holdState_emit (signal : Signal) :
    (emit signal self).holdState = self.holdState := rfl

@[simp] theorem session_emit (signal : Signal) : (emit signal self).session = self.session := rfl

@[simp] theorem holdState_holdStreams (hold : Bool) :
    (holdStreams hold self).holdState = self.holdState := rfl

@[simp] theorem session_holdStreams (hold : Bool) :
    (holdStreams hold self).session = self.session := rfl

/-- The state that `stream_hold_state_changed` moves to. -/
def recomputed (self : Channel) : LocalHoldState :=
  match self.allHeld, self.anyHeld, self.holdState with
  | true, false, .pendingHold => .held
  | true, false, .pendingUnhold => .unheld
  | true, true, .pendingHold => .held
  | true, true, .unheld => .held
  | false, true, .unheld => .pendingUnhold
  | false, true, .held => .pendingHold
  | false, false, .pendingUnhold => .unheld
  | false, false, .held => .unheld
  | _, _, holdState => holdState

/-- The session is told on the way from another state to `UNHELD`, and only
then. -/
theorem streamHoldStateChanged_spec (self : Channel) :
    (streamHoldStateChanged self).streams = self.streams ∧
      (streamHoldStateChanged self).nextStreamId = self.nextStreamId ∧
      (streamHoldStateChanged self).holdState = recomputed self ∧
      (streamHoldStateChanged self).session =
        if self.holdState ≠ .unheld ∧ recomputed self = .unheld then
          self.session.map (JingleSession.setLocalHold false)
        else self.session := by
  rw [streamHoldStateChanged, recomputed]
  rcases hall : self.allHeld with _ | _ <;> rcases hany : self.anyHeld with _ | _ <;>
    rcases hstate : self.holdState with _ | _ | _ | _ <;>
    simp [hstate, emitHoldStateChanged, emit, tellSession]

@[simp] theorem holdState_streamHoldStateChanged :
    (streamHoldStateChanged self).holdState = recomputed self :=
  (streamHoldStateChanged_spec self).2.2.1

/-- Whatever the state was before. -/
theorem settled_streamHoldStateChanged (self : Channel) :
    Settled (streamHoldStateChanged self) := by
  obtain ⟨hstreams, -, hstate, -⟩ := streamHoldStateChanged_spec self
  rw [settled_iff, Channel.allHeld, Channel.anyHeld, hstreams, hstate]
  change (_ → self.allHeld = true) ∧ (_ → self.anyHeld = false)
  rw [recomputed]
  rcases self.allHeld with _ | _ <;> rcases self.anyHeld with _ | _ <;>
    rcases self.holdState with _ | _ | _ | _ <;> simp

theorem settled_closeStreams (streams : List MediaStream) (h : Settled self) :
    Settled (closeStreams streams self) := by
  induction streams generalizing self with
  | nil => exact h
  | cons stream streams ih => exact ih (settled_streamHoldStateChanged _)

@[simp] theorem holdState_requestPending (hold : Bool) :
    (requestPending hold self).holdState = if hold then .pendingHold else .pendingUnhold := by
  rw [requestPending]
  split <;> rfl

@[simp] theorem holdState_announceRequested (oldState : LocalHoldState) :
    (announceRequested oldState self).holdState = self.holdState := by
  rw [announceRequested]
  split <;> rfl

@[simp] theorem session_announceRequested (oldState : LocalHoldState) :
    (announceRequested oldState self).session = self.session := by
  rw [announceRequested]
  split <;> rfl

theorem settled_requestHold (hold : Bool) (h : Settled self) : Settled (requestHold hold self) := by
  by_cases hfinal : self.holdState = if hold then .held else .unheld
  · rw [requestHold, if_pos hfinal]
    exact h.of_eq (holdState_emit _) (streams_emit _)
  · rw [requestHold, if_neg hfinal]
    refine Settled.of_eq ?_ (holdState_emit _) (streams_emit _)
    split
    · exact settled_streamHoldStateChanged _
    · refine settled_of_pending ?_
      rw [holdState_holdStreams, holdState_announceRequested, holdState_requestPending]
      cases hold
      · exact .inr rfl
      · exact .inl rfl

theorem settled_step {e : Event} (h : Settled self) (hstep : step self e = some self') :
    Settled self' := by
  cases e with
  | createSession definesSessionInfo =>
    rw [step, Option.ite_none_right_eq_some] at hstep
    obtain ⟨-, hstep⟩ := hstep
    cases hstep
    exact h.of_eq rfl rfl
  | sessionState state =>
    rw [step, Option.map_eq_some_iff] at hstep
    obtain ⟨sess, -, rfl⟩ := hstep
    have hmoved : Settled { self with session := some (sess.setState state) } := h.of_eq rfl rfl
    dsimp only
    split
    · exact (settled_closeStreams self.streams hmoved).of_eq rfl rfl
    · exact hmoved
  | constructStream =>
    rw [step, Option.map_eq_some_iff] at hstep
    obtain ⟨sess, -, rfl⟩ := hstep
    exact settled_streamHoldStateChanged _
  | streamClose id | holdState id | unholdFailure id =>
    rw [step, Option.ite_none_right_eq_some] at hstep
    obtain ⟨-, hstep⟩ := hstep
    cases hstep
    exact settled_streamHoldStateChanged _
  | requestHold hold =>
    cases hstep
    exact settled_requestHold hold h

theorem settled_new (incoming : Option Bool) : Settled (new incoming) := by
  constructor
  · intro h
    cases h
  · rintro - stream hmem
    cases hmem

/-- **The hold state is true of the streams.**  In every run, after each event,
`HELD` means that every stream is held and `UNHELD` that none is. -/
theorem settled_of_reachable (incoming : Option Bool)
    (h : Reachable step anyEvent (new incoming) self) :
    (self.holdState = .held → ∀ stream ∈ self.streams, stream.localHold = true) ∧
      (self.holdState = .unheld → ∀ stream ∈ self.streams, stream.localHold = false) := by
  have hsettled : Settled self :=
    h.invariant (settled_new incoming) fun _ _ _ h _ hstep => settled_step h hstep
  exact ⟨hsettled.held, hsettled.unheld⟩

/-- Two streams of a peer's call, put on hold one after the other. -/
def bothHeld : List Event :=
  [.constructStream, .constructStream, .requestHold true, .holdState 0 true, .holdState 1 true]

/-- Both streams are held when the channel says `HELD`, and the peer knows. -/
theorem settled_of_reachable_bothHeld :
    ∃ self, run step (new (some true)) bothHeld = some self ∧ self.holdState = .held ∧
      self.streams.length = 2 ∧ self.session.map JingleSession.peerHeld = some true ∧
      ∀ stream ∈ self.streams, stream.localHold = true := by
  have hrun : ((run step (new (some true)) bothHeld).any fun self =>
      decide (self.holdState = .held ∧ self.streams.length = 2 ∧
        self.session.map JingleSession.peerHeld = some true)) = true := by decide
  obtain ⟨self, hself, hfacts⟩ := (Option.any_eq_true _ _).mp hrun
  obtain ⟨hheld, hlength, hpeer⟩ := of_decide_eq_true hfacts
  have hreach := reachable_of_run bothHeld (admits_anyEvent bothHeld) hself
  exact ⟨self, hself, hheld, hlength, hpeer, (settled_of_reachable (some true) hreach).1 hheld⟩

end MediaChannel
