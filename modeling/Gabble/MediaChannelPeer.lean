/-
# Hold as the peer sees it

The Jingle session passes every change of its `local-hold` on to the peer, if
its dialect has `session-info`; in the others the peer never hears of a hold.
The session is told `TRUE` only by a `RequestHold` that finds the channel
`UNHELD`; this module has the steps that lead to hold without it.
-/
import Gabble.MediaChannelHold

namespace MediaChannel

open Transition

/-! ## The session and the peer -/

/-- What the peer believes is the session's `local-hold`, from the moment the
session can send. -/
structure Informed (sess : JingleSession) : Prop where
  early : sess.state.rank < JingleState.pendingInitiated.rank → sess.sent = []
  mute : sess.definesSessionInfo = false → sess.sent = []
  peer : sess.live = true → sess.peerHeld = sess.localHold

/-- A `<hold/>` that is due now goes out. -/
def Hears (sess : JingleSession) : Prop := sess.live = true → sess.definesSessionInfo = true

instance (sess : JingleSession) : Decidable (Hears sess) :=
  inferInstanceAs (Decidable (sess.live = true → sess.definesSessionInfo = true))

variable {sess : JingleSession}

theorem peerHeld_sendHeld (hdefines : sess.definesSessionInfo = true) :
    sess.sendHeld.peerHeld = sess.localHold := by
  rw [JingleSession.sendHeld, if_pos hdefines, JingleSession.peerHeld,
    List.getLast?_append, List.getLast?_singleton]
  rfl

@[simp] theorem state_sendHeld : sess.sendHeld.state = sess.state := by
  rw [JingleSession.sendHeld]
  split <;> rfl

@[simp] theorem localHold_sendHeld : sess.sendHeld.localHold = sess.localHold := by
  rw [JingleSession.sendHeld]
  split <;> rfl

@[simp] theorem definesSessionInfo_sendHeld :
    sess.sendHeld.definesSessionInfo = sess.definesSessionInfo := by
  rw [JingleSession.sendHeld]
  split <;> rfl

theorem live_iff : sess.live = true ↔
    JingleState.pendingInitiated.rank ≤ sess.state.rank ∧
      sess.state.rank < JingleState.ended.rank := by
  rw [JingleSession.live, Bool.and_eq_true, decide_eq_true_iff, decide_eq_true_iff]

theorem sendHeld_of_mute (hmute : sess.definesSessionInfo = false) : sess.sendHeld = sess := by
  rw [JingleSession.sendHeld, hmute]
  rfl

/-- A session that takes the call to be on hold has told its peer so. -/
theorem Informed.hears (h : Informed sess) (hheld : sess.localHold = true) : Hears sess := by
  intro hlive
  by_contra hmute
  have hpeer := h.peer hlive
  rw [hheld, JingleSession.peerHeld, h.mute (eq_false_of_ne_true hmute)] at hpeer
  cases hpeer

/-- A session that has just sent its `local-hold`, as far as it can; `<unhold/>`
need not go out where no `<hold/>` ever did. -/
theorem informed_sendHeld_iff (hlive : sess.live = true)
    (hmute : sess.definesSessionInfo = false → sess.sent = []) :
    Informed sess.sendHeld ↔ (sess.localHold = true → sess.definesSessionInfo = true) := by
  have hlive' : sess.sendHeld.live = true := by
    rwa [JingleSession.live, state_sendHeld]
  have hearly : ¬ sess.sendHeld.state.rank < JingleState.pendingInitiated.rank := by
    rw [state_sendHeld]
    exact Nat.not_lt.mpr (live_iff.mp hlive).1
  constructor
  · intro h hheld
    rw [← definesSessionInfo_sendHeld]
    exact h.hears (localHold_sendHeld.trans hheld) hlive'
  · intro hdefined
    refine ⟨fun hlt => absurd hlt hearly, ?_, fun _ => ?_⟩
    · intro hfalse
      rw [definesSessionInfo_sendHeld] at hfalse
      rw [sendHeld_of_mute hfalse]
      exact hmute hfalse
    · rw [localHold_sendHeld]
      cases hdefines : sess.definesSessionInfo with
      | true => exact peerHeld_sendHeld hdefines
      | false =>
        have hfree : sess.localHold = false :=
          eq_false_of_ne_true fun hheld => by
            rw [hdefined hheld] at hdefines
            cases hdefines
        rw [sendHeld_of_mute hdefines, hfree, JingleSession.peerHeld, hmute hdefines]
        rfl

/-- Telling the session: a hold reaches the peer of a live session only where
the dialect has `session-info`. -/
theorem informed_setLocalHold_iff (held : Bool) (h : Informed sess) :
    Informed (sess.setLocalHold held) ↔ (held = true → Hears sess) := by
  rw [JingleSession.setLocalHold]
  split
  · dsimp only
    split
    · rename_i hlive
      rw [informed_sendHeld_iff hlive h.mute]
      exact imp_congr_right fun _ => ⟨fun hdefined _ => hdefined, fun hears => hears hlive⟩
    · rename_i hdead
      exact iff_of_true ⟨h.early, h.mute, fun hlive => absurd hlive hdead⟩
        fun _ hlive => absurd hlive hdead
  · rename_i hsame
    have hsame : sess.localHold = held := by simpa using hsame
    exact iff_of_true h fun hheld => h.hears (hsame.trans hheld)

/-- A move of the session's state: an outstanding `<hold/>` is due again. -/
theorem informed_setState_iff (state : JingleState) (h : Informed sess) :
    Informed (sess.setState state) ↔ (sess.localHold = true → sess.state.rank < state.rank →
      Hears { sess with state := state }) := by
  rw [JingleSession.setState]
  split
  · exact iff_of_true h fun _ hlt => absurd hlt (by omega)
  · rename_i hup
    have hup : sess.state.rank < state.rank := Nat.not_le.mp hup
    dsimp only
    split
    · rename_i hsend
      obtain ⟨-, hlive⟩ := (Bool.and_eq_true _ _).mp hsend
      rw [informed_sendHeld_iff hlive h.mute]
      exact ⟨fun hdefined hheld _ _ => hdefined hheld, fun hears hheld => hears hheld hup hlive⟩
    · rename_i hsend
      have hfalse : ({ sess with state := state } : JingleSession).live = true →
          sess.localHold = false := by
        intro hlive
        by_contra hheld
        exact hsend ((Bool.and_eq_true _ _).mpr ⟨eq_true_of_ne_false hheld, hlive⟩)
      refine iff_of_true ⟨?_, h.mute, ?_⟩ fun hheld _ hlive => ?_
      · intro hearly
        refine h.early ?_
        dsimp only at hearly
        omega
      · intro hlive
        -- either nothing has been sent yet, or the session could send before
        by_cases hearly : sess.state.rank < JingleState.pendingInitiated.rank
        · change sess.sent.getLast?.getD false = sess.localHold
          rw [h.early hearly, hfalse hlive]
          rfl
        · refine h.peer (live_iff.mpr ⟨Nat.not_lt.mp hearly, ?_⟩)
          have hend := (live_iff.mp hlive).2
          dsimp only at hend
          omega
      · rw [hfalse hlive] at hheld
        cases hheld

theorem localHold_setLocalHold (held : Bool) : (sess.setLocalHold held).localHold = held := by
  rw [JingleSession.setLocalHold]
  split
  · dsimp only
    split
    · exact localHold_sendHeld
    · rfl
  · rename_i hsame
    simpa using hsame

theorem localHold_setState (state : JingleState) :
    (sess.setState state).localHold = sess.localHold := by
  rw [JingleSession.setState]
  split
  · rfl
  · dsimp only
    split
    · exact localHold_sendHeld
    · rfl

theorem informed_incoming (definesSessionInfo : Bool) :
    Informed (.incoming definesSessionInfo) := ⟨fun _ => rfl, fun _ => rfl, fun _ => rfl⟩

theorem informed_outgoing (definesSessionInfo localHold : Bool) :
    Informed (.outgoing definesSessionInfo localHold) :=
  ⟨fun _ => rfl, fun _ => rfl,
    fun hlive => absurd (live_iff.mp hlive).1 (Nat.not_succ_le_zero 1)⟩

/-! ## The channel and the session -/

/-- What the session has been told, if there is one. -/
def Channel.told (chan : Channel) : Option Bool := chan.session.map (·.localHold)

/-- The session knows of a hold that is reported or on its way, and of `UNHELD`. -/
structure Told (chan : Channel) : Prop where
  informed : ∀ sess, chan.session = some sess → Informed sess
  hold : chan.holdState = .held ∨ chan.holdState = .pendingHold → chan.told ≠ some false
  unhold : chan.holdState = .unheld → chan.told ≠ some true

variable {self self' : Channel}

/-- Neither signals nor streams are looked at. -/
theorem Told.of_eq (h : Told self) (hstate : self'.holdState = self.holdState)
    (hsession : self'.session = self.session) : Told self' := by
  obtain ⟨hinformed, hhold, hunhold⟩ := h
  constructor
  · rwa [hsession]
  · rwa [hstate, Channel.told, hsession]
  · rwa [hstate, Channel.told, hsession]

theorem told_congr (hstate : self'.holdState = self.holdState)
    (hsession : self'.session = self.session) : Told self' ↔ Told self :=
  ⟨fun h => h.of_eq hstate.symm hsession.symm, fun h => h.of_eq hstate hsession⟩

theorem told_tellSession (held : Bool) :
    (tellSession held self).told = self.told.map fun _ => held := by
  rw [Channel.told, Channel.told, tellSession, Option.map_map, Option.map_map]
  exact congrArg (Option.map · self.session)
    (funext fun sess => localHold_setLocalHold held)

theorem informed_tellSession_iff (held : Bool)
    (h : ∀ sess, self.session = some sess → Informed sess) :
    (∀ sess, (tellSession held self).session = some sess → Informed sess) ↔
      (held = true → ∀ sess ∈ self.session, Hears sess) := by
  constructor
  · intro hafter hheld sess hsess
    have hset := hafter _ (Option.map_eq_some_iff.mpr ⟨sess, hsess, rfl⟩)
    exact (informed_setLocalHold_iff held (h sess hsess)).mp hset hheld
  · intro hears sess hsess
    obtain ⟨sess₀, hsess₀, rfl⟩ := Option.map_eq_some_iff.mp hsess
    exact (informed_setLocalHold_iff held (h sess₀ hsess₀)).mpr
      fun hheld => hears hheld sess₀ hsess₀

/-- The streams have gone on hold by themselves. -/
def UnexpectedlyHeld (chan : Channel) : Prop :=
  chan.holdState = .unheld ∧ chan.allHeld = true ∧ chan.anyHeld = true

theorem recomputed_unexpectedly :
    self.holdState = .unheld ∧ recomputed self = .held ↔ UnexpectedlyHeld self := by
  rw [UnexpectedlyHeld, recomputed]
  rcases self.holdState with _ | _ | _ | _ <;> rcases self.allHeld with _ | _ <;>
    rcases self.anyHeld with _ | _ <;> simp

/-- A hold is only entered from a hold, or unexpectedly. -/
theorem recomputed_hold (h : recomputed self = .held ∨ recomputed self = .pendingHold) :
    self.holdState = .held ∨ self.holdState = .pendingHold ∨ UnexpectedlyHeld self := by
  rw [UnexpectedlyHeld]
  rw [recomputed] at h
  revert h
  rcases self.holdState with _ | _ | _ | _ <;> rcases self.allHeld with _ | _ <;>
    rcases self.anyHeld with _ | _ <;> simp

/-- **Recomputing the state.**  What the session knows stays true, unless the
streams have gone on hold by themselves. -/
theorem told_streamHoldStateChanged_iff (h : Told self) :
    Told (streamHoldStateChanged self) ↔ (UnexpectedlyHeld self → self.told = none) := by
  obtain ⟨-, -, hstate, hsession⟩ := streamHoldStateChanged_spec self
  by_cases htell : self.holdState ≠ .unheld ∧ recomputed self = .unheld
  · rw [if_pos htell] at hsession
    have htold : (streamHoldStateChanged self).told = self.told.map fun _ => false := by
      rw [Channel.told, hsession, ← told_tellSession]
      rfl
    refine iff_of_true ⟨?_, ?_, ?_⟩ fun hunexpected => absurd hunexpected.1 htell.1
    · rw [hsession]
      exact (informed_tellSession_iff false h.informed).mpr fun hheld => Bool.noConfusion hheld
    · rw [hstate, htell.2]
      simp
    · rw [htold]
      cases self.told <;> simp
  · rw [if_neg htell] at hsession
    have htold : (streamHoldStateChanged self).told = self.told := by
      rw [Channel.told, hsession, Channel.told]
    constructor
    · intro hafter hunexpected
      have hheld := hafter.hold (.inl (hstate.trans (recomputed_unexpectedly.mpr hunexpected).2))
      have hunheld := h.unhold hunexpected.1
      rw [htold] at hheld
      rcases hb : self.told with _ | _ | _
      · rfl
      · exact absurd hb hheld
      · exact absurd hb hunheld
    · intro hexpected
      refine ⟨by rw [hsession]; exact h.informed, ?_, ?_⟩
      · rw [hstate, htold]
        intro hhold
        rcases recomputed_hold hhold with hheld | hpending | hunexpected
        · exact h.hold (.inl hheld)
        · exact h.hold (.inr hpending)
        · rw [hexpected hunexpected]
          exact Option.some_ne_none _ |>.symm
      · rw [hstate, htold]
        intro hunheld
        exact h.unhold (Decidable.byContradiction fun hne => htell ⟨hne, hunheld⟩)

/-! ## One step -/

theorem told_iff_of_hold (hhold : self.holdState = .held ∨ self.holdState = .pendingHold) :
    Told self ↔ (∀ sess, self.session = some sess → Informed sess) ∧ self.told ≠ some false := by
  refine ⟨fun h => ⟨h.informed, h.hold hhold⟩, fun h => ⟨h.1, fun _ => h.2, fun hunheld => ?_⟩⟩
  rw [hunheld] at hhold
  simp at hhold

theorem told_of_pendingUnhold (hinformed : ∀ sess, self.session = some sess → Informed sess)
    (hstate : self.holdState = .pendingUnhold) : Told self := by
  refine ⟨hinformed, ?_, ?_⟩ <;> rw [hstate] <;> simp

/-- Settled streams are not on hold unexpectedly, nor are any of them alone. -/
theorem not_unexpectedlyHeld
    (h : self.holdState = .unheld → ∀ stream ∈ self.streams, stream.localHold = false) :
    ¬ UnexpectedlyHeld self := by
  rintro ⟨hunheld, -, hany⟩
  rw [anyHeld_iff.mpr (h hunheld)] at hany
  cases hany

theorem told_streamHoldStateChanged (h : Told self)
    (hstreams : self.holdState = .unheld → ∀ stream ∈ self.streams, stream.localHold = false) :
    Told (streamHoldStateChanged self) :=
  (told_streamHoldStateChanged_iff h).mpr fun hunexpected =>
    absurd hunexpected (not_unexpectedlyHeld hstreams)

theorem told_streamClose (id : ℕ) (hs : Settled self) (h : Told self) :
    Told (streamClose id self) := by
  refine told_streamHoldStateChanged (h.of_eq rfl rfl) ?_
  intro hunheld stream hmem
  exact hs.unheld hunheld stream (List.mem_of_mem_eraseP hmem)

theorem told_constructStream (hs : Settled self) (h : Told self) :
    Told (constructStream self) := by
  refine told_streamHoldStateChanged (h.of_eq rfl rfl) ?_
  intro hunheld stream hmem
  change self.holdState = .unheld at hunheld
  rcases List.mem_append.mp hmem with hold | hnew
  · exact hs.unheld hunheld stream hold
  · rw [List.mem_singleton.mp hnew, hunheld]
    rfl

/-- The streams once one of them has told its hold state. -/
theorem mem_setLocalHold {id : ℕ} {held : Bool} {stream : MediaStream} :
    stream ∈ (setLocalHold id held self).streams ↔
      ∃ old ∈ self.streams,
        stream = if old.id = id then { old with localHold := held } else old := by
  rw [setLocalHold, List.mem_map]
  exact exists_congr fun old => and_congr_right fun _ => eq_comm

/-- With no stream held, one that goes on hold is all of them exactly when
there is no other. -/
theorem unexpectedlyHeld_iff {id : ℕ} (hs : Settled self) :
    UnexpectedlyHeld (setLocalHold id true self) ↔
      self.holdState = .unheld ∧ self.streams ≠ [] ∧ ∀ stream ∈ self.streams, stream.id = id := by
  refine and_congr_right fun hunheld => ?_
  change self.holdState = .unheld at hunheld
  have hnone := hs.unheld hunheld
  rw [allHeld_iff]
  constructor
  · rintro ⟨hall, hany⟩
    refine ⟨fun hnil => ?_, fun stream hmem => ?_⟩
    · rw [Channel.anyHeld, setLocalHold, hnil] at hany
      cases hany
    · by_contra hne
      have hheld := hall _ (mem_setLocalHold.mpr ⟨stream, hmem, rfl⟩)
      rw [if_neg hne, hnone stream hmem] at hheld
      cases hheld
  · rintro ⟨hne, hids⟩
    have hall : ∀ stream ∈ (setLocalHold id true self).streams, stream.localHold = true := by
      intro stream hmem
      obtain ⟨old, hold, rfl⟩ := mem_setLocalHold.mp hmem
      rw [if_pos (hids old hold)]
    refine ⟨hall, ?_⟩
    obtain ⟨old, hold⟩ := List.exists_mem_of_ne_nil _ hne
    have hmem : _ ∈ (setLocalHold id true self).streams := mem_setLocalHold.mpr ⟨old, hold, rfl⟩
    exact List.any_eq_true.mpr ⟨_, hmem, hall _ hmem⟩

theorem told_holdState_iff {id : ℕ} (hs : Settled self) (h : Told self) :
    Told (holdState id true self) ↔ (self.told = some false → self.holdState = .unheld →
      self.streams = [] ∨ ∃ stream ∈ self.streams, stream.id ≠ id) := by
  have hset : Told (setLocalHold id true self) := h.of_eq rfl rfl
  rw [holdState, told_streamHoldStateChanged_iff hset, unexpectedlyHeld_iff hs]
  change (_ → self.told = none) ↔ _
  constructor
  · intro hexpected htold hunheld
    by_contra hall
    push Not at hall
    rw [hexpected ⟨hunheld, hall⟩] at htold
    cases htold
  · rintro hother ⟨hunheld, hne, hids⟩
    rcases htold : self.told with _ | _ | _
    · rfl
    · rcases hother htold hunheld with hnil | ⟨stream, hmem, hid⟩
      · exact absurd hnil hne
      · exact absurd (hids stream hmem) hid
    · exact absurd htold (h.unhold hunheld)

theorem told_unhold {id : ℕ} (hs : Settled self) (h : Told self) :
    Told (holdState id false self) := by
  refine told_streamHoldStateChanged (h.of_eq rfl rfl) ?_
  intro hunheld stream hmem
  change self.holdState = .unheld at hunheld
  obtain ⟨old, hold, rfl⟩ := mem_setLocalHold.mp hmem
  split
  · rfl
  · exact hs.unheld hunheld old hold

/-- Recomputing a state of hold leaves a state of hold, unless all streams are
found unheld in `HELD`. -/
theorem recomputed_of_hold (h : self.holdState = .pendingHold ∨
      self.holdState = .held ∧ self.allHeld = true) :
    recomputed self = .held ∧ self.allHeld = true ∨ recomputed self = .pendingHold := by
  rw [recomputed]
  revert h
  rcases self.holdState with _ | _ | _ | _ <;> rcases self.allHeld with _ | _ <;>
    rcases self.anyHeld with _ | _ <;> simp

/-- Recomputing a state of hold does not talk to the session. -/
theorem streamHoldStateChanged_of_hold (h : self.holdState = .pendingHold ∨
      self.holdState = .held ∧ self.allHeld = true) :
    (streamHoldStateChanged self).session = self.session ∧
      ((streamHoldStateChanged self).holdState = .pendingHold ∨
        (streamHoldStateChanged self).holdState = .held ∧
          (streamHoldStateChanged self).allHeld = true) := by
  obtain ⟨hstreams, -, hstate, hsession⟩ := streamHoldStateChanged_spec self
  rw [Channel.allHeld, hstreams, hstate, hsession]
  rcases recomputed_of_hold h with ⟨hheld, hall⟩ | hpending
  · refine ⟨if_neg ?_, .inr ⟨hheld, hall⟩⟩
    rw [hheld]
    simp
  · refine ⟨if_neg ?_, .inl hpending⟩
    rw [hpending]
    simp

/-- After a failed unhold the channel is on hold or on its way, and the session
has not been told. -/
theorem unholdFailure_spec (id : ℕ) (self : Channel) :
    (unholdFailure id self).session = self.session ∧
      ((unholdFailure id self).holdState = .held ∨
        (unholdFailure id self).holdState = .pendingHold) := by
  set pending := emitHoldStateChanged { setLocalHold id true self with
    holdState := .pendingHold, holdStateReason := .resourceNotAvailable } with hpending
  obtain ⟨hsession, hhold⟩ := streamHoldStateChanged_of_hold (.inl rfl : pending.holdState = _ ∨ _)
  have hfailed : (streamUnholdFailed (setLocalHold id true self)).session = self.session ∧
      ((streamUnholdFailed (setLocalHold id true self)).holdState = .pendingHold ∨
        (streamUnholdFailed (setLocalHold id true self)).holdState = .held ∧
          (streamUnholdFailed (setLocalHold id true self)).allHeld = true) := by
    rw [streamUnholdFailed, ← hpending]
    split
    · exact ⟨hsession, hhold⟩
    · exact ⟨hsession, hhold⟩
  obtain ⟨hsession', hhold'⟩ := streamHoldStateChanged_of_hold hfailed.2
  refine ⟨hsession'.trans hfailed.1, ?_⟩
  rcases hhold' with hpending' | ⟨hheld', -⟩
  · exact .inr hpending'
  · exact .inl hheld'

theorem told_unholdFailure_iff {id : ℕ} (h : Told self) :
    Told (unholdFailure id self) ↔ self.told ≠ some false := by
  obtain ⟨hsession, hhold⟩ := unholdFailure_spec id self
  have htold : (unholdFailure id self).told = self.told := by
    rw [Channel.told, hsession, Channel.told]
  rw [told_iff_of_hold hhold, hsession, htold]
  exact and_iff_right h.informed

/-! ### RequestHold -/

theorem session_requestPending (hold : Bool) :
    (requestPending hold self).session =
      if hold = true ∧ self.holdState = .unheld then (tellSession true self).session
      else self.session := by
  rw [requestPending]
  cases hold with
  | false => rfl
  | true =>
    by_cases hunheld : self.holdState = .unheld
    · rw [if_pos rfl, if_pos hunheld, if_pos ⟨rfl, hunheld⟩]
    · rw [if_pos rfl, if_neg hunheld, if_neg fun h => hunheld h.2]

theorem told_requestPending (hold : Bool) :
    (requestPending hold self).told =
      if hold = true ∧ self.holdState = .unheld then self.told.map fun _ => true
      else self.told := by
  rw [Channel.told, session_requestPending]
  split
  · exact told_tellSession true
  · rfl

/-- The request has been made and the streams have not been looked at. -/
theorem told_requestPending_iff (h : Told self) (hfinal : self.holdState ≠ .held) :
    Told (requestPending true self) ↔
      (self.told = some false → self.holdState ≠ .pendingUnhold) ∧
        (self.holdState = .unheld → ∀ sess ∈ self.session, Hears sess) := by
  have hpending := @holdState_requestPending self true
  rw [told_iff_of_hold (.inr hpending), told_requestPending, session_requestPending]
  rcases hstate : self.holdState with _ | _ | _ | _
  · -- from UNHELD the session is told
    have hears := informed_tellSession_iff true h.informed
    cases self.told <;> simpa using hears
  · exact absurd hstate hfinal
  · have hne := h.hold (.inr hstate)
    simpa using ⟨h.informed, hne⟩
  · have hinformed := h.informed
    simp only [reduceCtorEq, and_false, if_false, ne_eq, not_true, imp_false, false_imp_iff,
      and_true, and_iff_right_iff_imp]
    exact fun _ => hinformed

/-- Looking at the streams of a pending state keeps the session as well informed
as it was. -/
theorem told_streamHoldStateChanged_of_pendingHold (hpending : self.holdState = .pendingHold) :
    Told (streamHoldStateChanged self) ↔ Told self := by
  obtain ⟨hsession, hhold⟩ := streamHoldStateChanged_of_hold (.inl hpending)
  rw [told_iff_of_hold (hhold.symm.imp_left And.left), told_iff_of_hold (.inr hpending),
    Channel.told, hsession, Channel.told]

/-- The moves of `RequestHold` that say nothing to a session that takes the
call to be off hold, and those of a session that says nothing to the peer. -/
theorem told_requestHold_iff (h : Told self) :
    Told (requestHold true self) ↔
      (self.told = some false → self.holdState ≠ .pendingUnhold) ∧
        (self.holdState = .unheld → ∀ sess ∈ self.session, Hears sess) := by
  by_cases hheld : self.holdState = .held
  · rw [requestHold, if_pos (by rw [hheld]; rfl)]
    refine iff_of_true (h.of_eq (holdState_emit _) (session_emit _)) ⟨fun _ => ?_, ?_⟩ <;>
      rw [hheld] <;> simp
  · have hpending : (announceRequested self.holdState (requestPending true self)).holdState =
        .pendingHold := by
      rw [holdState_announceRequested, holdState_requestPending, if_pos rfl]
    rw [requestHold, if_neg (by rw [if_pos rfl]; exact hheld),
      told_congr (holdState_emit _) (session_emit _), ← told_requestPending_iff h hheld]
    refine Iff.trans ?_ (told_congr (holdState_announceRequested self.holdState)
      (session_announceRequested self.holdState))
    split
    · exact told_streamHoldStateChanged_of_pendingHold hpending
    · exact told_congr (holdState_holdStreams true) (session_holdStreams true)

/-- Asking for the end of a hold never misleads anyone. -/
theorem told_requestHold_false (h : Told self) : Told (requestHold false self) := by
  by_cases hunheld : self.holdState = .unheld
  · rw [requestHold, if_pos (by rw [hunheld]; rfl)]
    exact h.of_eq (holdState_emit _) (session_emit _)
  · rw [requestHold, if_neg (by rw [if_neg Bool.false_ne_true]; exact hunheld),
      told_congr (holdState_emit _) (session_emit _)]
    have hpending : (announceRequested self.holdState (requestPending false self)).holdState =
        .pendingUnhold := by
      rw [holdState_announceRequested, holdState_requestPending, if_neg Bool.false_ne_true]
    have htold : Told (announceRequested self.holdState (requestPending false self)) := by
      refine told_of_pendingUnhold ?_ hpending
      rw [session_announceRequested, session_requestPending, if_neg fun h => Bool.noConfusion h.1]
      exact h.informed
    split
    · refine told_streamHoldStateChanged htold fun hstate => ?_
      rw [hpending] at hstate
      cases hstate
    · exact htold.of_eq (holdState_holdStreams false) (session_holdStreams false)

/-! ## Runs -/

/-- The steps that do not hide a hold from a session that takes the call to be
off hold: unholding does not fail, a hold is not asked for while the channel is
`PENDING_UNHOLD`, and the only stream does not go on hold by itself.  Nor is a
hold due on a session that cannot send one. -/
def Tells (chan : Channel) : Event → Prop
  | .requestHold true => (chan.told = some false → chan.holdState ≠ .pendingUnhold) ∧
      (chan.holdState = .unheld → ∀ sess ∈ chan.session, Hears sess)
  | .holdState id true => chan.told = some false → chan.holdState = .unheld →
      chan.streams = [] ∨ ∃ stream ∈ chan.streams, stream.id ≠ id
  | .unholdFailure _ => chan.told ≠ some false
  | .sessionState state => ∀ sess ∈ chan.session, sess.localHold = true →
      sess.state.rank < state.rank → Hears { sess with state := state }
  | _ => True

instance (chan : Channel) (e : Event) : Decidable (Tells chan e) :=
  match e with
  | .requestHold true =>
    inferInstanceAs (Decidable ((chan.told = some false → chan.holdState ≠ .pendingUnhold) ∧
      (chan.holdState = .unheld → ∀ sess ∈ chan.session, Hears sess)))
  | .holdState id true =>
    inferInstanceAs (Decidable (chan.told = some false → chan.holdState = .unheld →
      chan.streams = [] ∨ ∃ stream ∈ chan.streams, stream.id ≠ id))
  | .unholdFailure _ => inferInstanceAs (Decidable (chan.told ≠ some false))
  | .sessionState state =>
    inferInstanceAs (Decidable (∀ sess ∈ chan.session, sess.localHold = true →
      sess.state.rank < state.rank → Hears { sess with state := state }))
  | .requestHold false => .isTrue trivial
  | .holdState _ false => .isTrue trivial
  | .createSession _ => .isTrue trivial
  | .constructStream => .isTrue trivial
  | .streamClose _ => .isTrue trivial

theorem told_sessionState_iff (state : JingleState) {sess : JingleSession} (h : Told self)
    (hsess : self.session = some sess) :
    Told { self with session := some (sess.setState state) } ↔
      (sess.localHold = true → sess.state.rank < state.rank →
        Hears { sess with state := state }) := by
  rw [← informed_setState_iff state (h.informed sess hsess)]
  have htold : ({ self with session := some (sess.setState state) } : Channel).told =
      self.told := by
    rw [Channel.told, Channel.told, hsess, Option.map_some, Option.map_some, localHold_setState]
  constructor
  · exact fun hafter => hafter.informed _ rfl
  · intro hinformed
    refine ⟨?_, ?_, ?_⟩
    · rintro sess' hsess'
      cases hsess'
      exact hinformed
    · rw [htold]
      exact h.hold
    · rw [htold]
      exact h.unhold

/-- With no session there is nobody to tell. -/
theorem told_of_session_none (hsession : self.session = none) : Told self := by
  refine ⟨?_, ?_, ?_⟩ <;> simp [Channel.told, hsession]

theorem told_createSession (definesSessionInfo : Bool) :
    Told { self with
      session := some (.outgoing definesSessionInfo (self.holdState != .unheld)) } where
  informed := by
    rintro sess hsess
    cases hsess
    exact informed_outgoing definesSessionInfo _
  hold hhold := by
    simp only [Channel.told, Option.map_some]
    rcases hhold with hheld | hpending
    · simp_all [JingleSession.outgoing]
    · simp_all [JingleSession.outgoing]
  unhold hunheld := by
    simp_all [Channel.told, JingleSession.outgoing]

/-- **One step.**  The session stays informed exactly when the step tells it. -/
theorem told_step_iff {e : Event} (hs : Settled self) (h : Told self)
    (hstep : step self e = some self') : Told self' ↔ Tells self e := by
  cases e with
  | createSession definesSessionInfo =>
    rw [step, Option.ite_none_right_eq_some] at hstep
    obtain ⟨-, hstep⟩ := hstep
    cases hstep
    exact iff_of_true (told_createSession definesSessionInfo) trivial
  | sessionState state =>
    rw [step, Option.map_eq_some_iff] at hstep
    obtain ⟨sess, hsess, rfl⟩ := hstep
    rw [Tells, hsess]
    simp only [Option.mem_some_iff, forall_eq']
    split
    · rename_i hended
      refine iff_of_true (told_of_session_none rfl) fun _ _ hlive => ?_
      rw [live_iff, hended] at hlive
      exact absurd hlive.2 (Nat.lt_irrefl _)
    · exact told_sessionState_iff state h hsess
  | constructStream =>
    rw [step, Option.map_eq_some_iff] at hstep
    obtain ⟨sess, -, rfl⟩ := hstep
    exact iff_of_true (told_constructStream hs h) trivial
  | streamClose id =>
    rw [step, Option.ite_none_right_eq_some] at hstep
    obtain ⟨-, hstep⟩ := hstep
    cases hstep
    exact iff_of_true (told_streamClose id hs h) trivial
  | holdState id held =>
    rw [step, Option.ite_none_right_eq_some] at hstep
    obtain ⟨-, hstep⟩ := hstep
    cases hstep
    cases held with
    | false => exact iff_of_true (told_unhold hs h) trivial
    | true => exact told_holdState_iff hs h
  | unholdFailure id =>
    rw [step, Option.ite_none_right_eq_some] at hstep
    obtain ⟨-, hstep⟩ := hstep
    cases hstep
    exact told_unholdFailure_iff h
  | requestHold hold =>
    cases hstep
    cases hold with
    | false => exact iff_of_true (told_requestHold_false h) trivial
    | true => exact told_requestHold_iff h

theorem told_new (incoming : Option Bool) : Told (new incoming) where
  informed := by
    intro sess hsess
    obtain ⟨definesSessionInfo, -, rfl⟩ := Option.map_eq_some_iff.mp hsess
    exact informed_incoming definesSessionInfo
  hold hhold := by simp [new] at hhold
  unhold _ := by cases incoming <;> simp [new, Channel.told, JingleSession.incoming]

/-- The session's view, and through it the peer's, is the state reported. -/
structure Agrees (chan : Channel) (sess : JingleSession) : Prop where
  held : chan.holdState = .held → sess.localHold = true
  unheld : chan.holdState = .unheld → sess.localHold = false
  peer : sess.live = true → sess.peerHeld = sess.localHold

theorem Told.agrees (h : Told self) (hsess : self.session = some sess) : Agrees self sess where
  held hheld := by
    have hne := h.hold (.inl hheld)
    rw [Channel.told, hsess, Option.map_some] at hne
    exact eq_true_of_ne_false fun hfalse => hne (congrArg some hfalse)
  unheld hunheld := by
    have hne := h.unhold hunheld
    rw [Channel.told, hsess, Option.map_some] at hne
    exact eq_false_of_ne_true fun htrue => hne (congrArg some htrue)
  peer := (h.informed sess hsess).peer

/-- **The session is told.**  In a run whose steps all tell it, the session, and
the peer behind it, agree with every state the channel reports. -/
theorem agrees_of_tells (incoming : Option Bool)
    (h : Reachable step Tells (new incoming) self) :
    ∀ sess, self.session = some sess → Agrees self sess := by
  have hboth : Settled self ∧ Told self := by
    refine h.invariant (I := fun chan => Settled chan ∧ Told chan)
      ⟨settled_new incoming, told_new incoming⟩ ?_
    rintro chan e chan' ⟨hs, ht⟩ htells hstep
    exact ⟨settled_step hs hstep, (told_step_iff hs ht hstep).mpr htells⟩
  exact fun sess hsess => hboth.2.agrees hsess

/-- A peer's call with two streams is put on hold, one stream is not freed, and
the call is taken off hold again. -/
def heldAndBack : List Event :=
  [.constructStream, .constructStream, .requestHold true, .holdState 0 true, .requestHold false,
    .holdState 0 false, .requestHold true, .holdState 0 true, .holdState 1 true]

theorem agrees_of_tells_heldAndBack :
    ∃ self, run step (new (some true)) heldAndBack = some self ∧ self.holdState = .held ∧
      ∀ sess, self.session = some sess → Agrees self sess := by
  have hrun : ((run step (new (some true)) heldAndBack).any fun self =>
      decide (self.holdState = .held)) = true := by decide
  obtain ⟨self, hself, hheld⟩ := (Option.any_eq_true _ _).mp hrun
  have htells : Admits Tells step (new (some true)) heldAndBack := by decide
  exact ⟨self, hself, of_decide_eq_true hheld,
    agrees_of_tells (some true) (reachable_of_run heldAndBack htells hself)⟩

/-- The streaming client puts the only stream on hold: the channel reports
`HELD` and neither the session nor the peer hears of it. -/
theorem held_not_told :
    ∃ self, run step (new (some true)) [.constructStream, .holdState 0 true] = some self ∧
      self.holdState = .held ∧
      ∃ sess, self.session = some sess ∧ sess.localHold = false ∧ sess.peerHeld = false :=
  ⟨_, rfl, rfl, _, rfl, rfl, rfl⟩

end MediaChannel
