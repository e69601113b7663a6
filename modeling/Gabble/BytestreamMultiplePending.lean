/-
# Multiple bytestreams that are pending

A multiple bytestream that a peer has asked for is pending until it is accepted or closed.
Until then it has one bytestream, for its first method, which is pending too, and follows
what this one does.  Later it may create others, but none of them is pending.
-/
import Gabble.BytestreamMultiple

namespace Multiple

open Base64 (Bytes)
open Ibb (BytestreamState GError)

/-- A multiple bytestream that is not pending goes on, and creates no bytestream that is. -/
structure Onward (s s' : State) : Prop where
  state : s'.state ≠ .localPending
  subs : ∀ sub ∈ s'.subs.drop s.subs.length, sub.state ≠ .localPending

/-- It is pending with the bytestream for its first method. -/
structure Ready (sub : Sub) (s : State) : Prop where
  state : s.state = .localPending
  active : s.activeBytestream = some 0
  subs : s.subs = [sub]
  id : sub.id = 0
  subState : sub.state = .localPending
  connected : sub.connected = true

section

variable {s s' : State} {sub : Sub}

/-- No bytestream is created. -/
theorem onward_of_length (hstate : s'.state ≠ .localPending)
    (hlength : s'.subs.length = s.subs.length) : Onward s s' := by
  refine ⟨hstate, fun sub hsub => ?_⟩
  rw [← hlength, List.drop_length] at hsub
  cases hsub

theorem length_updateSub (id : ℕ) (f : Sub → Sub) (s : State) :
    (updateSub id f s).subs.length = s.subs.length := List.length_map _

theorem length_unregister (method : String) (s : State) :
    (unregister method s).subs.length = s.subs.length := List.length_map _

theorem setState_subs (state : BytestreamState) (s : State) :
    (setState state s).state = state ∧ (setState state s).subs = s.subs := by
  rw [setState]
  split
  case isTrue h => exact ⟨h, rfl⟩
  case isFalse => exact ⟨rfl, rfl⟩

theorem onward_close (h : s.state ≠ .localPending) (error : Option GError) :
    Onward s (close error s) := by
  rw [close]
  split
  · exact onward_of_length h rfl
  split
  · exact onward_of_length h rfl
  · refine onward_of_length ?_ (congrArg List.length (setState_subs .closed s).2)
    rw [(setState_subs .closed s).1]
    decide

theorem onward_send (h : s.state ≠ .localPending) (str : Bytes) :
    Onward s (send str s) := by
  rw [send]
  split
  · exact onward_of_length h rfl
  split
  · exact onward_of_length h rfl
  · exact onward_of_length h rfl

theorem onward_blockReading (h : s.state ≠ .localPending) (block : Bool) :
    Onward s (blockReading block s) := by
  rw [blockReading]
  split
  · exact onward_of_length h rfl
  dsimp only
  split
  · exact onward_of_length h rfl
  · exact onward_of_length h (length_updateSub _ _ _)

theorem onward_subSetState (h : s.state ≠ .localPending) (sub : Sub)
    {state : BytestreamState} (hstate : state ≠ .localPending) :
    Onward s (subSetState sub state s) := by
  rw [subSetState]
  split
  · exact onward_of_length h rfl
  have hupdated : ∀ f, (updateSub sub.id f s).state = s.state := fun _ => rfl
  dsimp only
  generalize hs₁ : updateSub sub.id _ s = s₁
  have hlength : s₁.subs.length = s.subs.length := by
    rw [← hs₁, length_updateSub]
  have hkept : s₁.state ≠ .localPending := by
    rw [← hs₁, hupdated]
    exact h
  generalize hs₂ : (if state = .closed then unregister sub.method s₁ else s₁) = s₂
  have hsecond : s₂.subs.length = s.subs.length ∧ s₂.state ≠ .localPending := by
    rw [← hs₂]
    split
    · exact ⟨(length_unregister _ _).trans hlength, hkept⟩
    · exact ⟨hlength, hkept⟩
  split
  · refine onward_of_length ?_ ((congrArg List.length (setState_subs state s₂).2).trans hsecond.1)
    rw [(setState_subs state s₂).1]
    exact hstate
  · exact onward_of_length hsecond.2 hsecond.1

/-- The next method is tried with a bytestream in the state that this one has. -/
theorem onward_activateNext (h : s.state ≠ .localPending) : Onward s (activateNext s) := by
  rw [activateNext]
  split
  · exact onward_of_length h rfl
  split
  · exact onward_of_length h rfl
  case h_2 method rest _ =>
    dsimp only
    split
    · refine ⟨h, fun sub hsub => ?_⟩
      have hsubs : (emit (.blockReading s.subs.length s.readBlocked)
          (createFromMethod method { s with fallbackStreamMethods := rest })).subs =
          (unregister method s).subs ++ [{
            id := s.subs.length
            method := method
            state := s.state
            readBlocked := s.readBlocked
            connected := true
            registered := true }] := by
        simp [emit, createFromMethod, unregister]
      rw [hsubs, ← length_unregister method s, List.drop_left, List.mem_singleton] at hsub
      rw [hsub]
      exact h
    · exact onward_of_length h rfl

theorem Onward.congr (h : Onward s s') {t t' : State} (hstate : t'.state = s'.state)
    (hlength : t.subs.length = s.subs.length) (hsubs : t'.subs = s'.subs) : Onward t t' := by
  refine ⟨by rw [hstate]; exact h.state, ?_⟩
  rw [hsubs, hlength]
  exact h.subs

theorem onward_connectionError (h : s.state ≠ .localPending) (sub : Sub) :
    Onward s (connectionError sub false s) := by
  rw [connectionError, if_neg Bool.false_ne_true]
  split
  case isFalse => exact onward_of_length h rfl
  rw [connectionErrorCb]
  split
  · exact onward_of_length h rfl
  split
  · exact onward_of_length h rfl
  have hdisconnected : (disconnect sub.id s).subs.length = s.subs.length := length_updateSub _ _ _
  dsimp only
  split
  · exact onward_of_length h hdisconnected
  have hnext : Onward (disconnect sub.id s) (activateNext (disconnect sub.id s)) :=
    onward_activateNext h
  rw [initiateNext]
  split
  · split
    · exact hnext.congr rfl hdisconnected.symm rfl
    · exact hnext.congr rfl hdisconnected.symm rfl
  · exact hnext.congr rfl hdisconnected.symm rfl

/-! ### As long as it is pending -/

section

variable (h : Ready sub s)

include h

theorem Ready.of_eq (hstate : s'.state = s.state)
    (hactive : s'.activeBytestream = s.activeBytestream) (hsubs : s'.subs = s.subs) :
    Ready sub s' :=
  ⟨hstate.trans h.state, hactive.trans h.active, hsubs.trans h.subs, h.id, h.subState, h.connected⟩

theorem Ready.close (error : Option GError) : Ready sub (close error s) := by
  have hopen : s.state ≠ .closed := by
    rw [h.state]
    decide
  rw [Multiple.close, if_neg hopen]
  split
  · exact h.of_eq rfl rfl rfl
  case h_2 hnone =>
    rw [h.active] at hnone
    cases hnone

theorem Ready.send (str : Bytes) : send str s = s := by
  have hpending : s.state ≠ .opened := by
    rw [h.state]
    decide
  rw [Multiple.send, if_pos hpending]

theorem Ready.blockReading (block : Bool) :
    ∃ sub', Ready sub' (blockReading block s) := by
  rw [Multiple.blockReading]
  split
  · exact ⟨sub, h⟩
  dsimp only
  split
  case h_1 hnone =>
    rw [h.active] at hnone
    cases hnone
  case h_2 id hactive =>
    obtain rfl : 0 = id := Option.some.inj (h.active.symm.trans hactive)
    refine ⟨{ sub with readBlocked := block }, h.state, h.active, ?_, h.id, h.subState, h.connected⟩
    dsimp only [emit, updateSub]
    rw [h.subs, List.map_singleton, if_pos h.id]

theorem Ready.addStreamMethod (method : String) :
    Ready sub (addStreamMethod method s) := by
  rw [Multiple.addStreamMethod]
  dsimp only
  rw [if_neg (by rw [h.active]; exact Option.some_ne_none 0)]
  exact h.of_eq rfl rfl rfl

/-- An error of the connection is not expected. -/
theorem Ready.connectionError : Ready sub (connectionError sub false s) := by
  have hunexpected : s.state ≠ .initiating ∧ s.state ≠ .accepted := by
    rw [h.state]
    decide
  have hactive : s.activeBytestream = some sub.id := by
    rw [h.active, h.id]
  have haborts : Multiple.connectionError sub false s = abort s := by
    rw [Multiple.connectionError, if_pos h.connected, connectionErrorCb,
      if_neg (not_not.mpr hactive), if_pos hunexpected]
    rfl
  rw [haborts]
  exact h.of_eq rfl rfl rfl

/-- The state of its bytestream is its own. -/
theorem Ready.subSetState (state : BytestreamState) :
    (state = .localPending ∧ subSetState sub state s = s) ∨
      (state ≠ .localPending ∧ (subSetState sub state s).state = state ∧
        (subSetState sub state s).subs.length = 1) := by
  have hone : s.subs.length = 1 := by
    rw [h.subs]
    rfl
  rw [Multiple.subSetState, h.subState]
  split
  case isTrue heq => exact .inl ⟨heq.symm, rfl⟩
  case isFalse hne =>
    right
    dsimp only
    rw [if_pos h.connected, (setState_subs state _).1, (setState_subs state _).2]
    refine ⟨fun heq => hne heq.symm, rfl, ?_⟩
    split
    · rw [length_unregister, length_updateSub, hone]
    · rw [length_updateSub, hone]

/-- Accepting it sets the state of its bytestream, if the stanza can be sent. -/
theorem Ready.accept (sent : Bool) :
    (sent = false ∧ Ready sub (accept sent s)) ∨
      sent = true ∧ (accept sent s).state = .accepted ∧ (accept sent s).subs.length = 1 := by
  have hfind : (s.subs.find? fun sub => s.activeBytestream = some sub.id) = some sub := by
    rw [h.subs, h.active, List.find?_cons_of_pos (by rw [h.id]; rfl)]
  have hemitted : Ready sub (emit (.acceptIq (sub.method :: s.fallbackStreamMethods)) s) :=
    h.of_eq rfl rfl rfl
  rw [Multiple.accept, if_neg (not_not.mpr h.state), hfind]
  cases sent with
  | false => exact .inl ⟨rfl, hemitted⟩
  | true =>
    refine .inr ⟨rfl, ?_⟩
    rcases hemitted.subSetState .accepted with ⟨haccepted, -⟩ | ⟨-, haccepted⟩
    · cases haccepted
    · exact haccepted

end

end

end Multiple
