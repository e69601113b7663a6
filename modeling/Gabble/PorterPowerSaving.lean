/-
# Power saving

In power saving mode the porter keeps unimportant stanzas back, and handles them when an important
one comes in or the mode is left.  It never changes the order: what `handle_stanza` has begun with,
followed by what waits, is what has come in.  Handlers may leave the mode while the queue is
flushed, which flushes it in the middle of the outer flush.
-/
import Gabble.AddressingUriRoundTrip
import Gabble.PorterCalm

namespace Porter

open Wocky

/-- The stanza that comes in, if one does. -/
def Action.arrival : Action → Option Stanza
  | arrived stanza => some stanza
  | _ => none

/-- The stanza that `handle_stanza` begins with, if it begins. -/
def Action.beginning : Action → Option Stanza
  | began d => some d.stanza
  | _ => none

/-- The important stanza that a flush is made for. -/
def Frame.held : Frame → Option Stanza
  | flush (.handle stanza) => some stanza
  | _ => none

namespace State

/-- The stanzas that have come in. -/
def arrivals (s : State) : List Stanza := s.log.filterMap Action.arrival

/-- The stanzas that `handle_stanza` has begun with. -/
def beginnings (s : State) : List Stanza := s.log.filterMap Action.beginning

/-- The stanzas that wait for `handle_stanza`. -/
def waiting (s : State) : List Stanza := s.unimportantQueue ++ s.stack.filterMap Frame.held

/-- What the order of the stanzas depends on. -/
def order (s : State) : List Stanza × List Stanza × List Stanza × List Stanza × Bool :=
  (s.arrivals, s.beginnings, s.unimportantQueue, s.stack.filterMap Frame.held, s.powerSavingMode)

variable {g : Addressing.GLib} {j : Jids} {s s' : State}

theorem order_of_calm (h : Calm s s') : s'.order = s.order := by
  have harrivals : s'.arrivals = s.arrivals :=
    h.filterMap_log fun a hcalm => by cases a <;> first | rfl | cases hcalm
  have hbeginnings : s'.beginnings = s.beginnings :=
    h.filterMap_log fun a hcalm => by cases a <;> first | rfl | cases hcalm
  have hheld : s'.stack.filterMap Frame.held = s.stack.filterMap Frame.held :=
    h.filterMap_stack fun f hcalm => by cases f <;> first | rfl | cases hcalm
  rw [order, harrivals, hbeginnings, hheld, h.unimportantQueue, h.powerSavingMode]
  rfl

theorem order_push {f : Frame} (hf : f.held = none) : (s.push f).order = s.order := by
  simp [order, push, hf, arrivals, beginnings]

theorem order_note {a : Action} (harrival : a.arrival = none) (hbeginning : a.beginning = none) :
    (s.note a).order = s.order := by
  simp [order, note, arrivals, beginnings, harrival, hbeginning]

theorem order_handleIqReply (reply : Stanza) : (s.handleIqReply g j reply).order = s.order := by
  unfold handleIqReply
  split
  · rfl
  split
  · rfl
  split
  · rfl
  split
  · next h _ _ _ =>
    rw [call, order_push rfl, order_note rfl rfl, order_push rfl]
    rfl
  · next h _ _ _ =>
    have hremoved := order_of_calm (calm_maybeRemove (s := s) h.call)
    exact hremoved

theorem order_callHandler (d : Dispatch) (h : StanzaHandler) :
    (s.callHandler g j d h).order = s.order := by
  have hoffer : ((s.note (.offered d h)).push (.dispatched d h.id)).order = s.order := by
    rw [order_push rfl, order_note rfl rfl]
  unfold callHandler
  split
  · rw [order_handleIqReply, hoffer]
  · rw [order_of_calm (calm_remoteConnectionClosed _), order_push rfl, hoffer]
  · rw [order_push rfl, hoffer]

theorem order_refuse (d : Dispatch) : (s.refuse d).order = s.order := by
  have hnote : (s.note (.unhandled d)).order = s.order := order_note rfl rfl
  unfold refuse
  split
  · split
    · exact hnote
    · rw [order_of_calm (calm_sendAsync _ _ _), hnote]
  · exact hnote

theorem order_dispatchRound (d : Dispatch) (link : Option HandlerId) :
    (s.dispatchRound g j d link).order = s.order := by
  unfold dispatchRound
  split
  · exact order_refuse d
  · split
    · rfl
    · split
      · exact order_callHandler d _
      · exact order_push rfl

theorem order_dispatchedRest (d : Dispatch) (id : HandlerId) :
    (s.dispatchedRest d id).order = s.order := by
  unfold dispatchedRest
  split
  · exact order_note rfl rfl
  · split
    · exact order_push rfl
    · rfl

/-! ## The order over a run -/

/-- The order is kept, one flush at most is for an important stanza, and nothing waits when the
mode is off. -/
structure InOrder (s : State) : Prop where
  arrivals : s.arrivals = s.beginnings ++ s.waiting
  single : (s.stack.filterMap Frame.held).length ≤ 1
  off : s.powerSavingMode = false → s.unimportantQueue = []

theorem InOrder.of_order (h : InOrder s) (horder : s'.order = s.order) : InOrder s' := by
  simp only [order, Prod.mk.injEq] at horder
  obtain ⟨harrivals, hbeginnings, hqueue, hheld, hmode⟩ := horder
  refine ⟨?_, hheld ▸ h.single, ?_⟩
  · rw [harrivals, hbeginnings, waiting, hqueue, hheld]
    exact h.arrivals
  · rw [hmode, hqueue]
    exact h.off

theorem InOrder.calm (h : InOrder s) (hc : Calm s s') : InOrder s' := h.of_order (order_of_calm hc)

/-- `handle_stanza` begins with the stanza that has waited longest. -/
theorem inOrder_handleStanza {stanza : Stanza}
    (harrivals : s.arrivals = s.beginnings ++ stanza :: s.waiting)
    (hsingle : (s.stack.filterMap Frame.held).length ≤ 1)
    (hoff : s.powerSavingMode = false → s.unimportantQueue = []) :
    InOrder (s.handleStanza g j stanza) := by
  have hbegun : (s.handleStanza g j stanza).beginnings = s.beginnings ++ [stanza] := by
    simp [State.beginnings, State.handleStanza, push, beginDispatch, Action.beginning,
      Dispatch.new]
  have harrived : (s.handleStanza g j stanza).arrivals = s.arrivals := by
    simp [State.arrivals, State.handleStanza, push, beginDispatch, Action.arrival]
  have hwait : (s.handleStanza g j stanza).waiting = s.waiting := by
    rw [State.waiting, State.waiting]
    congr 1
  refine ⟨?_, ?_, hoff⟩
  · rw [harrived, hbegun, hwait, harrivals, List.append_assoc, List.singleton_append]
  · change ((Frame.dispatch _ _ :: s.stack).filterMap Frame.held).length ≤ 1
    rwa [List.filterMap_cons_none (by rfl)]

/-- The loop of `flush_unimportant_queue`, and what comes after it. -/
theorem InOrder.flush {after : AfterFlush} {rest : List Frame} (h : InOrder s)
    (hstack : s.stack = .flush after :: rest) :
    InOrder (State.flushUnimportantQueue g j { s with stack := rest } after) := by
  have harrivals := h.arrivals
  have hsingle := h.single
  rw [waiting, hstack] at harrivals
  rw [hstack] at hsingle
  unfold flushUnimportantQueue
  split
  · next stanza queue hqueue =>
    change s.unimportantQueue = _ at hqueue
    rw [hqueue] at harrivals
    refine inOrder_handleStanza harrivals hsingle fun hmode => ?_
    have hempty := h.off hmode
    rw [hqueue] at hempty
    cases hempty
  · next hqueue =>
    change s.unimportantQueue = [] at hqueue
    split
    · next stanza =>
      rw [List.filterMap_cons_some (by rfl)] at harrivals hsingle
      have hrest : rest.filterMap Frame.held = [] := by
        rw [List.length_cons] at hsingle
        exact List.length_eq_zero_iff.mp (by omega)
      refine inOrder_handleStanza ?_ ?_ fun _ => hqueue
      · rw [waiting, hrest, List.append_nil]
        change s.arrivals = s.beginnings ++ stanza :: s.unimportantQueue
        rw [harrivals, hrest, hqueue, List.nil_append]
      · exact (congrArg List.length hrest).trans_le (Nat.zero_le 1)
    · exact ⟨harrivals, hsingle, fun _ => hqueue⟩

/-- A frame is popped that no stanza waits in. -/
theorem order_pop {f : Frame} {rest : List Frame} (hstack : s.stack = f :: rest)
    (hf : f.held = none) (taken : Bool) :
    State.order { s with stack := rest, returned := taken } = s.order := by
  simp only [order, hstack, List.filterMap_cons_none hf]
  rfl

theorem InOrder.resume {f : Frame} {rest : List Frame} (h : InOrder s)
    (hstack : s.stack = f :: rest) :
    InOrder (State.resume g j { s with stack := rest } f) := by
  have hpop : f.held = none → InOrder { s with stack := rest } := fun hf =>
    h.of_order (order_pop hstack hf s.returned)
  cases f with
  | user code => exact hpop rfl
  | sendNext => exact (hpop rfl).calm calm_sendNext
  | closeIfWaiting => exact (hpop rfl).calm calm_closeIfWaiting
  | terminate e => exact (hpop rfl).calm (calm_terminateSendingOperations e)
  | iqSentCb c => exact (hpop rfl).calm (calm_maybeRemove c)
  | handleIqReply c => exact ((hpop rfl).calm (calm_maybeRemove c)).of_order rfl
  | handleStreamError => exact (hpop rfl).of_order rfl
  | dispatch d link => exact (hpop rfl).of_order (order_dispatchRound d link)
  | dispatched d id => exact (hpop rfl).of_order (order_dispatchedRest d id)
  | flush after => exact h.flush hstack
  | received =>
    refine (hpop rfl).of_order ?_
    change (receivedRest _).order = _
    unfold receivedRest forceShutdown
    split
    · rfl
    split
    · rfl
    split <;> rfl
  | remoteClosed e => exact (hpop rfl).calm (calm_remoteClosedRest e)
  | stopReceiving => exact (hpop rfl).of_order rfl
  | closing => exact (hpop rfl).calm calm_closeAsyncRest
  | forceClosing c cancellable =>
    refine (hpop rfl).of_order ?_
    change (forceClosingRest _ c cancellable).order = _
    unfold forceClosingRest
    split <;> rfl
  | forceTerminated c =>
    refine (hpop rfl).of_order ?_
    change (forceTerminatedRest _ c).order = _
    unfold forceTerminatedRest
    split
    · split <;> rfl
    · rfl

theorem InOrder.returnFrom (h : InOrder s) {taken : Bool} (hstep : s.returnFrom taken = some s') :
    InOrder s' := by
  unfold State.returnFrom at hstep
  split at hstep
  · next hstack =>
    cases hstep
    exact h.of_order (order_pop hstack rfl taken)
  · next hstack =>
    cases hstep
    exact h.of_order (order_pop hstack rfl s.returned)
  · cases hstep

theorem order_registerHandler (type : StanzaType) (subType : SubType) (sender : Sender)
    (priority : ℕ) (pattern : Option Node) :
    (s.registerHandler g type subType sender priority pattern).order = s.order := by
  unfold registerHandler
  split
  · rfl
  · rfl
  · split <;> rfl

theorem order_sendIqAsync (c : Call) (stanza : Stanza) (id : UriEscape.Bytes)
    (cancellable : Bool) : (s.sendIqAsync g c stanza id cancellable).order = s.order := by
  unfold sendIqAsync
  split
  · rfl
  split
  · rfl
  · rw [order_of_calm (calm_sendAsync _ _ _)]
    exact order_note (s := s) (a := .asked c id (recipientOf g stanza)) rfl rfl

theorem order_forceCloseAsync (c : Call) (cancellable : Bool) :
    (s.forceCloseAsync c cancellable).order = s.order := by
  rcases calm_forceCloseAsync c cancellable with hcalm | ⟨s₁, hbefore, hafter⟩
  · exact order_of_calm hcalm
  · rw [order_of_calm hafter, order_push rfl, order_of_calm hbefore]

theorem InOrder.enablePowerSavingMode (h : InOrder s) (enable : Bool) :
    InOrder (s.enablePowerSavingMode enable) := by
  unfold State.enablePowerSavingMode
  split
  · exact h.of_order (order_push rfl)
  · next hkeep =>
    refine ⟨h.arrivals, h.single, fun henable => h.off ?_⟩
    change enable = false at henable
    rw [henable] at hkeep
    simpa using hkeep

theorem InOrder.api (h : InOrder s) {e : Event} (hstep : s.api g e = some s') : InOrder s' := by
  have hnext : InOrder s.nextCall := h.of_order rfl
  unfold State.api at hstep
  split at hstep
  · cases hstep
    unfold start
    split
    · exact h
    · exact h.of_order rfl
  · cases hstep
    exact hnext.calm (calm_sendAsync _ _ _)
  · split at hstep <;> cases hstep
    exact hnext.of_order (order_sendIqAsync _ _ _ _)
  · cases hstep
    exact hnext.calm (calm_sendWhitespacePingAsync _)
  · cases hstep
    exact hnext.calm (calm_closeAsync _ _)
  · cases hstep
    exact hnext.of_order (order_forceCloseAsync _ _)
  · cases hstep
    exact h.of_order (order_registerHandler _ _ _ _ _)
  · cases hstep
    exact h.of_order rfl
  · cases hstep
    exact h.enablePowerSavingMode _
  · exact h.calm (calm_sendCancelledCb hstep)
  · exact h.calm (calm_sendIqCancelledCb hstep)
  · split at hstep <;> cases hstep
    exact h.of_order rfl
  · cases hstep

/-- A stanza comes in while no one is in the porter. -/
theorem InOrder.stanzaReceivedCb (h : InOrder s) (hrest : s.stack = [])
    (r : Except Error Stanza) : InOrder (s.stanzaReceivedCb g j r) := by
  unfold State.stanzaReceivedCb
  split
  · split
    · split
      · exact h
      · exact h.of_order rfl
    · exact h.calm (calm_remoteConnectionClosed _)
  · next stanza =>
    have hwaiting : s.waiting = s.unimportantQueue := by
      rw [waiting, hrest]
      exact List.append_nil _
    have harrivals := h.arrivals
    rw [hwaiting] at harrivals
    have harrived : ((s.note (.arrived stanza)).push .received).arrivals = s.arrivals ++ [stanza] := by
      simp [State.arrivals, note, push, Action.arrival]
    have hbegun : ((s.note (.arrived stanza)).push .received).beginnings = s.beginnings := by
      simp [beginnings, note, push, Action.beginning]
    have hheld : ((s.note (.arrived stanza)).push .received).stack.filterMap Frame.held = [] := by
      simp [note, push, hrest, Frame.held]
    unfold queueOrHandleStanza
    split
    · split
      · refine ⟨?_, ?_, h.off⟩
        · change ((s.note (.arrived stanza)).push .received).arrivals =
            ((s.note (.arrived stanza)).push .received).beginnings ++ (s.unimportantQueue ++
              stanza :: ((s.note (.arrived stanza)).push .received).stack.filterMap Frame.held)
          rw [harrived, hbegun, hheld, harrivals, List.append_assoc]
        · change (stanza :: ((s.note (.arrived stanza)).push .received).stack.filterMap
            Frame.held).length ≤ 1
          rw [hheld]
          exact Nat.le_refl 1
      · next hmode _ =>
        refine ⟨?_, ?_, fun hoff => ?_⟩
        · change ((s.note (.arrived stanza)).push .received).arrivals =
            ((s.note (.arrived stanza)).push .received).beginnings ++
              (s.unimportantQueue ++ [stanza] ++
                ((s.note (.arrived stanza)).push .received).stack.filterMap Frame.held)
          rw [harrived, hbegun, hheld, harrivals, List.append_nil, List.append_assoc]
        · exact (congrArg List.length hheld).trans_le (Nat.zero_le 1)
        · exact absurd hmode (by rw [hoff]; exact Bool.false_ne_true)
    · next hmode =>
      have hoff : s.powerSavingMode = false := Bool.not_eq_true _ ▸ hmode
      refine inOrder_handleStanza ?_ ?_ h.off
      · rw [waiting, hheld, List.append_nil]
        change _ = ((s.note (.arrived stanza)).push .received).beginnings ++
          stanza :: s.unimportantQueue
        rw [harrived, hbegun, harrivals, h.off hoff, List.append_nil]
      · exact (congrArg List.length hheld).trans_le (Nat.zero_le 1)

theorem InOrder.mainLoop (h : InOrder s) (hrest : s.stack = []) {e : Event}
    (hstep : s.mainLoop g j e = some s') : InOrder s' := by
  unfold State.mainLoop at hstep
  split at hstep
  · obtain ⟨op, -, rfl⟩ := Option.map_eq_some_iff.mp hstep
    have htaken : InOrder { s with output := none } := h.of_order rfl
    exact htaken.calm (calm_written op _)
  · next k =>
    obtain ⟨op, -, rfl⟩ := Option.map_eq_some_iff.mp hstep
    have htaken : InOrder { s with refused := s.refused.eraseIdx k } := h.of_order rfl
    exact htaken.calm (calm_written op _)
  · split at hstep
    · cases hstep
    · cases hstep
      have htaken : InOrder { s with receives := s.receives - 1 } := h.of_order rfl
      exact htaken.stanzaReceivedCb hrest _
  · split at hstep
    · cases hstep
    · cases hstep
      unfold connectionForceCloseCb
      split
      · exact h.of_order rfl
      · refine h.of_order ?_
        rw [call, order_push rfl, order_note rfl rfl]
        rfl
  · next k =>
    obtain ⟨entry, -, rfl⟩ := Option.map_eq_some_iff.mp hstep
    have htaken : InOrder { s with idle := s.idle.eraseIdx k } := h.of_order rfl
    refine htaken.calm (calm_complete entry.1 fun c => ?_)
    cases entry.2 <;> rfl
  · cases hstep

theorem InOrder.step (h : InOrder s) {e : Event} (hstep : State.step g j s e = some s') :
    InOrder s' := by
  unfold State.step at hstep
  split at hstep
  · cases hstep
  split at hstep
  · unfold goOn at hstep
    split at hstep
    · cases hstep
    · cases hstep
    · next hstack =>
      cases hstep
      exact h.resume hstack
  · exact h.returnFrom hstep
  · split at hstep
    · next hapi =>
      split at hapi
      · cases hstep
        exact h.api hapi
      · cases hapi
    · split at hstep
      · next hatrest => exact h.mainLoop (List.isEmpty_iff.mp hatrest) hstep
      · cases hstep

theorem inOrder_new : InOrder State.new := ⟨rfl, Nat.zero_le 1, fun _ => rfl⟩

/-- **Power saving keeps the order.**  Over every run, whoever switches the mode and from where,
the stanzas that have come in are those that `handle_stanza` has begun with, followed by those that
wait, in the order in which they came in; and none waits when the mode is off and no one is in the
porter. -/
theorem arrivals_eq (es : List Event)
    (hrun : Transition.run (State.step g j) State.new es = some s) :
    s.arrivals = s.beginnings ++ s.waiting ∧
      (s.powerSavingMode = false → s.stack = [] → s.arrivals = s.beginnings) := by
  have horder : InOrder s :=
    (Transition.reachable_of_run es (Transition.admits_anyEvent es) hrun).invariant inOrder_new
      fun _ _ _ h _ hstep => h.step hstep
  refine ⟨horder.arrivals, fun hmode hstack => ?_⟩
  rw [horder.arrivals, waiting, horder.off hmode, hstack]
  exact List.append_nil _

/-- The mode is on, two presences come in, and the mode is left. -/
def savingRun (stanza stanza' : Stanza) : List Event :=
  [.start, .enablePowerSavingMode true, .received (.ok stanza), .tau, .received (.ok stanza'), .tau,
    .enablePowerSavingMode false, .tau]

/-- A presence. -/
def presence (attributes : List Attribute) : Stanza :=
  .mk (CText.ascii "presence") (some nsJabberClient) none none attributes []

/-- The state that this comes to: the flush has begun with the first presence. -/
def saving : State :=
  (Transition.run (State.step Addressing.asciiGLib ⟨[97], [97], [97]⟩) State.new
    (savingRun (presence []) (presence [⟨[98], none, [98]⟩]))).getD State.new

theorem arrivals_eq_saving :
    saving.arrivals = saving.beginnings ++ saving.waiting ∧
      (saving.powerSavingMode = false → saving.stack = [] → saving.arrivals = saving.beginnings) :=
  arrivals_eq (g := Addressing.asciiGLib) (j := ⟨[97], [97], [97]⟩)
    (savingRun (presence []) (presence [⟨[98], none, [98]⟩])) rfl

end State

end Porter
