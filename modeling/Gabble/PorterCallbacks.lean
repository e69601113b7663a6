/-
# The callbacks of the porter

Every call of the porter that has a callback is accounted for: the call is held in one place, which
will give it an answer, or its callback has been called, once.  A call is held by an element of the
sending queue, by a `StanzaIqHandler` that has its result, by `close_result` or
`force_close_result`, by a ping of the connection, by the idle queue, or by
`wocky_c2s_porter_force_close_async` itself while the "closing" signal is emitted.
-/
import Gabble.AddressingUriRoundTrip
import Gabble.PorterCalm
import Mathlib.Data.List.Count
import Mathlib.Data.List.Nodup
import Mathlib.Data.List.Perm.Basic
import Mathlib.Data.List.Range

namespace Porter

/-! ## Where calls are held -/

/-- The calls that are still owed, in a callback. -/
def Callback.calls : Callback → List Call
  | user c => [c]
  | _ => []

/-- In an operation of the connection. -/
def OutOp.calls : OutOp → List Call
  | ping c => [c]
  | _ => []

/-- In a frame. -/
def Frame.calls : Frame → List Call
  | forceClosing c _ => [c]
  | _ => []

/-- The frames of `wocky_c2s_porter_force_close_async`. -/
def Frame.forced : Frame → Bool
  | forceClosing _ _ => true
  | forceTerminated _ => true
  | _ => false

/-- The calls that an action completes. -/
def Action.calls : Action → List Call
  | called c _ => [c]
  | _ => []

def Event.isForceCloseAsync : Event → Bool
  | forceCloseAsync _ => true
  | _ => false

/-- The calls whose handlers have their result still. -/
def pendingCalls (l : List IqHandler) : List Call := (l.filter (·.pending)).map (·.call)

namespace State

/-- The calls that wait for an answer. -/
def held (s : State) : List Call :=
  s.sendingQueue.flatMap (·.callback.calls) ++ pendingCalls s.iqReplyHandlers ++
    s.closeResult.toList ++ s.forceCloseResult.toList ++ s.output.toList.flatMap OutOp.calls ++
    s.refused.flatMap OutOp.calls ++ s.idle.flatMap (·.1.calls) ++ s.stack.flatMap Frame.calls

/-- The calls whose callbacks have been called. -/
def completed (s : State) : List Call := s.log.flatMap Action.calls

/-- How often a call is accounted for. -/
def tally (s : State) (c : Call) : ℕ := s.held.count c + s.completed.count c

/-- No call has two handlers. -/
abbrev DistinctCalls (s : State) : Prop := (s.iqReplyHandlers.map (·.call)).Nodup

variable {s : State} {c : Call}

/-! ## What the parts of the code do to the account -/

@[simp] theorem tally_push (f : Frame) : (s.push f).tally c = s.tally c + f.calls.count c := by
  simp only [tally, held, completed, push, List.flatMap_cons, List.count_append]
  omega

@[simp] theorem tally_note (a : Action) : (s.note a).tally c = s.tally c + a.calls.count c := by
  simp only [tally, held, completed, note, List.flatMap_append, List.flatMap_cons, List.flatMap_nil,
    List.count_append, List.count_nil]
  omega

@[simp] theorem tally_call (c' : Call) (outcome : Outcome) :
    (s.call c' outcome).tally c = s.tally c + [c'].count c := by
  rw [call, tally_push, tally_note]
  rfl

@[simp] theorem tally_completeInIdle (callback : Callback) (e : Option Error) :
    (s.completeInIdle callback e).tally c = s.tally c + callback.calls.count c := by
  simp only [tally, held, completed, completeInIdle, List.flatMap_append, List.flatMap_cons,
    List.flatMap_nil, List.count_append, List.count_nil]
  omega

@[simp] theorem tally_write (op : OutOp) :
    (s.write op).tally c = s.tally c + op.calls.count c := by
  cases hout : s.output with
  | none =>
    cases op <;> simp [write, tally, held, completed, note, hout, OutOp.calls, Action.calls,
      List.count_cons]
    omega
  | some op' =>
    simp only [write, tally, held, completed, hout, List.flatMap_append, List.flatMap_singleton,
      List.count_append]
    omega

/-- What is taken out of the queue. -/
theorem tally_queue (q : List Elem) :
    State.tally { s with sendingQueue := q } c + (s.sendingQueue.flatMap (·.callback.calls)).count c =
      s.tally c + (q.flatMap (·.callback.calls)).count c := by
  simp only [tally, held, completed, List.count_append]
  omega

/-- What becomes of the handlers of IQs. -/
theorem tally_iqReplyHandlers (l : List IqHandler) :
    State.tally { s with iqReplyHandlers := l } c + (pendingCalls s.iqReplyHandlers).count c =
      s.tally c + (pendingCalls l).count c := by
  simp only [tally, held, completed, List.count_append]
  omega

/-! ## The handlers of IQs -/

theorem pendingCalls_append (l l' : List IqHandler) :
    pendingCalls (l ++ l') = pendingCalls l ++ pendingCalls l' := by
  rw [pendingCalls, List.filter_append, List.map_append]
  rfl

theorem pendingCalls_cons (h : IqHandler) (l : List IqHandler) :
    pendingCalls (h :: l) = pendingCalls [h] ++ pendingCalls l :=
  pendingCalls_append [h] l

/-- The place of the one handler for a call. -/
theorem exists_split {l : List IqHandler} {h : IqHandler} (hnodup : (l.map (·.call)).Nodup)
    (hmem : h ∈ l) :
    ∃ pre post, l = pre ++ h :: post ∧ (∀ x ∈ pre, x.call ≠ h.call) ∧
      ∀ x ∈ post, x.call ≠ h.call := by
  obtain ⟨pre, post, rfl⟩ := List.append_of_mem hmem
  rw [List.map_append, List.map_cons, List.nodup_append] at hnodup
  obtain ⟨-, hpost, hdisjoint⟩ := hnodup
  refine ⟨pre, post, rfl, fun x hx => ?_, fun x hx heq => ?_⟩
  · exact hdisjoint x.call (List.mem_map_of_mem hx) h.call List.mem_cons_self
  · exact (List.nodup_cons.mp hpost).1 (heq ▸ List.mem_map_of_mem hx)

theorem map_set_of_ne {l : List IqHandler} {h : IqHandler} (hl : ∀ x ∈ l, x.call ≠ h.call) :
    (l.map fun x => if x.call = h.call then h else x) = l := by
  rw [List.map_congr_left fun x hx => if_neg (hl x hx), List.map_id']

/-- Changing the handler for a call. -/
theorem map_set_split {pre post : List IqHandler} {h h' : IqHandler} (hcall : h'.call = h.call)
    (hpre : ∀ x ∈ pre, x.call ≠ h.call) (hpost : ∀ x ∈ post, x.call ≠ h.call) :
    ((pre ++ h :: post).map fun x => if x.call = h'.call then h' else x) = pre ++ h' :: post := by
  rw [← hcall] at hpre hpost
  rw [List.map_append, List.map_cons, map_set_of_ne hpre, map_set_of_ne hpost, if_pos hcall.symm]

theorem filter_ne_split {pre post : List IqHandler} {h : IqHandler}
    (hpre : ∀ x ∈ pre, x.call ≠ h.call) (hpost : ∀ x ∈ post, x.call ≠ h.call) :
    ((pre ++ h :: post).filter fun x => x.call ≠ h.call) = pre ++ post := by
  have hkeep : ∀ l : List IqHandler, (∀ x ∈ l, x.call ≠ h.call) →
      (l.filter fun x => x.call ≠ h.call) = l := fun l hl =>
    List.filter_eq_self.mpr fun x hx => decide_eq_true (hl x hx)
  rw [List.filter_append, List.filter_cons, hkeep pre hpre, hkeep post hpost]
  simp

/-- A handler is replaced by one of the same call. -/
theorem map_call_setHandler (h : IqHandler) :
    (s.setHandler h).iqReplyHandlers.map (·.call) = s.iqReplyHandlers.map (·.call) := by
  rw [setHandler, List.map_map]
  refine List.map_congr_left fun x _ => ?_
  by_cases hx : x.call = h.call
  · simp [hx]
  · simp [hx]

/-- A handler is changed: its own call is all that may not be held by it any more. -/
theorem tally_setHandler {h : IqHandler} (h' : IqHandler)
    (hnodup : s.DistinctCalls) (hmem : h ∈ s.iqReplyHandlers)
    (hcall : h'.call = h.call) :
    (s.setHandler h').tally c + (pendingCalls [h]).count c =
      s.tally c + (pendingCalls [h']).count c := by
  obtain ⟨pre, post, hl, hpre, hpost⟩ := exists_split hnodup hmem
  have htally := tally_iqReplyHandlers (s := s) (c := c)
    (s.iqReplyHandlers.map fun x => if x.call = h'.call then h' else x)
  rw [hl, map_set_split hcall hpre hpost, pendingCalls_append, pendingCalls_append,
    pendingCalls_cons h, pendingCalls_cons h'] at htally
  simp only [List.count_append] at htally
  rw [setHandler, hl, map_set_split hcall hpre hpost]
  omega

/-- A handler that has no result is removed. -/
theorem tally_maybeRemove (c' : Call) (hnodup : s.DistinctCalls) :
    (s.maybeRemove c').tally c = s.tally c := by
  unfold maybeRemove
  split
  · rfl
  · next h hfind =>
    split
    · next hdone =>
      obtain rfl : h.call = c' := by simpa using List.find?_some hfind
      obtain ⟨pre, post, hl, hpre, hpost⟩ := exists_split hnodup (List.mem_of_find?_eq_some hfind)
      have hpending : pendingCalls [h] = [] := by
        simp only [Bool.and_eq_true, Bool.not_eq_true'] at hdone
        simp [pendingCalls, hdone.2]
      have htally := tally_iqReplyHandlers (s := s) (c := c) (pre ++ post)
      rw [hl, pendingCalls_append, pendingCalls_append, pendingCalls_cons h, hpending,
        List.nil_append] at htally
      rw [hl, filter_ne_split hpre hpost]
      omega
    · rfl

/-! ## What the functions of the code do to the account -/

/-- What a function may do: handlers of IQs are only taken away, and the account of the calls
has changed by `given`. -/
structure Turn (given : List Call) (s s' : State) : Prop where
  calls : s'.calls = s.calls
  handlers : (s'.iqReplyHandlers.map (·.call)).Sublist (s.iqReplyHandlers.map (·.call))
  tally : ∀ c, s'.tally c = s.tally c + given.count c

variable {given given' : List Call} {s' s'' : State}

theorem Turn.refl (s : State) : Turn [] s s := ⟨rfl, List.Sublist.refl _, fun _ => rfl⟩

theorem Turn.trans (h : Turn given s s') (h' : Turn given' s' s'') :
    Turn (given ++ given') s s'' where
  calls := h'.calls.trans h.calls
  handlers := h'.handlers.trans h.handlers
  tally c := by rw [h'.tally, h.tally, List.count_append, Nat.add_assoc]

/-- A function that leaves the calls and the handlers of IQs alone. -/
theorem Turn.of_tally (hcalls : s'.calls = s.calls)
    (hhandlers : s'.iqReplyHandlers = s.iqReplyHandlers)
    (htally : ∀ c, s'.tally c = s.tally c + given.count c) : Turn given s s' :=
  ⟨hcalls, hhandlers ▸ List.Sublist.refl _, htally⟩

/-- A frame brings its calls along. -/
theorem turn_push (f : Frame) : Turn f.calls s (s.push f) :=
  .of_tally rfl rfl fun _ => tally_push f

/-- A completion counts. -/
theorem turn_note (a : Action) : Turn a.calls s (s.note a) :=
  .of_tally rfl rfl fun _ => tally_note a

theorem turn_abort (f : Fault) : Turn [] s (s.abort f) := .of_tally rfl rfl fun _ => rfl

theorem turn_emit (signal : Signal) : Turn [] s (s.emit signal) :=
  turn_push (.user (.signal signal))

theorem turn_call (c : Call) (outcome : Outcome) : Turn [c] s (s.call c outcome) :=
  .of_tally rfl rfl fun _ => tally_call c outcome

theorem turn_completeInIdle (callback : Callback) (e : Option Error) :
    Turn callback.calls s (s.completeInIdle callback e) :=
  .of_tally rfl rfl fun _ => tally_completeInIdle callback e

theorem turn_write (op : OutOp) : Turn op.calls s (s.write op) := by
  refine .of_tally ?_ ?_ fun _ => tally_write op
  · unfold write
    split <;> rfl
  · unfold write
    split <;> rfl

theorem turn_setQueue (queue : List Elem)
    (h : ∀ c, (queue.flatMap (·.callback.calls)).count c =
      (s.sendingQueue.flatMap (·.callback.calls)).count c) : Turn [] s (s.setQueue queue) := by
  refine .of_tally rfl rfl fun c => ?_
  have htally := tally_queue (s := s) (c := c) queue
  rw [h c] at htally
  rw [List.count_nil, setQueue]
  omega

theorem turn_enqueue (elem : Elem) : Turn elem.callback.calls s (s.enqueue elem) := by
  refine .of_tally rfl rfl fun c => ?_
  simp only [tally, held, completed, enqueue, List.flatMap_append, List.flatMap_singleton,
    List.count_append, Action.calls, List.count_nil]
  omega

theorem turn_sendHeadStanza : Turn [] s s.sendHeadStanza := by
  unfold sendHeadStanza
  split
  · exact .refl s
  · next elem rest hq =>
    have hqueue : Turn [] s (s.setQueue ({ elem with connected := false } :: rest)) :=
      turn_setQueue _ fun c => by rw [hq]; rfl
    exact (hqueue.trans (turn_write (.stanza elem.serial))).trans (turn_emit .sending)

theorem turn_sendClose : Turn [] s s.sendClose := by
  have h : Turn [] s { s with waitingToClose := false } := .of_tally rfl rfl fun _ => rfl
  exact h.trans (turn_write .close)

theorem turn_closeIfWaiting : Turn [] s s.closeIfWaiting := by
  unfold closeIfWaiting
  split
  · exact turn_sendClose
  · exact .refl s

theorem turn_sendNext : Turn [] s s.sendNext := by
  unfold sendNext
  split
  · exact turn_push .closeIfWaiting
  · exact (turn_push .closeIfWaiting).trans turn_sendHeadStanza

theorem turn_sendAsync (stanza : Wocky.Stanza) (cancellable : Bool) (callback : Callback) :
    Turn callback.calls s (s.sendAsync stanza cancellable callback) := by
  unfold sendAsync
  split
  · exact turn_completeInIdle callback _
  · split
    · have h := (turn_enqueue (s := s) ⟨s.serials, stanza, false, callback⟩).trans
        turn_sendHeadStanza
      rwa [List.append_nil] at h
    · exact turn_enqueue ⟨s.serials, stanza, cancellable, callback⟩

/-- A handler is changed: its own call is all that may not be held by it any more. -/
theorem turn_setHandler {h : IqHandler} (h' : IqHandler)
    (hnodup : s.DistinctCalls) (hmem : h ∈ s.iqReplyHandlers)
    (hcall : h'.call = h.call) (hpending : h'.pending = h.pending) : Turn [] s (s.setHandler h') := by
  refine ⟨rfl, by rw [map_call_setHandler], fun c => ?_⟩
  have htally := tally_setHandler (c := c) h' hnodup hmem hcall
  have hsame : pendingCalls [h'] = pendingCalls [h] := by
    cases hp : h.pending <;> simp [pendingCalls, hpending, hp, hcall]
  rw [hsame] at htally
  rw [List.count_nil]
  omega

theorem nodup_setHandler (hnodup : s.DistinctCalls) (h : IqHandler) :
    (s.setHandler h).DistinctCalls := by rwa [DistinctCalls, map_call_setHandler]

theorem turn_maybeRemove (c : Call) (hnodup : s.DistinctCalls) :
    Turn [] s (s.maybeRemove c) := by
  refine ⟨?_, ?_, fun c' => tally_maybeRemove c hnodup⟩
  · unfold maybeRemove
    split
    · rfl
    · split <;> rfl
  · unfold maybeRemove
    split
    · exact List.Sublist.refl _
    · split
      · exact List.filter_sublist.map _
      · exact List.Sublist.refl _

/-- The result of a handler is taken out of it, and its callback is called. -/
theorem turn_answer {h : IqHandler} (h' : IqHandler)
    (hnodup : s.DistinctCalls) (hmem : h ∈ s.iqReplyHandlers)
    (hpending : h.pending = true) (hcall : h'.call = h.call) (hpending' : h'.pending = false)
    (f : Frame) (outcome : Outcome) :
    Turn f.calls s (((s.setHandler h').push f).call h.call outcome) := by
  refine ⟨rfl, ?_, fun c => ?_⟩
  · exact (map_call_setHandler h').symm ▸ List.Sublist.refl _
  · have htally := tally_setHandler (c := c) h' hnodup hmem hcall
    have htaken : pendingCalls [h] = [h.call] := by simp [pendingCalls, hpending]
    have hgone : pendingCalls [h'] = [] := by simp [pendingCalls, hpending']
    rw [htaken, hgone, List.count_nil] at htally
    rw [tally_call, tally_push]
    omega

/-- A request was written, or failed. -/
theorem turn_iqSentCb (c : Call) (outcome : Outcome)
    (hnodup : s.DistinctCalls) : Turn [] s (s.iqSentCb c outcome) := by
  unfold iqSentCb
  split
  · exact turn_abort _
  · next h hfind =>
    have hmem : h ∈ s.iqReplyHandlers := List.mem_of_find?_eq_some hfind
    obtain rfl : h.call = c := by simpa using List.find?_some hfind
    have hdone : Turn [] s ((s.setHandler { h with sent := true }).maybeRemove h.call) :=
      (turn_setHandler { h with sent := true } hnodup hmem rfl rfl).trans
        (turn_maybeRemove h.call (nodup_setHandler hnodup _))
    split
    · split
      · next hpending =>
        exact turn_answer { h with sent := true, pending := false, connected := false } hnodup hmem
          hpending rfl rfl (.iqSentCb h.call) _
      · exact hdone
    · exact hdone

theorem turn_complete (callback : Callback) (outcome : Outcome) (hnodup : s.DistinctCalls) :
    Turn callback.calls s (s.complete callback outcome) := by
  cases callback with
  | null => exact .refl s
  | user c => exact turn_call c outcome
  | iqSent c => exact turn_iqSentCb c outcome hnodup

/-- The head of the queue is taken out of it, and its callback is called. -/
theorem turn_completeHead {elem : Elem} {rest : List Elem} (hq : s.sendingQueue = elem :: rest)
    {a : Action} (ha : a.calls = []) (f : Frame) (outcome : Outcome)
    (hnodup : s.DistinctCalls) :
    Turn f.calls s ((((s.note a).setQueue rest).push f).complete elem.callback outcome) := by
  have h := turn_complete (s := ((s.note a).setQueue rest).push f) elem.callback outcome hnodup
  refine ⟨h.calls, h.handlers, fun c => ?_⟩
  have htally := tally_queue (s := s.note a) (c := c) rest
  change _ + (s.sendingQueue.flatMap _).count c = _ at htally
  rw [hq, List.flatMap_cons, List.count_append, tally_note, ha, List.count_nil] at htally
  rw [h.tally, tally_push, setQueue]
  omega

/-- Every operation of the queue is completed. -/
theorem turn_terminateSendingOperations (e : Error) (hnodup : s.DistinctCalls) :
    Turn [] s (s.terminateSendingOperations e) := by
  unfold terminateSendingOperations
  split
  · exact .refl s
  · next elem rest hq => exact turn_completeHead hq rfl (.terminate e) _ hnodup

theorem turn_sendStanzaCb (r : Option Error) (hnodup : s.DistinctCalls) :
    Turn [] s (s.sendStanzaCb r) := by
  unfold sendStanzaCb
  split
  · exact (turn_push .closeIfWaiting).trans (turn_push (.terminate _))
  · split
    · exact .refl s
    · next elem rest hq => exact turn_completeHead hq rfl .sendNext _ hnodup

theorem turn_sendWhitespacePingCb (c : Call) (r : Option Error) :
    Turn [c] s (s.sendWhitespacePingCb c r) := by
  have hping : Turn [] s { s with sendingWhitespacePing := false } :=
    .of_tally rfl rfl fun _ => rfl
  cases r with
  | none => exact (hping.trans (turn_push .sendNext)).trans (turn_call c .ok)
  | some e =>
    exact ((hping.trans (turn_push .closeIfWaiting)).trans (turn_push (.terminate e))).trans
      (turn_call c (.error e))

/-- The results of all handlers go to the idle queue. -/
theorem turn_abortPendingIqs (e : Error) : Turn [] s (s.abortPendingIqs e) := by
  refine ⟨rfl, ?_, fun c => ?_⟩
  · have hcall : ∀ l : List IqHandler, (l.map fun h =>
        if h.pending then { h with pending := false, connected := false } else h).map (·.call) =
          l.map (·.call) := fun l => by
      rw [List.map_map]
      refine List.map_congr_left fun h _ => ?_
      cases hp : h.pending <;> simp [hp]
    rw [abortPendingIqs, hcall]
    exact List.filter_sublist.map _
  · have hnone : ∀ l : List IqHandler, pendingCalls (l.map fun h =>
        if h.pending then { h with pending := false, connected := false } else h) = [] := fun l => by
      induction l with
      | nil => rfl
      | cons h l ih =>
        rw [List.map_cons, pendingCalls_cons, ih]
        cases hp : h.pending <;> simp [pendingCalls, hp]
    have hidle : ((s.iqReplyHandlers.filter (·.pending)).map fun h =>
        (Callback.user h.call, some e)).flatMap (·.1.calls) =
          pendingCalls s.iqReplyHandlers := by
      rw [List.flatMap_map, pendingCalls, List.map_eq_flatMap]
      rfl
    simp only [tally, held, completed, abortPendingIqs, hnone, hidle, List.flatMap_append,
      List.count_append, List.count_nil]
    omega

/-- A field that holds no call is set. -/
theorem turn_setLocalClosed : Turn [] s s.setLocalClosed := .of_tally rfl rfl fun _ => rfl

theorem turn_setStarted (started : Bool) : Turn [] s (s.setStarted started) :=
  .of_tally rfl rfl fun _ => rfl

theorem turn_setCloseCancellable (cancelled : Option Bool) :
    Turn [] s (s.setCloseCancellable cancelled) := .of_tally rfl rfl fun _ => rfl

theorem turn_setForceCloseCancellable (cancellable : Bool) :
    Turn [] s (s.setForceCloseCancellable cancellable) := .of_tally rfl rfl fun _ => rfl

theorem turn_setCloseResult (h : s.closeResult = none) (c : Call) :
    Turn [c] s (s.setCloseResult (some c)) := by
  refine .of_tally rfl rfl fun c' => ?_
  simp only [tally, held, completed, setCloseResult, h, Option.toList_some, Option.toList_none,
    List.count_append, List.count_nil]
  omega

theorem tally_setCloseResult_none {c' : Call} (h : s.closeResult = some c') :
    (s.setCloseResult none).tally c + [c'].count c = s.tally c := by
  simp only [tally, held, completed, setCloseResult, h, Option.toList_some, Option.toList_none,
    List.count_append, List.count_nil]
  omega

theorem turn_setForceCloseResult (h : s.forceCloseResult = none) (c : Call) :
    Turn [c] s (s.setForceCloseResult (some c)) := by
  refine .of_tally rfl rfl fun c' => ?_
  simp only [tally, held, completed, setForceCloseResult, h, Option.toList_some,
    Option.toList_none, List.count_append, List.count_nil]
  omega

theorem tally_setForceCloseResult_none {c' : Call} (h : s.forceCloseResult = some c') :
    (s.setForceCloseResult none).tally c + [c'].count c = s.tally c := by
  simp only [tally, held, completed, setForceCloseResult, h, Option.toList_some,
    Option.toList_none, List.count_append, List.count_nil]
  omega

/-- The result of a close operation is taken, and its callback is called. -/
theorem turn_completeClose (r : Option Error) : Turn [] s (s.completeClose r) := by
  unfold completeClose
  split
  · exact turn_abort _
  · next c hclose =>
    refine .of_tally rfl rfl fun c' => ?_
    rw [tally_call, List.count_nil]
    exact tally_setCloseResult_none (s := (s.setCloseCancellable none).setForceCloseCancellable
      false) hclose

theorem turn_remoteConnectionClosed (e : Error) : Turn [] s (s.remoteConnectionClosed e) := by
  have hflag : Turn [] (s.abortPendingIqs e) (s.abortPendingIqs e).setRemoteClosed :=
    .of_tally rfl rfl fun _ => rfl
  exact (((turn_abortPendingIqs e).trans hflag).trans (turn_push (.remoteClosed e))).trans
    (turn_emit _)

theorem turn_remoteClosedRest (e : Error) : Turn [] s (s.remoteClosedRest e) := by
  unfold remoteClosedRest
  split
  · exact (turn_push .stopReceiving).trans (turn_completeClose _)
  · exact turn_push .stopReceiving

theorem turn_closeSentCb (r : Option Error) : Turn [] s (s.closeSentCb r) := by
  unfold closeSentCb
  split
  · exact turn_setLocalClosed
  · split
    · exact turn_setLocalClosed.trans (turn_completeClose r)
    · exact turn_setLocalClosed

/-- A close waits, or fails at once. -/
theorem turn_closeAsync (c : Call) (cancellable : Bool) :
    Turn [c] s (s.closeAsync c cancellable) := by
  unfold closeAsync
  split
  · exact turn_completeInIdle (.user c) _
  split
  · exact turn_completeInIdle (.user c) _
  split
  · exact turn_completeInIdle (.user c) _
  next hnone =>
    have hclose : Turn [c] s (s.setCloseResult (some c)) :=
      turn_setCloseResult (by simpa using hnone) c
    split
    · exact turn_completeInIdle (.user c) _
    split
    · exact hclose.trans (turn_abort .assertion)
    · exact ((hclose.trans (turn_setCloseCancellable _)).trans (turn_push .closing)).trans
        (turn_emit .closing)

theorem turn_closeAsyncRest : Turn [] s s.closeAsyncRest := by
  unfold closeAsyncRest
  split
  · exact .of_tally rfl rfl fun _ => rfl
  · exact turn_sendClose

theorem turn_forceShutdown : Turn [] s s.forceShutdown := .of_tally rfl rfl fun _ => rfl

theorem turn_forceCloseAsync (c : Call) (cancellable : Bool) :
    Turn [c] s (s.forceCloseAsync c cancellable) := by
  unfold forceCloseAsync
  split
  · exact turn_completeInIdle (.user c) _
  split
  · exact turn_completeInIdle (.user c) _
  split
  · exact turn_completeInIdle (.user c) _
  split
  · next c' hclose =>
    refine .of_tally rfl rfl fun c'' => ?_
    rw [tally_push, tally_completeInIdle]
    have htally := tally_setCloseResult_none (c := c'') hclose
    change _ + [c'].count c'' + [c].count c'' = _
    omega
  · exact (turn_push (.forceClosing c cancellable)).trans (turn_emit .closing)

theorem turn_forceClosingRest (h : s.forceCloseResult = none) (c : Call) (cancellable : Bool) :
    Turn [c] s (s.forceClosingRest c cancellable) := by
  have hforce := turn_setForceCloseResult h c
  unfold forceClosingRest
  split
  · exact hforce.trans (turn_abort .assertion)
  · exact ((hforce.trans (turn_setForceCloseCancellable cancellable)).trans
      (turn_push (.forceTerminated c))).trans (turn_push (.terminate .forciblyClosed))

theorem turn_forceTerminatedRest {c : Call} (h : s.forceCloseResult = some c) :
    Turn [] s (s.forceTerminatedRest c) := by
  have habort : Turn [] s (s.abortPendingIqs .forciblyClosed) := turn_abortPendingIqs _
  unfold forceTerminatedRest
  split
  · split
    · refine ⟨habort.calls, habort.handlers, fun c' => ?_⟩
      have htally := tally_setForceCloseResult_none (c := c')
        (s := (s.abortPendingIqs .forciblyClosed).completeInIdle (.user c) (some .forciblyClosed)) h
      rw [tally_completeInIdle, habort.tally] at htally
      change _ = _ + [c].count c' at htally
      omega
    · exact habort.trans turn_forceShutdown
  · exact habort

theorem turn_connectionForceCloseCb (r : Option Error) : Turn [] s (s.connectionForceCloseCb r) := by
  unfold connectionForceCloseCb
  split
  · exact turn_abort _
  · next c hforce =>
    refine .of_tally rfl rfl fun c' => ?_
    rw [tally_call, List.count_nil]
    exact tally_setForceCloseResult_none hforce

/-! ## Incoming stanzas -/

variable {g : Addressing.GLib} {j : Jids}

theorem turn_returning (taken : Bool) : Turn [] s (s.returning taken) :=
  .of_tally rfl rfl fun _ => rfl

/-- A reply completes one request. -/
theorem turn_handleIqReply (reply : Wocky.Stanza)
    (hnodup : s.DistinctCalls) : Turn [] s (s.handleIqReply g j reply) := by
  unfold handleIqReply
  split
  · exact turn_returning _
  · split
    · exact turn_returning _
    · next h hfind =>
      have hmem : h ∈ s.iqReplyHandlers := List.mem_of_find?_eq_some hfind
      split
      · exact turn_returning _
      · split
        · next hpending =>
          exact turn_answer { h with pending := false, connected := false } hnodup hmem hpending rfl
            rfl (.handleIqReply h.call) _
        · exact (turn_maybeRemove h.call hnodup).trans (turn_returning _)

theorem turn_beginDispatch (d : Dispatch) : Turn [] s (s.beginDispatch d) :=
  .of_tally rfl rfl fun _ => tally_note (.began d)

theorem turn_handleStanza (stanza : Wocky.Stanza) : Turn [] s (s.handleStanza g j stanza) :=
  (turn_beginDispatch _).trans (turn_push (.dispatch _ _))

/-- A handler is offered the stanza. -/
theorem turn_callHandler (d : Dispatch) (h : StanzaHandler)
    (hnodup : s.DistinctCalls) : Turn [] s (s.callHandler g j d h) := by
  have hoffer : Turn [] s ((s.note (.offered d h)).push (.dispatched d h.id)) :=
    (turn_note (.offered d h)).trans (turn_push (.dispatched d h.id))
  unfold callHandler
  split
  · exact hoffer.trans (turn_handleIqReply _ hnodup)
  · exact (hoffer.trans (turn_push .handleStreamError)).trans (turn_remoteConnectionClosed _)
  · exact hoffer.trans (turn_push (.user (.handler h.id)))

theorem turn_refuse (d : Dispatch) : Turn [] s (s.refuse d) := by
  unfold refuse
  split
  · split
    · exact turn_note (.unhandled d)
    · exact (turn_note (.unhandled d)).trans (turn_sendAsync _ _ .null)
  · exact turn_note (.unhandled d)

theorem turn_dispatchRound (d : Dispatch) (link : Option HandlerId)
    (hnodup : s.DistinctCalls) : Turn [] s (s.dispatchRound g j d link) := by
  unfold dispatchRound
  split
  · exact turn_refuse d
  · split
    · exact turn_abort _
    · split
      · exact turn_callHandler d _ hnodup
      · exact turn_push (.dispatch _ _)

theorem turn_dispatchedRest (d : Dispatch) (id : HandlerId) : Turn [] s (s.dispatchedRest d id) := by
  unfold dispatchedRest
  split
  · exact turn_note (.taken d id)
  · split
    · exact turn_push (.dispatch _ _)
    · exact turn_abort _

theorem turn_flushUnimportantQueue (after : AfterFlush) :
    Turn [] s (s.flushUnimportantQueue g j after) := by
  unfold flushUnimportantQueue
  split
  · next stanza rest _ =>
    have h : Turn [] s { s with unimportantQueue := rest } := .of_tally rfl rfl fun _ => rfl
    exact (h.trans (turn_push (.flush after))).trans (turn_handleStanza stanza)
  · split
    · exact turn_handleStanza _
    · exact .of_tally rfl rfl fun _ => rfl

theorem turn_queueOrHandleStanza (stanza : Wocky.Stanza) :
    Turn [] s (s.queueOrHandleStanza g j stanza) := by
  unfold queueOrHandleStanza
  split
  · split
    · exact turn_push (.flush (.handle stanza))
    · exact .of_tally rfl rfl fun _ => rfl
  · exact turn_handleStanza stanza

theorem turn_stanzaReceivedCb (r : Except Error Wocky.Stanza) :
    Turn [] s (s.stanzaReceivedCb g j r) := by
  unfold stanzaReceivedCb
  split
  · next e =>
    split
    · split
      · exact .refl s
      · exact turn_forceShutdown
    · exact turn_remoteConnectionClosed e
  · next stanza =>
    exact ((turn_note (.arrived stanza)).trans (turn_push .received)).trans
      (turn_queueOrHandleStanza stanza)

theorem turn_receivedRest : Turn [] s s.receivedRest := by
  unfold receivedRest
  split
  · exact .of_tally rfl rfl fun _ => rfl
  split
  · exact .refl s
  split
  · exact turn_forceShutdown
  · exact .refl s

/-! ## Closing by force -/

/-- A function that has no part in closing by force. -/
structure Unforced (s s' : State) : Prop where
  stack : ∃ fs, s'.stack = fs ++ s.stack ∧ ∀ f ∈ fs, f.forced = false
  forceCloseResult : s'.forceCloseResult = s.forceCloseResult

theorem Unforced.trans (h : Unforced s s') (h' : Unforced s' s'') : Unforced s s'' := by
  obtain ⟨fs, hstack, hfs⟩ := h.stack
  obtain ⟨fs', hstack', hfs'⟩ := h'.stack
  refine ⟨⟨fs' ++ fs, by rw [hstack', hstack, List.append_assoc], ?_⟩,
    h'.forceCloseResult.trans h.forceCloseResult⟩
  exact List.forall_mem_append.mpr ⟨hfs', hfs⟩

theorem Unforced.of_calm (h : Calm s s') : Unforced s s' := by
  obtain ⟨fs, hstack, hfs⟩ := h.stack
  refine ⟨⟨fs, hstack, fun f hf => ?_⟩, h.forceCloseResult⟩
  have hcalm := hfs f hf
  cases f <;> first | rfl | cases hcalm

theorem unforced_push {f : Frame} (hf : f.forced = false) : Unforced s (s.push f) :=
  ⟨⟨[f], rfl, fun _ h => List.mem_singleton.mp h ▸ hf⟩, rfl⟩

theorem unforced_note (a : Action) : Unforced s (s.note a) :=
  ⟨⟨[], rfl, List.forall_mem_nil _⟩, rfl⟩

theorem Unforced.of_eq (hstack : s'.stack = s.stack)
    (hforce : s'.forceCloseResult = s.forceCloseResult) : Unforced s s' :=
  ⟨⟨[], hstack, List.forall_mem_nil _⟩, hforce⟩

theorem unforced_handleIqReply (reply : Wocky.Stanza) : Unforced s (s.handleIqReply g j reply) := by
  unfold handleIqReply
  split
  · exact .of_eq rfl rfl
  split
  · exact .of_eq rfl rfl
  split
  · exact .of_eq rfl rfl
  split
  · next h _ _ _ =>
    have hset : Unforced s (s.setHandler { h with pending := false, connected := false }) :=
      .of_eq rfl rfl
    exact ((hset.trans (unforced_push rfl)).trans (unforced_note _)).trans (unforced_push rfl)
  · exact (Unforced.of_calm (calm_maybeRemove _)).trans (.of_eq rfl rfl)

theorem unforced_handleStanza (stanza : Wocky.Stanza) : Unforced s (s.handleStanza g j stanza) :=
  ⟨⟨[_], rfl, fun _ h => List.mem_singleton.mp h ▸ rfl⟩, rfl⟩

theorem unforced_callHandler (d : Dispatch) (h : StanzaHandler) :
    Unforced s (s.callHandler g j d h) := by
  have hoffer : Unforced s ((s.note (.offered d h)).push (.dispatched d h.id)) :=
    (unforced_note _).trans (unforced_push rfl)
  unfold callHandler
  split
  · exact hoffer.trans (unforced_handleIqReply _)
  · exact (hoffer.trans (unforced_push rfl)).trans (.of_calm (calm_remoteConnectionClosed _))
  · exact hoffer.trans (unforced_push rfl)

theorem unforced_refuse (d : Dispatch) : Unforced s (s.refuse d) := by
  have hnote : Unforced s (s.note (.unhandled d)) := .of_eq rfl rfl
  unfold refuse
  split
  · split
    · exact hnote
    · exact hnote.trans (.of_calm (calm_sendAsync _ _ _))
  · exact hnote

theorem unforced_dispatchRound (d : Dispatch) (link : Option HandlerId) :
    Unforced s (s.dispatchRound g j d link) := by
  unfold dispatchRound
  split
  · exact unforced_refuse d
  · split
    · exact .of_eq rfl rfl
    · split
      · exact unforced_callHandler d _
      · exact unforced_push rfl

theorem unforced_dispatchedRest (d : Dispatch) (id : HandlerId) :
    Unforced s (s.dispatchedRest d id) := by
  unfold dispatchedRest
  split
  · exact .of_eq rfl rfl
  · split
    · exact unforced_push rfl
    · exact .of_eq rfl rfl

theorem unforced_flushUnimportantQueue (after : AfterFlush) :
    Unforced s (s.flushUnimportantQueue g j after) := by
  unfold flushUnimportantQueue
  split
  · next stanza rest _ =>
    have h : Unforced s { s with unimportantQueue := rest } := .of_eq rfl rfl
    exact (h.trans (unforced_push rfl)).trans (unforced_handleStanza stanza)
  · split
    · exact unforced_handleStanza _
    · exact .of_eq rfl rfl

theorem unforced_queueOrHandleStanza (stanza : Wocky.Stanza) :
    Unforced s (s.queueOrHandleStanza g j stanza) := by
  unfold queueOrHandleStanza
  split
  · split
    · exact unforced_push rfl
    · exact .of_eq rfl rfl
  · exact unforced_handleStanza stanza

theorem unforced_stanzaReceivedCb (r : Except Error Wocky.Stanza) :
    Unforced s (s.stanzaReceivedCb g j r) := by
  unfold stanzaReceivedCb
  split
  · next e =>
    split
    · split
      · exact .of_eq rfl rfl
      · exact .of_eq rfl rfl
    · exact .of_calm (calm_remoteConnectionClosed e)
  · next stanza =>
    have h : Unforced s (s.note (.arrived stanza)) := .of_eq rfl rfl
    exact (h.trans (unforced_push rfl)).trans (unforced_queueOrHandleStanza stanza)

theorem unforced_receivedRest : Unforced s s.receivedRest := by
  unfold receivedRest forceShutdown
  split
  · exact .of_eq rfl rfl
  split
  · exact .of_eq rfl rfl
  split
  · exact .of_eq rfl rfl
  · exact .of_eq rfl rfl

/-- While the "closing" signal is emitted there is no `force_close_result`, and while
`terminate_sending_operations` runs after that, it is the call's. -/
structure Control (s : State) : Prop where
  single : s.stack.countP Frame.forced ≤ 1
  forceClosing : ∀ c cancellable, Frame.forceClosing c cancellable ∈ s.stack →
    s.forceCloseResult = none
  forceTerminated : ∀ c, Frame.forceTerminated c ∈ s.stack → s.forceCloseResult = some c

/-- Whatever leaves the forced close alone. -/
theorem Control.unforced (h : Control s) (hu : Unforced s s') : Control s' := by
  obtain ⟨⟨fs, hstack, hfs⟩, hforce⟩ := hu
  have hold : ∀ f ∈ s'.stack, f.forced = true → f ∈ s.stack := by
    intro f hf hforced
    rw [hstack] at hf
    refine (List.mem_append.mp hf).resolve_left fun hnew => ?_
    rw [hfs f hnew] at hforced
    cases hforced
  refine ⟨?_, fun c cancellable hf => ?_, fun c hf => ?_⟩
  · have hnone : fs.countP Frame.forced = 0 := List.countP_eq_zero.mpr fun f hf => by
      rw [hfs f hf]
      exact Bool.false_ne_true
    rw [hstack, List.countP_append, hnone, Nat.zero_add]
    exact h.single
  · rw [hforce]
    exact h.forceClosing c cancellable (hold _ hf rfl)
  · rw [hforce]
    exact h.forceTerminated c (hold _ hf rfl)

/-- A frame is popped. -/
theorem Control.pop {f : Frame} {rest : List Frame} (h : Control s) (hstack : s.stack = f :: rest) :
    Control { s with stack := rest } where
  single := by
    have hsingle := h.single
    rw [hstack, List.countP_cons] at hsingle
    exact (Nat.le_add_right _ _).trans hsingle
  forceClosing c cancellable hf :=
    h.forceClosing c cancellable (hstack ▸ List.mem_cons_of_mem f hf)
  forceTerminated c hf := h.forceTerminated c (hstack ▸ List.mem_cons_of_mem f hf)

/-- Under a forced frame there is no other. -/
theorem Control.none_below {f : Frame} {rest : List Frame} (h : Control s)
    (hstack : s.stack = f :: rest) (hf : f.forced = true) : ∀ f' ∈ rest, f'.forced = false := by
  have hsingle := h.single
  rw [hstack, List.countP_cons, if_pos hf] at hsingle
  have hzero : rest.countP Frame.forced = 0 := by omega
  intro f' hf'
  exact Bool.not_eq_true _ ▸ List.countP_eq_zero.mp hzero f' hf'

/-- No forced frame is on the stack. -/
theorem Control.of_none (h : ∀ f ∈ s.stack, f.forced = false) : Control s where
  single := by
    have hzero : s.stack.countP Frame.forced = 0 := List.countP_eq_zero.mpr fun f hf => by
      rw [h f hf]
      exact Bool.false_ne_true
    omega
  forceClosing c cancellable hf := by cases h _ hf
  forceTerminated c hf := by cases h _ hf

/-- One forced frame is on the stack, and `force_close_result` is as it should be with it. -/
theorem Control.of_push {f : Frame} (h : ∀ f ∈ s.stack, f.forced = false)
    (hclosing : ∀ c cancellable, f = .forceClosing c cancellable → s.forceCloseResult = none)
    (hterminated : ∀ c, f = .forceTerminated c → s.forceCloseResult = some c) :
    Control (s.push f) where
  single := by
    have hzero : s.stack.countP Frame.forced = 0 := List.countP_eq_zero.mpr fun f hf => by
      rw [h f hf]
      exact Bool.false_ne_true
    change (f :: s.stack).countP Frame.forced ≤ 1
    rw [List.countP_cons, hzero]
    split <;> omega
  forceClosing c cancellable hf := by
    rcases List.mem_cons.mp hf with heq | hf
    · exact hclosing c cancellable heq.symm
    · cases h _ hf
  forceTerminated c hf := by
    rcases List.mem_cons.mp hf with heq | hf
    · exact hterminated c heq.symm
    · cases h _ hf

/-! ## The account over a run -/

/-- Every call is accounted for once. -/
structure Balanced (s : State) : Prop where
  nodup : (s.iqReplyHandlers.map (·.call)).Nodup
  old : ∀ c ∈ s.iqReplyHandlers.map (·.call), c < s.calls
  control : Control s
  tally : ∀ c, s.tally c = if c < s.calls then 1 else 0

/-- A function keeps the account when the calls that are given to it are the ones missing. -/
theorem Turn.balanced (h : Turn given s s') (hnodup : s.DistinctCalls)
    (hold : ∀ c ∈ s.iqReplyHandlers.map (·.call), c < s.calls) (hcontrol : Control s')
    (htally : ∀ c, s.tally c + given.count c = if c < s.calls then 1 else 0) : Balanced s' where
  nodup := hnodup.sublist h.handlers
  old c hc := h.calls ▸ hold c (h.handlers.subset hc)
  control := hcontrol
  tally c := by rw [h.tally, htally, h.calls]

/-- A part of the code that takes over no call. -/
theorem Balanced.turn (h : Balanced s) (ht : Turn [] s s') (hcontrol : Control s') :
    Balanced s' :=
  ht.balanced h.nodup h.old hcontrol fun c => by rw [List.count_nil, h.tally, Nat.add_zero]

theorem turn_resume (f : Frame) (hnodup : s.DistinctCalls)
    (hclosing : ∀ c cancellable, f = .forceClosing c cancellable → s.forceCloseResult = none)
    (hterminated : ∀ c, f = .forceTerminated c → s.forceCloseResult = some c) :
    Turn f.calls s (s.resume g j f) := by
  cases f with
  | user code => exact .refl s
  | sendNext => exact turn_sendNext
  | closeIfWaiting => exact turn_closeIfWaiting
  | terminate e => exact turn_terminateSendingOperations e hnodup
  | iqSentCb c => exact turn_maybeRemove c hnodup
  | handleIqReply c => exact (turn_maybeRemove c hnodup).trans (turn_returning true)
  | handleStreamError => exact turn_returning true
  | dispatch d link => exact turn_dispatchRound d link hnodup
  | dispatched d id => exact turn_dispatchedRest d id
  | flush after => exact turn_flushUnimportantQueue after
  | received => exact turn_receivedRest
  | remoteClosed e => exact turn_remoteClosedRest e
  | stopReceiving => exact turn_setStarted false
  | closing => exact turn_closeAsyncRest
  | forceClosing c cancellable =>
    exact turn_forceClosingRest (hclosing c cancellable rfl) c cancellable
  | forceTerminated c => exact turn_forceTerminatedRest (hterminated c rfl)

/-- A frame that is not forced goes on without a part in closing by force. -/
theorem unforced_resume {f : Frame} (hf : f.forced = false) : Unforced s (s.resume g j f) := by
  cases f with
  | user code => exact .of_eq rfl rfl
  | sendNext => exact .of_calm calm_sendNext
  | closeIfWaiting => exact .of_calm calm_closeIfWaiting
  | terminate e => exact .of_calm (calm_terminateSendingOperations e)
  | iqSentCb c => exact .of_calm (calm_maybeRemove c)
  | handleIqReply c => exact (Unforced.of_calm (calm_maybeRemove c)).trans (.of_eq rfl rfl)
  | handleStreamError => exact .of_eq rfl rfl
  | dispatch d link => exact unforced_dispatchRound d link
  | dispatched d id => exact unforced_dispatchedRest d id
  | flush after => exact unforced_flushUnimportantQueue after
  | received => exact unforced_receivedRest
  | remoteClosed e => exact .of_calm (calm_remoteClosedRest e)
  | stopReceiving => exact .of_eq rfl rfl
  | closing => exact .of_calm calm_closeAsyncRest
  | forceClosing c cancellable => cases hf
  | forceTerminated c => cases hf

theorem control_resume_forced {f : Frame} (hnone : ∀ f ∈ s.stack, f.forced = false)
    (hf : f.forced = true) : Control (s.resume g j f) := by
  have hstack : (s.abortPendingIqs .forciblyClosed).stack = s.stack := rfl
  cases f with
  | forceClosing c cancellable =>
    change Control (s.forceClosingRest c cancellable)
    unfold forceClosingRest
    split
    · exact .of_none hnone
    · have h : Control (((s.setForceCloseResult (some c)).setForceCloseCancellable
          cancellable).push (.forceTerminated c)) :=
        .of_push hnone (fun _ _ h => by cases h) fun _ h => by
          cases h
          rfl
      exact h.unforced (unforced_push rfl)
  | forceTerminated c =>
    change Control (s.forceTerminatedRest c)
    unfold forceTerminatedRest
    split
    · split
      · exact .of_none hnone
      · exact .of_none hnone
    · exact .of_none hnone
  | _ => cases hf

/-- **One step of the stack.** -/
theorem Balanced.goOn (h : Balanced s) (hstep : s.goOn g j = some s') : Balanced s' := by
  unfold State.goOn at hstep
  split at hstep
  · cases hstep
  · cases hstep
  · next f rest _ hstack =>
    cases hstep
    have hpop : ∀ c, State.tally { s with stack := rest } c + f.calls.count c = s.tally c := by
      intro c
      simp only [State.tally, held, completed, hstack, List.flatMap_cons, List.count_append]
      omega
    have hmem : f ∈ s.stack := hstack ▸ List.mem_cons_self
    have hturn : Turn f.calls { s with stack := rest }
        (State.resume g j { s with stack := rest } f) := by
      refine turn_resume f h.nodup ?_ ?_
      · rintro c cancellable rfl
        exact h.control.forceClosing c cancellable hmem
      · rintro c rfl
        exact h.control.forceTerminated c hmem
    refine hturn.balanced h.nodup h.old ?_ fun c => ?_
    · cases hf : f.forced
      · exact (h.control.pop hstack).unforced (unforced_resume hf)
      · exact control_resume_forced (h.control.none_below hstack hf) hf
    · rw [hpop, h.tally]

/-- A callback returns. -/
theorem Balanced.returnFrom (h : Balanced s) {taken : Bool}
    (hstep : s.returnFrom taken = some s') : Balanced s' := by
  have hpop : ∀ (code : UserCode) (rest : List Frame) (taken : Bool),
      s.stack = .user code :: rest → Balanced { s with stack := rest, returned := taken } := by
    intro code rest taken hstack
    refine ⟨h.nodup, h.old, ?_, fun c => ?_⟩
    · exact (h.control.pop hstack).unforced (.of_eq rfl rfl)
    · rw [← h.tally c]
      simp only [State.tally, held, completed, hstack, List.flatMap_cons, Frame.calls,
        List.nil_append]
  unfold State.returnFrom at hstep
  split at hstep
  · next hstack =>
    cases hstep
    exact hpop _ _ taken hstack
  · next hstack =>
    cases hstep
    exact hpop _ _ s.returned hstack
  · cases hstep

/-- A call with a callback gets its number, which is new, and is accounted for. -/
theorem Balanced.call (h : Balanced s) (ht : Turn [s.calls] s.nextCall s')
    (hcontrol : Control s') : Balanced s' := by
  refine ht.balanced h.nodup (fun c hc => Nat.lt_succ_of_lt (h.old c hc)) hcontrol fun c => ?_
  have htally := h.tally c
  change s.tally c + [s.calls].count c = if c < s.calls + 1 then 1 else 0
  rw [htally, List.count_singleton]
  by_cases hc : s.calls = c
  · simp [hc]
  · have hne : ¬ c = s.calls := Ne.symm hc
    have hiff : c < s.calls + 1 ↔ c < s.calls :=
      Nat.lt_succ_iff_lt_or_eq.trans (or_iff_left hne)
    simp [hc, hiff]

/-- A handler with a result is added for a new call. -/
theorem turn_addHandler (h : IqHandler) (hpending : h.pending = true) (c : Call) :
    (s.addHandler h).tally c = s.tally c + [h.call].count c := by
  have htally := tally_iqReplyHandlers (s := s) (c := c) (s.iqReplyHandlers ++ [h])
  have hone : pendingCalls [h] = [h.call] := by simp [pendingCalls, hpending]
  rw [pendingCalls_append, hone, List.count_append] at htally
  rw [addHandler]
  omega

theorem map_call_addHandler (h : IqHandler) :
    (s.addHandler h).iqReplyHandlers.map (·.call) = s.iqReplyHandlers.map (·.call) ++ [h.call] := by
  rw [addHandler, List.map_append, List.map_singleton]

theorem Balanced.sendIqAsync (h : Balanced s) (stanza : Wocky.Stanza) (id : UriEscape.Bytes)
    (cancellable : Bool) :
    Balanced (s.nextCall.sendIqAsync g s.calls stanza id cancellable) := by
  have hnext : Control s.nextCall := h.control.unforced (.of_eq rfl rfl)
  unfold State.sendIqAsync
  split
  · exact h.call (turn_completeInIdle (.user s.calls) _) (hnext.unforced (.of_eq rfl rfl))
  split
  · exact h.call (turn_completeInIdle (.user s.calls) _) (hnext.unforced (.of_eq rfl rfl))
  · have hadded : Balanced ((s.nextCall.note (.asked s.calls id (recipientOf g stanza))).addHandler
        ⟨s.calls, id, recipientOf g stanza, true, cancellable, false⟩) := by
      have hfresh : s.calls ∉ s.iqReplyHandlers.map (·.call) := fun hmem =>
        absurd (h.old _ hmem) (Nat.lt_irrefl _)
      refine ⟨?_, ?_, hnext.unforced (.of_eq rfl rfl), fun c => ?_⟩
      · rw [map_call_addHandler]
        exact h.nodup.append (List.nodup_singleton _) (List.disjoint_singleton.mpr hfresh)
      · rw [map_call_addHandler]
        refine List.forall_mem_append.mpr ⟨fun c hc => Nat.lt_succ_of_lt (h.old c hc), ?_⟩
        exact List.forall_mem_singleton.mpr (Nat.lt_succ_self _)
      · rw [turn_addHandler _ rfl, tally_note]
        have hidle : Turn [s.calls] s.nextCall (s.nextCall.completeInIdle (.user s.calls) none) :=
          turn_completeInIdle (.user s.calls) _
        have hcall := (h.call hidle (hnext.unforced (.of_eq rfl rfl))).tally c
        rw [tally_completeInIdle] at hcall
        exact hcall
    exact hadded.turn (turn_sendAsync _ _ (.iqSent s.calls))
      (hadded.control.unforced (.of_calm (calm_sendAsync _ _ _)))

/-- `wocky_c2s_porter_force_close_async` is not called while it emits its own signal. -/
def NotNested (s : State) (e : Event) : Prop :=
  e.isForceCloseAsync = true → ∀ f ∈ s.stack, f.calls = []

instance (s : State) (e : Event) : Decidable (NotNested s e) :=
  inferInstanceAs (Decidable (_ → ∀ f ∈ s.stack, f.calls = []))

theorem Balanced.forceCloseAsync (h : Balanced s) (hok : ∀ f ∈ s.stack, f.calls = [])
    (cancellable : Bool) : Balanced (s.nextCall.forceCloseAsync s.calls cancellable) := by
  refine h.call (turn_forceCloseAsync s.calls cancellable) ?_
  have hnext : Control s.nextCall := h.control.unforced (.of_eq rfl rfl)
  unfold State.forceCloseAsync
  split
  · exact hnext.unforced (.of_eq rfl rfl)
  next hforce =>
    split
    · exact hnext.unforced (.of_eq rfl rfl)
    split
    · exact hnext.unforced (.of_eq rfl rfl)
    have hresult : s.forceCloseResult = none := Option.not_isSome_iff_eq_none.mp hforce
    have hnone : ∀ f ∈ s.stack, f.forced = false := by
      intro f hf
      cases f with
      | forceClosing c b => cases hok _ hf
      | forceTerminated c => cases (h.control.forceTerminated c hf).symm.trans hresult
      | _ => rfl
    split
    · exact .of_push hnone (fun _ _ _ => hresult) fun _ h => by cases h
    · exact (Control.of_push (s := s.nextCall) (f := .forceClosing s.calls cancellable) hnone
        (fun _ _ _ => hresult) fun _ h => by cases h).unforced (unforced_push rfl)

/-- What is taken out of a list at a place. -/
theorem count_flatMap_eraseIdx {α : Type*} (f : α → List Call) {l : List α} {k : ℕ} {a : α}
    (h : l[k]? = some a) : ((l.eraseIdx k).flatMap f).count c + (f a).count c =
      (l.flatMap f).count c := by
  obtain ⟨hk, rfl⟩ := List.getElem?_eq_some_iff.mp h
  have hperm := (List.getElem_cons_eraseIdx_perm hk).flatMap_right f
  rw [← hperm.count_eq, List.flatMap_cons, List.count_append, Nat.add_comm]

theorem tally_sendCancelledCb {k : ℕ} (h : s.sendCancelledCb k = some s') (c : Call) :
    s'.tally c = s.tally c := by
  unfold sendCancelledCb at h
  split at h
  · next elem hk =>
    split at h
    · cases h
      have htally := tally_queue (s := s.note (.dropped elem.serial)) (c := c)
        (s.sendingQueue.eraseIdx k)
      have hcount := count_flatMap_eraseIdx (c := c) (fun e : Elem => e.callback.calls) hk
      rw [tally_note] at htally
      change _ + (s.sendingQueue.flatMap _).count c = s.tally c + 0 + _ at htally
      rw [tally_completeInIdle, setQueue]
      omega
    · cases h
  · cases h

theorem turn_sendCancelledCb {k : ℕ} (h : s.sendCancelledCb k = some s') : Turn [] s s' := by
  refine .of_tally ?_ ?_ (tally_sendCancelledCb h)
  · unfold sendCancelledCb at h
    split at h
    · split at h <;> cases h
      rfl
    · cases h
  · unfold sendCancelledCb at h
    split at h
    · split at h <;> cases h
      rfl
    · cases h

theorem turn_sendIqCancelledCb {c : Call} (h : s.sendIqCancelledCb c = some s')
    (hnodup : s.DistinctCalls) : Turn [] s s' := by
  unfold sendIqCancelledCb at h
  split at h
  · next hd hfind =>
    have hmem : hd ∈ s.iqReplyHandlers := List.mem_of_find?_eq_some hfind
    obtain rfl : hd.call = c := by simpa using List.find?_some hfind
    split at h
    · split at h
      · next hpending =>
        cases h
        have hidle : Turn [] s ((s.setHandler { hd with pending := false, connected := false
            }).completeInIdle (.user hd.call) (some .cancelled)) := by
          refine ⟨rfl, (map_call_setHandler _).symm ▸ List.Sublist.refl _, fun c => ?_⟩
          have htally := tally_setHandler (c := c) { hd with pending := false, connected := false }
            hnodup hmem rfl
          have htaken : pendingCalls [hd] = [hd.call] := by simp [pendingCalls, hpending]
          rw [htaken] at htally
          rw [tally_completeInIdle]
          exact htally
        exact hidle.trans (turn_maybeRemove hd.call (nodup_setHandler hnodup _))
      · cases h
        exact turn_abort _
    · cases h
  · cases h

theorem turn_sendWhitespacePingAsync (c : Call) : Turn [c] s (s.sendWhitespacePingAsync c) := by
  have h : Turn [] s { s with sendingWhitespacePing := true } := .of_tally rfl rfl fun _ => rfl
  unfold sendWhitespacePingAsync
  split
  · exact turn_completeInIdle (.user c) _
  split
  · exact turn_completeInIdle (.user c) _
  · exact (h.trans (turn_write (.ping c))).trans (turn_emit .sending)

theorem turn_registerHandler (type : Wocky.StanzaType) (subType : Wocky.SubType) (sender : Sender)
    (priority : ℕ) (pattern : Option Wocky.Node) :
    Turn [] s (s.registerHandler g type subType sender priority pattern) := by
  unfold registerHandler
  split
  · exact .of_tally rfl rfl fun _ => rfl
  · exact .of_tally rfl rfl fun _ => rfl
  · split
    · exact .refl s
    · exact .of_tally rfl rfl fun _ => rfl

theorem unforced_registerHandler (type : Wocky.StanzaType) (subType : Wocky.SubType)
    (sender : Sender) (priority : ℕ) (pattern : Option Wocky.Node) :
    Unforced s (s.registerHandler g type subType sender priority pattern) := by
  unfold registerHandler
  split
  · exact .of_eq rfl rfl
  · exact .of_eq rfl rfl
  · split
    · exact .of_eq rfl rfl
    · exact .of_eq rfl rfl

theorem turn_start : Turn [] s s.start := by
  unfold start
  split
  · exact .refl s
  · exact .of_tally rfl rfl fun _ => rfl

theorem unforced_start : Unforced s s.start := by
  unfold start
  split
  · exact .of_eq rfl rfl
  · exact .of_eq rfl rfl

theorem turn_enablePowerSavingMode (enable : Bool) :
    Turn [] s (s.enablePowerSavingMode enable) := by
  unfold enablePowerSavingMode
  split
  · exact turn_push (.flush .disable)
  · exact .of_tally rfl rfl fun _ => rfl

theorem unforced_enablePowerSavingMode (enable : Bool) :
    Unforced s (s.enablePowerSavingMode enable) := by
  unfold enablePowerSavingMode
  split
  · exact unforced_push rfl
  · exact .of_eq rfl rfl

theorem Balanced.api (h : Balanced s) {e : Event} (hok : NotNested s e)
    (hstep : s.api g e = some s') : Balanced s' := by
  have hnext : Control s.nextCall := h.control.unforced (.of_eq rfl rfl)
  unfold State.api at hstep
  split at hstep
  · cases hstep
    exact h.turn turn_start (h.control.unforced unforced_start)
  · cases hstep
    exact h.call (turn_sendAsync _ _ (.user s.calls)) (hnext.unforced (.of_calm (calm_sendAsync ..)))
  · split at hstep <;> cases hstep
    exact h.sendIqAsync _ _ _
  · cases hstep
    exact h.call (turn_sendWhitespacePingAsync _)
      (hnext.unforced (.of_calm (calm_sendWhitespacePingAsync _)))
  · cases hstep
    exact h.call (turn_closeAsync _ _) (hnext.unforced (.of_calm (calm_closeAsync _ _)))
  · next cancellable =>
    cases hstep
    exact h.forceCloseAsync (hok rfl) cancellable
  · cases hstep
    exact h.turn (turn_registerHandler ..) (h.control.unforced (unforced_registerHandler ..))
  · cases hstep
    exact h.turn (.of_tally rfl rfl fun _ => rfl) (h.control.unforced (.of_eq rfl rfl))
  · cases hstep
    exact h.turn (turn_enablePowerSavingMode _)
      (h.control.unforced (unforced_enablePowerSavingMode _))
  · exact h.turn (turn_sendCancelledCb hstep)
      (h.control.unforced (.of_calm (calm_sendCancelledCb hstep)))
  · exact h.turn (turn_sendIqCancelledCb hstep h.nodup)
      (h.control.unforced (.of_calm (calm_sendIqCancelledCb hstep)))
  · split at hstep <;> cases hstep
    exact h.turn (turn_setCloseCancellable _) (h.control.unforced (.of_eq rfl rfl))
  · cases hstep

theorem turn_written (op : OutOp) (r : Option Error)
    (hnodup : s.DistinctCalls) : Turn op.calls s (s.written op r) := by
  cases op with
  | stanza n => exact turn_sendStanzaCb r hnodup
  | ping c => exact turn_sendWhitespacePingCb c r
  | close => exact turn_closeSentCb r

theorem unforced_complete (callback : Callback) (outcome : Outcome) :
    Unforced s (s.complete callback outcome) := by
  cases callback with
  | null => exact .of_eq rfl rfl
  | user c => exact (unforced_note _).trans (unforced_push rfl)
  | iqSent c => exact .of_calm (calm_iqSentCb c outcome)

/-- **One event of the main loop.** -/
theorem Balanced.mainLoop (h : Balanced s) (hrest : s.stack = []) {e : Event}
    (hstep : s.mainLoop g j e = some s') : Balanced s' := by
  have hnone : ∀ f ∈ s.stack, f.forced = false := by
    rw [hrest]
    exact List.forall_mem_nil _
  unfold State.mainLoop at hstep
  split at hstep
  · next r =>
    obtain ⟨op, hop, rfl⟩ := Option.map_eq_some_iff.mp hstep
    have htaken : Unforced s { s with output := none } := .of_eq rfl rfl
    refine (turn_written (s := { s with output := none }) op r h.nodup).balanced h.nodup h.old
      (h.control.unforced (htaken.trans (.of_calm (calm_written op r)))) fun c => ?_
    rw [← h.tally c]
    simp only [State.tally, held, completed, hop, Option.toList_none, Option.toList_some,
      List.flatMap_nil, List.flatMap_singleton, List.count_append, List.count_nil]
    omega
  · next k =>
    obtain ⟨op, hop, rfl⟩ := Option.map_eq_some_iff.mp hstep
    have htaken : Unforced s { s with refused := s.refused.eraseIdx k } := .of_eq rfl rfl
    refine (turn_written (s := { s with refused := s.refused.eraseIdx k }) op (some .pending)
      h.nodup).balanced h.nodup h.old
      (h.control.unforced (htaken.trans (.of_calm (calm_written op _)))) fun c => ?_
    have hcount := count_flatMap_eraseIdx (c := c) OutOp.calls hop
    rw [← h.tally c]
    simp only [State.tally, held, completed, List.count_append]
    omega
  · next r =>
    split at hstep
    · cases hstep
    · cases hstep
      have hreceived : Turn [] s { s with receives := s.receives - 1 } :=
        .of_tally rfl rfl fun _ => rfl
      have hunforced : Unforced s { s with receives := s.receives - 1 } := .of_eq rfl rfl
      exact h.turn (hreceived.trans (turn_stanzaReceivedCb r))
        (h.control.unforced (hunforced.trans (unforced_stanzaReceivedCb r)))
  · next r =>
    split at hstep
    · cases hstep
    · cases hstep
      have hforced : Turn [] s { s with forceCloses := s.forceCloses - 1 } :=
        .of_tally rfl rfl fun _ => rfl
      refine h.turn (hforced.trans (turn_connectionForceCloseCb r)) (.of_none ?_)
      unfold connectionForceCloseCb
      split
      · exact hnone
      · exact List.forall_mem_cons.mpr ⟨rfl, hnone⟩
  · next k =>
    obtain ⟨entry, hentry, rfl⟩ := Option.map_eq_some_iff.mp hstep
    have htaken : Unforced s { s with idle := s.idle.eraseIdx k } := .of_eq rfl rfl
    refine (turn_complete (s := { s with idle := s.idle.eraseIdx k }) entry.1 (.ofError entry.2)
      h.nodup).balanced h.nodup h.old
      (h.control.unforced (htaken.trans (unforced_complete entry.1 _))) fun c => ?_
    have hcount := count_flatMap_eraseIdx (c := c)
      (fun entry : Callback × Option Error => entry.1.calls) hentry
    rw [← h.tally c]
    simp only [State.tally, held, completed, List.count_append]
    omega
  · cases hstep

theorem stack_of_atRest (h : s.atRest = true) : s.stack = [] := List.isEmpty_iff.mp h

/-- Every step keeps the account. -/
theorem Balanced.step (h : Balanced s) {e : Event} (hok : NotNested s e)
    (hstep : State.step g j s e = some s') : Balanced s' := by
  unfold State.step at hstep
  split at hstep
  · cases hstep
  split at hstep
  · exact h.goOn hstep
  · exact h.returnFrom hstep
  · split at hstep
    · next hapi =>
      split at hapi
      · cases hstep
        exact h.api hok hapi
      · cases hapi
    · split at hstep
      · next hatrest => exact h.mainLoop (stack_of_atRest hatrest) hstep
      · cases hstep

theorem balanced_new : Balanced State.new where
  nodup := List.nodup_nil
  old := List.forall_mem_nil _
  control := .of_none (List.forall_mem_nil _)
  tally c := by simp [State.tally, held, completed, State.new, registerHandlerInternal, pendingCalls]

/-- **The callbacks of the porter.**  Over every run in which `wocky_c2s_porter_force_close_async`
is not called again by a handler of its own "closing" signal, and however the users' callbacks,
stanza handlers and signal handlers call the porter again: every call made with a callback is held
in exactly one place that will answer it, or its callback has been called exactly once. -/
theorem held_append_completed_perm (es : List Event)
    (hadm : Transition.Admits NotNested (State.step g j) State.new es)
    (hrun : Transition.run (State.step g j) State.new es = some s) :
    (s.held ++ s.completed).Perm (List.range s.calls) := by
  have hbalanced : Balanced s :=
    (Transition.reachable_of_run es hadm hrun).invariant balanced_new
      fun _ _ _ h hok hstep => h.step hok hstep
  refine List.perm_iff_count.mpr fun c => ?_
  rw [List.count_append, ← State.tally, hbalanced.tally]
  by_cases hc : c < s.calls
  · rw [if_pos hc, List.count_eq_one_of_mem List.nodup_range (List.mem_range.mpr hc)]
  · rw [if_neg hc, List.count_eq_zero_of_not_mem fun hmem => hc (List.mem_range.mp hmem)]

/-- Two stanzas are sent, and the porter is closed by force before they are written; the callback
of the first one tries to send a ping. -/
def forcedRun (stanza : Wocky.Stanza) : List Event :=
  [.start, .sendAsync stanza false, .ret false, .sendAsync stanza true, .forceCloseAsync false,
    .ret false, .tau, .tau, .sendWhitespacePingAsync, .ret false, .tau, .ret false, .tau, .tau,
    .received (.error .cancelled), .forceClosed none, .ret false]

/-- The state that this comes to. -/
def forced (stanza : Wocky.Stanza) : State :=
  (Transition.run (State.step Addressing.asciiGLib ⟨[], [], []⟩) State.new
    (forcedRun stanza)).getD State.new

theorem held_append_completed_perm_forced :
    ((forced (.mk [] none none none [] [])).held ++ (forced (.mk [] none none none [] [])).completed).Perm
      (List.range 4) :=
  held_append_completed_perm (g := Addressing.asciiGLib) (j := ⟨[], [], []⟩)
    (forcedRun (.mk [] none none none [] [])) (by decide +kernel) rfl

end State

end Porter
