/-
# What most of the porter leaves alone

Most functions of the porter have nothing to do with the stanzas that come in, nor with closing by
force.  They push frames and write history of a few kinds only, and leave the rest of the state as
it is; this is said once for each function, and the results about the rest of the porter use it.
-/
import Gabble.Porter

namespace Porter

/-- Frames that have nothing to do with incoming stanzas, nor with closing by force. -/
def Frame.calm : Frame → Bool
  | user (.handler _) => false
  | handleIqReply _ => false
  | dispatch _ _ => false
  | dispatched _ _ => false
  | flush _ => false
  | received => false
  | forceClosing _ _ => false
  | forceTerminated _ => false
  | _ => true

/-- History that has nothing to do with incoming stanzas. -/
def Action.calm : Action → Bool
  | called _ (.reply _) => false
  | called _ _ => true
  | queued _ => true
  | dropped _ => true
  | handed _ => true
  | sent _ => true
  | _ => false

/-- Handlers of IQs are taken away or lose their result; which IQ they are for stays. -/
def FewerHandlers (l l' : List IqHandler) : Prop :=
  ∀ h' ∈ l', ∃ h ∈ l, h'.call = h.call ∧ h'.id = h.id ∧ h'.recipient = h.recipient ∧
    (h'.pending = true → h.pending = true)

theorem FewerHandlers.refl (l : List IqHandler) : FewerHandlers l l := fun h hmem =>
  ⟨h, hmem, rfl, rfl, rfl, id⟩

theorem FewerHandlers.trans {l l' l'' : List IqHandler} (h : FewerHandlers l l')
    (h' : FewerHandlers l' l'') : FewerHandlers l l'' := by
  intro h₂ hmem₂
  obtain ⟨h₁, hmem₁, hcall₁, hid₁, hrecipient₁, hpending₁⟩ := h' h₂ hmem₂
  obtain ⟨h₀, hmem₀, hcall₀, hid₀, hrecipient₀, hpending₀⟩ := h h₁ hmem₁
  exact ⟨h₀, hmem₀, hcall₁.trans hcall₀, hid₁.trans hid₀, hrecipient₁.trans hrecipient₀,
    hpending₀ ∘ hpending₁⟩

/-- What a calm function does. -/
structure Calm (s s' : State) : Prop where
  stack : ∃ fs, s'.stack = fs ++ s.stack ∧ ∀ f ∈ fs, f.calm = true
  log : ∃ as, s'.log = s.log ++ as ∧ ∀ a ∈ as, a.calm = true
  iqReplyHandlers : FewerHandlers s.iqReplyHandlers s'.iqReplyHandlers
  handlers : s'.handlers = s.handlers
  nextHandlerId : s'.nextHandlerId = s.nextHandlerId
  powerSavingMode : s'.powerSavingMode = s.powerSavingMode
  unimportantQueue : s'.unimportantQueue = s.unimportantQueue
  forceCloseResult : s'.forceCloseResult = s.forceCloseResult
  forcedShutdown : s'.forcedShutdown = s.forcedShutdown
  forceCloses : s'.forceCloses = s.forceCloses
  dispatches : s'.dispatches = s.dispatches

variable {s s' s'' : State}

theorem Calm.trans (h : Calm s s') (h' : Calm s' s'') : Calm s s'' where
  stack := by
    obtain ⟨fs, hstack, hfs⟩ := h.stack
    obtain ⟨fs', hstack', hfs'⟩ := h'.stack
    refine ⟨fs' ++ fs, by rw [hstack', hstack, List.append_assoc], ?_⟩
    exact List.forall_mem_append.mpr ⟨hfs', hfs⟩
  log := by
    obtain ⟨as, hlog, has⟩ := h.log
    obtain ⟨as', hlog', has'⟩ := h'.log
    refine ⟨as ++ as', by rw [hlog', hlog, List.append_assoc], ?_⟩
    exact List.forall_mem_append.mpr ⟨has, has'⟩
  iqReplyHandlers := h.iqReplyHandlers.trans h'.iqReplyHandlers
  handlers := h'.handlers.trans h.handlers
  nextHandlerId := h'.nextHandlerId.trans h.nextHandlerId
  powerSavingMode := h'.powerSavingMode.trans h.powerSavingMode
  unimportantQueue := h'.unimportantQueue.trans h.unimportantQueue
  forceCloseResult := h'.forceCloseResult.trans h.forceCloseResult
  forcedShutdown := h'.forcedShutdown.trans h.forcedShutdown
  forceCloses := h'.forceCloses.trans h.forceCloses
  dispatches := h'.dispatches.trans h.dispatches

/-- Nothing is added to what calm frames have no part in. -/
theorem Calm.filterMap_stack {β : Type} (h : Calm s s') {f : Frame → Option β}
    (hf : ∀ frame, frame.calm = true → f frame = none) :
    s'.stack.filterMap f = s.stack.filterMap f := by
  obtain ⟨fs, hstack, hfs⟩ := h.stack
  rw [hstack, List.filterMap_append,
    List.filterMap_eq_nil_iff.mpr fun frame hmem => hf frame (hfs frame hmem), List.nil_append]

/-- What only other actions show has not grown. -/
theorem Calm.filterMap_log {β : Type} (h : Calm s s') {f : Action → Option β}
    (hf : ∀ a, a.calm = true → f a = none) : s'.log.filterMap f = s.log.filterMap f := by
  obtain ⟨as, hlog, has⟩ := h.log
  rw [hlog, List.filterMap_append,
    List.filterMap_eq_nil_iff.mpr fun a hmem => hf a (has a hmem), List.append_nil]

/-- The part of the state that no calm function changes. -/
def State.rest (s : State) : List StanzaHandler × ℕ × Bool × List Wocky.Stanza × Option Call ×
    Bool × ℕ × ℕ :=
  (s.handlers, s.nextHandlerId, s.powerSavingMode, s.unimportantQueue, s.forceCloseResult,
    s.forcedShutdown, s.forceCloses, s.dispatches)

/-- A function that writes no history and pushes no frame. -/
theorem Calm.of_eq (hstack : s'.stack = s.stack) (hlog : s'.log = s.log)
    (hiq : FewerHandlers s.iqReplyHandlers s'.iqReplyHandlers) (hrest : s'.rest = s.rest) :
    Calm s s' := by
  simp only [State.rest, Prod.mk.injEq] at hrest
  obtain ⟨h₁, h₂, h₃, h₄, h₅, h₆, h₇, h₈⟩ := hrest
  exact ⟨⟨[], hstack, List.forall_mem_nil _⟩, ⟨[], by rw [hlog, List.append_nil],
    List.forall_mem_nil _⟩, hiq, h₁, h₂, h₃, h₄, h₅, h₆, h₇, h₈⟩

theorem Calm.refl (s : State) : Calm s s := .of_eq rfl rfl (.refl _) rfl

namespace State

/-- A calm frame is pushed. -/
theorem calm_push {f : Frame} (hf : f.calm = true) : Calm s (s.push f) :=
  ⟨⟨[f], rfl, fun _ h => List.mem_singleton.mp h ▸ hf⟩, ⟨[], (List.append_nil _).symm,
    List.forall_mem_nil _⟩, .refl _, rfl, rfl, rfl, rfl, rfl, rfl, rfl, rfl⟩

/-- Calm history is written. -/
theorem calm_note {a : Action} (ha : a.calm = true) : Calm s (s.note a) :=
  ⟨⟨[], rfl, List.forall_mem_nil _⟩, ⟨[a], rfl, fun _ h => List.mem_singleton.mp h ▸ ha⟩,
    .refl _, rfl, rfl, rfl, rfl, rfl, rfl, rfl, rfl⟩

theorem calm_abort (f : Fault) : Calm s (s.abort f) := .of_eq rfl rfl (.refl _) rfl

theorem calm_emit (signal : Signal) : Calm s (s.emit signal) := calm_push rfl

/-- A callback is called without a stanza. -/
theorem calm_call (c : Call) {outcome : Outcome} (h : (Action.called c outcome).calm = true) :
    Calm s (s.call c outcome) := (calm_note h).trans (calm_push rfl)

theorem calm_completeInIdle (callback : Callback) (e : Option Error) :
    Calm s (s.completeInIdle callback e) := .of_eq rfl rfl (.refl _) rfl

theorem calm_setQueue (queue : List Elem) : Calm s (s.setQueue queue) :=
  .of_eq rfl rfl (.refl _) rfl

/-- Sending does not touch what was received. -/
theorem calm_enqueue (elem : Elem) : Calm s (s.enqueue elem) :=
  ⟨⟨[], rfl, List.forall_mem_nil _⟩, ⟨[_], rfl, fun _ h => List.mem_singleton.mp h ▸ rfl⟩,
    .refl _, rfl, rfl, rfl, rfl, rfl, rfl, rfl, rfl⟩

/-- A handler is changed, but not which IQ it is for. -/
theorem calm_setHandler {h : IqHandler} (h' : IqHandler) (hmem : h ∈ s.iqReplyHandlers)
    (hkey : (h'.call, h'.id, h'.recipient) = (h.call, h.id, h.recipient))
    (hpending : h'.pending = true → h.pending = true) : Calm s (s.setHandler h') := by
  simp only [Prod.mk.injEq] at hkey
  refine .of_eq rfl rfl (fun x hx => ?_) rfl
  obtain ⟨y, hy, rfl⟩ := List.mem_map.mp hx
  by_cases hcall : y.call = h'.call
  · rw [if_pos hcall]
    exact ⟨h, hmem, hkey.1, hkey.2.1, hkey.2.2, hpending⟩
  · rw [if_neg hcall]
    exact ⟨y, hy, rfl, rfl, rfl, id⟩

theorem calm_write (op : OutOp) : Calm s (s.write op) := by
  unfold write
  split
  · next n _ =>
    have h : Calm s { s with output := some (.stanza n) } := .of_eq rfl rfl (.refl _) rfl
    exact h.trans (calm_note rfl)
  · exact .of_eq rfl rfl (.refl _) rfl
  · exact .of_eq rfl rfl (.refl _) rfl

theorem calm_sendHeadStanza : Calm s s.sendHeadStanza := by
  unfold sendHeadStanza
  split
  · exact .refl s
  · exact ((calm_setQueue _).trans (calm_write _)).trans (calm_emit _)

theorem calm_sendClose : Calm s s.sendClose := by
  have h : Calm s { s with waitingToClose := false } := .of_eq rfl rfl (.refl _) rfl
  exact h.trans (calm_write .close)

theorem calm_closeIfWaiting : Calm s s.closeIfWaiting := by
  unfold closeIfWaiting
  split
  · exact calm_sendClose
  · exact .refl s

theorem calm_sendNext : Calm s s.sendNext := by
  unfold sendNext
  split
  · exact calm_push rfl
  · exact (calm_push rfl).trans calm_sendHeadStanza

theorem calm_sendAsync (stanza : Wocky.Stanza) (cancellable : Bool) (callback : Callback) :
    Calm s (s.sendAsync stanza cancellable callback) := by
  unfold sendAsync
  split
  · exact calm_completeInIdle _ _
  · split
    · exact (calm_enqueue _).trans calm_sendHeadStanza
    · exact calm_enqueue _

theorem calm_maybeRemove (c : Call) : Calm s (s.maybeRemove c) := by
  unfold maybeRemove
  split
  · exact calm_abort _
  · split
    · exact .of_eq rfl rfl (fun h hmem => ⟨h, List.mem_of_mem_filter hmem, rfl, rfl, rfl, id⟩) rfl
    · exact .refl s

theorem calm_iqSentCb (c : Call) (outcome : Outcome) : Calm s (s.iqSentCb c outcome) := by
  unfold iqSentCb
  split
  · exact calm_abort _
  · next h hfind =>
    have hmem : h ∈ s.iqReplyHandlers := List.mem_of_find?_eq_some hfind
    have hdone : Calm s ((s.setHandler { h with sent := true }).maybeRemove c) :=
      (calm_setHandler { h with sent := true } hmem rfl id).trans (calm_maybeRemove c)
    split
    · split
      · exact ((calm_setHandler { h with sent := true, pending := false, connected := false } hmem
          rfl (by rintro ⟨⟩)).trans (calm_push rfl)).trans (calm_call c rfl)
      · exact hdone
    · exact hdone

/-- A completion, in whichever way the sending ended. -/
theorem calm_complete (callback : Callback) {outcome : Outcome}
    (h : ∀ c, (Action.called c outcome).calm = true) : Calm s (s.complete callback outcome) := by
  cases callback with
  | null => exact .refl s
  | user c => exact calm_call c (h c)
  | iqSent c => exact calm_iqSentCb c outcome

/-- Every operation in the queue fails. -/
theorem calm_terminateSendingOperations (e : Error) : Calm s (s.terminateSendingOperations e) := by
  unfold terminateSendingOperations
  split
  · exact .refl s
  · exact (((calm_note rfl).trans (calm_setQueue _)).trans (calm_push rfl)).trans
      (calm_complete _ fun _ => rfl)

theorem calm_sendStanzaCb (r : Option Error) : Calm s (s.sendStanzaCb r) := by
  unfold sendStanzaCb
  split
  · exact (calm_push rfl).trans (calm_push rfl)
  · split
    · exact .refl s
    · exact (((calm_note rfl).trans (calm_setQueue _)).trans (calm_push rfl)).trans
        (calm_complete _ fun _ => rfl)

/-- A cancelled operation leaves the queue. -/
theorem calm_sendCancelledCb {k : ℕ} (h : s.sendCancelledCb k = some s') : Calm s s' := by
  unfold sendCancelledCb at h
  split at h
  · split at h
    · cases h
      exact ((calm_note rfl).trans (calm_setQueue _)).trans (calm_completeInIdle _ _)
    · cases h
  · cases h

theorem calm_sendWhitespacePingCb (c : Call) (r : Option Error) :
    Calm s (s.sendWhitespacePingCb c r) := by
  have h : Calm s { s with sendingWhitespacePing := false } := .of_eq rfl rfl (.refl _) rfl
  cases r with
  | none => exact (h.trans (calm_push rfl)).trans (calm_call c rfl)
  | some e => exact ((h.trans (calm_push rfl)).trans (calm_push rfl)).trans (calm_call c rfl)

/-- Every request that waits for a reply fails. -/
theorem calm_abortPendingIqs (e : Error) : Calm s (s.abortPendingIqs e) := by
  refine .of_eq rfl rfl (fun h' hmem' => ?_) rfl
  obtain ⟨h, hmem, rfl⟩ := List.mem_map.mp hmem'
  refine ⟨h, List.mem_of_mem_filter hmem, ?_⟩
  cases hp : h.pending
  · simp [hp]
  · simp

theorem calm_completeClose (r : Option Error) : Calm s (s.completeClose r) := by
  unfold completeClose
  split
  · exact calm_abort _
  · next c _ =>
    have h : Calm s (((s.setCloseCancellable none).setForceCloseCancellable false).setCloseResult
      none) := .of_eq rfl rfl (.refl _) rfl
    refine h.trans (calm_call c ?_)
    split
    · rfl
    · cases r <;> rfl

/-- The connection is lost. -/
theorem calm_remoteConnectionClosed (e : Error) : Calm s (s.remoteConnectionClosed e) := by
  have h : Calm (s.abortPendingIqs e) (s.abortPendingIqs e).setRemoteClosed :=
    .of_eq rfl rfl (.refl _) rfl
  exact (((calm_abortPendingIqs e).trans h).trans (calm_push rfl)).trans (calm_emit _)

theorem calm_remoteClosedRest (e : Error) : Calm s (s.remoteClosedRest e) := by
  unfold remoteClosedRest
  split
  · exact (calm_push rfl).trans (calm_completeClose _)
  · exact calm_push rfl

theorem calm_closeSentCb (r : Option Error) : Calm s (s.closeSentCb r) := by
  have h : Calm s s.setLocalClosed := .of_eq rfl rfl (.refl _) rfl
  unfold closeSentCb
  split
  · exact h
  · split
    · exact h.trans (calm_completeClose r)
    · exact h

/-- A close first sends what is left. -/
theorem calm_closeAsync (c : Call) (cancellable : Bool) : Calm s (s.closeAsync c cancellable) := by
  have h : Calm s (s.setCloseResult (some c)) := .of_eq rfl rfl (.refl _) rfl
  have h' : Calm (s.setCloseResult (some c)) ((s.setCloseResult (some c)).setCloseCancellable
    (if cancellable then some false else none)) := .of_eq rfl rfl (.refl _) rfl
  unfold closeAsync
  split
  · exact calm_completeInIdle _ _
  split
  · exact calm_completeInIdle _ _
  split
  · exact calm_completeInIdle _ _
  split
  · exact calm_completeInIdle _ _
  split
  · exact h.trans (calm_abort _)
  · exact ((h.trans h').trans (calm_push rfl)).trans (calm_emit _)

theorem calm_closeAsyncRest : Calm s s.closeAsyncRest := by
  unfold closeAsyncRest
  split
  · exact .of_eq rfl rfl (.refl _) rfl
  · exact calm_sendClose

/-- A cancelled request waits no more. -/
theorem calm_sendIqCancelledCb {c : Call} (h : s.sendIqCancelledCb c = some s') : Calm s s' := by
  unfold sendIqCancelledCb at h
  split at h
  · next hd hfind =>
    have hmem : hd ∈ s.iqReplyHandlers := List.mem_of_find?_eq_some hfind
    split at h
    · split at h
      · cases h
        exact ((calm_setHandler { hd with pending := false, connected := false } hmem rfl
          (by rintro ⟨⟩)).trans (calm_completeInIdle _ _)).trans (calm_maybeRemove c)
      · cases h
        exact calm_abort _
    · cases h
  · cases h

/-- Closing by force pushes a frame of its own, between calm steps. -/
theorem calm_forceCloseAsync (c : Call) (cancellable : Bool) :
    Calm s (s.forceCloseAsync c cancellable) ∨ ∃ s₁, Calm s s₁ ∧
      Calm (s₁.push (.forceClosing c cancellable)) (s.forceCloseAsync c cancellable) := by
  unfold forceCloseAsync
  split
  · exact .inl (calm_completeInIdle _ _)
  split
  · exact .inl (calm_completeInIdle _ _)
  split
  · exact .inl (calm_completeInIdle _ _)
  split
  · have hset : Calm s (s.setCloseResult none) := .of_eq rfl rfl (.refl _) rfl
    exact .inr ⟨_, hset.trans (calm_completeInIdle _ _), .refl _⟩
  · exact .inr ⟨s, .refl s, calm_emit _⟩

theorem calm_sendWhitespacePingAsync (c : Call) : Calm s (s.sendWhitespacePingAsync c) := by
  have h : Calm s { s with sendingWhitespacePing := true } := .of_eq rfl rfl (.refl _) rfl
  unfold sendWhitespacePingAsync
  split
  · exact calm_completeInIdle _ _
  split
  · exact calm_completeInIdle _ _
  · exact (h.trans (calm_write _)).trans (calm_emit _)

/-- The connection reports what became of a write. -/
theorem calm_written (op : OutOp) (r : Option Error) : Calm s (s.written op r) := by
  cases op with
  | stanza n => exact calm_sendStanzaCb r
  | ping c => exact calm_sendWhitespacePingCb c r
  | close => exact calm_closeSentCb r

end State

end Porter
