/-
# Messages that wait for the local application

Until the application connects to its socket, a D-Bus tube keeps the messages it receives
in a queue, and counts their bytes so that the queue does not grow beyond
`MAX_QUEUE_SIZE`.  The listening socket's callback drains the queue into the new
connection.  This module says, for a tube of either type and over all its runs, what is
in the queue, what has been delivered, and which messages are dropped.
-/
import Mathlib.Algebra.GroupWithZero.Nat
import Gabble.TubeDbusSenders

namespace TubeDbus

open Base64 (Bytes)
open CText (ascii)
open Transition

variable {sha1 : Bytes → Bytes} {inspect : ℕ → Bytes} {demarshal : Bytes → Option DBusMessage}
variable {start tube tube' : MucTube} {selfHandle : ℕ}

/-! ## Messages and their sizes -/

/-- A tube as it is made: nobody is connected, and nothing was received. -/
structure MucTube.New (tube : MucTube) : Prop where
  dbusConn : tube.dbusConn = false
  dbusMsgQueue : tube.dbusMsgQueue = []
  dbusMsgQueueSize : tube.dbusMsgQueueSize = 0
  sent : tube.sent = []

/-- In a room a message has to be for us, under the name its sender has announced. -/
def accepts (sender : ℕ) (msg : DBusMessage) (tube : MucTube) : Bool :=
  tube.targetHandleType ≠ .room || admitted sender msg tube

/-- The D-Bus messages that an event brings, each with the number of its bytes. -/
def received (demarshal : Bytes → Option DBusMessage) : MucEvent → List (DBusMessage × ℕ)
  | .messageReceived _ data => (demarshal data).toList.map fun msg => (msg, data.length)
  | _ => []

/-- Those of them that are kept: they are accepted, and there is room or a connection. -/
def keeps (demarshal : Bytes → Option DBusMessage) (tube : MucTube) :
    MucEvent → List (DBusMessage × ℕ)
  | .messageReceived sender data =>
    ((demarshal data).toList.filter fun msg => accepts sender msg tube && fits data tube).map
      fun msg => (msg, data.length)
  | _ => []

theorem keeps_sublist (tube : MucTube) (e : MucEvent) :
    (keeps demarshal tube e).Sublist (received demarshal e) := by
  cases e with
  | messageReceived sender data => exact List.filter_sublist.map _
  | _ => exact List.Sublist.refl _

theorem new_constructed (h : constructed sha1 inspect selfHandle = some start) : start.New := by
  obtain ⟨-, hconn, hsent, hqueue, hsize⟩ := constructed_spec h
  exact ⟨hconn, hqueue, hsize, hsent⟩

theorem mucMessageReceived_eq {sender : ℕ} {data : Bytes} {msg : DBusMessage}
    (h : demarshal data = some msg) : mucMessageReceived demarshal sender data tube =
      if accepts sender msg tube then deliver data msg tube else tube := by
  rw [mucMessageReceived, h]
  dsimp only
  by_cases hroom : tube.targetHandleType = .room
  · rw [if_pos hroom]
    simp [accepts, hroom]
  · rw [if_neg hroom]
    simp [accepts, hroom]

/-! ## The count of bytes -/

/-- What was delivered and what waits, with the sizes.  The queue's own size is the sum of the
sizes of what waits, and nothing waits beside a connection. -/
structure Holds (delivered waiting : List (DBusMessage × ℕ)) (tube : MucTube) : Prop where
  sent : tube.sent = delivered.map Prod.fst
  queue : tube.dbusMsgQueue = waiting.map Prod.fst
  size : tube.dbusMsgQueueSize = (waiting.map Prod.snd).sum
  bounded : tube.dbusMsgQueueSize ≤ maxQueueSize
  flushed : tube.dbusConn = true → waiting = []

/-- The messages kept so far have been delivered, or else they wait. -/
def Accounted (kept : List (DBusMessage × ℕ)) (tube : MucTube) : Prop :=
  ∃ delivered waiting, kept = delivered ++ waiting ∧ Holds delivered waiting tube

theorem MucTube.New.accounted (h : tube.New) : Accounted [] tube := by
  refine ⟨[], [], rfl, h.sent, h.dbusMsgQueue, h.dbusMsgQueueSize, ?_, fun _ => rfl⟩
  rw [h.dbusMsgQueueSize]
  exact Nat.zero_le _

theorem SameQueue.accounted {kept : List (DBusMessage × ℕ)} (hsame : SameQueue tube tube')
    (h : Accounted kept tube) : Accounted kept tube' := by
  obtain ⟨hconn, hqueue, hsize, hsent⟩ := hsame
  obtain ⟨delivered, waiting, hkept, h⟩ := h
  exact ⟨delivered, waiting, hkept, hsent.trans h.sent, hqueue.trans h.queue, hsize.trans h.size,
    hsize.le.trans h.bounded, fun hopen => h.flushed (hconn.symm.trans hopen)⟩

/-- A message that is not dropped goes to the connection, or to the end of the queue. -/
theorem Accounted.deliver {kept : List (DBusMessage × ℕ)} (h : Accounted kept tube) (data : Bytes)
    (msg : DBusMessage) :
    Accounted (kept ++ if fits data tube then [(msg, data.length)] else [])
      (deliver data msg tube) := by
  obtain ⟨delivered, waiting, rfl, h⟩ := h
  rw [TubeDbus.deliver, fits]
  by_cases hconn : tube.dbusConn = true
  · -- the connection takes the message, and the queue is empty
    have hempty : waiting = [] := h.flushed hconn
    rw [if_neg (not_not.mpr hconn), hconn, Bool.true_or, if_pos rfl, hempty, List.append_nil]
    subst hempty
    refine ⟨delivered ++ [(msg, data.length)], [], (List.append_nil _).symm, ?_, h.queue, h.size,
      h.bounded, fun _ => rfl⟩
    show tube.sent ++ [msg] = _
    rw [h.sent, List.map_append]
    rfl
  · rw [if_pos hconn, eq_false_of_ne_true hconn, Bool.false_or]
    by_cases hfull : tube.dbusMsgQueueSize + data.length > maxQueueSize
    · rw [if_pos hfull, if_neg (by simpa using hfull), List.append_nil]
      exact ⟨delivered, waiting, rfl, h⟩
    · rw [if_neg hfull, if_pos (by simpa using hfull), List.append_assoc]
      refine ⟨delivered, waiting ++ [(msg, data.length)], rfl, h.sent, ?_, ?_, not_lt.mp hfull,
        by rintro ⟨⟩⟩
      · show tube.dbusMsgQueue ++ [msg] = _
        rw [h.queue, List.map_append]
        rfl
      · show tube.dbusMsgQueueSize + data.length = _
        rw [h.size, List.map_append, List.sum_append]
        rfl

/-- Draining the queue moves all that waits, and sets the count back. -/
theorem Holds.newConnection {delivered waiting : List (DBusMessage × ℕ)}
    (h : Holds delivered waiting tube) :
    Holds (delivered ++ waiting) [] (newConnection tube) := by
  rw [TubeDbus.newConnection]
  by_cases hconn : tube.dbusConn = true
  · have hempty : waiting = [] := h.flushed hconn
    rw [if_pos hconn, hempty, List.append_nil]
    rwa [hempty] at h
  · rw [if_neg hconn]
    refine ⟨?_, rfl, rfl, Nat.zero_le _, fun _ => rfl⟩
    show tube.sent ++ tube.dbusMsgQueue = _
    rw [h.sent, h.queue, List.map_append]

/-- **One event** keeps the account, with what it keeps of what it brings. -/
theorem accounted_step {kept : List (DBusMessage × ℕ)} {e : MucEvent} (h : Accounted kept tube)
    (hstep : mucStep sha1 inspect demarshal tube e = some tube') :
    Accounted (kept ++ keeps demarshal tube e) tube' := by
  cases e with
  | addName handle name =>
    rw [mucStep] at hstep
    obtain ⟨-, hstep⟩ := Option.ite_none_right_eq_some.mp hstep
    cases hstep
    show Accounted (kept ++ []) _
    rw [List.append_nil]
    exact (sameQueue_addName handle name tube).accounted h
  | removeName handle =>
    cases hstep
    show Accounted (kept ++ []) _
    rw [List.append_nil]
    exact (sameQueue_removeName handle tube).accounted h
  | messageReceived sender data =>
    cases hstep
    rcases hdemarshal : demarshal data with _ | msg
    · rw [mucMessageReceived, keeps, hdemarshal]
      exact (List.append_nil kept).symm ▸ h
    rw [mucMessageReceived_eq hdemarshal, keeps, hdemarshal, Option.toList_some,
      List.filter_singleton]
    by_cases haccepts : accepts sender msg tube = true
    · rw [if_pos haccepts, haccepts, Bool.true_and]
      have hdelivered := h.deliver data msg
      cases hfits : fits data tube <;> rw [hfits] at hdelivered <;> exact hdelivered
    · rw [if_neg haccepts, eq_false_of_ne_true haccepts, Bool.false_and]
      exact (List.append_nil kept).symm ▸ h
  | newConnection =>
    cases hstep
    show Accounted (kept ++ []) _
    rw [List.append_nil]
    obtain ⟨delivered, waiting, rfl, h⟩ := h
    exact ⟨delivered ++ waiting, [], (List.append_nil _).symm, h.newConnection⟩
  | disconnected =>
    rw [mucStep] at hstep
    obtain ⟨hconn, hstep⟩ := Option.ite_none_right_eq_some.mp hstep
    cases hstep
    show Accounted (kept ++ []) _
    rw [List.append_nil]
    obtain ⟨delivered, waiting, rfl, h⟩ := h
    exact ⟨delivered, waiting, rfl, h.sent, h.queue, h.size, h.bounded,
      by rintro ⟨⟩⟩

/-! ## Runs -/

/-- Everything that was received in a run, in the order it came. -/
def allReceived (demarshal : Bytes → Option DBusMessage) (es : List MucEvent) :
    List (DBusMessage × ℕ) :=
  es.flatMap (received demarshal)

/-- What a run keeps. -/
def allKept (sha1 : Bytes → Bytes) (inspect : ℕ → Bytes) (demarshal : Bytes → Option DBusMessage)
    (start : MucTube) (es : List MucEvent) : List (DBusMessage × ℕ) :=
  collect (mucStep sha1 inspect demarshal) (keeps demarshal) start es

theorem accounted_of_run (hnew : start.New) (es : List MucEvent)
    (hrun : run (mucStep sha1 inspect demarshal) start es = some tube) :
    Accounted (allKept sha1 inspect demarshal start es) tube :=
  run_collect_invariant (fun _ _ _ _ h _ hstep => accounted_step h hstep) es hnew.accounted
    (admits_anyEvent es) hrun

theorem allKept_sublist (es : List MucEvent)
    (hrun : run (mucStep sha1 inspect demarshal) start es = some tube) :
    (allKept sha1 inspect demarshal start es).Sublist (allReceived demarshal es) := by
  rw [allReceived, ← collect_of_run (received demarshal) es hrun]
  exact collect_sublist keeps_sublist es

/-- Until somebody connects, nothing is sent. -/
theorem unconnected_step {e : MucEvent} (h : tube.dbusConn = false ∧ tube.sent = [])
    (hbefore : e ≠ .newConnection) (hstep : mucStep sha1 inspect demarshal tube e = some tube') :
    tube'.dbusConn = false ∧ tube'.sent = [] := by
  obtain ⟨hconn, hsent⟩ := h
  cases e with
  | addName handle name =>
    rw [mucStep] at hstep
    obtain ⟨-, hstep⟩ := Option.ite_none_right_eq_some.mp hstep
    cases hstep
    have hsame := @sameQueue_addName sha1 inspect handle name tube
    exact ⟨hsame.dbusConn.trans hconn, hsame.sent.trans hsent⟩
  | removeName handle =>
    cases hstep
    have hsame := sameQueue_removeName handle tube
    exact ⟨hsame.dbusConn.trans hconn, hsame.sent.trans hsent⟩
  | messageReceived sender data =>
    cases hstep
    rcases hdemarshal : demarshal data with _ | msg
    · rw [mucMessageReceived, hdemarshal]
      exact ⟨hconn, hsent⟩
    rw [mucMessageReceived_eq hdemarshal, deliver, hconn, if_pos Bool.false_ne_true]
    split
    · split
      · exact ⟨hconn, hsent⟩
      · exact ⟨rfl, hsent⟩
    · exact ⟨hconn, hsent⟩
  | newConnection => exact absurd rfl hbefore
  | disconnected =>
    rw [mucStep, hconn] at hstep
    cases hstep

theorem unconnected_of_run (hnew : start.New) (es : List MucEvent)
    (hbefore : MucEvent.newConnection ∉ es)
    (hrun : run (mucStep sha1 inspect demarshal) start es = some tube) :
    tube.dbusConn = false ∧ tube.sent = [] := by
  have hadmits : Admits (fun _ e => e ≠ MucEvent.newConnection) (mucStep sha1 inspect demarshal)
      start es := by
    rw [admits_iff_forall_split]
    rintro es₁ e es₂ - rfl - rfl
    exact hbefore (List.mem_append_right es₁ List.mem_cons_self)
  exact (reachable_of_run es hadmits hrun).invariant
    (I := fun tube => tube.dbusConn = false ∧ tube.sent = []) ⟨hnew.dbusConn, hnew.sent⟩
    fun _ _ _ h hok hstep => unconnected_step h hok hstep

/-- A message for which there is room comes right behind those that were kept before it. -/
theorem kept_of_fits {es₁ es₂ : List MucEvent} {sender : ℕ} {data : Bytes} {msg : DBusMessage}
    {tube₁ : MucTube} (hnew : start.New)
    (hrun : run (mucStep sha1 inspect demarshal) start
      (es₁ ++ MucEvent.messageReceived sender data :: es₂) = some tube)
    (hrun₁ : run (mucStep sha1 inspect demarshal) start es₁ = some tube₁)
    (hdemarshal : demarshal data = some msg) (haccepts : accepts sender msg tube₁ = true)
    (hfits : fits data tube₁ = true) : tube₁.passed ++ [msg] <+: tube.passed := by
  have hpassed : ∀ {kept : List (DBusMessage × ℕ)} {tube : MucTube}, Accounted kept tube →
      tube.passed = kept.map Prod.fst := by
    rintro kept tube ⟨delivered, waiting, rfl, h⟩
    rw [MucTube.passed, h.sent, h.queue, List.map_append]
  have hkeeps : keeps demarshal tube₁ (.messageReceived sender data) = [(msg, data.length)] := by
    rw [keeps, hdemarshal, Option.toList_some, List.filter_singleton, haccepts, hfits]
    rfl
  rw [hpassed (accounted_of_run hnew _ hrun), hpassed (accounted_of_run hnew _ hrun₁), allKept,
    allKept, collect_append _ hrun₁, collect, hkeeps, List.map_append, List.map_append,
    ← List.append_assoc]
  exact List.prefix_append _ _

/-- **The queue of a tube.**  In every run of a new tube, the messages that were delivered and
those that wait are some of the messages received, in the order they came, and the recorded
size is the sum of the sizes of those that wait.  Before there is a connection nothing is
delivered; a connection is given all that waits; and a message that is accepted before is
dropped only when the queue would exceed its limit. -/
theorem queue_of_run (hnew : start.New) (es : List MucEvent)
    (hrun : run (mucStep sha1 inspect demarshal) start es = some tube) :
    ∃ delivered waiting : List (DBusMessage × ℕ),
      (delivered ++ waiting).Sublist (allReceived demarshal es) ∧
      tube.sent = delivered.map Prod.fst ∧ tube.dbusMsgQueue = waiting.map Prod.fst ∧
      tube.dbusMsgQueueSize = (waiting.map Prod.snd).sum ∧
      (MucEvent.newConnection ∉ es → delivered = []) ∧
      (newConnection tube).sent = (delivered ++ waiting).map Prod.fst ∧
      (newConnection tube).dbusMsgQueue = [] ∧ (newConnection tube).dbusMsgQueueSize = 0 ∧
      ∀ es₁ sender data es₂ tube₁ msg, es = es₁ ++ .messageReceived sender data :: es₂ →
        run (mucStep sha1 inspect demarshal) start es₁ = some tube₁ →
        demarshal data = some msg → accepts sender msg tube₁ = true →
        tube₁.dbusMsgQueueSize + data.length ≤ maxQueueSize →
        tube₁.passed ++ [msg] <+: (delivered ++ waiting).map Prod.fst := by
  obtain ⟨delivered, waiting, hkept, h⟩ := accounted_of_run hnew es hrun
  have hdrained := h.newConnection
  refine ⟨delivered, waiting, hkept ▸ allKept_sublist es hrun, h.sent, h.queue, h.size, ?_,
    hdrained.sent, hdrained.queue, hdrained.size, ?_⟩
  · intro hbefore
    have hnone := (unconnected_of_run hnew es hbefore hrun).2
    rw [h.sent] at hnone
    exact List.map_eq_nil_iff.mp hnone
  · rintro es₁ sender data es₂ tube₁ msg rfl hrun₁ hdemarshal haccepts hroom
    have hfits : fits data tube₁ = true := by
      rw [fits, decide_eq_true hroom, Bool.or_true]
    have hprefix := kept_of_fits hnew hrun hrun₁ hdemarshal haccepts hfits
    rwa [MucTube.passed.eq_def tube, h.sent, h.queue, ← List.map_append] at hprefix

/-- Two messages wait, and one is for a name that was not announced. -/
theorem queue_of_run_sampleQueue :
    ∃ start tube, constructed sampleSha1 sampleRoom 1 = some start ∧
      run (mucStep sampleSha1 sampleRoom sampleDemarshal) start
        [.messageReceived 2 sampleSignal, .addName 2 (ascii ":1.5"),
          .messageReceived 3 sampleSignedSignal, .messageReceived 2 sampleSignedSignal] =
        some tube ∧
      tube.dbusMsgQueueSize = 144 ∧
      ∃ delivered waiting : List (DBusMessage × ℕ),
        tube.sent = delivered.map Prod.fst ∧ tube.dbusMsgQueue = waiting.map Prod.fst ∧
        tube.dbusMsgQueueSize = (waiting.map Prod.snd).sum := by
  have hrun : ((constructed sampleSha1 sampleRoom 1).any fun start =>
      (run (mucStep sampleSha1 sampleRoom sampleDemarshal) start
        [.messageReceived 2 sampleSignal, .addName 2 (ascii ":1.5"),
          .messageReceived 3 sampleSignedSignal, .messageReceived 2 sampleSignedSignal]).any
        fun tube => decide (tube.dbusMsgQueueSize = 144)) = true := by decide +kernel
  obtain ⟨start, hstart, hrun⟩ := (Option.any_eq_true _ _).mp hrun
  obtain ⟨tube, htube, hsize⟩ := (Option.any_eq_true _ _).mp hrun
  obtain ⟨delivered, waiting, -, hsent, hqueue, hsum, -⟩ :=
    queue_of_run (new_constructed hstart) _ htube
  exact ⟨start, tube, hstart, htube, of_decide_eq_true hsize, delivered, waiting, hsent, hqueue,
    hsum⟩

/-- A message under a name that its sender has not announced is dropped by an empty queue. -/
theorem unannounced_dropped :
    ∃ start msg tube, constructed sampleSha1 sampleRoom 1 = some start ∧
      sampleDemarshal sampleSignedSignal = some msg ∧
      start.dbusMsgQueueSize + sampleSignedSignal.length ≤ maxQueueSize ∧
      run (mucStep sampleSha1 sampleRoom sampleDemarshal) start
        [.messageReceived 2 sampleSignedSignal, .newConnection] = some tube ∧
      tube.sent = [] ∧ tube.dbusMsgQueue = [] := by
  have hrun : ((constructed sampleSha1 sampleRoom 1).any fun start =>
      decide (start.dbusMsgQueueSize + sampleSignedSignal.length ≤ maxQueueSize) &&
      (run (mucStep sampleSha1 sampleRoom sampleDemarshal) start
        [.messageReceived 2 sampleSignedSignal, .newConnection]).any fun tube =>
          decide (tube.sent = [] ∧ tube.dbusMsgQueue = [])) = true := by decide +kernel
  obtain ⟨start, hstart, hrun⟩ := (Option.any_eq_true _ _).mp hrun
  obtain ⟨hroom, hrun⟩ := (Bool.and_eq_true _ _).mp hrun
  obtain ⟨tube, htube, hfacts⟩ := (Option.any_eq_true _ _).mp hrun
  obtain ⟨hsent, hqueue⟩ := of_decide_eq_true hfacts
  exact ⟨start, ⟨some (ascii ":1.5"), none, sampleSignedSignal⟩, tube, hstart,
    by decide +kernel, of_decide_eq_true hroom, htube, hsent, hqueue⟩

end TubeDbus
