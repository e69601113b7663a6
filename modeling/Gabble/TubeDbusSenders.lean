/-
# Who may send to a tube in a room

A message from a room member is passed on when its sender field is the name that
the member has announced.  Both may be missing, and two missing strings are
equal to `tp_strdiff`; this module says which messages get through.
-/
import Gabble.TubeDbusNames
import Mathlib.Data.List.Induction

namespace TubeDbus

open Base64 (Bytes)
open CText (ascii)
open InverseTables Transition

variable {sha1 : Bytes → Bytes} {inspect : ℕ → Bytes} {demarshal : Bytes → Option DBusMessage}
variable {start tube tube' : MucTube} {handle selfHandle : ℕ} {name : Bytes}

/-! ## What is announced -/

/-- In a run from `start` the member has announced the name, the tube has
accepted it, and it has not been withdrawn. -/
def Announced (sha1 : Bytes → Bytes) (inspect : ℕ → Bytes)
    (demarshal : Bytes → Option DBusMessage) (start : MucTube) (es : List MucEvent) (handle : ℕ)
    (name : Bytes) : Prop :=
  ∃ es₁ es₂ tube, es = es₁ ++ .addName handle name :: es₂ ∧
    run (mucStep sha1 inspect demarshal) start es₁ = some tube ∧
    (addName sha1 inspect handle name tube).1 = true ∧ .removeName handle ∉ es₂

theorem announced_snoc {es : List MucEvent} {e : MucEvent}
    (hrun : run (mucStep sha1 inspect demarshal) start es = some tube) :
    Announced sha1 inspect demarshal start (es ++ [e]) handle name ↔
      (e = .addName handle name ∧ (addName sha1 inspect handle name tube).1 = true) ∨
        (Announced sha1 inspect demarshal start es handle name ∧ e ≠ .removeName handle) := by
  constructor
  · rintro ⟨es₁, es₂, tube₁, hsplit, hrun₁, hadded, hkept⟩
    rcases List.eq_nil_or_concat es₂ with rfl | ⟨es₂, e', rfl⟩
    · obtain ⟨rfl, hlast⟩ := List.append_inj' hsplit rfl
      rw [hrun] at hrun₁
      cases hrun₁
      exact .inl ⟨List.singleton_inj.mp hlast, hadded⟩
    · rw [List.concat_eq_append, ← List.cons_append, ← List.append_assoc] at hsplit
      rw [List.concat_eq_append] at hkept
      obtain ⟨rfl, hlast⟩ := List.append_inj' hsplit rfl
      rw [List.mem_append, not_or] at hkept
      refine .inr ⟨⟨es₁, es₂, tube₁, rfl, hrun₁, hadded, hkept.1⟩, ?_⟩
      rintro rfl
      exact hkept.2 (List.mem_singleton.mpr (List.singleton_inj.mp hlast))
  · rintro (⟨rfl, hadded⟩ | ⟨⟨es₁, es₂, tube₁, rfl, hrun₁, hadded, hkept⟩, hne⟩)
    · exact ⟨es, [], tube, rfl, hrun, hadded, List.not_mem_nil⟩
    · refine ⟨es₁, es₂ ++ [e], tube₁, List.append_assoc es₁ _ [e], hrun₁, hadded, ?_⟩
      rw [List.mem_append, List.mem_singleton, not_or]
      exact ⟨hkept, hne.symm⟩

/-- What one event does to the name of a member. -/
theorem lookup_step {e : MucEvent} (h : Consistent inspect tube)
    (hstep : mucStep sha1 inspect demarshal tube e = some tube') :
    tube'.dbusNames.lookup handle = some name ↔
      (e = .addName handle name ∧ (addName sha1 inspect handle name tube).1 = true) ∨
        (tube.dbusNames.lookup handle = some name ∧ e ≠ .removeName handle) := by
  cases e with
  | addName handle' name' =>
    rw [mucStep] at hstep
    obtain ⟨hoccupant, hstep⟩ := Option.ite_none_right_eq_some.mp hstep
    cases hstep
    rcases addName_cases sha1 name' h hoccupant with hkept | ⟨hhandle, hname, hadded⟩
    · rw [hkept]
      constructor
      · exact fun hlookup => .inr ⟨hlookup, by rintro ⟨⟩⟩
      · rintro (⟨heq, hadded⟩ | ⟨hlookup, -⟩)
        · cases heq
          rw [hkept] at hadded
          cases hadded
        · exact hlookup
    · rw [hadded]
      by_cases heq : handle = handle'
      · subst heq
        change (tube.dbusNames.insert handle name').lookup handle = some name ↔ _
        rw [AList.lookup_insert, hhandle]
        constructor
        · intro hname'
          cases hname'
          exact .inl ⟨rfl, by rw [hadded]⟩
        · rintro (⟨heq, -⟩ | ⟨hno, -⟩)
          · cases heq
            rfl
          · cases hno
      · change (tube.dbusNames.insert handle' name').lookup handle = some name ↔ _
        rw [AList.lookup_insert_ne heq]
        constructor
        · exact fun hlookup => .inr ⟨hlookup, by rintro ⟨⟩⟩
        · rintro (⟨heq', -⟩ | ⟨hlookup, -⟩)
          · cases heq'
            exact absurd rfl heq
          · exact hlookup
  | removeName handle' =>
    cases hstep
    have hnew : ¬ (MucEvent.removeName handle' = .addName handle name ∧
      (addName sha1 inspect handle name tube).1 = true) := by rintro ⟨⟨⟩, -⟩
    rw [or_iff_right hnew]
    rcases removeName_cases handle' h with ⟨hnone, hkept⟩ | ⟨name', hsome, -, hremoved⟩
    · rw [hkept]
      refine ⟨fun hlookup => ⟨hlookup, ?_⟩, And.left⟩
      rintro heq
      cases heq
      rw [hnone] at hlookup
      cases hlookup
    · rw [hremoved]
      change (tube.dbusNames.erase handle').lookup handle = some name ↔ _
      by_cases heq : handle = handle'
      · subst heq
        rw [AList.lookup_erase]
        exact iff_of_false (by rintro ⟨⟩) fun hno => hno.2 rfl
      · rw [AList.lookup_erase_ne heq]
        refine (and_iff_left ?_).symm
        rintro heq'
        cases heq'
        exact heq rfl
  | messageReceived sender data =>
    cases hstep
    rw [(sameNames_mucMessageReceived sender data tube).dbusNames]
    simp
  | newConnection =>
    cases hstep
    rw [(sameNames_newConnection tube).dbusNames]
    simp
  | disconnected =>
    rw [mucStep] at hstep
    obtain ⟨-, hstep⟩ := Option.ite_none_right_eq_some.mp hstep
    cases hstep
    simp

theorem constructed_spec (hnew : constructed sha1 inspect selfHandle = some start) :
    start.dbusNames = ∅ ∧ start.dbusConn = false ∧ start.sent = [] ∧ start.dbusMsgQueue = [] ∧
      start.dbusMsgQueueSize = 0 := by
  rw [constructed] at hnew
  obtain ⟨-, hnew⟩ := Option.ite_none_left_eq_some.mp hnew
  rcases hdecode : decodeJid (inspect selfHandle) with _ | _ | nick
  · simp [hdecode] at hnew
  · simp [hdecode] at hnew
  · rw [hdecode] at hnew
    cases hnew
    exact ⟨rfl, rfl, rfl, rfl, rfl⟩

/-- **The table is the history.**  A name is in the table of a tube exactly when
it has been announced and not been withdrawn. -/
theorem announced_iff (hnew : constructed sha1 inspect selfHandle = some start)
    (es : List MucEvent) (hrun : run (mucStep sha1 inspect demarshal) start es = some tube) :
    Announced sha1 inspect demarshal start es handle name ↔
      tube.dbusNames.lookup handle = some name := by
  induction es using List.reverseRecOn generalizing tube with
  | nil =>
    cases hrun
    rw [(constructed_spec hnew).1, AList.lookup_empty]
    refine iff_of_false ?_ fun hno => nomatch hno
    rintro ⟨es₁, es₂, tube₁, hsplit, -⟩
    simp at hsplit
  | append_singleton es e ih =>
    rw [run_append] at hrun
    obtain ⟨tube₁, hrun₁, hlast⟩ := Option.bind_eq_some_iff.mp hrun
    obtain ⟨tube₂, hstep, hend⟩ := Option.bind_eq_some_iff.mp hlast
    cases hend
    have hconsistent : Consistent inspect tube₁ :=
      consistent_of_reachable hnew (reachable_of_run es (admits_anyEvent es) hrun₁)
    rw [announced_snoc hrun₁, lookup_step hconsistent hstep, ih hrun₁]

/-! ## What is passed on -/

/-- The messages for the local connection: those it has and those that wait. -/
def MucTube.passed (tube : MucTube) : List DBusMessage := tube.sent ++ tube.dbusMsgQueue

/-- Nothing waits while there is a connection. -/
def Flushed (tube : MucTube) : Prop := tube.dbusConn = true → tube.dbusMsgQueue = []

/-- There is a connection, or room for the message in the queue. -/
def fits (data : Bytes) (tube : MucTube) : Bool :=
  tube.dbusConn || tube.dbusMsgQueueSize + data.length ≤ maxQueueSize

/-- Receiving these bytes passes the message on. -/
def PassedOn (demarshal : Bytes → Option DBusMessage) (sender : ℕ) (data : Bytes) (tube : MucTube)
    (msg : DBusMessage) : Prop :=
  (mucMessageReceived demarshal sender data tube).passed = tube.passed ++ [msg]

/-- What an event passes on. -/
def passes (demarshal : Bytes → Option DBusMessage) (tube : MucTube) :
    MucEvent → List DBusMessage
  | .messageReceived sender data =>
    (demarshal data).toList.filter fun msg => admitted sender msg tube && fits data tube
  | _ => []

theorem passed_deliver (data : Bytes) (msg : DBusMessage) (hflushed : Flushed tube) :
    (deliver data msg tube).passed = tube.passed ++ if fits data tube then [msg] else [] := by
  rw [deliver, fits]
  by_cases hconn : tube.dbusConn = true
  · rw [if_neg (not_not.mpr hconn), hconn, Bool.true_or, if_pos rfl, MucTube.passed, MucTube.passed]
    dsimp only
    rw [hflushed hconn, List.append_nil, List.append_nil]
  · rw [if_pos hconn, eq_false_of_ne_true hconn, Bool.false_or]
    by_cases hfull : tube.dbusMsgQueueSize + data.length > maxQueueSize
    · rw [if_pos hfull, if_neg (by simpa using hfull), List.append_nil]
    · rw [if_neg hfull, if_pos (by simpa using hfull), MucTube.passed, MucTube.passed,
        List.append_assoc]

theorem passed_mucMessageReceived (sender : ℕ) (data : Bytes)
    (hroom : tube.targetHandleType = .room) (hflushed : Flushed tube) :
    (mucMessageReceived demarshal sender data tube).passed =
      tube.passed ++ passes demarshal tube (.messageReceived sender data) := by
  rw [mucMessageReceived, passes]
  rcases demarshal data with _ | msg
  · exact (List.append_nil _).symm
  · dsimp only
    rw [if_pos hroom]
    by_cases hadmitted : admitted sender msg tube = true
    · rw [if_pos hadmitted, passed_deliver data msg hflushed]
      cases fits data tube <;> simp [hadmitted]
    · rw [if_neg hadmitted]
      simp [eq_false_of_ne_true hadmitted]

theorem passedOn_iff {sender : ℕ} {data : Bytes} {msg : DBusMessage}
    (hroom : tube.targetHandleType = .room) (hflushed : Flushed tube) :
    PassedOn demarshal sender data tube msg ↔
      demarshal data = some msg ∧ admitted sender msg tube = true ∧ fits data tube = true := by
  rw [PassedOn, passed_mucMessageReceived sender data hroom hflushed, List.append_cancel_left_eq,
    passes]
  rcases demarshal data with _ | msg'
  · simp
  · cases hkeep : admitted sender msg' tube && fits data tube
    · simp only [Option.toList_some, List.filter_singleton, hkeep, Option.some.injEq]
      rw [Bool.and_eq_false_iff] at hkeep
      refine iff_of_false (fun hno => nomatch hno) ?_
      rintro ⟨rfl, hadmitted, hfits⟩
      simp [hadmitted, hfits] at hkeep
    · simp only [Option.toList_some, List.filter_singleton, hkeep, Option.some.injEq]
      rw [Bool.and_eq_true] at hkeep
      constructor
      · intro heq
        cases heq
        exact ⟨rfl, hkeep⟩
      · rintro ⟨rfl, -⟩
        rfl

/-! ### The queue -/

/-- Names do not touch the queue. -/
structure SameQueue (tube tube' : MucTube) : Prop where
  dbusConn : tube'.dbusConn = tube.dbusConn
  dbusMsgQueue : tube'.dbusMsgQueue = tube.dbusMsgQueue
  dbusMsgQueueSize : tube'.dbusMsgQueueSize = tube.dbusMsgQueueSize
  sent : tube'.sent = tube.sent

theorem SameQueue.flushed (hsame : SameQueue tube tube') (h : Flushed tube) : Flushed tube' := by
  intro hconn
  rw [hsame.dbusConn] at hconn
  rw [hsame.dbusMsgQueue]
  exact h hconn

theorem sameQueue_addName (handle : ℕ) (name : Bytes) (tube : MucTube) :
    SameQueue tube (addName sha1 inspect handle name tube).2 := by
  rw [addName]
  split
  · exact ⟨rfl, rfl, rfl, rfl⟩
  split
  · exact ⟨rfl, rfl, rfl, rfl⟩
  split
  · exact ⟨rfl, rfl, rfl, rfl⟩
  split
  · exact ⟨rfl, rfl, rfl, rfl⟩
  split
  · split
    · split <;> exact ⟨rfl, rfl, rfl, rfl⟩
    · exact ⟨rfl, rfl, rfl, rfl⟩
  · exact ⟨rfl, rfl, rfl, rfl⟩

theorem sameQueue_removeName (handle : ℕ) (tube : MucTube) :
    SameQueue tube (removeName handle tube).2 := by
  rw [removeName]
  split
  · exact ⟨rfl, rfl, rfl, rfl⟩
  split
  · exact ⟨rfl, rfl, rfl, rfl⟩
  · dsimp only
    split <;> exact ⟨rfl, rfl, rfl, rfl⟩

theorem flushed_step {e : MucEvent} (hconsistent : Consistent inspect tube) (h : Flushed tube)
    (hstep : mucStep sha1 inspect demarshal tube e = some tube') : Flushed tube' := by
  cases e with
  | addName handle name =>
    rw [mucStep] at hstep
    obtain ⟨-, hstep⟩ := Option.ite_none_right_eq_some.mp hstep
    cases hstep
    exact (sameQueue_addName handle name tube).flushed h
  | removeName handle =>
    cases hstep
    exact (sameQueue_removeName handle tube).flushed h
  | messageReceived sender data =>
    cases hstep
    rw [mucMessageReceived]
    rcases demarshal data with _ | msg
    · exact h
    · dsimp only
      rw [if_pos hconsistent.room]
      split
      · rw [deliver]
        split
        · rename_i hconn
          split
          · exact h
          · exact fun hconn' => absurd hconn' hconn
        · exact h
      · exact h
  | newConnection =>
    cases hstep
    rw [newConnection]
    split
    · exact h
    · exact fun _ => rfl
  | disconnected =>
    rw [mucStep] at hstep
    obtain ⟨-, hstep⟩ := Option.ite_none_right_eq_some.mp hstep
    cases hstep
    rintro ⟨⟩

theorem flushed_of_reachable (hnew : constructed sha1 inspect selfHandle = some start)
    (h : Reachable (mucStep sha1 inspect demarshal) anyEvent start tube) :
    Consistent inspect tube ∧ Flushed tube := by
  refine h.invariant (I := fun tube => Consistent inspect tube ∧ Flushed tube)
    ⟨consistent_constructed hnew, fun hconn => ?_⟩ ?_
  · rw [(constructed_spec hnew).2.1] at hconn
    cases hconn
  · rintro tube e tube' ⟨hconsistent, hflushed⟩ - hstep
    exact ⟨consistent_step hconsistent hstep, flushed_step hconsistent hflushed hstep⟩

/-! ## Who gets through -/

/-- Every message that the run passes on comes from a member that has announced
the name in its sender field. -/
def Genuine (sha1 : Bytes → Bytes) (inspect : ℕ → Bytes) (demarshal : Bytes → Option DBusMessage)
    (start : MucTube) (es : List MucEvent) : Prop :=
  ∀ es₁ sender data es₂ tube msg, es = es₁ ++ .messageReceived sender data :: es₂ →
    run (mucStep sha1 inspect demarshal) start es₁ = some tube →
    PassedOn demarshal sender data tube msg →
    ∃ name, Announced sha1 inspect demarshal start es₁ sender name ∧ msg.sender = some name

/-- A message that would be passed on has a sender field, if its sender has
announced no name. -/
def Signed (demarshal : Bytes → Option DBusMessage) (tube : MucTube) : MucEvent → Prop
  | .messageReceived sender data => ∀ msg ∈ demarshal data, tube.dbusNames.lookup sender = none →
      intended msg tube = true → fits data tube = true → msg.sender ≠ none
  | _ => True

instance (demarshal : Bytes → Option DBusMessage) (tube : MucTube) (e : MucEvent) :
    Decidable (Signed demarshal tube e) :=
  match e with
  | .messageReceived sender data =>
    inferInstanceAs (Decidable (∀ msg ∈ demarshal data, tube.dbusNames.lookup sender = none →
      intended msg tube = true → fits data tube = true → msg.sender ≠ none))
  | .addName _ _ => .isTrue trivial
  | .removeName _ => .isTrue trivial
  | .newConnection => .isTrue trivial
  | .disconnected => .isTrue trivial

/-- One message: it is genuine exactly when it is signed. -/
theorem signed_iff {es : List MucEvent} {sender : ℕ} {data : Bytes}
    (hnew : constructed sha1 inspect selfHandle = some start)
    (hrun : run (mucStep sha1 inspect demarshal) start es = some tube) :
    Signed demarshal tube (.messageReceived sender data) ↔
      ∀ msg, PassedOn demarshal sender data tube msg →
        ∃ name, Announced sha1 inspect demarshal start es sender name ∧
          msg.sender = some name := by
  obtain ⟨hconsistent, hflushed⟩ :=
    flushed_of_reachable hnew (reachable_of_run es (admits_anyEvent es) hrun)
  constructor
  · intro hsigned msg hpassed
    obtain ⟨hdemarshal, hadmitted, hfits⟩ := (passedOn_iff hconsistent.room hflushed).mp hpassed
    rw [admitted, Bool.and_eq_true, beq_iff_eq] at hadmitted
    obtain ⟨hintended, hsender⟩ := hadmitted
    rcases hname : tube.dbusNames.lookup sender with _ | name
    · rw [hname] at hsender
      exact absurd hsender.symm (hsigned msg hdemarshal hname hintended hfits)
    · exact ⟨name, (announced_iff hnew es hrun).mpr hname, by rw [← hsender, hname]⟩
  · intro hgenuine msg hdemarshal hname hintended hfits hsender
    have hadmitted : admitted sender msg tube = true := by
      rw [admitted, hintended, hname, hsender]
      rfl
    obtain ⟨name, -, hsome⟩ := hgenuine msg
      ((passedOn_iff hconsistent.room hflushed).mpr ⟨hdemarshal, hadmitted, hfits⟩)
    rw [hsender] at hsome
    cases hsome

/-- **Who can send to the tube.**  A run passes on nothing but messages of
members under the names they have announced, exactly when members that have
announced no name send no message without a sender. -/
theorem genuine_iff (hnew : constructed sha1 inspect selfHandle = some start)
    (es : List MucEvent) : Genuine sha1 inspect demarshal start es ↔
      Admits (Signed demarshal) (mucStep sha1 inspect demarshal) start es := by
  rw [admits_iff_forall_split]
  constructor
  · intro hgenuine es₁ e es₂ tube hsplit hrun
    cases e with
    | messageReceived sender data =>
      exact (signed_iff hnew hrun).mpr fun msg =>
        hgenuine es₁ sender data es₂ tube msg hsplit hrun
    | _ => exact trivial
  · intro hsigned es₁ sender data es₂ tube msg hsplit hrun
    exact (signed_iff hnew hrun).mp (hsigned es₁ _ es₂ tube hsplit hrun) msg

/-! ### Examples -/

/-- A signal `a.b.C` from the object `/`, as libdbus marshals it, without a
sender field. -/
def sampleSignal : Bytes :=
  [108, 4, 1, 1, 0, 0, 0, 0, 1, 0, 0, 0, 42, 0, 0, 0,
    1, 1, 111, 0, 1, 0, 0, 0, 47, 0, 0, 0, 0, 0, 0, 0,
    2, 1, 115, 0, 3, 0, 0, 0, 97, 46, 98, 0, 0, 0, 0, 0,
    3, 1, 115, 0, 1, 0, 0, 0, 67, 0, 0, 0, 0, 0, 0, 0]

/-- The same signal with the sender `:1.5`. -/
def sampleSignedSignal : Bytes :=
  [108, 4, 1, 1, 0, 0, 0, 0, 1, 0, 0, 0, 61, 0, 0, 0,
    1, 1, 111, 0, 1, 0, 0, 0, 47, 0, 0, 0, 0, 0, 0, 0,
    2, 1, 115, 0, 3, 0, 0, 0, 97, 46, 98, 0, 0, 0, 0, 0,
    3, 1, 115, 0, 1, 0, 0, 0, 67, 0, 0, 0, 0, 0, 0, 0,
    7, 1, 115, 0, 4, 0, 0, 0, 58, 49, 46, 53, 0, 0, 0, 0]

/-- `dbus_message_demarshal` on the two signals. -/
def sampleDemarshal (data : Bytes) : Option DBusMessage :=
  if data = sampleSignal then some ⟨none, none, sampleSignal⟩
  else if data = sampleSignedSignal then some ⟨some (ascii ":1.5"), none, sampleSignedSignal⟩
  else none

/-- A member that has announced no name sends a message without a sender, and
the local application gets it. -/
theorem unsigned_passed_on :
    ∃ start tube, constructed sampleSha1 sampleRoom 1 = some start ∧
      run (mucStep sampleSha1 sampleRoom sampleDemarshal) start
        [.newConnection, .messageReceived 2 sampleSignal] = some tube ∧
      tube.sent = [⟨none, none, sampleSignal⟩] ∧
      ¬ Genuine sampleSha1 sampleRoom sampleDemarshal start
        [.newConnection, .messageReceived 2 sampleSignal] := by
  have hrun : ((constructed sampleSha1 sampleRoom 1).any fun start =>
      (run (mucStep sampleSha1 sampleRoom sampleDemarshal) start [.newConnection]).any fun tube =>
        decide (tube.passed = [] ∧
          (mucMessageReceived sampleDemarshal 2 sampleSignal tube).passed =
            [⟨none, none, sampleSignal⟩] ∧
          (mucMessageReceived sampleDemarshal 2 sampleSignal tube).sent =
            [⟨none, none, sampleSignal⟩])) = true := by decide +kernel
  obtain ⟨start, hstart, hrun⟩ := (Option.any_eq_true _ _).mp hrun
  obtain ⟨tube, htube, hfacts⟩ := (Option.any_eq_true _ _).mp hrun
  obtain ⟨hempty, hpassed, hsent⟩ := of_decide_eq_true hfacts
  refine ⟨start, mucMessageReceived sampleDemarshal 2 sampleSignal tube, hstart, ?_, hsent, ?_⟩
  · have happend := @run_append _ _ (mucStep sampleSha1 sampleRoom sampleDemarshal) start
      [.newConnection] [.messageReceived 2 sampleSignal]
    rw [htube] at happend
    exact happend
  · intro hgenuine
    obtain ⟨name, -, hsender⟩ := hgenuine [.newConnection] 2 sampleSignal [] tube
      ⟨none, none, sampleSignal⟩ rfl htube (by rw [PassedOn, hpassed, hempty]; rfl)
    cases hsender

/-- A member announces a name and uses it; another one uses that name too, and
is not heard. -/
def sampleSigned : List MucEvent :=
  [.addName 2 (ascii ":1.5"), .messageReceived 2 sampleSignedSignal,
    .messageReceived 3 sampleSignedSignal, .newConnection]

theorem genuine_iff_sampleSigned :
    ∃ start tube, constructed sampleSha1 sampleRoom 1 = some start ∧
      run (mucStep sampleSha1 sampleRoom sampleDemarshal) start sampleSigned = some tube ∧
      tube.sent = [⟨some (ascii ":1.5"), none, sampleSignedSignal⟩] ∧
      Genuine sampleSha1 sampleRoom sampleDemarshal start sampleSigned := by
  have hrun : ((constructed sampleSha1 sampleRoom 1).any fun start =>
      (run (mucStep sampleSha1 sampleRoom sampleDemarshal) start sampleSigned).any fun tube =>
        decide (tube.sent = [⟨some (ascii ":1.5"), none, sampleSignedSignal⟩] ∧
          Admits (Signed sampleDemarshal) (mucStep sampleSha1 sampleRoom sampleDemarshal) start
            sampleSigned)) = true := by decide +kernel
  obtain ⟨start, hstart, hrun⟩ := (Option.any_eq_true _ _).mp hrun
  obtain ⟨tube, htube, hfacts⟩ := (Option.any_eq_true _ _).mp hrun
  obtain ⟨hsent, hadmits⟩ := of_decide_eq_true hfacts
  exact ⟨start, tube, hstart, htube, hsent, (genuine_iff hstart sampleSigned).mpr hadmits⟩

end TubeDbus
