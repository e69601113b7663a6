/-
# The request pipeline (`src/request-pipeline.c`)

The model of `GabbleRequestPipeline`.  The C code calls user callbacks while it
is in the middle of changing its lists, and a callback may enqueue new items
and cancel other ones, so the state has an explicit call stack: a frame says
where the C function that called the callback goes on when it returns.  The
environment chooses what happens next: what a running callback does, when it
returns, and, when the stack is empty, the next main-loop event.

`items` is the heap of `GabbleRequestPipelineItem`s: `delete_item` frees an
item, and reading a freed one, like a failing `g_assert`, is a `Fault` that
ends the run.  `log` is the history of the messages handed to the connection
and of the callbacks invoked.
-/
import Mathlib.Data.List.Basic
import Mathlib.Logic.Function.Basic
import Gabble.Transition

namespace RequestPipeline

/-- `REQUEST_PIPELINE_SIZE`. -/
def requestPipelineSize : ℕ := 10

/-- `DEFAULT_REQUEST_TIMEOUT`, in seconds. -/
def defaultRequestTimeout : ℕ := 180

/-- A pointer to an item; items are numbered in the order of their creation. -/
abbrev ItemId := ℕ

/-- `struct _GabbleRequestPipelineItem`.  `timer` says that `timer_id` is not 0.
The message, the callback and its data are the item's number. -/
structure Item where
  timer : Bool
  timeout : ℕ
  inFlight : Bool
  zombie : Bool
  deriving DecidableEq

/-- What a callback is given: the reply, or one of the errors of the file. -/
inductive Outcome : Type where
  | reply : Outcome
  | cancelled : Outcome
  | timedOut : Outcome
  | disconnected : Outcome
  | sendFailed : Outcome
  deriving DecidableEq

/-- The observable actions of the pipeline. -/
inductive Action : Type where
  | sent (i : ItemId) : Action
  | called (i : ItemId) (outcome : Outcome) : Action
  deriving DecidableEq

/-- The points of the C code that wait for something to return: the callback of
an item called by `create_zombie`, `response_cb`, `send_next_request` or
`flush`, and the loop of `gabble_request_pipeline_go`. -/
inductive Frame : Type where
  | createZombie (i : ItemId) : Frame
  | responseCb (i : ItemId) : Frame
  | sendNextRequest (i : ItemId) : Frame
  | flush (i : ItemId) : Frame
  | go : Frame
  deriving DecidableEq

/-- The item whose callback runs in a frame. -/
def Frame.item : Frame → Option ItemId
  | .createZombie i => some i
  | .responseCb i => some i
  | .sendNextRequest i => some i
  | .flush i => some i
  | .go => none

/-- The lists of `GabbleRequestPipelinePrivate`, in the order `dispose` flushes
them. -/
inductive Queue : Type where
  | inFlight : Queue
  | pending : Queue
  | crypt : Queue
  deriving DecidableEq

/-- How far `gabble_request_pipeline_dispose` has come; `dispose_has_run` is
`phase ≠ alive`. -/
inductive Phase : Type where
  | alive : Phase
  | flushing (q : Queue) : Phase
  | disposed : Phase
  deriving DecidableEq

/-- A failing assertion, or an access to a freed item. -/
inductive Fault : Type where
  | freedItem : Fault
  | assertNotZombie : Fault
  | assertNotInFlight : Fault
  | assertInFlight : Fault
  deriving DecidableEq

/-- The pipeline, the part of the connection it uses, and the history. -/
structure State where
  items : ItemId → Option Item
  next : ItemId
  pendingItems : List ItemId
  itemsInFlight : List ItemId
  cryptItems : List ItemId
  phase : Phase
  /-- The idle sources of `delayed_run_pipeline` that have not run yet. -/
  delayedRuns : ℕ
  /-- `priv->porter != NULL` in the connection. -/
  porter : Bool
  /-- The IQs sent whose reply has not arrived. -/
  unanswered : List ItemId
  stack : List Frame
  log : List Action
  fault : Option Fault

/-- `gabble_request_pipeline_new`. -/
def State.new : State where
  items := fun _ => none
  next := 0
  pendingItems := []
  itemsInFlight := []
  cryptItems := []
  phase := .alive
  delayedRuns := 0
  porter := false
  unanswered := []
  stack := []
  log := []
  fault := none

/-- The items whose callback has been invoked, in that order. -/
def calledIds (log : List Action) : List ItemId :=
  log.filterMap fun
    | .called i _ => some i
    | .sent _ => none

/-- The items whose message was handed to the connection, in that order. -/
def sentIds (log : List Action) : List ItemId :=
  log.filterMap fun
    | .sent i => some i
    | .called _ _ => none

namespace State

def abort (s : State) (f : Fault) : State := { s with fault := some f }

def setItem (s : State) (i : ItemId) (item : Item) : State :=
  { s with items := Function.update s.items i (some item) }

/-- The part of `_gabble_connection_send_with_reply` the pipeline sees: it
refuses a message exactly when the connection has no porter. -/
def sendWithReply (s : State) (i : ItemId) : Option State :=
  if s.porter then
    some { s with log := s.log ++ [.sent i], unanswered := s.unanswered ++ [i] }
  else none

/-- Call the callback of an item; `f` is where the caller goes on. -/
def invoke (s : State) (i : ItemId) (outcome : Outcome) (f : Frame) : State :=
  { s with log := s.log ++ [.called i outcome], stack := f :: s.stack }

/-- `delete_item`. -/
def deleteItem (s : State) (i : ItemId) : State :=
  match s.items i with
  | none => s.abort .freedItem
  | some item =>
    if item.zombie then
      { s with cryptItems := s.cryptItems.erase i, items := Function.update s.items i none }
    else if item.inFlight then
      { s with itemsInFlight := s.itemsInFlight.erase i,
               items := Function.update s.items i none }
    else
      { s with pendingItems := s.pendingItems.erase i,
               items := Function.update s.items i none }

/-- `gabble_request_pipeline_go`: enter its loop. -/
def go (s : State) : State := { s with stack := .go :: s.stack }

/-- `gabble_request_pipeline_create_zombie`, up to the call of the callback. -/
def createZombie (s : State) (i : ItemId) (error : Outcome) : State :=
  match s.items i with
  | none => s.abort .freedItem
  | some item =>
    if item.zombie then s.abort .assertNotZombie
    else (s.setItem i { item with timer := false }).invoke i error (.createZombie i)

/-- `gabble_request_pipeline_create_zombie`, from the return of the callback. -/
def createZombieRet (s : State) (i : ItemId) : State :=
  match s.items i with
  | none => s.abort .freedItem
  | some item =>
    if item.inFlight then
      go { s.setItem i { item with zombie := true } with
           itemsInFlight := s.itemsInFlight.erase i,
           cryptItems := i :: s.cryptItems }
    else s.deleteItem i

/-- `send_next_request`, up to the call of the callback when sending fails. -/
def sendNextRequest (s : State) : State :=
  match s.pendingItems with
  | [] => s
  | i :: rest =>
    match s.items i with
    | none => s.abort .freedItem
    | some item =>
      if item.inFlight then s.abort .assertNotInFlight
      else
        match { s with pendingItems := rest }.sendWithReply i with
        | none => { s with pendingItems := rest }.invoke i .sendFailed (.sendNextRequest i)
        | some s' =>
          { s'.setItem i { item with inFlight := true, timer := true } with
            itemsInFlight := i :: s'.itemsInFlight }

/-- `send_next_request`, from the return of the callback: it calls itself. -/
def sendNextRequestRet (s : State) (i : ItemId) : State :=
  let s' := s.deleteItem i
  if s'.fault.isSome then s' else s'.sendNextRequest

/-- One round of the loop of `gabble_request_pipeline_go`, whose frame is on top
of the stack. -/
def goLoop (s : State) : State :=
  if s.pendingItems ≠ [] ∧ s.itemsInFlight.length < requestPipelineSize then
    s.sendNextRequest
  else { s with stack := s.stack.tail }

/-- `response_cb`, up to the call of the callback. -/
def responseCb (s : State) (i : ItemId) : State :=
  match s.items i with
  | none => s.abort .freedItem
  | some item =>
    if i ∉ s.itemsInFlight then s
    else if !item.inFlight then s.abort .assertInFlight
    else
      let s' := { s with itemsInFlight := s.itemsInFlight.erase i }
      if item.zombie then (s'.deleteItem i).go
      else s'.invoke i .reply (.responseCb i)

/-- `gabble_request_pipeline_enqueue`. -/
def enqueue (s : State) (timeout : ℕ) : State :=
  { s.setItem s.next
      { timer := false, timeout := if timeout = 0 then defaultRequestTimeout else timeout,
        inFlight := false, zombie := false } with
    next := s.next + 1
    pendingItems := s.pendingItems ++ [s.next]
    delayedRuns :=
      if s.itemsInFlight.length < requestPipelineSize then s.delayedRuns + 1
      else s.delayedRuns }

def queue (s : State) : Queue → List ItemId
  | .inFlight => s.itemsInFlight
  | .pending => s.pendingItems
  | .crypt => s.cryptItems

/-- What `dispose` does once a list is empty.  The idle sources go away with the
weak references of the object, at the end. -/
def nextPhase (s : State) : Queue → State
  | .inFlight => { s with phase := .flushing .pending }
  | .pending => { s with phase := .flushing .crypt }
  | .crypt => { s with phase := .disposed, delayedRuns := 0 }

/-- One round of the loop of `gabble_request_pipeline_flush`. -/
def flushLoop (s : State) (q : Queue) : State :=
  match s.queue q with
  | [] => s.nextPhase q
  | i :: _ =>
    match s.items i with
    | none => s.abort .freedItem
    | some item =>
      if item.zombie then s.deleteItem i
      else s.invoke i .disconnected (.flush i)

/-- The item exists and its callback has not been invoked. -/
def Live (s : State) (i : ItemId) : Prop := i < s.next ∧ i ∉ calledIds s.log

instance (s : State) (i : ItemId) : Decidable (s.Live i) :=
  inferInstanceAs (Decidable (_ ∧ _))

/-- User code runs: the main loop, or the callback on top of the stack. -/
def userTurn (s : State) : Bool :=
  match s.stack with
  | [] => s.phase == .alive
  | f :: _ => f.item.isSome

/-- The main loop of the living pipeline waits for its next event. -/
def AtRest (s : State) : Prop := s.stack = [] ∧ s.phase = .alive

instance (s : State) : Decidable s.AtRest := inferInstanceAs (Decidable (_ ∧ _))

def timerArmed (s : State) (i : ItemId) : Bool :=
  match s.items i with
  | none => false
  | some item => item.timer

end State

/-- What can happen next.  `ret` is the return of the running callback and `tau`
the next round of the loop the code is in. -/
inductive Event : Type where
  | enqueue (timeout : ℕ) : Event
  | cancel (i : ItemId) : Event
  | ret : Event
  | tau : Event
  | idle : Event
  | reply (i : ItemId) : Event
  | timeout (i : ItemId) : Event
  | dispose : Event
  | porterAvailable : Event
  | porterGone : Event
  deriving DecidableEq

open State in
/-- The callback of the top frame returns. -/
def stepRet (s : State) : Option State :=
  match s.stack with
  | .createZombie i :: k => some ({ s with stack := k }.createZombieRet i)
  | .responseCb i :: k => some ({ s with stack := k }.deleteItem i).go
  | .sendNextRequest i :: k => some ({ s with stack := k }.sendNextRequestRet i)
  | .flush i :: k => some ({ s with stack := k }.deleteItem i)
  | .go :: _ => none
  | [] => none

/-- The loop of `go` on top of the stack, or the flushing loop under it. -/
def stepTau (s : State) : Option State :=
  match s.stack with
  | .go :: _ => some s.goLoop
  | _ :: _ => none
  | [] =>
    match s.phase with
    | .flushing q => some (s.flushLoop q)
    | _ => none

/-- A reply arrives.  `message_send_reply_cb` drops it once the pipeline, which
is its weak object, is gone. -/
def stepReply (s : State) (i : ItemId) : Option State :=
  if s.stack = [] ∧ i ∈ s.unanswered then
    match s.phase with
    | .alive => some ({ s with unanswered := s.unanswered.erase i }.responseCb i)
    | .disposed => some { s with unanswered := s.unanswered.erase i }
    | .flushing _ => none
  else none

/-- One step of the pipeline and its environment. -/
def step (s : State) (e : Event) : Option State :=
  if s.fault.isSome then none else
  match e with
  | .enqueue timeout => if s.userTurn then some (s.enqueue timeout) else none
  | .cancel i => if s.userTurn ∧ s.Live i then some (s.createZombie i .cancelled) else none
  | .ret => stepRet s
  | .tau => stepTau s
  | .idle =>
    if s.AtRest ∧ 0 < s.delayedRuns then
      some { s with delayedRuns := s.delayedRuns - 1 }.go
    else none
  | .reply i => stepReply s i
  | .timeout i =>
    if s.AtRest ∧ s.timerArmed i then some (s.createZombie i .timedOut) else none
  | .dispose => if s.AtRest then some { s with phase := .flushing .inFlight } else none
  | .porterAvailable => if s.AtRest then some { s with porter := true } else none
  | .porterGone => some { s with porter := false }

end RequestPipeline
