/-
# Service discovery in a pipeline

The pipeline of `disco.c`: a server is asked for its items, and then every item for
what it is, with no more than `DISCO_PIPELINE_SIZE` requests at a time.  Requests that
are not sent, late replies, timeouts and `gabble_disco_pipeline_destroy` at any time
are part of the model.

Which of the remaining items comes next is up to the hash table they are in, here a
function from the table to an index.
-/
import Mathlib.Data.List.Basic
import Gabble.Base64
import Gabble.Transition

namespace Disco

open Base64 (Bytes)

/-! ## Data -/

/-- `GabbleDiscoType` -/
inductive DiscoType : Type where
  | info : DiscoType
  | items : DiscoType
deriving DecidableEq

/-- `GabbleDiscoRequest`, one that is in the list of requests. -/
structure Request where
  id : ℕ
  type : DiscoType
  jid : Bytes
deriving DecidableEq

/-- `GabbleDiscoItem` -/
structure Item where
  jid : Bytes
  name : Bytes
  category : Bytes
  type : Bytes
  features : List (Bytes × Option Bytes)
deriving DecidableEq

/-- The attributes of an `identity` node. -/
structure Identity where
  name : Option Bytes
  category : Option Bytes
  type : Option Bytes

/-- A child of the result that matters: a `feature`, or a data form with the `var` and
the `value` of each field. -/
inductive Child : Type where
  | feature (var : Option Bytes) : Child
  | form (fields : List (Option Bytes × Option Bytes)) : Child

/-- What comes back for a request. -/
inductive Answer : Type where
  /-- an error, or no `query` node of the right kind -/
  | error : Answer
  /-- the `jid` attributes of the items -/
  | items (jids : List (Option Bytes)) : Answer
  | info (identity : Option Identity) (children : List Child) : Answer

/-- What can be seen of the pipeline. -/
inductive Out : Type where
  /-- an info request is sent -/
  | asked (jid : Bytes) : Out
  /-- an info request is over, with or without an answer -/
  | answered (jid : Bytes) : Out
  /-- `pipeline->callback` -/
  | found (item : Item) : Out
  /-- `pipeline->end_callback` -/
  | ended : Out
  /-- `gabble_disco_pipeline_destroy` is called -/
  | destroyed : Out
deriving DecidableEq

/-- `GabbleDiscoPipeline` and its requests. -/
structure State where
  running : Bool
  /-- `disco_pipeline`; a request that was not sent is `NULL` -/
  discoPipeline : List (Option ℕ)
  /-- the keys of `remaining_items` -/
  remainingItems : List Bytes
  listRequest : Option ℕ
  /-- `priv->requests`, those of the pipeline -/
  requests : List Request
  next : ℕ
  /-- the pipeline is freed -/
  freed : Bool
  out : List Out

/-- `DISCO_PIPELINE_SIZE` -/
def discoPipelineSize : ℕ := 10

/-- `gabble_disco_pipeline_init` and `gabble_disco_pipeline_run`, with an items request
that is sent. -/
def State.run (server : Bytes) : State where
  running := true
  discoPipeline := []
  remainingItems := []
  listRequest := some 0
  requests := [⟨0, .items, server⟩]
  next := 1
  freed := false
  out := []

/-! ## What an item is -/

/-- `g_hash_table_insert` -/
def insertKey (var : Bytes) (value : Option Bytes) :
    List (Bytes × Option Bytes) → List (Bytes × Option Bytes)
  | [] => [(var, value)]
  | (k, v) :: keys => if k = var then (k, value) :: keys else (k, v) :: insertKey var value keys

/-- The loop over the children of the result. -/
def collectKeys : List Child → List (Bytes × Option Bytes) → List (Bytes × Option Bytes)
  | [], keys => keys
  | .feature none :: children, keys => collectKeys children keys
  | .feature (some var) :: children, keys => collectKeys children (insertKey var none keys)
  | .form fields :: children, keys =>
    collectKeys children (fields.foldl (fun keys field =>
      match field with
      | (some var, some value) => insertKey var (some value) keys
      | _ => keys) keys)

/-- The item a result is about: one with a name, a category and a type. -/
def itemOf (jid : Bytes) : Answer → Option Item
  | .info (some ⟨some name, some category, some type⟩) children =>
    some ⟨jid, name, category, type, collectKeys children []⟩
  | _ => none

/-! ## The pipeline -/

/-- `g_ptr_array_remove_fast`: the last element takes the place of the one removed. -/
def removeFast {α : Type*} [DecidableEq α] (a : α) : List α → List α
  | [] => []
  | x :: xs =>
    if x = a then
      match xs.getLast? with
      | none => []
      | some last => last :: xs.dropLast
    else x :: removeFast a xs

/-- `gabble_disco_request` for an item: the request, or `NULL` when it is not sent. -/
def request (jid : Bytes) (sent : Bool) (s : State) : Option ℕ × State :=
  if sent then
    (some s.next, { s with
      requests := ⟨s.next, .info, jid⟩ :: s.requests
      next := s.next + 1
      out := s.out ++ [.asked jid] })
  else (none, s)

/-- One round of the loop of `gabble_disco_fill_pipeline`. -/
def fillRound (jid : Bytes) (sent : Bool) (s : State) : State :=
  let (r, s) := request jid sent s
  { s with
    discoPipeline := s.discoPipeline ++ [r]
    remainingItems := s.remainingItems.erase jid }

/-- `delete_request` -/
def deleteRequest (id : ℕ) (s : State) : State :=
  { s with requests := s.requests.filter (·.id ≠ id) }

section

variable (find : List Bytes → ℕ)

/-- `g_hash_table_find` with `return_true`: some key. -/
def hashTableFind (l : List Bytes) : Option Bytes := l[find l % l.length]?

/-- The loop of `gabble_disco_fill_pipeline`; each round adds a request, so that there
are as many rounds as there is room. -/
def fillLoop : ℕ → List Bool → State → State
  | 0, _, s => s
  | rounds + 1, sends, s =>
    match hashTableFind find s.remainingItems with
    | none => s
    | some jid => fillLoop rounds sends.tail (fillRound jid (sends.headD true) s)

/-- The end of `gabble_disco_fill_pipeline`, which may be the end of the pipeline. -/
def endIfEmpty (s : State) : State :=
  if s.discoPipeline.length = 0 then { s with running := false, out := s.out ++ [.ended] } else s

/-- `gabble_disco_fill_pipeline` -/
def fillPipeline (sends : List Bool) (s : State) : State :=
  if !s.running then s
  else endIfEmpty (fillLoop find (discoPipelineSize - s.discoPipeline.length) sends s)

/-- The loop of `disco_items_cb` over the items. -/
def addItems : List (Option Bytes) → List Bytes → List Bytes
  | [], remaining => remaining
  | none :: jids, remaining => addItems jids remaining
  | some jid :: jids, remaining =>
    addItems jids (if jid ∈ remaining then remaining else remaining ++ [jid])

/-- `disco_items_cb`, until the pipeline is filled. -/
def discoItems (answer : Answer) (s : State) : State :=
  match answer with
  | .items jids =>
    { s with listRequest := none, remainingItems := addItems jids s.remainingItems }
  | _ => { s with listRequest := none }

/-- `item_info_cb`, until the pipeline is filled. -/
def itemInfo (r : Request) (answer : Answer) (s : State) : State :=
  { s with
    discoPipeline := removeFast (some r.id) s.discoPipeline
    out := s.out ++ .answered r.jid :: ((itemOf r.jid answer).map Out.found).toList }

/-- The callback of a request, until it fills the pipeline. -/
def prepare (r : Request) (answer : Answer) (s : State) : State :=
  match r.type with
  | .items => discoItems answer s
  | .info => itemInfo r answer s

/-- The callback of a request, `disco_items_cb` or `item_info_cb`. -/
def callback (r : Request) (answer : Answer) (sends : List Bool) (s : State) : State :=
  fillPipeline find sends (prepare r answer s)

/-- The request with a number, as `g_list_find` looks for it. -/
def findRequest (id : ℕ) (s : State) : Option Request := s.requests.find? (·.id = id)

/-- `request_reply_cb`.  A late reply is dropped. -/
def requestReply (id : ℕ) (answer : Answer) (sends : List Bool) (s : State) : State :=
  match findRequest id s with
  | none => s
  | some r => deleteRequest id (callback find r answer sends s)

/-- `gabble_disco_cancel_request` -/
def cancelRequest (id : ℕ) (s : State) : State :=
  match findRequest id s with
  | none => s
  | some r => deleteRequest id (callback find r .error [] s)

/-- The loop of `gabble_disco_pipeline_destroy`; `none` when that many rounds are not
enough.  A request that is `NULL` cannot be cancelled. -/
def cancelLoop : ℕ → State → Option State
  | 0, _ => none
  | rounds + 1, s =>
    match s.discoPipeline with
    | [] => some s
    | none :: _ => cancelLoop rounds s
    | some id :: _ => cancelLoop rounds (cancelRequest find id s)

/-- `gabble_disco_pipeline_destroy` before its loop. -/
def beginDestroy (s : State) : State :=
  let s : State := { s with running := false, out := s.out ++ [.destroyed] }
  match s.listRequest with
  | none => s
  | some id => { cancelRequest find id s with listRequest := none }

/-- `gabble_disco_pipeline_destroy`, when its loop ends within some rounds. -/
def pipelineDestroy (rounds : ℕ) (s : State) : Option State :=
  (cancelLoop find rounds (beginDestroy find s)).map fun s => { s with freed := true }

/-! ## Steps -/

/-- What can happen to a pipeline.  With an event come the outcomes of the requests it
sends. -/
inductive Event : Type where
  | reply (id : ℕ) (answer : Answer) (sends : List Bool) : Event
  | timeout (id : ℕ) (sends : List Bool) : Event
  | destroy : Event

/-- One event.  A pipeline is destroyed once, and a `gabble_disco_pipeline_destroy`
that does not return has no state after it. -/
def step (s : State) : Event → Option State
  | .reply id answer sends => some (requestReply find id answer sends s)
  | .timeout id sends =>
    (findRequest id s).map fun r => deleteRequest id (callback find r .error sends s)
  | .destroy =>
    if s.freed then none else pipelineDestroy find (s.discoPipeline.length + 1) s

end

end Disco
