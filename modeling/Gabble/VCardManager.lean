/-
# The vCard manager (`src/vcard-manager.c`)

The model of `GabbleVCardManager`: the cache of vCards with the requests that
wait for them, and the edits of the own vCard, which need a GET of the vCard and
a SET of its patched version.

The operations that can fail an assertion or read freed memory return
`Except Fault`.  Requests are heap objects: `delete_request` frees one, and a
pipeline item or a timer may still hold a pointer to it.  Callbacks are entries
of the history, made in the order of the calls.

Ghost data: an edit carries the number of the edit request that asked for it,
and a SET the edits it was made from.
-/
import Mathlib.Data.List.AList
import Mathlib.Data.List.MinMax
import Mathlib.Logic.Function.Basic
import Gabble.Transition
import Gabble.VCard

namespace VCardManager

/-- `VCARD_CACHE_ENTRY_TTL`, in seconds. -/
def vcardCacheEntryTtl : ℕ := 60

/-- `default_request_timeout`, in seconds. -/
def defaultRequestTimeout : ℕ := 180

abbrev Handle := ℕ

/-- A pointer to a `GabbleVCardManagerRequest`. -/
abbrev RequestId := ℕ

/-- A pointer to a `GabbleVCardManagerEditRequest`. -/
abbrev EditId := ℕ

/-- A pointer to an item of the request pipeline. -/
abbrev ItemId := ℕ

/-- A failing assertion, or an access to freed memory. -/
inductive Fault : Type where
  | freedRequest : Fault
  | freedEntry : Fault
  | freedItem : Fault
  | assertSuspendedTimer : Fault
  | assertPendingEdits : Fault
  | assertNoVCard : Fault
  | assertPatchedVCard : Fault
  | assertPipelineItem : Fault
  | assertNoPipelineItem : Fault
  | assertNoTimer : Fault
  deriving DecidableEq

/-- `struct _GabbleVCardManagerRequest`: `handle` is the handle of its entry, and
`timer` and `bound` say that `timer_id` and `bound_object` are set.  The callback
is the request's number; one without a callback has one that does nothing. -/
structure Request where
  handle : Handle
  timer : Bool
  timeout : ℕ
  bound : Bool
  deriving DecidableEq

/-- `struct _GabbleVCardManagerEditRequest`. -/
structure EditRequest where
  id : EditId
  setInPipeline : Bool
  bound : Bool
  deriving DecidableEq

/-- `struct _GabbleVCardCacheEntry`.  `suspended` is the request that the timer
`suspended_timer_id` is for. -/
structure Entry (β : Type) where
  pipelineItem : Option ItemId
  pendingRequests : List RequestId
  suspended : Option RequestId
  vcardNode : Option (VCard β)
  expires : ℕ
  deriving DecidableEq

/-- A new cache entry. -/
def Entry.new (β : Type) : Entry β where
  pipelineItem := none
  pendingRequests := []
  suspended := none
  vcardNode := none
  expires := 0

/-- A GET in the pipeline, with the request that is its user data. -/
structure GetItem where
  id : ItemId
  userData : RequestId
  timeout : ℕ
  deriving DecidableEq

/-- An edit, and the edit request it belongs to. -/
structure Edit (β : Type) where
  owner : Option EditId
  info : EditInfo β
  deriving DecidableEq

/-- A SET in the pipeline, with the edits its vCard was patched with. -/
structure SetItem (β : Type) where
  id : ItemId
  edits : List (Edit β)
  deriving DecidableEq

/-- The errors a request is completed with. -/
inductive Error : Type where
  | cancelled : Error
  | disconnected : Error
  | getFailed : Error
  deriving DecidableEq

/-- The history of the requests. -/
inductive Action (β : Type) : Type where
  | called (r : RequestId) (result : Except Error (Option (VCard β))) : Action β
  | orphaned (r : RequestId) : Action β
  deriving DecidableEq

/-- The history of the edits. -/
inductive EditAction (β : Type) : Type where
  | requested (q : EditId) (infos : List (EditInfo β)) : EditAction β
  | removed (q : EditId) : EditAction β
  | sent (i : ItemId) (edits : List (Edit β)) : EditAction β
  | answered (i : ItemId) (success : Bool) : EditAction β
  | called (q : EditId) (success : Bool) : EditAction β
  deriving DecidableEq

/-- The status of the connection. -/
inductive Status : Type where
  | new : Status
  | connected : Status
  | disconnected : Status
  deriving DecidableEq

/-- The manager, its share of the request pipeline, and the history. -/
structure State (β : Type) where
  conn : Connection β
  status : Status
  disposed : Bool
  cache : AList fun _ : Handle => Entry β
  timedCache : List Handle
  cacheTimer : Bool
  edits : List (Edit β)
  editPipelineItem : Option ItemId
  editRequests : List EditRequest
  patchedVCard : Option (VCard β)
  /-- The heap of requests. -/
  requests : RequestId → Option Request
  nextRequest : RequestId
  nextEdit : EditId
  gets : List GetItem
  sets : List (SetItem β)
  nextItem : ItemId
  log : List (Action β)
  editLog : List (EditAction β)
  fault : Option Fault

/-- `gabble_vcard_manager_new`. -/
def State.new {β : Type} (conn : Connection β) : State β where
  conn := conn
  status := .new
  disposed := false
  cache := ∅
  timedCache := []
  cacheTimer := false
  edits := []
  editPipelineItem := none
  editRequests := []
  patchedVCard := none
  requests := fun _ => none
  nextRequest := 0
  nextEdit := 0
  gets := []
  sets := []
  nextItem := 0
  log := []
  editLog := []
  fault := none

namespace State

variable {β : Type}

/-! ## The cache -/

def entry (s : State β) (h : Handle) : Option (Entry β) := s.cache.lookup h

def setEntry (s : State β) (h : Handle) (entry : Entry β) : State β :=
  { s with cache := s.cache.insert h entry }

def setRequest (s : State β) (r : RequestId) (request : Option Request) : State β :=
  { s with requests := Function.update s.requests r request }

/-- Add to the history of the requests. -/
def record (s : State β) (a : Action β) : State β := { s with log := s.log ++ [a] }

/-- `cache_entry_get`, for its effect: there is an entry. -/
def cacheEntryGet (s : State β) (h : Handle) : State β :=
  match s.entry h with
  | some _ => s
  | none => s.setEntry h (Entry.new β)

/-- The entry leaves the heap and the table.  With nothing pending and nothing in
the pipeline `cache_entry_free` does nothing else. -/
def cacheEntryFree (s : State β) (h : Handle) : State β :=
  { s with timedCache := s.timedCache.erase h, cache := s.cache.erase h }

/-- `cache_entry_attempt_to_free`. -/
def cacheEntryAttemptToFree (s : State β) (h : Handle) : Except Fault (State β) :=
  match s.entry h with
  | none => .error .freedEntry
  | some entry =>
    if entry.vcardNode.isSome then .ok s
    else if entry.pipelineItem.isSome then .ok s
    else if entry.pendingRequests ≠ [] then .ok s
    else if entry.suspended.isSome then .error .assertSuspendedTimer
    else if h = s.conn.selfHandle ∧ s.editPipelineItem = none ∧ s.edits.isEmpty = false then
      .error .assertPendingEdits
    else .ok (s.cacheEntryFree h)

/-- `gabble_vcard_manager_invalidate_cache`. -/
def invalidateCache (s : State β) (h : Handle) : Except Fault (State β) :=
  match s.entry h with
  | none => .ok s
  | some entry =>
    { s with timedCache := s.timedCache.erase h }.setEntry h { entry with vcardNode := none }
      |>.cacheEntryAttemptToFree h

/-- `delete_request`. -/
def deleteRequest (s : State β) (r : RequestId) : Except Fault (State β) :=
  match s.requests r with
  | none => .error .freedRequest
  | some request =>
    match s.entry request.handle with
    | none => .error .freedEntry
    | some entry => do
      let s' := s.setEntry request.handle
        { entry with pendingRequests := entry.pendingRequests.erase r }
      return (← s'.cacheEntryAttemptToFree request.handle).setRequest r none

/-- `complete_one_request`. -/
def completeOneRequest (result : Except Error (Option (VCard β))) (s : State β)
    (r : RequestId) : Except Fault (State β) :=
  (s.record (.called r result)).deleteRequest r

/-- `cache_entry_complete_requests`. -/
def cacheEntryCompleteRequests (s : State β) (h : Handle) (error : Option Error) :
    Except Fault (State β) :=
  match s.entry h with
  | none => .error .freedEntry
  | some entry =>
    let result := match error with
      | some e => .error e
      | none => .ok entry.vcardNode
    entry.pendingRequests.foldlM (completeOneRequest result) s

/-- `notify_delete_request`. -/
def notifyDeleteRequest (s : State β) (r : RequestId) : Except Fault (State β) :=
  (s.record (.orphaned r)).deleteRequest r

/-- `request_send`. -/
def requestSend (s : State β) (r : RequestId) : Except Fault (State β) :=
  match s.requests r with
  | none => .error .freedRequest
  | some request =>
    if request.timer then .error .assertNoTimer
    else
      match s.entry request.handle with
      | none => .error .freedEntry
      | some entry =>
        if entry.pipelineItem.isSome then .ok s
        else if entry.suspended.isSome then .ok s
        else
          .ok { (s.setRequest r (some { request with timer := true })).setEntry request.handle
                  { entry with pipelineItem := some s.nextItem } with
                gets := s.gets ++ [⟨s.nextItem, r, request.timeout⟩]
                nextItem := s.nextItem + 1 }

/-- `gabble_vcard_manager_request`. -/
def request (s : State β) (h : Handle) (timeout : ℕ) (bound : Bool) :
    Except Fault (State β) :=
  let s := s.cacheEntryGet h
  if s.status ≠ .connected then .ok s
  else
    match s.entry h with
    | none => .error .freedEntry
    | some entry =>
      if entry.vcardNode.isSome then .error .assertNoVCard
      else
        let r := s.nextRequest
        let s' := (s.setRequest r (some
            { handle := h, timer := false,
              timeout := if timeout = 0 then defaultRequestTimeout else timeout
              bound := bound })).setEntry h
          { entry with pendingRequests := r :: entry.pendingRequests }
        { s' with nextRequest := r + 1 }.requestSend r

/-! ## The edits of the own vCard -/

variable [DecidableEq β]

/-- `manager_patch_vcard`. -/
def managerPatchVCard (s : State β) (oldVCardNode : VCard β) : State β :=
  if s.edits.isEmpty = true ∨ s.editPipelineItem ≠ none then s
  else
    let (changed, vcardNode) := applyEdits s.conn (s.edits.map Edit.info) oldVCardNode
    let s' :=
      if changed then
        { s with
          patchedVCard := some vcardNode
          editPipelineItem := some s.nextItem
          sets := s.sets ++ [⟨s.nextItem, s.edits⟩]
          nextItem := s.nextItem + 1
          editLog := s.editLog ++ [.sent s.nextItem s.edits] }
      else s
    { s' with
      edits := []
      editRequests := s'.editRequests.map fun q => { q with setInPipeline := true } }

/-- The loop of `replace_reply_cb` over the edit requests: call and remove the
ones in the SET that returned, or all of them after an error. -/
def completeEditRequests (s : State β) (success : Bool) : State β :=
  { s with
    editRequests := s.editRequests.filter fun q => !(q.setInPipeline || !success)
    editLog := s.editLog ++
      (s.editRequests.filter fun q => q.setInPipeline || !success).map
        fun q => .called q.id success }

/-- A SET leaves the pipeline. -/
def answerSet (s : State β) (i : ItemId) (success : Bool) : State β :=
  { s with
    sets := s.sets.filter fun item => item.id ≠ i
    editLog := s.editLog ++ [.answered i success] }

/-- `replace_reply_cb`. -/
def replaceReplyCb (s : State β) (success : Bool) : Except Fault (State β) :=
  let s := { s with editPipelineItem := none }
  if !success then
    .ok { { s with patchedVCard := none }.completeEditRequests false with edits := [] }
  else
    let s := s.cacheEntryGet s.conn.selfHandle
    match s.patchedVCard, s.entry s.conn.selfHandle with
    | none, _ => .error .assertPatchedVCard
    | some _, none => .error .freedEntry
    | some node, some entry =>
      let s := { s with patchedVCard := none }.setEntry s.conn.selfHandle
        { entry with vcardNode := some node }
      .ok ((s.completeEditRequests true).managerPatchVCard node)

/-- The part of `gabble_vcard_manager_edit` that makes sure that the own vCard is
going to come, with a GET that has no callback. -/
def ensureGet (s : State β) (h : Handle) : Except Fault (State β) :=
  let idle := s.editPipelineItem.isNone &&
    (s.entry h).any fun entry => entry.pendingRequests.isEmpty
  if idle then s.request h 0 false else .ok s

/-- The part of `gabble_vcard_manager_edit` that queues the edits. -/
def addEditRequest (s : State β) (infos : List (EditInfo β)) (bound : Bool) : State β :=
  { s with
    edits := s.edits ++ infos.map fun info => ⟨some s.nextEdit, info⟩
    editRequests := s.editRequests ++ [⟨s.nextEdit, false, bound⟩]
    nextEdit := s.nextEdit + 1
    editLog := s.editLog ++ [.requested s.nextEdit infos] }

/-- `gabble_vcard_manager_edit`. -/
def edit (s : State β) (infos : List (EditInfo β)) (bound : Bool) : Except Fault (State β) :=
  if s.status ≠ .connected then .ok s
  else do
    let h := s.conn.selfHandle
    let s ← s.invalidateCache h
    let s ← (s.cacheEntryGet h).ensureGet h
    return s.addEditRequest infos bound

/-- `gabble_vcard_manager_remove_edit_request` and `notify_delete_edit_request`. -/
def removeEditRequest (s : State β) (q : EditId) : State β :=
  { s with
    editRequests := s.editRequests.filter fun request => request.id ≠ q
    editLog := s.editLog ++ [.removed q] }

/-- `cancel_all_edit_requests`. -/
def cancelAllEditRequests (s : State β) : State β :=
  { s with
    editRequests := []
    editLog := s.editLog ++ s.editRequests.map fun q => .called q.id false }

end State

/-! ## Replies and timers -/

/-- How a GET ends, as far as `pipeline_reply_cb` looks.  `error` is any other
error, also one of the pipeline itself, which comes with no reply. -/
inductive GetResult (β : Type) : Type where
  | success (vcardNode : Option (VCard β)) : GetResult β
  | itemNotFound (vcardNode : Option (VCard β)) : GetResult β
  | wait : GetResult β
  | error : GetResult β
  deriving DecidableEq

namespace State

variable {β : Type} [DecidableEq β]

/-- The part of `pipeline_reply_cb` that gives up the pending edits when the GET of
the own vCard has failed. -/
def failPendingEdits (s : State β) (h : Handle) : Except Fault (State β) :=
  let s' : State β := { s with edits := [] }
  if h = s.conn.selfHandle ∧ s.edits.isEmpty = false then s'.replaceReplyCb false else .ok s

/-- `pipeline_reply_cb` for a failing GET. -/
def pipelineReplyError (s : State β) (h : Handle) : Except Fault (State β) := do
  (← s.failPendingEdits h).cacheEntryCompleteRequests h (some .getFailed)

/-- `pipeline_reply_cb` for a GET that succeeds, or finds that there is no vCard. -/
def pipelineReplySuccess (s : State β) (h : Handle) (entry : Entry β) (now : ℕ)
    (vcardNode : VCard β) : Except Fault (State β) :=
  let s := { s.setEntry h { entry with
                vcardNode := some vcardNode, expires := now + vcardCacheEntryTtl } with
             timedCache := s.timedCache ++ [h], cacheTimer := true }
  let s := if h = s.conn.selfHandle then s.managerPatchVCard vcardNode else s
  s.cacheEntryCompleteRequests h none

/-- `pipeline_reply_cb`. -/
def pipelineReplyCb (s : State β) (r : RequestId) (result : GetResult β) (now : ℕ) :
    Except Fault (State β) :=
  match s.requests r with
  | none => .error .freedRequest
  | some request =>
    match s.entry request.handle with
    | none => .error .freedEntry
    | some entry =>
      if entry.pipelineItem.isNone then .error .assertPipelineItem
      else if entry.suspended.isSome then .error .assertSuspendedTimer
      else
        let entry := { entry with pipelineItem := none }
        let s := s.setEntry request.handle entry
        match result with
        | .wait =>
          .ok ((s.setRequest r (some { request with timer := false })).setEntry
            request.handle { entry with suspended := some r })
        | .error => s.pipelineReplyError request.handle
        | .itemNotFound node =>
          s.pipelineReplySuccess request.handle entry now (node.getD [])
        | .success node => s.pipelineReplySuccess request.handle entry now (node.getD [])

/-- `gabble_request_pipeline_item_cancel` for a GET: the pipeline calls
`pipeline_reply_cb` with an error. -/
def cancelGet (s : State β) (g : ItemId) : Except Fault (State β) :=
  match s.gets.find? (·.id == g) with
  | none => .error .freedItem
  | some get => { s with gets := s.gets.erase get }.pipelineReplyCb get.userData .error 0

/-- `timeout_request`. -/
def timeoutRequest (s : State β) (r : RequestId) (request : Request) :
    Except Fault (State β) :=
  let s := s.setRequest r (some { request with timer := false })
  match s.entry request.handle with
  | none => .error .freedEntry
  | some entry =>
    match entry.pipelineItem with
    | none => .error .freedItem
    | some g => s.cancelGet g

/-- `suspended_request_timeout_cb`. -/
def suspendedRequestTimeoutCb (s : State β) (r : RequestId) : Except Fault (State β) :=
  match s.requests r with
  | none => .error .freedRequest
  | some request =>
    match s.entry request.handle with
    | none => .error .freedEntry
    | some entry => (s.setEntry request.handle { entry with suspended := none }).requestSend r

/-- `tp_heap_peek_first` of the timed cache: an entry that expires first. -/
def peekFirst (s : State β) : Option Handle :=
  s.timedCache.argmin fun h => ((s.entry h).map Entry.expires).getD 0

/-- The loop of `cache_entry_timeout`; every round takes an entry off the heap. -/
def cacheEntryTimeoutLoop (now : ℕ) : ℕ → State β → Except Fault (State β)
  | 0, s => .ok s
  | rounds + 1, s =>
    match s.peekFirst with
    | none => .ok s
    | some h =>
      match s.entry h with
      | none => .error .freedEntry
      | some entry =>
        if entry.expires > now then .ok s
        else if entry.pipelineItem.isSome then .error .assertNoPipelineItem
        else do (← s.invalidateCache h).cacheEntryTimeoutLoop now rounds

/-- `cache_entry_timeout`. -/
def cacheEntryTimeout (s : State β) (now : ℕ) : Except Fault (State β) := do
  let s ← s.cacheEntryTimeoutLoop now s.timedCache.length
  return { s with cacheTimer := s.peekFirst.isSome }

/-- `disconnect_entry_foreach`.  When completing the requests frees the entry,
its `pipeline_item` is read from freed memory. -/
def disconnectEntry (s : State β) (h : Handle) : Except Fault (State β) :=
  match s.entry h with
  | none => .error .freedEntry
  | some entry => do
    let s ← (s.setEntry h { entry with suspended := none }).cacheEntryCompleteRequests h
      (some .disconnected)
    match s.entry h with
    | none => .error .freedEntry
    | some entry =>
      match entry.pipelineItem with
      | none => return s
      | some g =>
        let s ← s.cancelGet g
        match s.entry h with
        | none => .error .freedEntry
        | some entry => return s.setEntry h { entry with pipelineItem := none }

/-- `gabble_request_pipeline_item_cancel` for the SET, if there is one: the pipeline
calls `replace_reply_cb` with an error. -/
def cancelSet (s : State β) : Except Fault (State β) :=
  match s.editPipelineItem with
  | none => .ok s
  | some i => (s.answerSet i false).replaceReplyCb false

/-- `gabble_vcard_manager_dispose`. -/
def dispose (s : State β) : Except Fault (State β) := do
  let s := { s with disposed := true, edits := [], cacheTimer := false }
  let s ← s.cache.keys.foldlM disconnectEntry s
  let s ← cancelSet { s with timedCache := [], cache := ∅ }
  return s.cancelAllEditRequests

/-- `status_changed_cb`, when the connection becomes connected. -/
def statusChangedCb (s : State β) : Except Fault (State β) :=
  let s := { s with status := .connected }
  let unsent : List (Edit β) := match s.conn.cachedAlias with
    | none => []
    | some name => [⟨none, .setAlias (some name)⟩]
  let s := { s with edits := s.edits ++ unsent }
  s.request s.conn.selfHandle 0 true

end State

/-! ## Runs -/

/-- What can happen next.  `aliasChanged` is a change of the alias the rest of the
connection has for the local user. -/
inductive Event (β : Type) : Type where
  | connected : Event β
  | disconnected : Event β
  | aliasChanged (name : Option String) : Event β
  | request (h : Handle) (timeout : ℕ) (bound : Bool) : Event β
  | cancelRequest (r : RequestId) : Event β
  | orphan (r : RequestId) : Event β
  | edit (infos : List (EditInfo β)) (bound : Bool) : Event β
  | removeEditRequest (q : EditId) : Event β
  | orphanEdit (q : EditId) : Event β
  | invalidate (h : Handle) : Event β
  | getReply (g : ItemId) (result : GetResult β) (now : ℕ) : Event β
  | setReply (i : ItemId) (success : Bool) : Event β
  | requestTimeout (r : RequestId) : Event β
  | suspendedTimeout (h : Handle) : Event β
  | cacheTimeout (now : ℕ) : Event β
  | dispose : Event β
  deriving DecidableEq

variable {β : Type} [DecidableEq β]

/-- The operation an event runs, `none` when the event cannot happen. -/
def operation (s : State β) : Event β → Option (Except Fault (State β))
  | .connected => if s.status = .new then some s.statusChangedCb else none
  | .disconnected =>
    if s.status = .connected then some (.ok { s with status := .disconnected }) else none
  | .aliasChanged name => some (.ok { s with conn := { s.conn with cachedAlias := name } })
  | .request h timeout bound => some (s.request h timeout bound)
  | .cancelRequest r =>
    if (s.requests r).isSome then some (s.completeOneRequest (.error .cancelled) r) else none
  | .orphan r =>
    if (s.requests r).any Request.bound then some (s.notifyDeleteRequest r) else none
  | .edit infos bound => some (s.edit infos bound)
  | .removeEditRequest q =>
    if s.editRequests.any (·.id = q) then some (.ok (s.removeEditRequest q)) else none
  | .orphanEdit q =>
    if s.editRequests.any fun request => request.id = q ∧ request.bound then
      some (.ok (s.removeEditRequest q))
    else none
  | .invalidate h => some (s.invalidateCache h)
  | .getReply g result now =>
    match s.gets.find? (·.id == g) with
    | none => none
    | some get =>
      some ({ s with gets := s.gets.erase get }.pipelineReplyCb get.userData result now)
  | .setReply i success =>
    if s.sets.any (·.id = i) then
      some ((s.answerSet i success).replaceReplyCb success)
    else none
  | .requestTimeout r =>
    match s.requests r with
    | none => none
    | some request => if request.timer then some (s.timeoutRequest r request) else none
  | .suspendedTimeout h =>
    match (s.entry h).bind Entry.suspended with
    | none => none
    | some r => some (s.suspendedRequestTimeoutCb r)
  | .cacheTimeout now => if s.cacheTimer then some (s.cacheEntryTimeout now) else none
  | .dispose => some s.dispose

/-- One step.  Nothing happens any more after a fault, or after dispose. -/
def step (s : State β) (e : Event β) : Option (State β) :=
  if s.fault.isSome || s.disposed then none
  else
    (operation s e).map fun
      | .ok s' => s'
      | .error f => { s with fault := some f }

end VCardManager
