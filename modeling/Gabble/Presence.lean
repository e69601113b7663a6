/-
# The presence of a contact

The model of `presence.c`: a contact is online with some resources, each with
its own status, capabilities and data forms, and the presence keeps an
aggregate of them.  The aggregate is recomputed in several functions, and each
of them refreshes another part of it.
-/
import Mathlib.Data.Finset.Basic
import Mathlib.Data.Finset.Union

/-- `GabbleCapabilitySet`: a set of namespaces. -/
abbrev CapabilitySet := Finset String

/-- A data form of a disco reply: its `FORM_TYPE` and its fields with their
values. -/
structure DataForm where
  formType : String
  fields : List (String × List String)
deriving DecidableEq

/-- `GabblePresenceId`, in increasing order of presence.  Plugins add values
after the ones named here. -/
abbrev PresenceId := ℕ

namespace PresenceId

def offline : PresenceId := 0
def unknown : PresenceId := 1
def error : PresenceId := 2
def lastUnavailable : PresenceId := error
def hidden : PresenceId := 3
def xa : PresenceId := 4
def away : PresenceId := 5
def dnd : PresenceId := 6
def available : PresenceId := 7
def chat : PresenceId := 8

end PresenceId

/-- `GABBLE_CLIENT_TYPE_PC` -/
def clientTypePc : ℕ := 16

/-- `struct _Resource` -/
structure Resource where
  name : String
  clientType : ℕ
  capSet : CapabilitySet
  dataForms : List DataForm
  capsSerial : ℕ
  status : PresenceId
  statusMessage : Option String
  priority : ℤ
  /-- the last time the resource was seen available -/
  lastAvailable : ℤ
deriving DecidableEq

/-- `_resource_new` -/
def Resource.new (name : String) : Resource where
  name := name
  clientType := 0
  capSet := ∅
  dataForms := []
  capsSerial := 0
  status := .offline
  statusMessage := none
  priority := 0
  lastAvailable := 0

/-- `GabblePresence` and its private part, without the nickname and the avatar. -/
structure Presence where
  status : PresenceId
  statusMessage : Option String
  clientTypes : ℕ
  /-- the aggregated capabilities of the resources -/
  capSet : CapabilitySet
  /-- the aggregated data forms of the resources -/
  dataForms : List DataForm
  noResourceStatusMessage : Option String
  resources : List Resource
  olpcViews : ℕ
  activeResource : Option String
deriving DecidableEq

namespace Presence

/-- `gabble_presence_new` -/
def new : Presence where
  status := .unknown
  statusMessage := none
  clientTypes := 0
  capSet := ∅
  dataForms := []
  noResourceStatusMessage := none
  resources := []
  olpcViews := 0
  activeResource := none

/-! ## Capabilities -/

/-- Capabilities and forms for one resource: a newer serial replaces the ones
there are, the same serial adds to them, an older one is ignored. -/
def addCaps (capSet : CapabilitySet) (dataForms : List DataForm) (serial : ℕ) (r : Resource) :
    Resource :=
  let r :=
    if serial > r.capsSerial then
      { r with capsSerial := serial, capSet := ∅, dataForms := [] }
    else r
  if serial ≥ r.capsSerial then
    { r with capSet := r.capSet ∪ capSet, dataForms := r.dataForms ++ dataForms }
  else r

/-- The loop of `gabble_presence_set_capabilities`, which refreshes the
aggregates as it goes. -/
def setCapabilitiesLoop (name : String) (update : Resource → Resource) :
    List Resource → CapabilitySet → List DataForm →
      List Resource × CapabilitySet × List DataForm
  | [], caps, forms => ([], caps, forms)
  | r :: rs, caps, forms =>
    let r := if r.name = name then update r else r
    let rest := setCapabilitiesLoop name update rs (caps ∪ r.capSet) (forms ++ r.dataForms)
    (r :: rest.1, rest.2)

/-- `gabble_presence_set_capabilities` -/
def setCapabilities (p : Presence) (resource : Option String) (capSet : CapabilitySet)
    (dataForms : List DataForm) (serial : ℕ) : Presence :=
  match resource with
  | none =>
    -- capabilities for the bare JID are ignored while there are resources
    if p.resources ≠ [] then p
    else { p with capSet := ∅ ∪ capSet, dataForms := [] ++ dataForms }
  | some name =>
    let r := setCapabilitiesLoop name (addCaps capSet dataForms serial) p.resources ∅ []
    { p with resources := r.1, capSet := r.2.1, dataForms := r.2.2 }

/-! ## Picking a resource -/

/-- `resource_better_than`; there is no `b` before the first choice. -/
def resourceBetterThan (a : Resource) (b : Option Resource) (preferredClientType : ℕ) : Bool :=
  if a.priority < 0 then false
  else
    match b with
    | none => true
    | some b =>
      let aP : Bool := a.clientType &&& preferredClientType ≠ 0
      let bP : Bool := b.clientType &&& preferredClientType ≠ 0
      if preferredClientType ≠ 0 ∧ aP ∧ !bP then true
      else if preferredClientType ≠ 0 ∧ !aP ∧ bP then false
      else if a.status < b.status then false
      else if a.status > b.status then true
      else if a.lastAvailable < b.lastAvailable then false
      else if a.lastAvailable > b.lastAvailable then true
      else a.priority > b.priority

/-- `gabble_presence_pick_resource_by_caps`; `none` for a null predicate. -/
def pickResourceByCaps (p : Presence) (preferredClientType : ℕ)
    (predicate : Option (CapabilitySet → Bool)) : Option String :=
  let chosen := p.resources.foldl (fun chosen res =>
    if predicate.any fun predicate => !predicate res.capSet then chosen
    else if resourceBetterThan res chosen preferredClientType then some res
    else chosen) none
  chosen.map Resource.name

/-! ## The aggregate -/

def isPc (r : Resource) : Bool := r.clientType &&& clientTypePc ≠ 0

/-- The choice of `aggregate_resources` between the best resource so far and the
next one. -/
def better (best : Option Resource) (r : Resource) : Option Resource :=
  match best with
  | none => some r
  | some b =>
    if r.status > b.status ∨
        (r.status = b.status ∧ (r.lastAvailable > b.lastAvailable ∨ r.priority > b.priority)) ∨
        (isPc r = true ∧ ¬ isPc b = true) then some r
    else some b

/-- Status, message and client types of the best resource, if there is one. -/
def adopt (p : Presence) (best : Option Resource) : Presence :=
  match best with
  | some best => { p with
      status := best.status
      statusMessage := best.statusMessage
      clientTypes := best.clientType
      activeResource := some best.name }
  | none => p

/-- A contact in a view is announced as available if nothing better is known. -/
def announceViews (p : Presence) : Presence :=
  if p.status ≤ PresenceId.hidden ∧ 0 < p.olpcViews then
    { p with status := PresenceId.available, statusMessage := none }
  else p

/-- `aggregate_resources`; the flag tells whether the client types changed. -/
def aggregateResources (p : Presence) : Presence × Bool :=
  let q : Presence := { p with
    capSet := p.resources.foldl (fun caps r => caps ∪ r.capSet) ∅
    status := PresenceId.offline }
  let q := announceViews (adopt q (p.resources.foldl better none))
  (q, decide (p.clientTypes ≠ q.clientTypes))

/-! ## Presence stanzas -/

/-- Status, message and priority of a resource that is available. -/
def refresh (status : PresenceId) (statusMessage : Option String) (priority now : ℤ)
    (r : Resource) : Resource :=
  { r with
    status := status
    statusMessage := statusMessage
    priority := priority
    lastAvailable := if status ≥ .available then now else r.lastAvailable }

/-- Update the resource called `name`, which is appended if it is not there. -/
def findOrCreate (name : String) (update : Resource → Resource) : List Resource → List Resource
  | [] => [update (Resource.new name)]
  | r :: rs => if r.name = name then update r :: rs else r :: findOrCreate name update rs

/-- The presence after an update, whether status or message changed, and whether
the client types did. -/
structure UpdateResult where
  presence : Presence
  changed : Bool
  updateClientTypes : Bool

/-- `gabble_presence_update` -/
def update (p : Presence) (resource : Option String) (status : PresenceId)
    (statusMessage : Option String) (priority now : ℤ) : UpdateResult :=
  match resource with
  | none =>
    -- presence from the bare JID throws all the resources away
    let q : Presence := { p with
      resources := []
      noResourceStatusMessage := statusMessage
      status := status
      statusMessage := statusMessage }
    ⟨q, decide (q.status ≠ p.status ∨ q.statusMessage ≠ p.statusMessage), false⟩
  | some name =>
    let q : Presence :=
      if status ≤ PresenceId.lastUnavailable then
        { p with
          resources := p.resources.eraseP fun r => r.name = name
          statusMessage := none }
      else
        { p with
          resources := findOrCreate name (refresh status statusMessage priority now) p.resources
          statusMessage := statusMessage }
    let r := aggregateResources { q with capSet := ∅, status := PresenceId.offline }
    ⟨r.1, decide (r.1.status ≠ p.status ∨ r.1.statusMessage ≠ p.statusMessage), r.2⟩

/-- The first resource called `name` gets its client types. -/
def setClientType (name : String) (clientTypes : ℕ) : List Resource → List Resource
  | [] => []
  | r :: rs =>
    if r.name = name then { r with clientType := clientTypes } :: rs
    else r :: setClientType name clientTypes rs

/-- `gabble_presence_update_client_types` -/
def updateClientTypes (p : Presence) (resource : Option String) (clientTypes : ℕ) :
    Presence × Bool :=
  match resource with
  | none =>
    if p.resources ≠ [] then (p, false)
    else ({ p with clientTypes := clientTypes }, decide (p.clientTypes ≠ clientTypes))
  | some name =>
    match p.resources.find? fun r => r.name = name with
    | none => (p, false)
    | some _ =>
      aggregateResources { p with resources := setClientType name clientTypes p.resources }

/-! ## Calls -/

/-- A call that changes a presence. -/
inductive Call : Type where
  | update (resource : Option String) (status : PresenceId) (statusMessage : Option String)
      (priority now : ℤ) : Call
  | setCapabilities (resource : Option String) (capSet : CapabilitySet)
      (dataForms : List DataForm) (serial : ℕ) : Call
  | updateClientTypes (resource : Option String) (clientTypes : ℕ) : Call

def call (p : Presence) : Call → Presence
  | .update resource status statusMessage priority now =>
    (p.update resource status statusMessage priority now).presence
  | .setCapabilities resource capSet dataForms serial =>
    p.setCapabilities resource capSet dataForms serial
  | .updateClientTypes resource clientTypes => (p.updateClientTypes resource clientTypes).1

end Presence
