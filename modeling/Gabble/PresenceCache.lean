/-
# The presence cache

The model of `presence-cache.c` as far as capabilities go: presence stanzas name
URIs, the cache asks contacts what the URIs stand for, and the answers are given
to everybody who waits for them.  The state keeps, beside the fields of the
program, the full JIDs that have a handle of their own, the `disco#info` requests
under way, the signals, the reports the cache accepted and the capabilities it set.

A stanza comes from a JID, which the program turns into a handle and a resource:
the handle of a room member stands for the full JID, any other handle for the bare
one.  The caps cache shared with other programs keeps the first reply it is given for a
URI and may lose an entry at any time.  The hash of a reply is a parameter.
-/
import Gabble.DiscoReply
import Gabble.Transition
import Mathlib.Logic.Function.Basic

namespace PresenceCache

open CInt (guintSize)

/-- `CAPABILITY_BUNDLE_ENOUGH_TRUST` -/
def enoughTrust : ℕ := 5

/-! ## Data -/

/-- An address: the text before the first slash and the text after it. -/
@[ext] structure Jid where
  bare : String
  resource : Option String
deriving DecidableEq

/-- A contact handle stands for a bare JID, or for the full JID of a room member. -/
abbrev Handle := Jid

instance : Coe String Handle := ⟨fun bare => ⟨bare, none⟩⟩

/-- `DiscoWaiter` -/
structure Waiter where
  handle : Handle
  resource : Option String
  serial : ℕ
  discoRequested : Bool
  hash : Option String
  ver : Option String
deriving DecidableEq

/-- `GabbleCapabilityInfo`, without the identities of the own capabilities. -/
structure CapabilityInfo where
  capSet : Option CapabilitySet
  clientTypes : ℕ
  dataForms : List DataForm
  /-- the contacts that reported the capability set -/
  guys : Finset Handle
  trust : ℕ
  /-- the own capabilities were stored here -/
  complete : Bool
deriving DecidableEq

/-- The entry `capability_info_get` makes for a new URI. -/
def CapabilityInfo.new : CapabilityInfo where
  capSet := none
  clientTypes := 0
  dataForms := []
  guys := ∅
  trust := 0
  complete := false

/-- A `disco#info` request under way. -/
structure Request where
  uri : String
  jid : Jid
deriving DecidableEq

/-- What the callback of a request reads from the JID that was asked. -/
structure Answer where
  uri : String
  handle : Handle
  resource : Option String
deriving DecidableEq

/-- A reply the cache took into account, with what the contact had advertised. -/
structure Report where
  uri : String
  handle : Handle
  query : Query
  clientTypes : ℕ
  hash : Option String
  ver : Option String
deriving DecidableEq

/-- Capabilities set for a resource because of a URI, from a reply of `responder`
or else from what was stored. -/
structure Setting where
  handle : Handle
  resource : Option String
  uri : String
  capSet : CapabilitySet
  dataForms : List DataForm
  clientTypes : ℕ
  responder : Option Handle
deriving DecidableEq

/-- The signals of the cache. -/
inductive Signal : Type where
  | presencesUpdated (handle : Handle) : Signal
  | capabilitiesUpdate (handle : Handle) (old new : CapabilitySet) : Signal
  | clientTypesUpdated (handle : Handle) : Signal
  | capabilitiesDiscovered (handle : Handle) : Signal
deriving DecidableEq

structure State where
  selfHandle : Handle
  /-- the full JIDs that are contacts of their own -/
  members : Finset Jid
  presence : Handle → Option Presence
  capabilities : String → CapabilityInfo
  discoPending : String → List Waiter
  capsSerial : ℕ
  capsCache : String → Option Query
  requests : List Request
  signals : List Signal
  reports : List Report
  settings : List Setting

def emit (s : State) (signal : Signal) : State :=
  { s with signals := s.signals ++ [signal] }

def setPresence (s : State) (handle : Handle) (p : Option Presence) : State :=
  { s with presence := Function.update s.presence handle p }

def setInfo (s : State) (uri : String) (info : CapabilityInfo) : State :=
  { s with capabilities := Function.update s.capabilities uri info }

def setWaiters (s : State) (uri : String) (waiters : List Waiter) : State :=
  { s with discoPending := Function.update s.discoPending uri waiters }

def send (s : State) (requests : List Request) : State :=
  { s with requests := s.requests ++ requests }

def report (s : State) (r : Report) : State :=
  { s with reports := s.reports ++ [r] }

def record (s : State) (x : Setting) : State :=
  { s with settings := s.settings ++ [x] }

/-! ## Addresses -/

/-- `tp_handle_ensure`, and what follows the first slash. -/
def contactOf (s : State) (jid : Jid) : Handle × Option String :=
  (if jid ∈ s.members then jid else ⟨jid.bare, none⟩, jid.resource)

/-- The JID a handle and a resource were read from. -/
def fromJid (handle : Handle) (resource : Option String) : Jid :=
  if handle.resource.isSome then handle else ⟨handle.bare, resource⟩

/-- The handle and the resource are those of somebody's JID. -/
def IsContact (s : State) (handle : Handle) (resource : Option String) : Prop :=
  contactOf s (fromJid handle resource) = (handle, resource)

instance (s : State) (handle : Handle) (resource : Option String) :
    Decidable (IsContact s handle resource) :=
  inferInstanceAs (Decidable (_ = _))

def Answer.request (req : Answer) : Request := ⟨req.uri, fromJid req.handle req.resource⟩

/-! ## Waiters -/

/-- `disco_waiter_list_get_request_count`: one request is enough when its answer
can be verified. -/
def requestCount (waiters : List Waiter) : ℕ :=
  waiters.foldl (fun c w =>
    if w.discoRequested then
      if w.hash = some "sha-1" then (c + enoughTrust) % guintSize else (c + 1) % guintSize
    else c) 0

def isMatching (handle : Handle) (resource : Option String) (w : Waiter) : Bool :=
  w.handle = handle ∧ w.resource = resource

/-- `find_matching_waiter` -/
def findMatchingWaiter (waiters : List Waiter) (handle : Handle) (resource : Option String) :
    Option Waiter :=
  waiters.find? (isMatching handle resource)

/-- The waiter that matches gets a new serial. -/
def setSerial (handle : Handle) (resource : Option String) (serial : ℕ) : List Waiter → List Waiter
  | [] => []
  | w :: ws =>
    if isMatching handle resource w then { w with serial := serial } :: ws
    else w :: setSerial handle resource serial ws

/-- `redisco`, on the side of the waiter. -/
def ask (w : Waiter) : Waiter := { w with discoRequested := true }

/-- The JID a waiter sent its stanza from. -/
def Waiter.jid (w : Waiter) : Jid := fromJid w.handle w.resource

/-- The JID `redisco` puts together: the resource follows the name of the handle,
which for a room member ends in the resource already. -/
def Waiter.fullJid (w : Waiter) : Jid :=
  w.resource.elim w.handle fun resource =>
    ⟨w.handle.bare, some (w.handle.resource.elim resource (· ++ "/" ++ resource))⟩

/-- The request to a waiter, as `_process_caps_uri` sends it. -/
def requestTo (uri : String) (w : Waiter) : Request := ⟨uri, w.jid⟩

/-- The request `redisco` sends for a waiter. -/
def redisco (uri : String) (w : Waiter) : Request := ⟨uri, w.fullJid⟩

/-- The loop of `disco_failed`: the first waiter that was not asked, and the list
with that one asked. -/
def askFirst : List Waiter → Option (Waiter × List Waiter)
  | [] => none
  | w :: ws =>
    if w.discoRequested then (askFirst ws).map fun r => (r.1, w :: r.2)
    else some (w, ask w :: ws)

/-- The last loop of `_caps_disco_cb`: ask until the answers may give enough
trust.  The waiters before the loop variable are in `done`; the result is the list
and the waiters that were asked. -/
def askEnough (trust : ℕ) : List Waiter → List Waiter → List Waiter × List Waiter
  | done, [] => (done, [])
  | done, w :: ws =>
    if (trust + requestCount (done ++ w :: ws)) % guintSize ≥ enoughTrust then
      (done ++ w :: ws, [])
    else if w.discoRequested then askEnough trust (done ++ [w]) ws
    else
      let r := askEnough trust (done ++ [ask w]) ws
      (r.1, w :: r.2)

/-- `disco_failed` -/
def discoFailed (s : State) (uri : String) : State :=
  match askFirst (s.discoPending uri) with
  | some (w, waiters) => send (setWaiters s uri waiters) [redisco uri w]
  | none => setWaiters s uri []

/-! ## Replies -/

/-- `capability_info_recvd` -/
def capabilityInfoRecvd (info : CapabilityInfo) (handle : Handle) (capSet : CapabilitySet)
    (trustInc clientTypes : ℕ) (dataForms : List DataForm) : CapabilityInfo :=
  let info :=
    -- contacts that use the same node do not agree, or this is the first report
    if info.capSet ≠ some capSet then { info with guys := ∅, capSet := some capSet, trust := 0 }
    else info
  let info :=
    if handle ∈ info.guys then info
    else { info with guys := insert handle info.guys, trust := info.trust + trustInc }
  { info with clientTypes := clientTypes, dataForms := dataForms }

def emitCapabilitiesUpdate (s : State) (handle : Handle) (old new : CapabilitySet) : State :=
  if old = new then s else emit s (.capabilitiesUpdate handle old new)

def emitClientTypesUpdated (s : State) (handle : Handle) (changed : Bool) : State :=
  if changed then emit s (.clientTypesUpdated handle) else s

/-- `set_caps_for` -/
def setCapsFor (s : State) (uri : String) (w : Waiter) (capSet : CapabilitySet)
    (clientTypes : ℕ) (dataForms : List DataForm) (responder : Handle) : State :=
  match s.presence w.handle with
  | none => s
  | some p =>
    let q := p.setCapabilities w.resource capSet dataForms w.serial
    let r := q.updateClientTypes w.resource clientTypes
    let s := record s ⟨w.handle, w.resource, uri, capSet, dataForms, clientTypes, some responder⟩
    let s := setPresence s w.handle (some r.1)
    let s := emitCapabilitiesUpdate s w.handle p.capSet q.capSet
    emitClientTypesUpdated s w.handle r.2

/-- `wocky_caps_cache_insert` -/
def cacheInsert (cache : String → Option Query) (uri : String) (q : Query) :
    String → Option Query :=
  Function.update cache uri (some ((cache uri).getD q))

/-- The reply is trusted: everybody who waits for the URI is served. -/
def serveWaiters (s : State) (uri : String) (q : Query) (clientTypes : ℕ) (responder : Handle) :
    State :=
  let waiters := s.discoPending uri
  let s := { setWaiters s uri [] with capsCache := cacheInsert s.capsCache uri q }
  waiters.foldl (fun s w =>
    emit (setCapsFor s uri w q.capSet clientTypes q.dataForms responder)
      (.capabilitiesDiscovered w.handle)) s

/-- The reply is not trusted: the waiter that answered goes, and others are
asked. -/
def dropWaiter (s : State) (uri : String) (self : Waiter) (trust : ℕ) : State :=
  let waiters := (s.discoPending uri).eraseP (isMatching self.handle self.resource)
  let r := askEnough trust [] waiters
  let s := emit s (.capabilitiesDiscovered self.handle)
  send (setWaiters s uri r.1) (r.2.map (redisco uri))

/-- What a reply adds to the trust in its URI; nothing when its hash is bad.  Only
SHA-1 is checked. -/
def trustOf (capsHash : Query → Option String) (self : Waiter) (q : Query) : Option ℕ :=
  if self.hash = some "sha-1" then
    if (capsHash q).isSome ∧ self.ver = capsHash q then some enoughTrust else none
  else some 1

/-- `_caps_disco_cb` for a reply -/
def capsDiscoReply (capsHash : Query → Option String) (s : State) (req : Answer) (q : Query) :
    State :=
  match findMatchingWaiter (s.discoPending req.uri) req.handle req.resource with
  | none => s
  | some self =>
    match trustOf capsHash self q with
    | none => dropWaiter s req.uri self 0
    | some trustInc =>
      let clientTypes := q.clientTypes self.resource
      let info := capabilityInfoRecvd (s.capabilities req.uri) req.handle q.capSet trustInc
        clientTypes q.dataForms
      let s := report (setInfo s req.uri info)
        ⟨req.uri, req.handle, q, clientTypes, self.hash, self.ver⟩
      if info.trust ≥ enoughTrust then serveWaiters s req.uri q clientTypes req.handle
      else
        dropWaiter (setCapsFor s req.uri self q.capSet clientTypes q.dataForms req.handle)
          req.uri self info.trust

/-! ## Presence stanzas -/

/-- The attributes of a `c` node. -/
structure CapsNode where
  hash : Option String
  node : Option String
  ver : Option String
  ext : Option String
deriving DecidableEq

/-- `g_strsplit (ext, " ", 0)`: nothing comes out of the empty text. -/
def splitExt (ext : String) : List String :=
  if ext = "" then [] else (ext.toList.splitOn ' ').map String.ofList

/-- `_parse_cap_bundles`: the fragments of the URIs, in the order of their list.
With a hash the `ext` attribute is ignored. -/
def parseCapBundles (c : CapsNode) : List String :=
  match c.node with
  | none => []
  | some _ =>
    let uris := c.ver.toList
    if c.hash.isSome then uris
    else
      match c.ext with
      | none => uris
      | some ext => (splitExt ext).reverse ++ uris

def nsGoogleFeatVoice : String := "http://www.google.com/xmpp/protocol/voice/v1"
def nsGoogleFeatVideo : String := "http://www.google.com/xmpp/protocol/video/v1"
def nsGoogleFeatShare : String := "http://google.com/xmpp/protocol/share/v1"
def nsGoogleFeatCamera : String := "http://www.google.com/xmpp/protocol/camera/v1"

/-- `get_google_cap`: the capabilities of a fragment Google's clients use. -/
def getGoogleCap (fragment : String) : Option CapabilitySet :=
  if fragment = "voice-v1" then some {nsGoogleFeatVoice}
  else if fragment = "video-v1" then some {nsGoogleFeatVideo}
  else if fragment = "share-v1" then some {nsGoogleFeatShare}
  else if fragment = "sms-v1" ∨ fragment = "pmuc-v1" ∨ fragment = "camera-v1" then some ∅
  else none

def quirkGoogleWebmailClient : String := "\x07google-webmail-client"

/-- In the source the escape of the prefix character takes the first letter of
"android" as a digit. -/
def quirkAndroidGtalkClient : String := "\x7android-gtalk-client"

/-- The capabilities `_parse_node` sets for a node. -/
def nodeCaps (node : String) : Option CapabilitySet :=
  if node = "http://mail.google.com/xmpp/client/caps" then
    some {quirkGoogleWebmailClient, Query.quirkOmitsContentCreators}
  else if node = "http://www.android.com/gtalk/client/caps" ∨
      node = "http://www.android.com/gtalk/client/caps2" then
    some {quirkAndroidGtalkClient}
  else none

/-- Capabilities without forms for a contact, if its presence is known. -/
def setCapabilities (s : State) (handle : Handle) (resource : Option String)
    (capSet : CapabilitySet) (serial : ℕ) : State :=
  match s.presence handle with
  | none => s
  | some p => setPresence s handle (some (p.setCapabilities resource capSet [] serial))

/-- `_parse_node` -/
def parseNode (s : State) (handle : Handle) (resource : Option String) (c : CapsNode) (serial : ℕ) :
    State :=
  match c.node.bind nodeCaps with
  | none => s
  | some capSet => setCapabilities s handle resource capSet serial

/-- The branch of `_process_caps_uri` for a URI whose meaning is known: the
capabilities and the client types of the shared cache, or else those stored here.
The forms are always those stored here. -/
def applyStored (s : State) (uri : String) (handle : Handle) (resource : Option String)
    (serial : ℕ) : State :=
  match s.presence handle with
  | none => s
  | some p =>
    let info := s.capabilities uri
    let cached := s.capsCache uri
    let capSet := cached.elim (info.capSet.getD ∅) Query.capSet
    let types := cached.elim info.clientTypes fun q => q.clientTypes resource
    let q := p.setCapabilities resource capSet info.dataForms serial
    let r := q.updateClientTypes resource types
    let s := record s ⟨handle, resource, uri, capSet, info.dataForms, types, none⟩
    emitClientTypesUpdated (setPresence s handle (some r.1)) handle r.2

/-- The branch of `_process_caps_uri` for a URI whose meaning is not known. -/
def awaitUri (s : State) (uri : String) (handle : Handle) (resource hash ver : Option String)
    (serial : ℕ) : State :=
  let waiters := s.discoPending uri
  match findMatchingWaiter waiters handle resource with
  | some _ => setWaiters s uri (setSerial handle resource serial waiters)
  | none =>
    let w : Waiter := ⟨handle, resource, serial, false, hash, ver⟩
    if ((s.capabilities uri).trust + requestCount (w :: waiters)) % guintSize < enoughTrust then
      send (setWaiters s uri (ask w :: waiters)) [requestTo uri w]
    else setWaiters s uri (w :: waiters)

def uriOf (node fragment : String) : String := node ++ "#" ++ fragment

/-- Whether `_process_caps_uri` knows what a URI stands for. -/
def isKnown (s : State) (uri : String) (handle : Handle) : Bool :=
  (s.capsCache uri).isSome ∨ (s.capabilities uri).trust ≥ enoughTrust ∨
    handle ∈ (s.capabilities uri).guys

/-- What a fragment of Google's stands for; with a hash it is none. -/
def googleCap (hash : Option String) (fragment : String) : Option CapabilitySet :=
  if hash = none then getGoogleCap fragment else none

/-- `_process_caps_uri` -/
def processCapsUri (s : State) (handle : Handle) (resource : Option String) (node : String)
    (hash ver : Option String) (serial : ℕ) (fragment : String) : State :=
  let uri := uriOf node fragment
  if isKnown s uri handle then applyStored s uri handle resource serial
  else
    match googleCap hash fragment with
    | some capSet => setCapabilities s handle resource capSet serial
    | none => awaitUri s uri handle resource hash ver serial

/-- `gabble_presence_peek_caps`, nothing for an unknown contact. -/
def peekCaps (s : State) (handle : Handle) : CapabilitySet :=
  (s.presence handle).elim ∅ Presence.capSet

/-- The URIs of a `c` node, one after the other. -/
def processUris (s : State) (handle : Handle) (resource : Option String) (c : CapsNode)
    (serial : ℕ) : State :=
  (parseCapBundles c).foldl (fun s fragment =>
    processCapsUri s handle resource (c.node.getD "") c.hash c.ver serial fragment) s

/-- `_process_caps` -/
def processCaps (s : State) (handle : Handle) (resource : Option String) (caps : Option CapsNode) :
    State :=
  let serial := s.capsSerial
  let old := peekCaps s handle
  let s := { s with capsSerial := (serial + 1) % guintSize }
  match caps with
  | none => s
  | some c =>
    let s := processUris (parseNode s handle resource c serial) handle resource c serial
    emitCapabilitiesUpdate s handle old (peekCaps s handle)

/-- `gabble_presence_cache_maybe_remove` -/
def maybeRemove (s : State) (handle : Handle) : State :=
  match s.presence handle with
  | none => s
  | some p =>
    if (p.status = .offline ∨ p.status = .unknown) ∧ p.statusMessage = none then
      setPresence s handle none
    else s

/-- `gabble_presence_cache_update` -/
def update (s : State) (handle : Handle) (resource : Option String) (status : PresenceId)
    (statusMessage : Option String) (priority now : ℤ) : State :=
  let p := (s.presence handle).getD Presence.new
  let r := p.update resource status statusMessage priority now
  let s := setPresence s handle (some r.presence)
  let s := emitCapabilitiesUpdate s handle p.capSet r.presence.capSet
  let s := if r.changed then emit s (.presencesUpdated handle) else s
  maybeRemove (emitClientTypesUpdated s handle r.updateClientTypes) handle

/-- `gabble_presence_cache_caps_pending` -/
def capsPending (s : State) (handle : Handle) : Prop :=
  ∃ uri, ∃ w ∈ s.discoPending uri, w.handle = handle

/-! ## Known URIs -/

def nsGabbleCaps : String := "http://telepathy.freedesktop.org/caps"

/-- The bundles Gabble itself advertised once. -/
def bundles : List (String × String) :=
  [(uriOf nsGabbleCaps "voice-v1", nsGoogleFeatVoice),
    (uriOf nsGabbleCaps "video-v1", nsGoogleFeatVideo),
    (uriOf nsGabbleCaps "share-v1", nsGoogleFeatShare),
    (uriOf nsGabbleCaps "camera-v1", nsGoogleFeatCamera)]

/-- `gabble_presence_cache_add_bundle_caps` -/
def addBundleCaps (s : State) (uri ns : String) : State :=
  let info := s.capabilities uri
  setInfo s uri { info with
    capSet := some (insert ns (info.capSet.getD ∅))
    trust := enoughTrust }

/-- `gabble_presence_cache_add_own_caps` -/
def addOwnCaps (s : State) (ver : String) (capSet : CapabilitySet) (dataForms : List DataForm) :
    State :=
  let uri := uriOf nsGabbleCaps ver
  let info := s.capabilities uri
  if info.complete then s
  else
    setInfo s uri { info with
      capSet := some capSet
      complete := true
      trust := enoughTrust
      guys := insert s.selfHandle info.guys
      dataForms := dataForms }

/-- A new cache, with the bundles; the shared cache is as other runs left it. -/
def State.new (selfHandle : Handle) (capsCache : String → Option Query) : State :=
  bundles.foldl (fun s bundle => addBundleCaps s bundle.1 bundle.2)
    { selfHandle := selfHandle
      members := ∅
      presence := fun _ => none
      capabilities := fun _ => .new
      discoPending := fun _ => []
      capsSerial := 1
      capsCache := capsCache
      requests := []
      signals := []
      reports := []
      settings := [] }

/-! ## Events -/

inductive Event : Type where
  /-- a presence stanza of an available resource -/
  | presence (handle : Handle) (resource : Option String) (status : PresenceId)
      (statusMessage : Option String) (priority now : ℤ) (caps : Option CapsNode) : Event
  /-- a presence stanza of type "unavailable" or "error" -/
  | unavailable (handle : Handle) (resource : Option String) (status : PresenceId)
      (statusMessage : Option String) (priority now : ℤ) : Event
  | reply (req : Answer) (q : Query) : Event
  | error (req : Answer) : Event
  /-- somebody in a room gets a handle -/
  | roomMember (room nick : String) : Event
  /-- the program advertises capabilities of its own -/
  | addOwnCaps (ver : String) (capSet : CapabilitySet) (dataForms : List DataForm) : Event
  /-- the shared cache loses an entry -/
  | cacheLost (uri : String) : Event
deriving DecidableEq

/-- A request is answered. -/
def answered (s : State) (req : Answer) : State :=
  { s with requests := s.requests.erase req.request }

/-- The answer is one to a request under way. -/
def Answers (s : State) (req : Answer) : Prop :=
  req.request ∈ s.requests ∧ IsContact s req.handle req.resource

instance (s : State) (req : Answer) : Decidable (Answers s req) :=
  inferInstanceAs (Decidable (_ ∧ _))

/-- One event.  Only requests under way are answered. -/
def step (capsHash : Query → Option String) (s : State) : Event → Option State
  | .presence handle resource status statusMessage priority now caps =>
    if status > PresenceId.lastUnavailable ∧ IsContact s handle resource then
      some (processCaps (update s handle resource status statusMessage priority now) handle
        resource caps)
    else none
  | .unavailable handle resource status statusMessage priority now =>
    if status ≤ PresenceId.lastUnavailable ∧ IsContact s handle resource then
      some (update s handle resource status statusMessage priority now)
    else none
  | .reply req q =>
    if Answers s req then some (capsDiscoReply capsHash (answered s req) req q) else none
  | .error req =>
    if Answers s req then some (discoFailed (answered s req) req.uri) else none
  | .roomMember room nick => some { s with members := insert ⟨room, some nick⟩ s.members }
  | .addOwnCaps ver capSet dataForms => some (addOwnCaps s ver capSet dataForms)
  | .cacheLost uri => some { s with capsCache := Function.update s.capsCache uri none }

end PresenceCache
