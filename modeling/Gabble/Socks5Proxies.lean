/-
# SOCKS5 proxies

The part of `bytestream-factory.c` that finds the proxies a SOCKS5 stream can be
relayed by.  Some are found on the connection by service discovery.  Others, the
fallback proxies, are named by a parameter of the connection or by a service that
has a list of them; the factory goes through that list with a cursor.  A proxy is
known when it has answered a query.

A pointer into the list is its link, and a link has a number of its own, so that a
pointer to a link that was freed is none of the list.  `log` is the history.
-/
import Gabble.BytestreamSocks5
import Gabble.ListCursor
import Gabble.RecentList
import Gabble.Transition

namespace Socks5Proxies

open Base64 (Bytes)
open Socks5 (Streamhost StreamhostNode)
open ListCursor RecentList Transition

/-- `NB_MIN_SOCKS5_PROXIES` -/
def nbMinSocks5Proxies : ℕ := 3

/-- `FALLBACK_PROXY_CACHE_SIZE` -/
def fallbackProxyCacheSize : ℕ := 5

/-- `PROXIES_LIST_LIFE_TIME`, in seconds. -/
def proxiesListLifeTime : ℤ := 6 * 60 * 60

/-! ## Data -/

/-- A link of `socks5_potential_proxies`. -/
structure Link where
  id : ℕ
  jid : Bytes
deriving DecidableEq

/-- A query to a proxy, with its user data. -/
structure Query where
  jid : Bytes
  fallback : Bool
deriving DecidableEq

/-- What is looked at in the reply to a query.  `streamhost` is `none` when there is
no such node. -/
structure Reply where
  sender : Option Bytes
  isError : Bool
  streamhost : Option StreamhostNode
deriving DecidableEq

/-- What has happened. -/
inductive Action : Type where
  | queried (jid : Bytes) (fallback : Bool) : Action
  | listRequested : Action
  /-- a call of `query_proxies`: the proxies of the list, and those that it queries -/
  | round (listed asked : List Bytes) : Action
  | confirmed (proxy : Streamhost) (fallback : Bool) : Action
  /-- a buggy proxy is removed from the list -/
  | removed (jid : Bytes) : Action
  | listReplaced (jids : List Bytes) : Action
deriving DecidableEq

/-- The part of `GabbleBytestreamFactoryPrivate` that is about proxies, and what has
no answer yet. -/
structure State where
  connected : Bool
  socks5Proxies : List Streamhost
  socks5FallbackProxies : List Streamhost
  socks5PotentialProxies : List Link
  nextQuery : Option Link
  proxiesListStamp : ℤ
  nextLink : ℕ
  queries : List Query
  listRequests : ℕ
  /-- a link that was freed has been used -/
  usedFreed : Bool
  log : List Action
deriving DecidableEq

/-- A new factory. -/
def State.new : State where
  connected := false
  socks5Proxies := []
  socks5FallbackProxies := []
  socks5PotentialProxies := []
  nextQuery := none
  proxiesListStamp := 0
  nextLink := 0
  queries := []
  listRequests := 0
  usedFreed := false
  log := []

def record (a : Action) (s : State) : State := { s with log := s.log ++ [a] }

/-! ## The proxies that are known -/

/-- `add_proxy_to_list` -/
def addProxyToList (proxy : Streamhost) (fallback : Bool) (s : State) : State :=
  if fallback then
    { s with socks5FallbackProxies :=
        touchAtMost Streamhost.jid fallbackProxyCacheSize proxy s.socks5FallbackProxies }
  else { s with socks5Proxies := touch Streamhost.jid proxy s.socks5Proxies }

/-- `gabble_bytestream_factory_get_socks5_proxies` -/
def getSocks5Proxies (s : State) : List Streamhost := s.socks5Proxies ++ s.socks5FallbackProxies

/-! ## Queries -/

/-- `send_proxy_query` -/
def sendProxyQuery (jid : Bytes) (fallback : Bool) (s : State) : State :=
  record (.queried jid fallback) { s with queries := s.queries ++ [⟨jid, fallback⟩] }

/-- `query_proxies` -/
def queryProxies (nbProxiesNeeded : ℕ) (s : State) : State :=
  match walk s.socks5PotentialProxies (min nbProxiesNeeded s.socks5PotentialProxies.length)
      s.nextQuery with
  | none => { s with usedFreed := true }
  | some (asked, next) =>
    let s := record (.round (s.socks5PotentialProxies.map Link.jid) (asked.map Link.jid))
      { s with nextQuery := next }
    asked.foldl (fun s link => sendProxyQuery link.jid true s) s

/-- `get_proxies_list` -/
def getProxiesList (s : State) : State :=
  record .listRequested { s with listRequests := s.listRequests + 1 }

/-- `gabble_bytestream_factory_query_socks5_proxies` -/
def querySocks5Proxies (now : ℤ) (s : State) : State :=
  if s.socks5PotentialProxies.isEmpty then getProxiesList s
  else
    let s := if now - s.proxiesListStamp > proxiesListLifeTime then getProxiesList s else s
    let nbProxiesFound := s.socks5Proxies.length + s.socks5FallbackProxies.length
    queryProxies
      (if nbProxiesFound ≥ nbMinSocks5Proxies then 1 else nbMinSocks5Proxies - nbProxiesFound) s

/-- New links for some jids. -/
def links (first : ℕ) (jids : List Bytes) : List Link :=
  (jids.zipIdx first).map fun p => ⟨p.2, p.1⟩

/-- The list becomes another one, with some new links; `randomize_g_slist` cuts it at
a random place and swaps the halves. -/
def setPotentialProxies (list : List Link) (cut fresh : ℕ) (s : State) : State :=
  { s with
    socks5PotentialProxies := list.rotate cut
    nextQuery := (list.rotate cut).head?
    nextLink := s.nextLink + fresh }

/-- `conn_status_changed_cb`, when the connection becomes connected: the jids of the
parameter. -/
def connStatusChangedCb (jids : List Bytes) (cut : ℕ) (s : State) : State :=
  setPotentialProxies ((links s.nextLink jids).reverse ++ s.socks5PotentialProxies) cut jids.length
    { s with connected := true }

/-- `proxies_disco_cb`: the jids of the items, or `none` when it has failed. -/
def proxiesDiscoCb (items : Option (List (Option Bytes))) (cut : ℕ) (now : ℤ) (s : State) :
    State :=
  let s := { s with listRequests := s.listRequests - 1 }
  match items with
  | none => s
  | some items =>
    let jids := items.filterMap id
    let s := { s with proxiesListStamp := now }
    if jids.isEmpty then s
    else
      querySocks5Proxies now
        (record (.listReplaced jids)
          (setPotentialProxies (links s.nextLink jids).reverse cut jids.length s))

/-- The proxy of a reply, when it has one. -/
def Reply.proxy (r : Reply) : Option Streamhost :=
  if r.sender.isNone || r.isError then none
  else
    match r.streamhost with
    | none => none
    | some node =>
      match node.jid, node.host, node.port with
      | some jid, some host, some port =>
        if port ≤ 0 || port > 65535 then none else some ⟨jid, host, port.toNat⟩
      | _, _, _ => none

/-- The link that is removed because of a bad reply. -/
def buggyLink (q : Query) (r : Reply) (s : State) : Option Link :=
  match q.fallback, r.sender with
  | true, some sender => s.socks5PotentialProxies.find? fun link => link.jid = sender
  | _, _ => none

/-- The end of `socks5_proxy_query_reply_cb` for a bad reply. -/
def proxyFailed (q : Query) (r : Reply) (s : State) : State :=
  let s :=
    match buggyLink q r s with
    | none => s
    | some link =>
      record (.removed link.jid)
        { s with socks5PotentialProxies := s.socks5PotentialProxies.erase link }
  queryProxies 1 s

/-- `socks5_proxy_query_reply_cb` -/
def proxyQueryReplyCb (q : Query) (r : Reply) (s : State) : State :=
  match r.proxy with
  | some proxy => record (.confirmed proxy q.fallback) (addProxyToList proxy q.fallback s)
  | none => proxyFailed q r s

/-- An item that service discovery has found. -/
structure DiscoItem where
  jid : Bytes
  category : String
  type : String
deriving DecidableEq

def DiscoItem.isProxy (item : DiscoItem) : Bool :=
  item.category = "proxy" && item.type = "bytestreams"

/-- `disco_item_found_cb` -/
def discoItemFoundCb (item : DiscoItem) (s : State) : State :=
  if item.isProxy then sendProxyQuery item.jid false s else s

/-! ## Steps -/

/-- What can happen. -/
inductive Event : Type where
  | connected (jids : List Bytes) (cut : ℕ) : Event
  | discoItemFound (item : DiscoItem) : Event
  /-- a stream is going to need proxies -/
  | proxiesNeeded (now : ℤ) : Event
  | proxiesDisco (items : Option (List (Option Bytes))) (cut : ℕ) (now : ℤ) : Event
  | queryReply (q : Query) (r : Reply) : Event
deriving DecidableEq

/-- Whether an event can happen now. -/
def enabled (s : State) : Event → Bool
  | .connected _ _ => !s.connected
  | .discoItemFound _ => s.connected
  | .proxiesNeeded _ => s.connected
  | .proxiesDisco _ _ _ => s.connected && s.listRequests ≠ 0
  | .queryReply q _ => s.connected && q ∈ s.queries

/-- What the code does when an event happens. -/
def handle (s : State) : Event → State
  | .connected jids cut => connStatusChangedCb jids cut s
  | .discoItemFound item => discoItemFoundCb item s
  | .proxiesNeeded now => querySocks5Proxies now s
  | .proxiesDisco items cut now => proxiesDiscoCb items cut now s
  | .queryReply q r => proxyQueryReplyCb q r { s with queries := s.queries.erase q }

/-- One event; nothing happens after a freed link was used. -/
def step (s : State) (e : Event) : Option State :=
  if s.usedFreed || !enabled s e then none else some (handle s e)

end Socks5Proxies
