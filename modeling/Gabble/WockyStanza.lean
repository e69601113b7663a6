/-
# Stanzas (`lib/ext/wocky/wocky/wocky-node.c`, `wocky-stanza.c`, `wocky-utils.c`)

A stanza is a tree of nodes.  What `get_type_from_node` and `get_sub_type_from_name` look up in
their tables is found here by matching on the same texts.  A namespace is a `GQuark`, which is 0
when there is none: here an `Option`.
-/
import Gabble.AddressingUri

namespace Wocky

open UriEscape (Bytes)
open CText (ascii)

/-! ## Nodes -/

/-- `Attribute`. -/
structure Attribute where
  key : Bytes
  ns : Option Bytes
  value : Bytes
  deriving DecidableEq

/-- `struct _WockyNode`. -/
inductive Node : Type where
  | mk (name : Bytes) (ns content language : Option Bytes) (attributes : List Attribute)
      (children : List Node) : Node

namespace Node

def name : Node → Bytes
  | mk name _ _ _ _ _ => name

def ns : Node → Option Bytes
  | mk _ ns _ _ _ _ => ns

def content : Node → Option Bytes
  | mk _ _ content _ _ _ => content

def language : Node → Option Bytes
  | mk _ _ _ language _ _ => language

def attributes : Node → List Attribute
  | mk _ _ _ _ attributes _ => attributes

def children : Node → List Node
  | mk _ _ _ _ _ children => children

/-- A namespace that a search asks for, if it asks for one. -/
def nsMatches (asked found : Option Bytes) : Bool := asked.isNone || found = asked

/-- `wocky_node_get_attribute_ns`. -/
def getAttributeNs (node : Node) (key : Bytes) (ns : Option Bytes) : Option Bytes :=
  (node.attributes.find? fun a => nsMatches ns a.ns && a.key = key).map Attribute.value

/-- `wocky_node_get_attribute`. -/
def getAttribute (node : Node) (key : Bytes) : Option Bytes := node.getAttributeNs key none

/-- `wocky_node_get_child_ns`. -/
def getChildNs (node : Node) (name : Bytes) (ns : Option Bytes) : Option Node :=
  node.children.find? fun c => nsMatches ns c.ns && c.name = name

mutual

/-- `wocky_node_is_superset`, of a node that there is. -/
def isSuperset (node : Node) : Node → Bool
  | mk name ns content _ attributes children =>
    node.name = name && nsMatches ns node.ns && (content.isNone || node.content = content) &&
      (attributes.all fun a => node.getAttributeNs a.key a.ns = some a.value) &&
      childrenSuperset node children

/-- The loop of `wocky_node_is_superset` over the children of the pattern. -/
def childrenSuperset (node : Node) : List Node → Bool
  | [] => true
  | pattern :: patterns =>
    (match node.getChildNs pattern.name pattern.ns with
      | none => false
      | some child => isSuperset child pattern) &&
      childrenSuperset node patterns

end

end Node

/-! ## Stanzas -/

/-- `WockyStanzaType`. -/
inductive StanzaType : Type where
  | none : StanzaType
  | message : StanzaType
  | presence : StanzaType
  | iq : StanzaType
  | stream : StanzaType
  | streamFeatures : StanzaType
  | auth : StanzaType
  | challenge : StanzaType
  | response : StanzaType
  | success : StanzaType
  | failure : StanzaType
  | streamError : StanzaType
  | unknown : StanzaType
  deriving DecidableEq

/-- `WockyStanzaSubType`. -/
inductive SubType : Type where
  | none : SubType
  | available : SubType
  | normal : SubType
  | chat : SubType
  | groupchat : SubType
  | headline : SubType
  | unavailable : SubType
  | probe : SubType
  | subscribe : SubType
  | unsubscribe : SubType
  | subscribed : SubType
  | unsubscribed : SubType
  | get : SubType
  | set : SubType
  | result : SubType
  | error : SubType
  | unknown : SubType
  deriving DecidableEq

/-- A stanza is its top node. -/
abbrev Stanza := Node

/-- `WOCKY_XMPP_NS_JABBER_CLIENT` -/
def nsJabberClient : Bytes := ascii "jabber:client"

/-- `WOCKY_XMPP_NS_STREAM` -/
def nsStream : Bytes := ascii "http://etherx.jabber.org/streams"

/-- `WOCKY_XMPP_NS_SASL_AUTH` -/
def nsSaslAuth : Bytes := ascii "urn:ietf:params:xml:ns:xmpp-sasl"

/-- `type_names`, without its first and its last entry. -/
def typeNames : List (StanzaType × Bytes × Bytes) :=
  [(.message, ascii "message", nsJabberClient), (.presence, ascii "presence", nsJabberClient),
    (.iq, ascii "iq", nsJabberClient), (.stream, ascii "stream", nsStream),
    (.streamFeatures, ascii "features", nsStream), (.auth, ascii "auth", nsSaslAuth),
    (.challenge, ascii "challenge", nsSaslAuth), (.response, ascii "response", nsSaslAuth),
    (.success, ascii "success", nsSaslAuth), (.failure, ascii "failure", nsSaslAuth),
    (.streamError, ascii "error", nsStream)]

/-- `sub_type_names`, without the entries that have no name. -/
def subTypeNames : List (SubType × Bytes) :=
  [(.normal, ascii "normal"), (.chat, ascii "chat"), (.groupchat, ascii "groupchat"),
    (.headline, ascii "headline"), (.unavailable, ascii "unavailable"), (.probe, ascii "probe"),
    (.subscribe, ascii "subscribe"), (.unsubscribe, ascii "unsubscribe"),
    (.subscribed, ascii "subscribed"), (.unsubscribed, ascii "unsubscribed"), (.get, ascii "get"),
    (.set, ascii "set"), (.result, ascii "result"), (.error, ascii "error")]

/-- `get_type_from_node` -/
def typeOf (stanza : Stanza) : StanzaType :=
  ((typeNames.find? fun t => stanza.ns = some t.2.2 && stanza.name = t.2.1).map Prod.fst).getD
    .unknown

/-- `get_sub_type_from_name`, of the attribute that `wocky_stanza_get_type_info` gives it -/
def subTypeOf (stanza : Stanza) : SubType :=
  match stanza.getAttribute (ascii "type") with
  | none => .none
  | some name => ((subTypeNames.find? fun t => name = t.2).map Prod.fst).getD .unknown

/-- `wocky_stanza_get_from` -/
def getFrom (stanza : Stanza) : Option Bytes := stanza.getAttribute (ascii "from")

/-- `wocky_stanza_get_to` -/
def getTo (stanza : Stanza) : Option Bytes := stanza.getAttribute (ascii "to")

/-- The `id` attribute of the top node. -/
def getId (stanza : Stanza) : Option Bytes := stanza.getAttribute (ascii "id")

/-- `wocky_node_set_attribute` -/
def Node.setAttribute (key value : Bytes) : Node → Node
  | .mk name ns content language attributes children =>
    .mk name ns content language
      (attributes.eraseP (fun a => a.key = key) ++ [⟨key, none, value⟩]) children

/-- An attribute, if there is a value for it. -/
def attributeIfAny (key : Bytes) (value : Option Bytes) : List Attribute :=
  value.toList.map fun value => ⟨key, none, value⟩

/-- `WOCKY_XMPP_NS_STANZAS` -/
def nsStanzas : Bytes := ascii "urn:ietf:params:xml:ns:xmpp-stanzas"

/-- `wocky_stanza_error_to_node`, of `WOCKY_XMPP_ERROR_SERVICE_UNAVAILABLE` without a message -/
def serviceUnavailable : Node :=
  .mk (ascii "error") (some nsJabberClient) none none
    [⟨ascii "code", none, ascii "503"⟩, ⟨ascii "type", none, ascii "cancel"⟩]
    [.mk (ascii "service-unavailable") (some nsStanzas) none none [] []]

/-- `wocky_stanza_build_iq_error`, with the error given; `none` when the IQ has no `id`. -/
def buildIqError (iq : Stanza) (error : Node) : Option Stanza :=
  (getId iq).map fun id =>
    .mk (ascii "iq") (some nsJabberClient) none none
      (⟨ascii "type", none, ascii "error"⟩ :: attributeIfAny (ascii "from") (getTo iq) ++
        attributeIfAny (ascii "to") (getFrom iq) ++ attributeIfAny (ascii "id") (some id))
      (iq.children.head?.toList ++ [error])

/-! ## JIDs -/

variable (g : Addressing.GLib)

/-- `wocky_compose_jid` -/
def composeJid : Addressing.Parts → Bytes := fun (node, domain, resource) =>
  let bare := match node with
    | some (c :: node) => c :: node ++ 64 :: domain
    | _ => domain
  match resource with
  | some (c :: resource) => if bare = [] then bare else bare ++ 47 :: c :: resource
  | _ => bare

/-- `wocky_normalise_jid` -/
def normaliseJid (jid : Option Bytes) : Option Bytes :=
  jid.bind fun jid => (Addressing.decodeJid g jid).map composeJid

end Wocky
