/-
# Disco replies

What the presence cache reads of a `disco#info` reply: the capability set, after
`gabble_capability_set_new_from_stanza` of `capabilities.c`, the client types and
the data forms.
-/
import Gabble.CInt
import Gabble.DecimalText
import Gabble.Presence

/-- An `identity` node with its attributes. -/
structure Identity where
  category : Option String
  type : Option String
  lang : Option String
  name : Option String
deriving DecidableEq

/-- The `query` node of a `disco#info` reply: the `var` attributes of its
features, its identities and its data forms. -/
structure Query where
  features : List String
  identities : List Identity
  dataForms : List DataForm
deriving DecidableEq

namespace Query

open DecimalText (strtol numberEnd)

/-! ## Capabilities -/

def quirkPrefixChar : Char := '\x07'

def quirkOmitsContentCreators : String := "\x07omits-content-creators"

/-- `omits_content_creators`: Gabble since 0.7.16 and before 0.7.29.  The `long` that
`strtol` returns is stored in an `int`. -/
def omitsContentCreators (identity : Identity) : Bool :=
  match identity.name with
  | none => false
  | some name =>
    let text := "Telepathy Gabble 0.7.".toList
    if text.isPrefixOf name.toList then
      let suffix := name.toList.drop text.length
      let ver := CInt.gint (strtol 64 suffix)
      numberEnd suffix = [] ∧ 16 ≤ ver ∧ ver < 29
    else false

/-- `gabble_capability_set_new_from_stanza`: the features, less those that look
like a quirk, and the quirk the identities tell. -/
def capSet (q : Query) : CapabilitySet :=
  (q.features.filter fun var => var.toList.head? ≠ some quirkPrefixChar).toFinset ∪
    if q.identities.any omitsContentCreators then {quirkOmitsContentCreators} else ∅

/-! ## Client types -/

def clientTypePhone : ℕ := 32

/-- The flag of `GabbleClientType` with a given nick. -/
def flagFromNick (nick : String) : Option ℕ :=
  [("bot", 1), ("console", 2), ("game", 4), ("handheld", 8), ("pc", clientTypePc),
    ("phone", clientTypePhone), ("web", 64), ("sms", 128)].lookup nick

/-- What one identity tells of the client type.  A registered account whose
resource starts with "android" counts as a phone. -/
def identityClientType (resource : Option String) (identity : Identity) : ℕ :=
  match identity.category, identity.type with
  | some category, some type =>
    if category = "account" ∧
        (∃ name ∈ resource, "android".toList.isPrefixOf name.toList = true) ∧
        type = "registered" then clientTypePhone
    else if category = "client" then (flagFromNick type).getD 0
    else 0
  | _, _ => 0

/-- `client_types_from_message` -/
def clientTypes (q : Query) (resource : Option String) : ℕ :=
  q.identities.foldl (fun types identity => types ||| identityClientType resource identity) 0

end Query
