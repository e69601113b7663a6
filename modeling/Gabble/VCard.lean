/-
# vCards and the edits made to them (`src/vcard-manager.c`)

A vCard is the list of its fields.  What is inside an element (text, attributes,
children) is a type `β` with decidable equality, which stands for
`wocky_node_equal`; the edit functions only compare, copy and drop elements, and
build one from the text of an alias.

Every `apply` function works on the vCard it is given and says whether it
changed it, as the C functions do.
-/
import Mathlib.Data.List.Basic

namespace VCardManager

/-- A child element of a vCard. -/
structure Field (β : Type) where
  name : String
  body : β
  deriving DecidableEq

abbrev VCard (β : Type) := List (Field β)

/-- The parts of the connection that the edit functions look at. -/
structure Connection (β : Type) where
  selfHandle : ℕ
  /-- `GABBLE_CONNECTION_FEATURES_GOOGLE_ROSTER`. -/
  googleRoster : Bool
  /-- The alias of the local user, when its source is at least
  `GABBLE_CONNECTION_ALIAS_FROM_VCARD`. -/
  cachedAlias : Option String
  /-- The inside of an element that holds just a text. -/
  text : String → β

/-- `struct _GabbleVCardManagerEditInfo`, by `edit_type`. -/
inductive EditInfo (β : Type) : Type where
  | replace (element : Field β) : EditInfo β
  | append (element : Field β) : EditInfo β
  | delete (elementName : String) : EditInfo β
  | clear : EditInfo β
  | setAlias (newAlias : Option String) : EditInfo β
  deriving DecidableEq

variable {β : Type}

/-- `gabble_vcard_manager_can_use_vcard_field`: Google's server only allows N,
FN, PHOTO and URL. -/
def Connection.canUseVCardField (conn : Connection β) (fieldName : String) : Bool :=
  !conn.googleRoster || ["N", "FN", "PHOTO", "URL"].contains fieldName

/-- `remove_all_children_named`. -/
def removeAllChildrenNamed (name : String) (vcard : VCard β) : Bool × VCard β :=
  (vcard.any (·.name == name), vcard.filter (·.name != name))

/-- `gabble_vcard_manager_edit_info_apply_clear`: the photo stays. -/
def applyClear (vcard : VCard β) : Bool × VCard β :=
  (vcard.any (·.name != "PHOTO"), vcard.filter (·.name == "PHOTO"))

/-- `wocky_node_get_child`. -/
def getChild (vcard : VCard β) (name : String) : Option (Field β) :=
  vcard.find? (·.name == name)

/-- `gabble_vcard_manager_edit_info_apply_append`. -/
def applyAppend (conn : Connection β) (element : Field β) (vcard : VCard β) :
    Bool × VCard β :=
  if conn.canUseVCardField element.name then (true, vcard ++ [element]) else (false, vcard)

variable [DecidableEq β]

/-- The loop of `gabble_vcard_manager_replace_is_significant`. -/
def replaceIsSignificantLoop (element : Field β) : Bool → VCard β → Bool
  | seen, [] => !seen
  | seen, node :: nodes =>
    if node.name ≠ element.name then replaceIsSignificantLoop element seen nodes
    else if seen then true
    else if node ≠ element then true
    else replaceIsSignificantLoop element true nodes

/-- `gabble_vcard_manager_replace_is_significant`. -/
def replaceIsSignificant (element : Field β) (oldVCard : VCard β) : Bool :=
  replaceIsSignificantLoop element false oldVCard

/-- `gabble_vcard_manager_edit_info_apply_replace`. -/
def applyReplace (conn : Connection β) (element : Field β) (vcard : VCard β) :
    Bool × VCard β :=
  if !conn.canUseVCardField element.name then (false, vcard)
  else if !replaceIsSignificant element vcard then (false, vcard)
  else (true, (removeAllChildrenNamed element.name vcard).2 ++ [element])

/-- `gabble_vcard_manager_edit_info_apply_set_alias`. -/
def applySetAlias (conn : Connection β) (newAlias : Option String) (vcard : VCard β) :
    Bool × VCard β :=
  let elementName := if conn.canUseVCardField "NICKNAME" then "NICKNAME" else "FN"
  match newAlias with
  | some given => applyReplace conn ⟨elementName, conn.text given⟩ vcard
  | none =>
    -- what the user has set explicitly takes precedence
    if (getChild vcard elementName).isSome then (false, vcard)
    else
      match conn.cachedAlias with
      | none => (false, vcard)
      | some best => applyReplace conn ⟨elementName, conn.text best⟩ vcard

/-- `gabble_vcard_manager_edit_info_apply`. -/
def EditInfo.apply (conn : Connection β) : EditInfo β → VCard β → Bool × VCard β
  | .replace element, vcard => applyReplace conn element vcard
  | .append element, vcard => applyAppend conn element vcard
  | .delete elementName, vcard => removeAllChildrenNamed elementName vcard
  | .clear, vcard => applyClear vcard
  | .setAlias newAlias, vcard => applySetAlias conn newAlias vcard

/-- The loop of `manager_patch_vcard` over the unsent edits: whether one of them
changed something, and the patched vCard. -/
def applyEdits (conn : Connection β) : List (EditInfo β) → VCard β → Bool × VCard β
  | [], vcard => (false, vcard)
  | info :: infos, vcard =>
    let (changed, vcard') := info.apply conn vcard
    let (changed', vcard'') := applyEdits conn infos vcard'
    (changed || changed', vcard'')

end VCardManager
