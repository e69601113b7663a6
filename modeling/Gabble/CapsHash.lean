/-
# The verification string (`lib/ext/wocky/wocky/wocky-caps-hash.c`)

What a contact's capabilities are hashed to.  The C code feeds one text after the other to the
checksum, each followed by `<`; here these texts are listed first.  SHA-1 is a parameter.
-/
import Gabble.Base64
import Gabble.Delimited
import Gabble.SortKeys
import Gabble.WockyDataForm

namespace CapsHash

open UriEscape (Bytes)
open CText (ascii)
open Wocky
open SortKeys

/-- `strcmp (a, b) <= 0` -/
def strcmpLe : Bytes → Bytes → Bool := listLe fun a b => a < b

/-- `WockyDiscoIdentity`. -/
structure DiscoIdentity where
  category : Bytes
  type : Bytes
  lang : Option Bytes
  name : Option Bytes
  deriving DecidableEq

namespace DiscoIdentity

variable (identity : DiscoIdentity)

/-- What `wocky_disco_identity_cmp` compares.  It takes no NULL for the language or the name; the
identities of `wocky_caps_hash_compute_from_node` have both. -/
def key : Bytes × Bytes × Bytes × Bytes :=
  (identity.category, identity.type, identity.lang.getD [], identity.name.getD [])

/-- `wocky_disco_identity_cmp (a, b) <= 0`, of the keys -/
def keyLe : Bytes × Bytes × Bytes × Bytes → Bytes × Bytes × Bytes × Bytes → Bool :=
  thenLe strcmpLe (thenLe strcmpLe (thenLe strcmpLe strcmpLe))

/-- The text that is hashed for the identity. -/
def text : Bytes :=
  identity.category ++ 47 :: identity.type ++ 47 :: identity.lang.getD [] ++
    47 :: identity.name.getD []

end DiscoIdentity

/-- The name of the field that has the type of a form. -/
def formType : Bytes := ascii "FORM_TYPE"

/-- What `dataforms_cmp` compares: the first value of the type, where there is a field for it. -/
def formKey (form : WockyDataForm) : Option (Option Bytes) :=
  (form.lookup formType).map fun field => field.rawValueContents.bind List.head?

/-- The texts that are hashed for the fields of a form; `none` when the hash fails. -/
def fieldsTexts : List FormField → Option (List Bytes)
  | [] => some []
  | field :: fields =>
    match field.var with
    | none => none
    | some var =>
      if var = formType then fieldsTexts fields
      else
        match field.rawValueContents with
        | some (value :: values) =>
          (fieldsTexts fields).map fun texts =>
            var :: sortBy strcmpLe id (value :: values) ++ texts
        | _ => none

/-- The texts that are hashed for the forms, when those named in `formNames` have been there. -/
def formsTexts (formNames : List Bytes) : List WockyDataForm → Option (List Bytes)
  | [] => some []
  | form :: forms =>
    match form.lookup formType with
    | none => formsTexts formNames forms
    | some field =>
      if field.type ≠ .hidden then formsTexts formNames forms
      else
        match field.rawValueContents with
        | some [formName] =>
          if formName ∈ formNames then none
          else
            (fieldsTexts (sortBy (optionLe strcmpLe) FormField.var form.fieldsList)).bind
              fun texts =>
                (formsTexts (formName :: formNames) forms).map fun rest =>
                  formName :: texts ++ rest
        | _ => none

/-- The texts that are hashed. -/
def capsTexts (features : List Bytes) (identities : List DiscoIdentity)
    (dataforms : List WockyDataForm) : Option (List Bytes) :=
  (formsTexts [] (sortBy (optionLe (optionLe strcmpLe)) formKey dataforms)).map fun texts =>
    (sortBy DiscoIdentity.keyLe DiscoIdentity.key identities).map DiscoIdentity.text ++
      (sortBy strcmpLe id features ++ texts)

/-- `wocky_caps_hash_compute_from_lists` -/
def computeFromLists (sha1 : Bytes → Bytes) (features : List Bytes)
    (identities : List DiscoIdentity) (dataforms : List WockyDataForm) : Option Base64.Text :=
  (capsTexts features identities dataforms).map fun texts =>
    Base64.encode (sha1 (Delimited.terminated 60 texts))

/-- An `<identity/>` of a disco reply. -/
def parseIdentity (child : Node) : Option DiscoIdentity :=
  if child.name ≠ ascii "identity" then none
  else
    (child.getAttribute (ascii "category")).map fun category =>
      ⟨category, (child.getAttribute (ascii "type")).getD [], some (child.language.getD []),
        some ((child.getAttribute (ascii "name")).getD [])⟩

/-- A `<feature/>` of a disco reply. -/
def parseFeature (child : Node) : Option Bytes :=
  if child.name ≠ ascii "feature" then none else child.getAttribute (ascii "var")

/-- The forms of a disco reply; `none` when one cannot be read. -/
def parseForms (node : Node) : Option (List WockyDataForm) :=
  (node.iter (ascii "x") (some nsData)).mapM dataFormFromNode

/-- `wocky_caps_hash_compute_from_node` -/
def computeFromNode (sha1 : Bytes → Bytes) (node : Node) : Option Base64.Text :=
  (parseForms node).bind fun dataforms =>
    computeFromLists sha1 (node.children.filterMap parseFeature)
      (node.children.filterMap parseIdentity) dataforms

theorem orders_strcmpLe : Orders strcmpLe :=
  orders_listLe (fun a => by simp) (fun a b c hab hbc => by simp_all; exact UInt8.lt_trans hab hbc)
    fun a b hab hba => by
      simp only [decide_eq_false_iff_not, UInt8.not_lt] at hab hba
      exact UInt8.le_antisymm hba hab

theorem orders_identityKeyLe : Orders DiscoIdentity.keyLe :=
  orders_strcmpLe.thenLe (orders_strcmpLe.thenLe (orders_strcmpLe.thenLe orders_strcmpLe))

end CapsHash
