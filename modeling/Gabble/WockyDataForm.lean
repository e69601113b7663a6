/-
# Data forms (`lib/ext/wocky/wocky/wocky-data-form.c`)

How a form is read from its `<x/>` node.  Of a field only the type, the name and the texts of its
values are kept.
-/
import Gabble.WockyStanza

namespace Wocky

open UriEscape (Bytes)
open CText (ascii)

/-- The children that `wocky_node_iter_init` and `wocky_node_iter_next` visit. -/
def Node.iter (node : Node) (name : Bytes) (ns : Option Bytes) : List Node :=
  node.children.filter fun c => c.name = name && nsMatches ns c.ns

/-- `wocky_node_get_content_from_child` -/
def Node.getContentFromChild (node : Node) (name : Bytes) : Option Bytes :=
  (node.getChildNs name none).bind Node.content

/-- `wocky_node_matches` -/
def Node.matches (node : Node) (name ns : Bytes) : Bool := node.name = name && node.ns = some ns

/-- `WockyDataFormFieldType`. -/
inductive FieldType : Type where
  | unspecified : FieldType
  | boolean : FieldType
  | fixed : FieldType
  | hidden : FieldType
  | jidMulti : FieldType
  | jidSingle : FieldType
  | listMulti : FieldType
  | listSingle : FieldType
  | textMulti : FieldType
  | textPrivate : FieldType
  | textSingle : FieldType
  deriving DecidableEq

/-- The nicks of `WOCKY_TYPE_DATA_FORM_FIELD_TYPE`. -/
def fieldTypeNicks : List (FieldType × Bytes) :=
  [(.boolean, ascii "boolean"), (.fixed, ascii "fixed"), (.hidden, ascii "hidden"),
    (.jidMulti, ascii "jid-multi"), (.jidSingle, ascii "jid-single"),
    (.listMulti, ascii "list-multi"), (.listSingle, ascii "list-single"),
    (.textMulti, ascii "text-multi"), (.textPrivate, ascii "text-private"),
    (.textSingle, ascii "text-single")]

/-- `WockyDataFormField`.  `rawValueContents` has the texts in front of the NULL of the array. -/
structure FormField where
  type : FieldType
  var : Option Bytes
  rawValueContents : Option (List Bytes)
  deriving DecidableEq

/-- `WockyDataForm`, with its `fields_list`. -/
structure WockyDataForm where
  fieldsList : List FormField

/-- `g_hash_table_lookup (form->fields, var)`: a field replaces an earlier one of its name. -/
def WockyDataForm.lookup (form : WockyDataForm) (var : Bytes) : Option FormField :=
  form.fieldsList.reverse.find? (·.var = some var)

/-- `extract_value_list` -/
def extractValueList (node : Node) : List Bytes :=
  (node.iter (ascii "value") none).filterMap Node.content

/-- `extract_options_list`, without the labels -/
def extractOptionsList (node : Node) : List Bytes :=
  (node.iter (ascii "option") none).filterMap (·.getContentFromChild (ascii "value"))

/-- What `get_field_value` puts into `raw_value_contents`. -/
def getFieldValue (type : FieldType) (field : Node) : Option (List Bytes) :=
  match type with
  | .unspecified => none
  | .boolean =>
    (field.getChildNs (ascii "value") none).bind fun node =>
      match node.content with
      | none => none
      | some value =>
        if value = ascii "true" ∨ value = ascii "1" ∨ value = ascii "false" ∨
            value = ascii "0" then
          some [value]
        else none
  | .fixed | .hidden | .jidSingle | .textPrivate | .textSingle | .listSingle =>
    (field.getChildNs (ascii "value") none).map fun node => node.content.toList
  | .jidMulti | .textMulti | .listMulti =>
    (field.getChildNs (ascii "value") none).map fun _ => extractValueList field

/-- `create_field` -/
def createField (fieldNode : Node) (var : Option Bytes) (type : FieldType) : Option FormField :=
  if (type = .listMulti ∨ type = .listSingle) ∧ extractOptionsList fieldNode = [] then none
  else some ⟨type, var, getFieldValue type fieldNode⟩

/-- The type that `extract_var_type_label` finds. -/
def extractType (node : Node) : Option FieldType :=
  match node.getAttribute (ascii "type") with
  | none =>
    if 2 ≤ (node.iter (ascii "value") none).length then some .textMulti else some .textSingle
  | some name => (fieldTypeNicks.find? fun t => name = t.2).map Prod.fst

/-- `data_form_parse_form_field` -/
def parseFormField (fieldNode : Node) : Option FormField :=
  if fieldNode.name ≠ ascii "field" then none
  else
    (extractType fieldNode).bind fun type =>
      if fieldNode.getAttribute (ascii "var") = none ∧ type ≠ .fixed then none
      else createField fieldNode (fieldNode.getAttribute (ascii "var")) type

/-- `WOCKY_XMPP_NS_DATA` -/
def nsData : Bytes := ascii "jabber:x:data"

/-- `wocky_data_form_new_from_node`; `none` when it sets an error. -/
def dataFormFromNode (x : Node) : Option WockyDataForm :=
  if !x.matches (ascii "x") nsData then none
  else
    match x.getAttribute (ascii "type") with
    | none => none
    | some type =>
      if type = ascii "form" ∨ type = ascii "result" then
        some ⟨(x.iter (ascii "field") none).filterMap parseFormField⟩
      else none

end Wocky
