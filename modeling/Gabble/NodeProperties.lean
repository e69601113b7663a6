/-
# Properties in the children of a node (`src/util.c`)

`lm_message_node_add_children_from_properties` writes a table of properties into the
children of a node, and `lm_message_node_extract_properties` reads one from there.  A
table is what a `GHashTable` gives in the order of an iteration; of a node only the
children matter, and of a child its name, its attributes and its content.

* `extract_lookup`: what comes back of the table, after the node has been received;
* `properties_round_trip_iff`: all of it does, exactly when no value is an empty string
  or an empty array.
-/
import Mathlib.Data.List.AList
import Gabble.Base64
import Gabble.DecimalText

namespace NodeProperties

open Base64 (Bytes Text)
open DecimalText

/-! ## Values and nodes -/

/-- A `GValue`, by its type. -/
inductive Value : Type where
  | str (value : Text) : Value
  | bytes (value : Bytes) : Value
  | int (value : Int32) : Value
  | uint (value : UInt32) : Value
  | bool (value : Bool) : Value
  /-- Any other type. -/
  | unknown (type : String) : Value
  deriving DecidableEq

/-- A table of properties. -/
abbrev Properties := AList fun _ : String => Value

/-- A child of a `WockyNode`, with its attributes as a table in which
`wocky_node_get_attribute` looks them up. -/
structure Child where
  name : String
  attributes : List (String × String)
  content : Option Text
  deriving DecidableEq

/-- A `WockyNode`, for its children. -/
abbrev WockyNode := List Child

/-! ## Writing -/

/-- The `type` attribute of a value, and its content; `none` for a type that
`set_child_from_property` does not know how to handle. -/
def Value.encoded : Value → Option (String × Text)
  | .str value => some ("str", value)
  | .bytes value => some ("bytes", Base64.encode value)
  | .int value => some ("int", printInt value.toInt)
  | .uint value => some ("uint", printNat value.toNat)
  | .bool value => some ("bool", if value then ['1'] else ['0'])
  | .unknown _ => none

/-- `set_child_from_property`. -/
def setChildFromProperty (prop : String) (node : WockyNode) (key : String) (value : Value) :
    WockyNode :=
  match value.encoded with
  | none => node
  | some (type, content) => node ++ [⟨prop, [("name", key), ("type", type)], some content⟩]

/-- `lm_message_node_add_children_from_properties`. -/
def addChildrenFromProperties (node : WockyNode) (properties : Properties) (prop : String) :
    WockyNode :=
  properties.entries.foldl (fun node entry => setChildFromProperty prop node entry.1 entry.2) node

/-! ## Reading -/

/-- The value of a content, by the `type` attribute; `none` where the child is skipped.
`g_base64_decode` never fails. -/
def decoded (bits : ℕ) (type : String) (value : Text) : Option Value :=
  if type = "bytes" then some (.bytes (Base64.decode value))
  else if type = "str" then some (.str value)
  else if type = "int" then some (.int (Int32.ofInt (strtol bits value)))
  else if type = "uint" then some (.uint (UInt32.ofNat (strtoul bits value)))
  else if type = "bool" then
    if value = "0".toList ∨ value = "false".toList then some (.bool false)
    else if value = "1".toList ∨ value = "true".toList then some (.bool true)
    else none
  else none

/-- One round of the loop: the property that a child stands for. -/
def extractProperty (bits : ℕ) (child : Child) : Option (String × Value) :=
  match child.attributes.lookup "name", child.attributes.lookup "type", child.content with
  | some name, some type, some content => (decoded bits type content).map fun value => (name, value)
  | _, _, _ => none

/-- `lm_message_node_extract_properties`, on a machine whose `long` has so many bits. -/
def extractProperties (bits : ℕ) (node : Option WockyNode) (prop : String) : Properties :=
  match node with
  | none => ∅
  | some node =>
    (node.filter fun child => child.name = prop).foldl (fun properties child =>
      match extractProperty bits child with
      | some (name, value) => properties.insert name value
      | none => properties) ∅

/-! ## The wire -/

/-- A child as it is received: an empty content is none. -/
def Child.received (child : Child) : Child :=
  { child with content := child.content.filter fun content => content ≠ [] }

/-- A node that has gone over the wire. -/
def received (node : WockyNode) : WockyNode := node.map Child.received

/-! ## One property -/

/-- The value is an empty string or an empty array. -/
def Value.Empty (value : Value) : Prop := value = .str [] ∨ value = .bytes []

/-- The value is of one of the five types. -/
def Value.Known (value : Value) : Prop := ∀ type, value ≠ .unknown type

instance (value : Value) : Decidable value.Empty := inferInstanceAs (Decidable (_ ∨ _))

/-- The value survives the wire. -/
def Value.survives (value : Value) : Bool :=
  match value.encoded with
  | none => false
  | some (_, content) => content ≠ []

theorem encode_eq_nil_iff (data : Bytes) : Base64.encode data = [] ↔ data = [] := by
  rw [← List.length_eq_zero_iff, Base64.length_encode, ← List.length_eq_zero_iff (l := data)]
  omega

theorem printInt_ne_nil (i : ℤ) : printInt i ≠ [] := by
  unfold printInt
  split
  · exact List.cons_ne_nil _ _
  · exact Nat.toDigits_ne_nil

/-- Of the five types, only an empty string and an empty array do not survive. -/
theorem survives_iff {value : Value} (hknown : value.Known) :
    value.survives = true ↔ ¬ value.Empty := by
  cases value with
  | str text => simp [Value.survives, Value.encoded, Value.Empty]
  | bytes data => simp [Value.survives, Value.encoded, Value.Empty, encode_eq_nil_iff]
  | int i => simp [Value.survives, Value.encoded, Value.Empty, printInt_ne_nil]
  | uint n => simp [Value.survives, Value.encoded, Value.Empty, printNat, Nat.toDigits_ne_nil]
  | bool b => cases b <;> simp [Value.survives, Value.encoded, Value.Empty]
  | unknown type => exact absurd rfl (hknown type)

/-- What has been written is read back; the ranges are those of the five types. -/
theorem decoded_encoded {bits : ℕ} (hbits : 32 ≤ bits) {value : Value} {type : String}
    {content : Text} (hencoded : value.encoded = some (type, content)) :
    decoded bits type content = some value := by
  cases value with
  | str text =>
    cases hencoded
    rfl
  | bytes data =>
    cases hencoded
    exact congrArg (fun data => some (Value.bytes data)) (Base64.decode_encode data)
  | int i =>
    cases hencoded
    have hexp : 31 ≤ bits - 1 := by omega
    have hpow : (2 : ℤ) ^ 31 ≤ 2 ^ (bits - 1) := by
      exact_mod_cast Nat.pow_le_pow_right (n := 2) (by omega) hexp
    have hlow := i.le_toInt
    have hhigh := i.toInt_lt
    have hread : strtol bits (printInt i.toInt) = i.toInt :=
      strtol_printInt (by omega) (by omega)
    change some (Value.int (Int32.ofInt (strtol bits (printInt i.toInt)))) = _
    rw [hread, Int32.ofInt_toInt]
  | uint n =>
    cases hencoded
    have hread : strtoul bits (printNat n.toNat) = n.toNat :=
      strtoul_printNat (n.toNat_lt.trans_le (Nat.pow_le_pow_right (by omega) hbits))
    change some (Value.uint (UInt32.ofNat (strtoul bits (printNat n.toNat)))) = _
    rw [hread, UInt32.ofNat_toNat]
  | bool b =>
    cases b <;> cases hencoded <;> rfl
  | unknown type => cases hencoded

/-! ## The table -/

/-- The child that is made for a property. -/
def childOf (prop : String) (entry : Sigma fun _ : String => Value) : Option Child :=
  entry.2.encoded.map fun encoded =>
    ⟨prop, [("name", entry.1), ("type", encoded.1)], some encoded.2⟩

theorem addChildren_eq (node : WockyNode) (properties : Properties) (prop : String) :
    addChildrenFromProperties node properties prop =
      node ++ properties.entries.filterMap (childOf prop) := by
  unfold addChildrenFromProperties
  generalize properties.entries = entries
  induction entries generalizing node with
  | nil => exact (List.append_nil node).symm
  | cons entry entries ih =>
    rw [List.foldl_cons, ih]
    unfold setChildFromProperty
    cases hencoded : entry.2.encoded with
    | none =>
      have hchild : childOf prop entry = none := by
        unfold childOf
        rw [hencoded]
        rfl
      rw [List.filterMap_cons_none hchild]
    | some encoded =>
      have hchild : childOf prop entry =
          some ⟨prop, [("name", entry.1), ("type", encoded.1)], some encoded.2⟩ := by
        unfold childOf
        rw [hencoded]
        rfl
      rw [List.filterMap_cons_some hchild, List.append_assoc]
      rfl

/-- The property of a child that has been received, unless it did not survive. -/
theorem extractProperty_received {bits : ℕ} (hbits : 32 ≤ bits) (prop : String)
    (entry : Sigma fun _ : String => Value) :
    (childOf prop entry).bind (fun child => extractProperty bits child.received) =
      if entry.2.survives then some (entry.1, entry.2) else none := by
  unfold childOf Value.survives
  cases hencoded : entry.2.encoded with
  | none => rfl
  | some encoded =>
    obtain ⟨type, content⟩ := encoded
    by_cases hempty : content = []
    · subst hempty
      rfl
    · have hcontent : (Child.received ⟨prop, [("name", entry.1), ("type", type)],
          some content⟩).content = some content := by
        simp [Child.received, hempty]
      have hextract : extractProperty bits (Child.received
          ⟨prop, [("name", entry.1), ("type", type)], some content⟩) =
            (decoded bits type content).map fun value => (entry.1, value) := by
        unfold extractProperty
        rw [hcontent]
        rfl
      rw [Option.map_some, Option.bind_some, hextract, decoded_encoded hbits hencoded]
      simp [hempty]

/-- The children of the table are those that are read. -/
theorem filter_received {node : WockyNode} {prop : String}
    (hfresh : ∀ child ∈ node, child.name ≠ prop) (properties : Properties) :
    (received (addChildrenFromProperties node properties prop)).filter
        (fun child => child.name = prop) =
      properties.entries.filterMap fun entry => (childOf prop entry).map Child.received := by
  rw [addChildren_eq]
  unfold received
  rw [List.map_append, List.filter_append, List.map_filterMap]
  have hold : (node.map Child.received).filter (fun child => child.name = prop) = [] := by
    rw [List.filter_eq_nil_iff]
    intro child hmem hname
    obtain ⟨old, hold, rfl⟩ := List.mem_map.mp hmem
    exact hfresh old hold (of_decide_eq_true hname)
  rw [hold, List.nil_append, List.filter_eq_self]
  intro child hmem
  obtain ⟨entry, _, hchild⟩ := List.mem_filterMap.mp hmem
  obtain ⟨made, hmade, rfl⟩ := Option.map_eq_some_iff.mp hchild
  obtain ⟨encoded, _, rfl⟩ := Option.map_eq_some_iff.mp hmade
  exact decide_eq_true rfl

/-- Entries with different keys are inserted one after the other. -/
theorem mem_lookup_foldl_insert {entries : List (Sigma fun _ : String => Value)}
    (hnodup : entries.NodupKeys) (properties : Properties) (key : String) (value : Value) :
    value ∈ (entries.foldl (fun properties entry => properties.insert entry.1 entry.2)
        properties).lookup key ↔
      ⟨key, value⟩ ∈ entries ∨ (key ∉ entries.keys ∧ value ∈ properties.lookup key) := by
  induction entries generalizing properties with
  | nil => simp
  | cons entry entries ih =>
    obtain ⟨hnot, hnodup⟩ := List.nodupKeys_cons.mp hnodup
    rw [List.foldl_cons, ih hnodup]
    obtain ⟨key', value'⟩ := entry
    by_cases hkey : key = key'
    · subst hkey
      have hmem : (⟨key, value⟩ : Sigma fun _ : String => Value) ∉ entries :=
        fun hmem => hnot (List.mem_keys_of_mem (s := ⟨key, value⟩) hmem)
      simp [hnot, hmem, eq_comm]
    · rw [AList.lookup_insert_ne hkey]
      simp [hkey]

/-- The loop inserts the properties of the children. -/
theorem extractProperties_eq (bits : ℕ) (node : WockyNode) (prop : String) :
    extractProperties bits (some node) prop =
      ((node.filter fun child => child.name = prop).filterMap (extractProperty bits)).foldl
        (fun properties entry => properties.insert entry.1 entry.2) ∅ := by
  rw [List.foldl_filterMap]
  unfold extractProperties
  dsimp only
  congr 1
  funext properties child
  cases extractProperty bits child with
  | none => rfl
  | some entry => rfl

/-- What comes back of a table is what survives the wire. -/
theorem extract_lookup {bits : ℕ} (hbits : 32 ≤ bits) {node : WockyNode} {prop : String}
    (hfresh : ∀ child ∈ node, child.name ≠ prop) (properties : Properties) (key : String) :
    (extractProperties bits (some (received (addChildrenFromProperties node properties prop)))
        prop).lookup key =
      (properties.lookup key).filter Value.survives := by
  have hloop : extractProperties bits
      (some (received (addChildrenFromProperties node properties prop))) prop =
      (properties.entries.filter fun entry => entry.2.survives).foldl
        (fun properties entry => properties.insert entry.1 entry.2) ∅ := by
    rw [extractProperties_eq, filter_received hfresh, List.filterMap_filterMap,
      List.foldl_filterMap, List.foldl_filter]
    congr 1
    funext table entry
    rw [Option.bind_map, show (childOf prop entry).bind (extractProperty bits ∘ Child.received) =
      _ from extractProperty_received hbits prop entry]
    cases entry.2.survives with
    | false => rfl
    | true => rfl
  have hnodup : (properties.entries.filter fun entry => entry.2.survives).NodupKeys :=
    properties.nodupKeys.sublist List.filter_sublist
  apply Option.ext
  intro value
  rw [hloop, ← Option.mem_def, mem_lookup_foldl_insert hnodup]
  simp only [AList.lookup_empty, Option.mem_def, reduceCtorEq, and_false, or_false]
  rw [List.mem_filter, Option.filter_eq_some_iff, ← Option.mem_def, AList.mem_lookup_iff]

/-- **Properties through a node.**  A table of strings, arrays, integers and booleans
comes back whole exactly when no value is an empty string or an empty array. -/
theorem properties_round_trip_iff (bits : ℕ) (hbits : 32 ≤ bits) (node : WockyNode)
    (prop : String) (hfresh : ∀ child ∈ node, child.name ≠ prop) (properties : Properties)
    (hknown : ∀ key, ∀ value ∈ properties.lookup key, value.Known) :
    (∀ key, (extractProperties bits
        (some (received (addChildrenFromProperties node properties prop))) prop).lookup key =
          properties.lookup key) ↔
      ∀ key, ∀ value ∈ properties.lookup key, ¬ value.Empty := by
  constructor
  · intro hall key value hvalue
    have hkey := hall key
    rw [extract_lookup hbits hfresh, Option.mem_def.mp hvalue] at hkey
    -- the value has passed the filter
    have hsurvives : value.survives = true := by
      rw [Option.filter_eq_some_iff] at hkey
      exact hkey.2
    exact (survives_iff (hknown key value hvalue)).mp hsurvives
  · intro hfull key
    rw [extract_lookup hbits hfresh]
    cases hlookup : properties.lookup key with
    | none => rfl
    | some value =>
      have hsurvives := (survives_iff (hknown key value hlookup)).mpr (hfull key value hlookup)
      rw [Option.filter_some, if_pos hsurvives]

/-- One value of each type, the numbers at the ends of their ranges. -/
def sampleProperties : Properties :=
  ((((AList.insert "str" (.str ['a']) ∅).insert "bytes" (.bytes [0])).insert "int"
    (.int Int32.minValue)).insert "uint" (.uint (-1))).insert "bool" (.bool false)

theorem properties_round_trip_iff_sampleProperties :
    sampleProperties.lookup "int" = some (.int Int32.minValue) ∧
    ∀ key, (extractProperties 64
        (some (received (addChildrenFromProperties [] sampleProperties "property")))
          "property").lookup key = sampleProperties.lookup key := by
  have hvalues : ∀ key, ∀ value ∈ sampleProperties.lookup key,
      value ∈ sampleProperties.entries.map (fun entry => entry.2) := by
    intro key value hvalue
    exact List.mem_map_of_mem (AList.mem_lookup_iff.mp hvalue)
  refine ⟨by decide, (properties_round_trip_iff 64 (by decide) [] "property"
    (fun child hmem => nomatch hmem) sampleProperties ?_).mpr ?_⟩
  · intro key value hvalue type hunknown
    have hmem := hvalues key value hvalue
    rw [hunknown] at hmem
    simp [sampleProperties] at hmem
  · intro key value hvalue
    have hall : ∀ value ∈ sampleProperties.entries.map (fun entry => entry.2),
        ¬ value.Empty := by decide
    exact hall value (hvalues key value hvalue)

/-- An empty string and an empty array are lost on the way. -/
theorem empty_values_lost :
    ∃ properties : Properties, properties.lookup "nick" = some (.str []) ∧
      properties.lookup "icon" = some (.bytes []) ∧
      (extractProperties 64
        (some (received (addChildrenFromProperties [] properties "property"))) "property") =
          ∅ := by
  refine ⟨(AList.insert "nick" (.str []) ∅).insert "icon" (.bytes []), by decide, by decide, ?_⟩
  apply AList.ext
  decide

end NodeProperties
