/-
# The order of a disco reply

Two disco replies that list the same identities, features, forms and fields in different orders
have the same verification string, also where the forms make the hash fail.  Only the fields of
one form must have different names: of two fields with one name, the order is hashed.
-/
import Gabble.CapsHash
import Mathlib.Data.List.Nodup

namespace CapsHash

open UriEscape (Bytes)
open CText (ascii)
open Wocky
open SortKeys

/-! ## Fields -/

/-- Two lists of fields differ in the order only, and no two fields have the same name. -/
structure SameFields (fields fields' : List FormField) : Prop where
  perm : fields.Perm fields'
  distinct : (fields.filterMap FormField.var).Nodup

/-- What is found is the same when there is one thing to be found. -/
theorem find?_eq_of_perm {α : Type*} {l l' : List α} {p : α → Bool} (hl : l.Perm l')
    (huniq : ∀ a ∈ l, ∀ b ∈ l, p a = true → p b = true → a = b) : l.find? p = l'.find? p := by
  cases hfind : l.find? p with
  | none =>
    rw [List.find?_eq_none] at hfind
    exact (List.find?_eq_none.mpr fun a ha => hfind a (hl.mem_iff.mpr ha)).symm
  | some a =>
    have ha := List.mem_of_find?_eq_some hfind
    have hpa := List.find?_some hfind
    cases hfind' : l'.find? p with
    | none => exact absurd hpa (List.find?_eq_none.mp hfind' a (hl.mem_iff.mp ha))
    | some b =>
      have hb := hl.mem_iff.mpr (List.mem_of_find?_eq_some hfind')
      rw [huniq a ha b hb hpa (List.find?_some hfind')]

/-- Fields of one name are one field. -/
theorem SameFields.eq_of_var {fields fields' : List FormField} (h : SameFields fields fields')
    {f f' : FormField} (hf : f ∈ fields) (hf' : f' ∈ fields) {var : Bytes}
    (hvar : f.var = some var) (hvar' : f'.var = some var) : f = f' := by
  obtain ⟨pre, post, hsplit⟩ := List.append_of_mem hf
  have hnodup := h.distinct
  rw [hsplit, List.filterMap_append, List.filterMap_cons_some hvar] at hnodup
  have hnot : ∀ x ∈ pre ++ post, x.var ≠ some var := by
    intro x hx hxvar
    have hmem : var ∈ pre.filterMap FormField.var ++ post.filterMap FormField.var := by
      rw [← List.filterMap_append]
      exact List.mem_filterMap.mpr ⟨x, hx, hxvar⟩
    exact (List.nodup_cons.mp (List.nodup_middle.mp hnodup)).1 hmem
  rw [hsplit] at hf'
  rcases List.mem_append.mp hf' with hpre | hmem
  · exact absurd hvar' (hnot f' (List.mem_append_left _ hpre))
  · rcases List.mem_cons.mp hmem with rfl | hpost
    · rfl
    · exact absurd hvar' (hnot f' (List.mem_append_right _ hpost))

theorem lookup_eq {form form' : WockyDataForm} (h : SameFields form.fieldsList form'.fieldsList)
    (var : Bytes) : form.lookup var = form'.lookup var := by
  have hperm : form.fieldsList.reverse.Perm form'.fieldsList.reverse :=
    (List.reverse_perm _).trans (h.perm.trans (List.reverse_perm _).symm)
  refine find?_eq_of_perm hperm fun a ha b hb hpa hpb => ?_
  exact h.eq_of_var (List.mem_reverse.mp ha) (List.mem_reverse.mp hb) (of_decide_eq_true hpa)
    (of_decide_eq_true hpb)

/-- An anonymous field makes the hash fail, wherever it stands. -/
theorem fieldsTexts_of_anonymous {fields : List FormField}
    (h : ∃ f ∈ fields, f.var = none) : fieldsTexts fields = none := by
  induction fields with
  | nil =>
    obtain ⟨f, hf, -⟩ := h
    cases hf
  | cons field fields ih =>
    obtain ⟨f, hf, hnone⟩ := h
    have hrest : field.var ≠ none → fieldsTexts fields = none := fun hsome => ih <| by
      rcases List.mem_cons.mp hf with rfl | hmem
      · exact absurd hnone hsome
      · exact ⟨f, hmem, hnone⟩
    rw [fieldsTexts]
    split
    · rfl
    · next var hvar =>
      rw [hrest (by rw [hvar]; exact Option.some_ne_none var)]
      split
      · rfl
      · split <;> rfl

theorem fieldsTexts_sortBy_eq {fields fields' : List FormField} (h : SameFields fields fields') :
    fieldsTexts (sortBy (optionLe strcmpLe) FormField.var fields) =
      fieldsTexts (sortBy (optionLe strcmpLe) FormField.var fields') := by
  by_cases hanonymous : ∃ f ∈ fields, f.var = none
  · obtain ⟨f, hf, hnone⟩ := hanonymous
    rw [fieldsTexts_of_anonymous ⟨f, mem_sortBy.mpr hf, hnone⟩,
      fieldsTexts_of_anonymous ⟨f, mem_sortBy.mpr (h.perm.mem_iff.mp hf), hnone⟩]
  · have hsort := sortBy_eq_of_perm orders_strcmpLe.optionLe FormField.var h.perm
      fun a ha b hb heq => by
        cases hvar : a.var with
        | none => exact absurd ⟨a, ha, hvar⟩ hanonymous
        | some var => exact h.eq_of_var ha hb hvar (heq ▸ hvar)
    rw [hsort]

/-! ## Forms -/

/-- What a form adds to the hash: nothing when it is ignored, `some none` when it makes the hash
fail, else its name and the texts of its fields. -/
def formTexts (form : WockyDataForm) : Option (Option (Bytes × List Bytes)) :=
  match form.lookup formType with
  | none => none
  | some field =>
    if field.type ≠ .hidden then none
    else
      match field.rawValueContents with
      | some [formName] =>
        some ((fieldsTexts (sortBy (optionLe strcmpLe) FormField.var form.fieldsList)).map
          fun texts => (formName, texts))
      | _ => some none

/-- The texts of forms, of which no two may have the same name. -/
def joinForms (formNames : List Bytes) : List (Option (Bytes × List Bytes)) → Option (List Bytes)
  | [] => some []
  | none :: _ => none
  | some (formName, texts) :: forms =>
    if formName ∈ formNames then none
    else (joinForms (formName :: formNames) forms).map fun rest => formName :: texts ++ rest

theorem formsTexts_eq_joinForms (formNames : List Bytes) (forms : List WockyDataForm) :
    formsTexts formNames forms = joinForms formNames (forms.filterMap formTexts) := by
  induction forms generalizing formNames with
  | nil => rfl
  | cons form forms ih =>
    rw [formsTexts, List.filterMap_cons, formTexts]
    cases form.lookup formType with
    | none => exact ih formNames
    | some field =>
      by_cases hhidden : field.type ≠ .hidden
      · simp only [if_pos hhidden]
        exact ih formNames
      · simp only [if_neg hhidden]
        cases field.rawValueContents with
        | none => rfl
        | some values =>
          cases values with
          | nil => rfl
          | cons formName values =>
            cases values with
            | cons value values => rfl
            | nil =>
              cases fieldsTexts (sortBy (optionLe strcmpLe) FormField.var form.fieldsList) with
              | none => simp [joinForms]
              | some texts => simp [joinForms, ih]

/-- When the hash does not fail, all forms have names and these are different. -/
theorem joinForms_some {formNames : List Bytes} {forms : List (Option (Bytes × List Bytes))}
    {texts : List Bytes} (h : joinForms formNames forms = some texts) :
    (∀ f ∈ forms, f ≠ none) ∧
      forms.Pairwise fun f f' => ∀ e e', f = some e → f' = some e' → e.1 ≠ e'.1 := by
  suffices hall : (∀ f ∈ forms, ∃ e, f = some e ∧ e.1 ∉ formNames) ∧
      forms.Pairwise fun f f' => ∀ e e', f = some e → f' = some e' → e.1 ≠ e'.1 by
    refine ⟨fun f hf hnone => ?_, hall.2⟩
    obtain ⟨e, he, -⟩ := hall.1 f hf
    rw [he] at hnone
    cases hnone
  induction forms generalizing formNames texts with
  | nil => exact ⟨List.forall_mem_nil _, .nil⟩
  | cons form forms ih =>
    cases form with
    | none => cases h
    | some e =>
      obtain ⟨formName, fieldTexts⟩ := e
      rw [joinForms] at h
      split at h
      · cases h
      · next hnew =>
        obtain ⟨rest, hrest, -⟩ := Option.map_eq_some_iff.mp h
        obtain ⟨hnames, hpairs⟩ := ih hrest
        refine ⟨List.forall_mem_cons.mpr ⟨⟨_, rfl, hnew⟩, fun f hf => ?_⟩,
          List.pairwise_cons.mpr ⟨fun f hf e e' he he' heq => ?_, hpairs⟩⟩
        · obtain ⟨e, he, hnot⟩ := hnames f hf
          exact ⟨e, he, fun hmem => hnot (List.mem_cons_of_mem _ hmem)⟩
        · cases he
          obtain ⟨e'', he'', hnot⟩ := hnames f hf
          rw [he'] at he''
          cases he''
          exact hnot (heq ▸ List.mem_cons_self)

/-- By the names of the forms. -/
def NameLe (f f' : Option (Bytes × List Bytes)) : Prop :=
  ∀ e e', f = some e → f' = some e' → strcmpLe e.1 e'.1 = true

theorem formKey_of_formTexts {form : WockyDataForm} {e : Bytes × List Bytes}
    (h : formTexts form = some (some e)) : formKey form = some (some e.1) := by
  unfold formTexts at h
  unfold formKey
  split at h
  · cases h
  · next field hfield =>
    split at h
    · cases h
    · split at h
      · next formName hraw =>
        obtain ⟨texts, -, rfl⟩ := Option.map_eq_some_iff.mp (Option.some.inj h)
        rw [hfield, Option.map_some, hraw]
        rfl
      · cases h

/-- Sorted forms are sorted by their names. -/
theorem pairwise_nameLe (forms : List WockyDataForm) :
    ((sortBy (optionLe (optionLe strcmpLe)) formKey forms).filterMap formTexts).Pairwise
      NameLe := by
  refine List.pairwise_filterMap.mpr
    ((pairwise_sortBy orders_strcmpLe.optionLe.optionLe formKey forms).imp
      fun hle b hb b' hb' e e' he he' => ?_)
  subst he he'
  rw [formKey_of_formTexts hb, formKey_of_formTexts hb'] at hle
  exact hle

/-- Forms that are the same but for their order come in one order. -/
theorem joinForms_eq_of_perm {forms forms' : List (Option (Bytes × List Bytes))}
    {texts : List Bytes} (hforms : forms.Perm forms') (hsorted : forms.Pairwise NameLe)
    (hsorted' : forms'.Pairwise NameLe) (h : joinForms [] forms = some texts) :
    forms = forms' := by
  obtain ⟨hsome, hnames⟩ := joinForms_some h
  refine List.Perm.eq_of_pairwise (fun f f' hf hf' hle hle' => ?_) hsorted hsorted' hforms
  obtain ⟨e, rfl⟩ := Option.ne_none_iff_exists'.mp (hsome f hf)
  obtain ⟨e', rfl⟩ := Option.ne_none_iff_exists'.mp (hsome f' (hforms.mem_iff.mpr hf'))
  have heq : e.1 = e'.1 :=
    orders_strcmpLe.antisymm _ _ (hle e e' rfl rfl) (hle' e' e rfl rfl)
  by_contra hne
  have hsymm : Std.Symm fun f f' : Option (Bytes × List Bytes) =>
      ∀ e e', f = some e → f' = some e' → e.1 ≠ e'.1 :=
    ⟨fun _ _ h e e' he he' => (h e' e he' he).symm⟩
  exact hnames.forall hf (hforms.mem_iff.mpr hf') hne e e' rfl rfl heq

theorem formsTexts_sortBy_eq {forms forms' : List WockyDataForm}
    (h : (forms.filterMap formTexts).Perm (forms'.filterMap formTexts)) :
    formsTexts [] (sortBy (optionLe (optionLe strcmpLe)) formKey forms) =
      formsTexts [] (sortBy (optionLe (optionLe strcmpLe)) formKey forms') := by
  have hperm : ((sortBy (optionLe (optionLe strcmpLe)) formKey forms).filterMap formTexts).Perm
      ((sortBy (optionLe (optionLe strcmpLe)) formKey forms').filterMap formTexts) :=
    ((perm_sortBy _ formKey forms).filterMap _).trans
      (h.trans ((perm_sortBy _ formKey forms').filterMap _).symm)
  rw [formsTexts_eq_joinForms, formsTexts_eq_joinForms]
  have hsorted := pairwise_nameLe forms
  have hsorted' := pairwise_nameLe forms'
  cases hjoin : joinForms []
      ((sortBy (optionLe (optionLe strcmpLe)) formKey forms).filterMap formTexts) with
  | some texts => rw [← joinForms_eq_of_perm hperm hsorted hsorted' hjoin, hjoin]
  | none =>
    cases hjoin' : joinForms []
        ((sortBy (optionLe (optionLe strcmpLe)) formKey forms').filterMap formTexts) with
    | none => rfl
    | some texts =>
      rw [joinForms_eq_of_perm hperm.symm hsorted' hsorted hjoin', hjoin] at hjoin'
      cases hjoin'

/-! ## Lists and nodes -/

theorem identitiesTexts_eq {identities identities' : List DiscoIdentity}
    (h : identities.Perm identities') :
    (sortBy DiscoIdentity.keyLe DiscoIdentity.key identities).map DiscoIdentity.text =
      (sortBy DiscoIdentity.keyLe DiscoIdentity.key identities').map DiscoIdentity.text := by
  have hkeys : (sortBy DiscoIdentity.keyLe DiscoIdentity.key identities).map DiscoIdentity.key =
      (sortBy DiscoIdentity.keyLe DiscoIdentity.key identities').map DiscoIdentity.key := by
    have hsorted : ∀ l : List DiscoIdentity, ((sortBy DiscoIdentity.keyLe DiscoIdentity.key l).map
        DiscoIdentity.key).Pairwise fun a b => DiscoIdentity.keyLe a b = true := fun l =>
      List.pairwise_map.mpr (pairwise_sortBy orders_identityKeyLe DiscoIdentity.key l)
    refine List.Perm.eq_of_pairwise
      (fun a b _ _ hab hba => orders_identityKeyLe.antisymm a b hab hba) (hsorted identities)
      (hsorted identities') ?_
    exact (((perm_sortBy _ _ identities).trans h).trans (perm_sortBy _ _ identities').symm).map _
  have htext : ∀ l : List DiscoIdentity, l.map DiscoIdentity.text =
      (l.map DiscoIdentity.key).map fun k =>
        k.1 ++ 47 :: k.2.1 ++ 47 :: k.2.2.1 ++ 47 :: k.2.2.2 := by
    intro l
    rw [List.map_map]
    rfl
  rw [htext, hkeys, ← htext]

/-- The order of the lists makes no difference, and of the forms only what they add does. -/
theorem capsTexts_eq_of_perm {features features' : List Bytes}
    {identities identities' : List DiscoIdentity} {forms forms' : List WockyDataForm}
    (hfeatures : features.Perm features') (hidentities : identities.Perm identities')
    (hforms : (forms.filterMap formTexts).Perm (forms'.filterMap formTexts)) :
    capsTexts features identities forms = capsTexts features' identities' forms' := by
  rw [capsTexts, capsTexts, formsTexts_sortBy_eq hforms, identitiesTexts_eq hidentities,
    sortBy_eq_of_perm orders_strcmpLe id hfeatures fun a _ b _ heq => heq]

/-- Two `<x/>` nodes differ in the order of the fields only, and no two fields have the same
name. -/
structure SameForm (x x' : Node) : Prop where
  name : x.name = ascii "x" ∧ x'.name = ascii "x"
  ns : x.ns = x'.ns
  attributes : x.attributes = x'.attributes
  children : x.children.Perm x'.children
  distinct : (((x.iter (ascii "field") none).filterMap parseFormField).filterMap
    FormField.var).Nodup

/-- Two disco replies differ in the order only. -/
def Reordered (node node' : Node) : Prop :=
  ∃ children, node.children.Perm children ∧
    List.Forall₂ (fun c c' => c = c' ∨ SameForm c c') children node'.children

/-- Two forms that are read are the same but for the order of their fields. -/
theorem formTexts_eq {form form' : WockyDataForm}
    (h : SameFields form.fieldsList form'.fieldsList) : formTexts form = formTexts form' := by
  unfold formTexts
  rw [lookup_eq h, fieldsTexts_sortBy_eq h]

theorem dataFormFromNode_of_sameForm {x x' : Node} (h : SameForm x x') :
    (dataFormFromNode x).map formTexts = (dataFormFromNode x').map formTexts := by
  have hfields : SameFields ((x.iter (ascii "field") none).filterMap parseFormField)
      ((x'.iter (ascii "field") none).filterMap parseFormField) :=
    ⟨(h.children.filter _).filterMap _, h.distinct⟩
  have hmatches : x.matches (ascii "x") nsData = x'.matches (ascii "x") nsData := by
    rw [Node.matches, Node.matches, h.name.1, h.name.2, h.ns]
  have htype : x.getAttribute (ascii "type") = x'.getAttribute (ascii "type") := by
    rw [Node.getAttribute, Node.getAttributeNs, h.attributes]
    rfl
  unfold dataFormFromNode
  rw [hmatches, htype]
  split
  · rfl
  · split
    · rfl
    · split
      · rw [Option.map_some, Option.map_some, formTexts_eq hfields]
      · rfl

/-- All forms can be read, or the hash fails. -/
theorem mapM_eq_ite {α β : Type} (f : α → Option β) (l : List α) :
    l.mapM f = if l.all fun a => (f a).isSome then some (l.filterMap f) else none := by
  induction l with
  | nil => rfl
  | cons a l ih =>
    rw [List.mapM_cons, ih, List.all_cons, List.filterMap_cons]
    cases f a with
    | none => rfl
    | some b =>
      cases l.all fun a => (f a).isSome <;> rfl

/-- What the `<x/>` nodes of a reply add to the hash. -/
def nodeForms (node : Node) : List (Option (Option (Option (Bytes × List Bytes)))) :=
  (node.iter (ascii "x") (some nsData)).map fun x => (dataFormFromNode x).map formTexts

theorem parseForms_eq (node : Node) :
    parseForms node = if (nodeForms node).all Option.isSome then
      some ((node.iter (ascii "x") (some nsData)).filterMap dataFormFromNode) else none := by
  rw [parseForms, mapM_eq_ite, nodeForms, List.all_map]
  simp [Function.comp_def]

theorem filterMap_formTexts_eq (node : Node) :
    ((node.iter (ascii "x") (some nsData)).filterMap dataFormFromNode).filterMap formTexts =
      (nodeForms node).filterMap fun f => f.bind id := by
  rw [nodeForms, List.filterMap_map, List.filterMap_filterMap]
  congr 1
  funext x
  cases h : dataFormFromNode x <;> simp [h]

theorem nodeForms_perm {node node' : Node} (h : Reordered node node') :
    (nodeForms node).Perm (nodeForms node') := by
  obtain ⟨children, hperm, hsame⟩ := h
  have hfirst : (nodeForms node).Perm ((children.filter fun c =>
      c.name = ascii "x" && Node.nsMatches (some nsData) c.ns).map fun x =>
        (dataFormFromNode x).map formTexts) := (hperm.filter _).map _
  have hsecond : ((children.filter fun c =>
      c.name = ascii "x" && Node.nsMatches (some nsData) c.ns).map fun x =>
        (dataFormFromNode x).map formTexts) = nodeForms node' := by
    unfold nodeForms Node.iter
    generalize node'.children = children' at hsame
    clear hperm hfirst
    induction hsame with
    | nil => rfl
    | @cons c c' l l' hc _ ih =>
      rcases hc with rfl | hform
      · simp only [List.filter_cons]
        split
        · rw [List.map_cons, List.map_cons, ih]
        · exact ih
      · have hname : (c.name = ascii "x" && Node.nsMatches (some nsData) c.ns) =
            (c'.name = ascii "x" && Node.nsMatches (some nsData) c'.ns) := by
          rw [hform.name.1, hform.name.2, hform.ns]
        simp only [List.filter_cons, hname]
        split
        · rw [List.map_cons, List.map_cons, ih, dataFormFromNode_of_sameForm hform]
        · exact ih
  exact hsecond ▸ hfirst

/-- What is read from the other children of a reply. -/
theorem filterMap_perm {β : Type} {node node' : Node} (h : Reordered node node')
    {f : Node → Option β} (hf : ∀ c : Node, c.name = ascii "x" → f c = none) :
    (node.children.filterMap f).Perm (node'.children.filterMap f) := by
  obtain ⟨children, hperm, hsame⟩ := h
  have heq : children.filterMap f = node'.children.filterMap f := by
    generalize node'.children = children' at hsame
    clear hperm
    induction hsame with
    | nil => rfl
    | @cons c c' l l' hc _ ih =>
      rcases hc with rfl | hform
      · rw [List.filterMap_cons, List.filterMap_cons, ih]
      · rw [List.filterMap_cons_none (hf c hform.name.1),
          List.filterMap_cons_none (hf c' hform.name.2), ih]
  exact heq ▸ hperm.filterMap f

/-- **The order of a disco reply makes no difference.**  Two replies that list the same things in
different orders, also within their forms, have the same verification string, or none of them has
one. -/
theorem computeFromNode_eq_of_reordered (sha1 : Bytes → Bytes) {node node' : Node}
    (h : Reordered node node') : computeFromNode sha1 node = computeFromNode sha1 node' := by
  have hforms := nodeForms_perm h
  have hfeatures : (node.children.filterMap parseFeature).Perm
      (node'.children.filterMap parseFeature) := filterMap_perm h fun c hc => by
    rw [parseFeature, if_pos (by rw [hc]; decide)]
  have hidentities : (node.children.filterMap parseIdentity).Perm
      (node'.children.filterMap parseIdentity) := filterMap_perm h fun c hc => by
    rw [parseIdentity, if_pos (by rw [hc]; decide)]
  have hall : (nodeForms node).all Option.isSome = (nodeForms node').all Option.isSome :=
    hforms.all_eq
  rw [computeFromNode, computeFromNode, parseForms_eq, parseForms_eq, hall]
  split
  · rw [Option.bind_some, Option.bind_some, computeFromLists, computeFromLists,
      capsTexts_eq_of_perm hfeatures hidentities]
    rw [filterMap_formTexts_eq, filterMap_formTexts_eq]
    exact hforms.filterMap _
  · rfl

/-- A node in no namespace. -/
def element (name : String) (attributes : List (String × String)) (children : List Node) : Node :=
  .mk (ascii name) none none none
    (attributes.map fun a => ⟨ascii a.1, none, ascii a.2⟩) children

/-- A field with one value. -/
def valueField (var value : String) : Node :=
  element "field" [("var", var)] [.mk (ascii "value") none (some (ascii value)) none [] []]

/-- A form, of the type "f". -/
def softwareForm (fields : List Node) : Node :=
  .mk (ascii "x") (some nsData) none none [⟨ascii "type", none, ascii "result"⟩]
    (element "field" [("var", "FORM_TYPE"), ("type", "hidden")]
      [.mk (ascii "value") none (some (ascii "f")) none [] []] :: fields)

theorem computeFromNode_eq_of_reordered_form :
    computeFromNode id (element "query" []
      [element "feature" [("var", "b")] [],
        softwareForm [valueField "os" "m", valueField "ip" "4"]]) =
    computeFromNode id (element "query" []
      [softwareForm [valueField "ip" "4", valueField "os" "m"],
        element "feature" [("var", "b")] []]) :=
  computeFromNode_eq_of_reordered id
    ⟨[softwareForm [valueField "os" "m", valueField "ip" "4"], element "feature" [("var", "b")] []],
      List.Perm.swap _ _ _,
      .cons (.inr ⟨⟨rfl, rfl⟩, rfl, rfl, (List.Perm.swap _ _ _).cons _, by decide +kernel⟩)
        (.cons (.inl rfl) .nil)⟩

end CapsHash
