/-
# What the verification string tells

A `<` in a text of a disco reply ends the text in the eyes of the hash, and a `/` in the category of
an identity ends the category, so that replies that say different things can have the same
verification string.  Without these characters, and with as many identities and features, the
string tells which identities and which features there are.
-/
import Gabble.CapsHash

namespace CapsHash

open UriEscape (Bytes)
open CText (ascii)
open Wocky
open SortKeys

/-! ## Plain texts -/

/-- The hash can tell the parts of an identity. -/
structure DiscoIdentity.Plain (identity : DiscoIdentity) : Prop where
  category : 47 ∉ identity.category ∧ 60 ∉ identity.category
  type : 47 ∉ identity.type ∧ 60 ∉ identity.type
  lang : 47 ∉ identity.lang.getD [] ∧ 60 ∉ identity.lang.getD []
  name : 60 ∉ identity.name.getD []

/-- The hash can tell the texts of a form. -/
def PlainForm (form : WockyDataForm) : Prop :=
  ∀ field ∈ form.fieldsList, (∀ var ∈ field.var, 60 ∉ var) ∧
    ∀ values ∈ field.rawValueContents, ∀ value ∈ values, 60 ∉ value

/-- The hash can tell the texts of a reply. -/
structure Plain (features : List Bytes) (identities : List DiscoIdentity)
    (forms : List WockyDataForm) : Prop where
  features : ∀ feature ∈ features, 60 ∉ feature
  identities : ∀ identity ∈ identities, identity.Plain
  forms : ∀ form ∈ forms, PlainForm form

theorem DiscoIdentity.Plain.text {identity : DiscoIdentity} (h : identity.Plain) :
    60 ∉ identity.text := by
  simp [DiscoIdentity.text, h.category.2, h.type.2, h.lang.2, h.name]

/-- The text of an identity tells what it is. -/
theorem key_eq_of_text {i i' : DiscoIdentity} (hi : i.Plain) (hi' : i'.Plain)
    (h : i.text = i'.text) : i.key = i'.key := by
  simp only [DiscoIdentity.text, List.append_assoc, List.cons_append] at h
  obtain ⟨hcategory, h⟩ := Delimited.append_inj hi.category.1 hi'.category.1 h
  obtain ⟨htype, h⟩ := Delimited.append_inj hi.type.1 hi'.type.1 h
  obtain ⟨hlang, hname⟩ := Delimited.append_inj hi.lang.1 hi'.lang.1 h
  rw [DiscoIdentity.key, DiscoIdentity.key, hcategory, htype, hlang, hname]

theorem plain_fieldsTexts {fields : List FormField} {texts : List Bytes}
    (hfields : ∀ field ∈ fields, (∀ var ∈ field.var, 60 ∉ var) ∧
      ∀ values ∈ field.rawValueContents, ∀ value ∈ values, 60 ∉ value)
    (h : fieldsTexts fields = some texts) : ∀ text ∈ texts, 60 ∉ text := by
  induction fields generalizing texts with
  | nil =>
    cases h
    exact List.forall_mem_nil _
  | cons field fields ih =>
    obtain ⟨hfield, hrest⟩ := List.forall_mem_cons.mp hfields
    rw [fieldsTexts] at h
    split at h
    · cases h
    · next var hvar =>
      split at h
      · exact ih hrest h
      · split at h
        · next value values hraw =>
          obtain ⟨rest, hrests, rfl⟩ := Option.map_eq_some_iff.mp h
          refine List.forall_mem_append.mpr ⟨List.forall_mem_cons.mpr ⟨hfield.1 var hvar, ?_⟩,
            ih hrest hrests⟩
          exact fun text htext => hfield.2 _ hraw text (mem_sortBy.mp htext)
        · cases h

theorem plain_formsTexts {formNames : List Bytes} {forms : List WockyDataForm} {texts : List Bytes}
    (hforms : ∀ form ∈ forms, PlainForm form) (h : formsTexts formNames forms = some texts) :
    ∀ text ∈ texts, 60 ∉ text := by
  induction forms generalizing formNames texts with
  | nil =>
    cases h
    exact List.forall_mem_nil _
  | cons form forms ih =>
    obtain ⟨hform, hrest⟩ := List.forall_mem_cons.mp hforms
    rw [formsTexts] at h
    split at h
    · exact ih hrest h
    · next field hlookup =>
      have hfield : field ∈ form.fieldsList :=
        List.mem_reverse.mp (List.mem_of_find?_eq_some hlookup)
      split at h
      · exact ih hrest h
      · split at h
        · next formName hraw =>
          split at h
          · cases h
          · obtain ⟨fieldTexts, hfields, h⟩ := Option.bind_eq_some_iff.mp h
            obtain ⟨rest, hrests, rfl⟩ := Option.map_eq_some_iff.mp h
            refine List.forall_mem_append.mpr ⟨List.forall_mem_cons.mpr ⟨?_, ?_⟩, ih hrest hrests⟩
            · exact (hform field hfield).2 _ hraw formName List.mem_cons_self
            · exact plain_fieldsTexts (fun f hf => hform f (mem_sortBy.mp hf)) hfields
        · cases h

/-! ## What is told -/

/-- The text that is hashed. -/
def checksumText (features : List Bytes) (identities : List DiscoIdentity)
    (forms : List WockyDataForm) : Option Bytes :=
  (capsTexts features identities forms).map (Delimited.terminated 60)

variable {features features' : List Bytes} {identities identities' : List DiscoIdentity}
  {forms forms' : List WockyDataForm}

theorem plain_capsTexts (hplain : Plain features identities forms) {texts : List Bytes}
    (h : capsTexts features identities forms = some texts) : ∀ text ∈ texts, 60 ∉ text := by
  obtain ⟨formTexts, hforms, rfl⟩ := Option.map_eq_some_iff.mp h
  refine List.forall_mem_append.mpr ⟨?_, List.forall_mem_append.mpr ⟨?_, ?_⟩⟩
  · refine List.forall_mem_map.mpr fun identity hmem => ?_
    exact (hplain.identities identity (mem_sortBy.mp hmem)).text
  · exact fun feature hmem => hplain.features feature (mem_sortBy.mp hmem)
  · exact plain_formsTexts (fun form hmem => hplain.forms form (mem_sortBy.mp hmem)) hforms

/-- The texts of as many identities tell which these are. -/
theorem perm_of_identitiesTexts (hidentities : ∀ i ∈ identities, i.Plain)
    (hidentities' : ∀ i ∈ identities', i.Plain)
    (h : (sortBy DiscoIdentity.keyLe DiscoIdentity.key identities).map DiscoIdentity.text =
      (sortBy DiscoIdentity.keyLe DiscoIdentity.key identities').map DiscoIdentity.text) :
    (identities.map DiscoIdentity.key).Perm (identities'.map DiscoIdentity.key) := by
  have hkeys : ∀ l l' : List DiscoIdentity, (∀ i ∈ l, i.Plain) → (∀ i ∈ l', i.Plain) →
      l.map DiscoIdentity.text = l'.map DiscoIdentity.text →
        l.map DiscoIdentity.key = l'.map DiscoIdentity.key := by
    intro l
    induction l with
    | nil =>
      intro l' _ _ heq
      rw [List.map_nil, List.map_eq_nil_iff.mp heq.symm]
      rfl
    | cons i l ih =>
      intro l' hl hl' heq
      cases l' with
      | nil => cases heq
      | cons i' l' =>
        obtain ⟨hi, hl⟩ := List.forall_mem_cons.mp hl
        obtain ⟨hi', hl'⟩ := List.forall_mem_cons.mp hl'
        obtain ⟨htext, hrest⟩ := List.cons.inj heq
        rw [List.map_cons, List.map_cons, key_eq_of_text hi hi' htext, ih l' hl hl' hrest]
  have heq := hkeys _ _ (fun i hi => hidentities i (mem_sortBy.mp hi))
    (fun i hi => hidentities' i (mem_sortBy.mp hi)) h
  have hsorted : ∀ l : List DiscoIdentity, ((sortBy DiscoIdentity.keyLe DiscoIdentity.key l).map
      DiscoIdentity.key).Perm (l.map DiscoIdentity.key) := fun l => (perm_sortBy _ _ l).map _
  exact (hsorted identities).symm.trans (heq ▸ hsorted identities')

/-- **The verification string tells what a contact can do.**  Two replies with as many identities
and features, whose texts have no delimiter in them, have the same identities, features and texts
of forms when they have the same verification string and SHA-1 does not collide on them. -/
theorem perm_of_computeFromLists_eq (sha1 : Bytes → Bytes) (hash : Base64.Text)
    (hplain : Plain features identities forms) (hplain' : Plain features' identities' forms')
    (hidentities : identities.length = identities'.length)
    (hfeatures : features.length = features'.length)
    (hsha1 : ∀ x y, checksumText features identities forms = some x →
      checksumText features' identities' forms' = some y → sha1 x = sha1 y → x = y)
    (h : computeFromLists sha1 features identities forms = some hash)
    (h' : computeFromLists sha1 features' identities' forms' = some hash) :
    (identities.map DiscoIdentity.key).Perm (identities'.map DiscoIdentity.key) ∧
      features.Perm features' ∧
      formsTexts [] (sortBy (optionLe (optionLe strcmpLe)) formKey forms) =
        formsTexts [] (sortBy (optionLe (optionLe strcmpLe)) formKey forms') := by
  obtain ⟨texts, htexts, hhash⟩ := Option.map_eq_some_iff.mp h
  obtain ⟨texts', htexts', hhash'⟩ := Option.map_eq_some_iff.mp h'
  have hdigest : sha1 (Delimited.terminated 60 texts) = sha1 (Delimited.terminated 60 texts') := by
    rw [← Base64.decode_encode (sha1 (Delimited.terminated 60 texts)), hhash, ← hhash',
      Base64.decode_encode]
  have hterminated := hsha1 _ _ (by rw [checksumText, htexts]; rfl)
    (by rw [checksumText, htexts']; rfl) hdigest
  have heq : texts = texts' := Delimited.terminated_inj (plain_capsTexts hplain htexts)
    (plain_capsTexts hplain' htexts') hterminated
  subst heq
  obtain ⟨formTexts, hforms, rfl⟩ := Option.map_eq_some_iff.mp htexts
  obtain ⟨formTexts', hforms', hparts⟩ := Option.map_eq_some_iff.mp htexts'
  have hlength :
      ((sortBy DiscoIdentity.keyLe DiscoIdentity.key identities').map DiscoIdentity.text).length =
        ((sortBy DiscoIdentity.keyLe DiscoIdentity.key identities).map
          DiscoIdentity.text).length := by
    rw [List.length_map, List.length_map, (perm_sortBy ..).length_eq, (perm_sortBy ..).length_eq,
      hidentities]
  obtain ⟨hleft, hright⟩ := List.append_inj hparts hlength
  have hlength' : (sortBy strcmpLe id features').length = (sortBy strcmpLe id features).length := by
    rw [(perm_sortBy ..).length_eq, (perm_sortBy ..).length_eq, hfeatures]
  obtain ⟨hsorted, hrest⟩ := List.append_inj hright hlength'
  refine ⟨perm_of_identitiesTexts hplain.identities hplain'.identities hleft.symm, ?_, ?_⟩
  · exact (perm_sortBy strcmpLe id features).symm.trans
      (hsorted ▸ perm_sortBy strcmpLe id features')
  · rw [hforms, hforms', hrest]

/-- A client without a name. -/
def client : DiscoIdentity := ⟨ascii "client", ascii "pc", some [], some []⟩

theorem perm_of_computeFromLists_eq_swapped :
    ([client].map DiscoIdentity.key).Perm ([client].map DiscoIdentity.key) ∧
      [ascii "a", ascii "b"].Perm [ascii "b", ascii "a"] ∧
      formsTexts [] (sortBy (optionLe (optionLe strcmpLe)) formKey []) =
        formsTexts [] (sortBy (optionLe (optionLe strcmpLe)) formKey []) :=
  perm_of_computeFromLists_eq id
    (Base64.encode (Delimited.terminated 60 [ascii "client/pc//", ascii "a", ascii "b"]))
    ⟨by decide +kernel, by
      intro i hi
      obtain rfl := List.mem_singleton.mp hi
      exact ⟨by decide +kernel, by decide +kernel, by decide +kernel, by decide +kernel⟩,
      List.forall_mem_nil _⟩
    ⟨by decide +kernel, by
      intro i hi
      obtain rfl := List.mem_singleton.mp hi
      exact ⟨by decide +kernel, by decide +kernel, by decide +kernel, by decide +kernel⟩,
      List.forall_mem_nil _⟩ rfl rfl (fun _ _ _ _ h => h) (by decide +kernel) (by decide +kernel)

/-- Without the condition on the texts, one feature can stand for two. -/
example : computeFromLists id [ascii "a<b"] [] [] =
    computeFromLists id [ascii "b", ascii "a"] [] [] := by
  decide +kernel

end CapsHash
