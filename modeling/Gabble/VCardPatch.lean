/-
# What the edits make of a vCard

The edit functions say whether they changed the vCard, and `manager_patch_vcard` sends
nothing when none of them did.  A REPLACE that would change nothing is looked for by a
loop over the fields of its name, which is true to what the replacement does.
-/
import Mathlib.Tactic.Common
import Gabble.VCard
import Gabble.ListFrame

open ListFrame

namespace VCardManager

variable {β : Type} [DecidableEq β] {conn : Connection β} {vcard : VCard β} {element : Field β}
  {infos : List (EditInfo β)}

/-! ## Setting the alias -/

/-- The field for the alias: Google's server does not take a NICKNAME. -/
def aliasField (conn : Connection β) : String :=
  if conn.canUseVCardField "NICKNAME" then "NICKNAME" else "FN"

/-- Setting the alias is shorthand for a REPLACE or nothing. -/
theorem applySetAlias_cases (conn : Connection β) (newAlias : Option String) (vcard : VCard β) :
    applySetAlias conn newAlias vcard = (false, vcard) ∨
      ∃ text, applySetAlias conn newAlias vcard =
        applyReplace conn ⟨aliasField conn, conn.text text⟩ vcard := by
  cases newAlias with
  | some given => exact .inr ⟨given, rfl⟩
  | none =>
    by_cases hset : (getChild vcard (aliasField conn)).isSome
    · exact .inl (if_pos hset)
    · cases hcached : conn.cachedAlias with
      | none => exact .inl ((if_neg hset).trans (by rw [hcached]))
      | some best => exact .inr ⟨best, (if_neg hset).trans (by rw [hcached]; rfl)⟩

/-! ## No change is reported -/

theorem applyReplace_unchanged (h : (applyReplace conn element vcard).1 = false) :
    (applyReplace conn element vcard).2 = vcard := by
  unfold applyReplace at h ⊢
  split_ifs at h ⊢ <;> rfl

/-- An edit that reports no change has not changed the vCard. -/
theorem apply_unchanged {info : EditInfo β} (h : (info.apply conn vcard).1 = false) :
    (info.apply conn vcard).2 = vcard := by
  cases info with
  | replace element => exact applyReplace_unchanged h
  | append element =>
    simp only [EditInfo.apply, applyAppend] at h ⊢
    split_ifs at h ⊢
    rfl
  | delete elementName =>
    refine List.filter_eq_self.mpr fun field hfield => ?_
    simpa using (List.any_eq_false.mp h) field hfield
  | clear =>
    refine List.filter_eq_self.mpr fun field hfield => ?_
    simpa using (List.any_eq_false.mp h) field hfield
  | setAlias newAlias =>
    rw [EditInfo.apply] at h ⊢
    rcases applySetAlias_cases conn newAlias vcard with heq | ⟨text, heq⟩
    · rw [heq]
    · rw [heq] at h ⊢
      exact applyReplace_unchanged h

theorem applyEdits_unchanged (h : (applyEdits conn infos vcard).1 = false) :
    (applyEdits conn infos vcard).2 = vcard := by
  induction infos generalizing vcard with
  | nil => rfl
  | cons info infos ih =>
    obtain ⟨hfirst, hrest⟩ := Bool.or_eq_false_iff.mp h
    have hsame := apply_unchanged hfirst
    calc (applyEdits conn (info :: infos) vcard).2
        = (applyEdits conn infos (info.apply conn vcard).2).2 := rfl
      _ = (info.apply conn vcard).2 := ih hrest
      _ = vcard := hsame

/-! ## Replacing a field -/

/-- The loop is at rest when one field of the name has been seen, and it is the new one. -/
theorem replaceIsSignificantLoop_eq_false_iff (element : Field β) (seen : Bool)
    (vcard : VCard β) :
    replaceIsSignificantLoop element seen vcard = false ↔
      vcard.filter (·.name == element.name) = if seen then [] else [element] := by
  induction vcard generalizing seen with
  | nil => cases seen <;> simp [replaceIsSignificantLoop]
  | cons node nodes ih =>
    rw [replaceIsSignificantLoop]
    by_cases hname : node.name = element.name
    · rw [if_neg (not_not.mpr hname), List.filter_cons_of_pos (by simpa using hname)]
      cases seen with
      | true => simp
      | false =>
        by_cases hnode : node = element
        · simp [hnode, ih]
        · simp [hnode]
    · rw [if_pos hname, ih, List.filter_cons_of_neg (by simpa using hname)]

/-- A REPLACE is left out exactly when the new element is the only one of its name. -/
theorem replaceIsSignificant_eq_false_iff (element : Field β) (vcard : VCard β) :
    replaceIsSignificant element vcard = false ↔
      vcard.filter (·.name == element.name) = [element] :=
  replaceIsSignificantLoop_eq_false_iff element false vcard

/-- `gabble_vcard_manager_edit_info_apply_replace`, by what it makes of the vCard. -/
theorem applyReplace_eq (conn : Connection β) (element : Field β) (vcard : VCard β) :
    applyReplace conn element vcard =
      if conn.canUseVCardField element.name = true ∧
          vcard.filter (·.name == element.name) ≠ [element] then
        (true, replaceAll (·.name == element.name) element vcard)
      else (false, vcard) := by
  have hsignificant := replaceIsSignificant_eq_false_iff element vcard
  cases hcan : conn.canUseVCardField element.name with
  | false => simp [applyReplace, hcan]
  | true =>
    cases hs : replaceIsSignificant element vcard with
    | false =>
      have heq := hsignificant.mp hs
      simp [applyReplace, hcan, hs, heq]
    | true =>
      have hne : vcard.filter (·.name == element.name) ≠ [element] := by
        rw [ne_eq, ← hsignificant, hs]
        exact Bool.noConfusion
      simp only [applyReplace, hcan, hs, hne, ne_eq, not_false_iff, and_self, if_true,
        Bool.not_true, Bool.false_eq_true, if_false]
      rfl

/-- After a REPLACE the new element is the only one of its name. -/
theorem applyReplace_named (hcan : conn.canUseVCardField element.name = true)
    (vcard : VCard β) :
    (applyReplace conn element vcard).2.filter (·.name == element.name) = [element] := by
  rw [applyReplace_eq]
  split_ifs with hcond
  · exact filter_replaceAll (by simp) vcard
  · exact not_not.mp fun hne => hcond ⟨hcan, hne⟩

/-- A second REPLACE reports no change. -/
theorem applyReplace_again (conn : Connection β) (element : Field β) (vcard : VCard β) :
    (applyReplace conn element (applyReplace conn element vcard).2).1 = false := by
  rw [applyReplace_eq conn element (applyReplace conn element vcard).2, if_neg]
  rintro ⟨hcan, hne⟩
  exact hne (applyReplace_named hcan vcard)

/-! ## What is left alone -/

/-- `element_name` of an edit, after `gabble_vcard_manager_edit_info_apply_set_alias` has
filled it in; a CLEAR has none. -/
def EditInfo.elementName (conn : Connection β) : EditInfo β → Option String
  | .replace element => some element.name
  | .append element => some element.name
  | .delete elementName => some elementName
  | .clear => none
  | .setAlias _ => some (aliasField conn)

/-- The edit may change the fields of the name: those it names, and all but the photo for
a CLEAR. -/
def EditInfo.touches (conn : Connection β) (info : EditInfo β) (name : String) : Bool :=
  info.elementName conn = some name || (info = .clear && name != "PHOTO")

/-- No edit of the list may change the field. -/
def untouched (conn : Connection β) (infos : List (EditInfo β)) (field : Field β) : Bool :=
  infos.all fun info => !info.touches conn field.name

theorem applyReplace_sameOn {p : Field β → Bool}
    (hp : ∀ field, p field = true → field.name ≠ element.name) (vcard : VCard β) :
    SameOn p vcard (applyReplace conn element vcard).2 := by
  rw [applyReplace_eq]
  split_ifs
  · exact sameOn_replaceAll (fun field hfield => by simpa using hp field hfield) (by simp) vcard
  · exact .refl p vcard

/-- **One edit** leaves the fields alone that it does not touch. -/
theorem apply_sameOn {info : EditInfo β} {p : Field β → Bool}
    (hp : ∀ field, p field = true → info.touches conn field.name = false) (vcard : VCard β) :
    SameOn p vcard (info.apply conn vcard).2 := by
  have hname {name : String} (hinfo : info.elementName conn = some name) (field : Field β)
      (hfield : p field = true) : field.name ≠ name := by
    rintro rfl
    simpa [EditInfo.touches, hinfo] using hp field hfield
  cases info with
  | replace element => exact applyReplace_sameOn (hname rfl) vcard
  | append element =>
    simp only [EditInfo.apply, applyAppend]
    split_ifs
    · refine sameOn_append ?_ vcard
      by_contra hpos
      exact hname rfl element (eq_true_of_ne_false hpos) rfl
    · exact .refl p vcard
  | delete elementName =>
    exact sameOn_filter (fun field hfield => by simpa using hname rfl field hfield) vcard
  | clear =>
    refine sameOn_filter (fun field hfield => ?_) vcard
    simpa [EditInfo.touches, EditInfo.elementName] using hp field hfield
  | setAlias newAlias =>
    rw [EditInfo.apply]
    rcases applySetAlias_cases conn newAlias vcard with heq | ⟨text, heq⟩
    · rw [heq]
      exact .refl p vcard
    · rw [heq]
      exact applyReplace_sameOn (hname rfl) vcard

theorem applyEdits_sameOn {p : Field β → Bool}
    (hp : ∀ field, p field = true → untouched conn infos field = true) (vcard : VCard β) :
    SameOn p vcard (applyEdits conn infos vcard).2 := by
  induction infos generalizing vcard with
  | nil => exact .refl p vcard
  | cons info infos ih =>
    have hsplit (field : Field β) (hfield : p field = true) :
        info.touches conn field.name = false ∧ untouched conn infos field = true := by
      simpa [untouched] using hp field hfield
    exact (apply_sameOn (fun field hfield => (hsplit field hfield).1) vcard).trans
      (ih (fun field hfield => (hsplit field hfield).2) _)

theorem applyEdits_append (infos infos' : List (EditInfo β)) (vcard : VCard β) :
    (applyEdits conn (infos ++ infos') vcard).2 =
      (applyEdits conn infos' (applyEdits conn infos vcard).2).2 := by
  induction infos generalizing vcard with
  | nil => rfl
  | cons info infos ih => exact ih _

/-- **The patched vCard.**  When no edit reports a change it is the old one.  After a
REPLACE of a field that the server supports the new element is the only one of its name,
and the same REPLACE changes nothing any more.  The fields that no edit touches stay, in
their order. -/
theorem applyEdits_spec (conn : Connection β) (infos : List (EditInfo β)) (vcard : VCard β) :
    ((applyEdits conn infos vcard).1 = false → (applyEdits conn infos vcard).2 = vcard) ∧
    (∀ infos₁ element infos₂, infos = infos₁ ++ .replace element :: infos₂ →
      (conn.canUseVCardField element.name = true →
        (applyEdits conn (infos₁ ++ [.replace element]) vcard).2.filter
          (·.name == element.name) = [element]) ∧
      ((EditInfo.replace element).apply conn
        (applyEdits conn (infos₁ ++ [.replace element]) vcard).2).1 = false) ∧
    (applyEdits conn infos vcard).2.filter (untouched conn infos) =
      vcard.filter (untouched conn infos) := by
  refine ⟨applyEdits_unchanged, fun infos₁ element infos₂ _ => ?_,
    applyEdits_sameOn (fun _ hfield => hfield) vcard⟩
  rw [applyEdits_append]
  exact ⟨fun hcan => applyReplace_named hcan _, applyReplace_again conn element _⟩

/-- A CLEAR takes away fields that it does not name. -/
theorem clear_removes_unnamed :
    ¬ ∀ (conn : Connection Unit) (infos : List (EditInfo Unit)) (vcard : VCard Unit),
        (applyEdits conn infos vcard).2.filter
            (fun field => infos.all fun info => info.elementName conn ≠ some field.name) =
          vcard.filter
            (fun field => infos.all fun info => info.elementName conn ≠ some field.name) := by
  intro hall
  have hkept := hall ⟨1, false, none, fun _ => ()⟩ [.clear] [⟨"TEL", ()⟩]
  revert hkept
  decide

end VCardManager
