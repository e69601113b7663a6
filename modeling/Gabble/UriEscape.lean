/-
# Percent escapes

GLib's `g_uri_escape_string` and `g_uri_unescape_string` over lists of bytes.  Escaping
leaves the bytes of a given class as they are and writes every other byte with a percent
sign and two digits; unescaping fails on a percent sign that begins no escape, and on the
escape of a zero byte.
-/
import Gabble.CText

namespace UriEscape

open CText (isDigit digitValue digit_cases toLower)

variable {b : UInt8}

abbrev Bytes := List UInt8

/-! ## The functions -/

/-- The digit for four bits, in upper case. -/
def hexDigit (n : ℕ) : UInt8 := if n < 10 then UInt8.ofNat (48 + n) else UInt8.ofNat (55 + n)

/-- A byte, as it is or escaped. -/
def escapeByte (keep : UInt8 → Bool) (b : UInt8) : Bytes :=
  if keep b then [b] else [37, hexDigit (b.toNat / 16), hexDigit (b.toNat % 16)]

/-- `g_uri_escape_string`, which keeps the bytes that `keep` says. -/
def escape (keep : UInt8 → Bool) (text : Bytes) : Bytes := text.flatMap (escapeByte keep)

/-- `g_uri_unescape_string` -/
def unescape : Bytes → Option Bytes
  | [] => some []
  | 37 :: a :: b :: rest =>
    if isDigit 16 a && isDigit 16 b && digitValue a * 16 + digitValue b ≠ 0 then
      (unescape rest).map fun text => UInt8.ofNat (digitValue a * 16 + digitValue b) :: text
    else none
  | b :: rest => if b = 37 then none else (unescape rest).map fun text => b :: text

/-- Every percent sign begins the escape of a byte that is not zero. -/
def WellEscaped (text : Bytes) : Prop :=
  ∀ before rest, text = before ++ 37 :: rest →
    ∃ a b rest', rest = a :: b :: rest' ∧ isDigit 16 a = true ∧ isDigit 16 b = true ∧
      ¬ (a = 48 ∧ b = 48)

variable {keep : UInt8 → Bool} {text : Bytes}

/-! ## Unescaping -/

theorem unescape_cons (hb : b ≠ 37) (rest : Bytes) :
    unescape (b :: rest) = (unescape rest).map fun text => b :: text := by
  rw [unescape.eq_def]
  split
  · rename_i h
    cases h
  · rename_i h
    cases h
    exact absurd rfl hb
  · rename_i h
    cases h
    rw [if_neg hb]

theorem unescape_escaped {a b : UInt8} (ha : isDigit 16 a = true) (hb : isDigit 16 b = true)
    (hzero : digitValue a * 16 + digitValue b ≠ 0) (rest : Bytes) :
    unescape (37 :: a :: b :: rest) =
      (unescape rest).map fun text => UInt8.ofNat (digitValue a * 16 + digitValue b) :: text := by
  rw [unescape, if_pos]
  rw [ha, hb, decide_eq_true hzero]
  rfl

theorem ne_percent_of_isDigit (h : isDigit 16 b = true) : b ≠ 37 :=
  CText.ne_of_isDigit h (n := 37) (by omega)

/-- A digit is zero only for the character zero. -/
theorem digitValue_eq_zero (h : isDigit 16 b = true) :
    digitValue b = 0 ↔ b = 48 := by
  have hall : ∀ b : UInt8, isDigit 16 b = true → (digitValue b = 0 ↔ b = 48) :=
    CText.forall_byte (by decide +kernel)
  exact hall b h

theorem escaped_ne_zero {a b : UInt8} (ha : isDigit 16 a = true) (hb : isDigit 16 b = true) :
    digitValue a * 16 + digitValue b ≠ 0 ↔ ¬ (a = 48 ∧ b = 48) := by
  rw [← digitValue_eq_zero ha, ← digitValue_eq_zero hb]
  omega

theorem wellEscaped_cons (hb : b ≠ 37) (rest : Bytes) :
    WellEscaped (b :: rest) ↔ WellEscaped rest := by
  constructor
  · rintro h before rest' rfl
    exact h (b :: before) rest' rfl
  · rintro h (_ | ⟨b', before⟩) rest' hsplit
    · cases hsplit
      exact absurd rfl hb
    · cases hsplit
      exact h before rest' rfl

theorem wellEscaped_escaped {a b : UInt8} {rest : Bytes} :
    WellEscaped (37 :: a :: b :: rest) ↔
      (isDigit 16 a = true ∧ isDigit 16 b = true ∧ ¬ (a = 48 ∧ b = 48)) ∧ WellEscaped rest := by
  constructor
  · intro h
    obtain ⟨a', b', rest', hrest, ha, hb, hzero⟩ := h [] _ rfl
    cases hrest
    refine ⟨⟨ha, hb, hzero⟩, ?_⟩
    rintro before rest' rfl
    exact h (37 :: a :: b :: before) rest' rfl
  · rintro ⟨⟨ha, hb, hzero⟩, h⟩
    -- the digits are no percent signs
    have hdigits := (wellEscaped_cons (ne_percent_of_isDigit ha) _).mpr
      ((wellEscaped_cons (ne_percent_of_isDigit hb) _).mpr h)
    rintro (_ | ⟨c, before⟩) rest' hsplit
    · cases hsplit
      exact ⟨a, b, rest, rfl, ha, hb, hzero⟩
    · exact hdigits before rest' (List.cons_eq_cons.mp hsplit).2

/-- **What can be unescaped.** -/
theorem unescape_isSome_iff (text : Bytes) : (unescape text).isSome = true ↔ WellEscaped text := by
  induction text using unescape.induct with
  | case1 =>
    refine iff_of_true rfl ?_
    rintro before rest h
    exact absurd h.symm (by simp)
  | case2 a b rest hescape ih =>
    rw [Bool.and_eq_true, Bool.and_eq_true, decide_eq_true_iff] at hescape
    obtain ⟨⟨ha, hb⟩, hzero⟩ := hescape
    rw [unescape_escaped ha hb hzero, Option.isSome_map, ih, wellEscaped_escaped,
      and_iff_right ⟨ha, hb, (escaped_ne_zero ha hb).mp hzero⟩]
  | case3 a b rest hescape =>
    rw [unescape, if_neg hescape]
    refine iff_of_false Bool.false_ne_true ?_
    intro h
    obtain ⟨⟨ha, hb, hzero⟩, -⟩ := wellEscaped_escaped.mp h
    apply hescape
    rw [ha, hb, decide_eq_true ((escaped_ne_zero ha hb).mpr hzero)]
    rfl
  | case4 rest hshort =>
    -- a percent sign with less than two bytes behind it
    have hfail : unescape (37 :: rest) = none := by
      rw [unescape.eq_def]
      split
      · rename_i h
        cases h
      · rename_i h
        cases h
        exact absurd rfl (hshort _ _ _ rfl)
      · rename_i h
        cases h
        exact if_pos rfl
    rw [hfail]
    refine iff_of_false Bool.false_ne_true ?_
    intro h
    obtain ⟨a, b, rest', hrest, -⟩ := h [] rest rfl
    exact hshort a b rest' rfl hrest
  | case5 b rest hshort hb ih =>
    rw [unescape_cons hb, Option.isSome_map, ih, wellEscaped_cons hb]

/-! ## Escaping -/

theorem escape_cons (b : UInt8) (rest : Bytes) :
    escape keep (b :: rest) = escapeByte keep b ++ escape keep rest := List.flatMap_cons

theorem escape_append (text text' : Bytes) :
    escape keep (text ++ text') = escape keep text ++ escape keep text' := List.flatMap_append

theorem digits_of_byte (b : UInt8) :
    isDigit 16 (hexDigit (b.toNat / 16)) = true ∧ isDigit 16 (hexDigit (b.toNat % 16)) = true ∧
      digitValue (hexDigit (b.toNat / 16)) * 16 + digitValue (hexDigit (b.toNat % 16)) =
        b.toNat := by
  have hdigit : ∀ n < 16, isDigit 16 (hexDigit n) = true ∧ digitValue (hexDigit n) = n := by
    decide
  have hb : b.toNat < 256 := b.toNat_lt
  obtain ⟨hhigh, hhighvalue⟩ := hdigit (b.toNat / 16) (by omega)
  obtain ⟨hlow, hlowvalue⟩ := hdigit (b.toNat % 16) (by omega)
  rw [hhighvalue, hlowvalue]
  exact ⟨hhigh, hlow, by omega⟩

/-- One byte comes back. -/
theorem unescape_escapeByte (hpercent : keep 37 = false) (hb : b ≠ 0) (rest : Bytes) :
    unescape (escapeByte keep b ++ rest) = (unescape rest).map fun text => b :: text := by
  rw [escapeByte]
  by_cases hkeep : keep b = true
  · have hne : b ≠ 37 := by
      rintro rfl
      rw [hpercent] at hkeep
      cases hkeep
    rw [if_pos hkeep]
    exact unescape_cons hne rest
  · obtain ⟨hhigh, hlow, hvalue⟩ := digits_of_byte b
    have hzero : b.toNat ≠ 0 := fun h => hb (UInt8.toNat_inj.mp h)
    rw [if_neg hkeep]
    refine (unescape_escaped hhigh hlow (by rwa [hvalue]) rest).trans ?_
    rw [hvalue, UInt8.ofNat_toNat]

/-- **Unescaping inverts escaping.** -/
theorem unescape_escape (hpercent : keep 37 = false) (hnul : 0 ∉ text) :
    unescape (escape keep text) = some text := by
  induction text with
  | nil => rfl
  | cons b rest ih =>
    rw [List.mem_cons, not_or] at hnul
    rw [escape_cons, unescape_escapeByte hpercent (Ne.symm hnul.1), ih hnul.2]
    rfl

/-- One byte comes back when the digits have been made small. -/
theorem unescape_lower_escapeByte (hpercent : keep 37 = false) (hb : b ≠ 0)
    (hcase : toLower b = b) (rest : Bytes) :
    unescape ((escapeByte keep b).map toLower ++ rest) =
      (unescape rest).map fun text => b :: text := by
  have hlower : ∀ n < 16, isDigit 16 (toLower (hexDigit n)) = true ∧
      digitValue (toLower (hexDigit n)) = n := by decide
  rw [escapeByte]
  by_cases hkeep : keep b = true
  · have hne : b ≠ 37 := by
      rintro rfl
      rw [hpercent] at hkeep
      cases hkeep
    rw [if_pos hkeep, List.map_singleton, hcase]
    exact unescape_cons hne rest
  · have hlt : b.toNat < 256 := b.toNat_lt
    obtain ⟨hhigh, hhighvalue⟩ := hlower (b.toNat / 16) (by omega)
    obtain ⟨hlow, hlowvalue⟩ := hlower (b.toNat % 16) (by omega)
    have hvalue : b.toNat / 16 * 16 + b.toNat % 16 = b.toNat := by omega
    have hzero : b.toNat ≠ 0 := fun h => hb (UInt8.toNat_inj.mp h)
    rw [if_neg hkeep]
    refine (unescape_escaped hhigh hlow (by rwa [hhighvalue, hlowvalue, hvalue]) rest).trans ?_
    rw [hhighvalue, hlowvalue, hvalue, UInt8.ofNat_toNat]

/-- Unescaping inverts escaping also when the digits have been made small. -/
theorem unescape_lower_escape (hpercent : keep 37 = false) (hnul : 0 ∉ text)
    (hcase : ∀ b ∈ text, toLower b = b) :
    unescape ((escape keep text).map toLower) = some text := by
  induction text with
  | nil => rfl
  | cons b rest ih =>
    rw [List.mem_cons, not_or] at hnul
    rw [escape_cons, List.map_append, unescape_lower_escapeByte hpercent (Ne.symm hnul.1)
      (hcase b List.mem_cons_self), ih hnul.2 fun c hc => hcase c (List.mem_cons_of_mem _ hc)]
    rfl

theorem escape_eq_self (hkeep : ∀ b ∈ text, keep b = true) : escape keep text = text := by
  induction text with
  | nil => rfl
  | cons b rest ih =>
    rw [escape_cons, ih fun c hc => hkeep c (List.mem_cons_of_mem _ hc), escapeByte,
      if_pos (hkeep b List.mem_cons_self)]
    rfl

/-- A byte that is escaped leaves a percent sign. -/
theorem percent_mem_escape (hb : b ∈ text) (hkeep : keep b = false) :
    37 ∈ escape keep text := by
  refine List.mem_flatMap.mpr ⟨b, hb, ?_⟩
  rw [escapeByte, if_neg (by rw [hkeep]; exact Bool.false_ne_true)]
  exact List.mem_cons_self

/-- Text without a percent sign is left alone. -/
theorem unescape_eq_self (hpercent : 37 ∉ text) : unescape text = some text := by
  induction text with
  | nil => rfl
  | cons b rest ih =>
    rw [List.mem_cons, not_or] at hpercent
    rw [unescape_cons (Ne.symm hpercent.1), ih hpercent.2]
    rfl

/-- What escaped text is made of. -/
theorem mem_escape {c : UInt8} (h : c ∈ escape keep text) :
    (c ∈ text ∧ keep c = true) ∨ c = 37 ∨ isDigit 16 c = true := by
  obtain ⟨b, hb, hc⟩ := List.mem_flatMap.mp h
  rw [escapeByte] at hc
  by_cases hkeep : keep b = true
  · rw [if_pos hkeep, List.mem_singleton] at hc
    subst hc
    exact .inl ⟨hb, hkeep⟩
  · obtain ⟨hhigh, hlow, -⟩ := digits_of_byte b
    rw [if_neg hkeep] at hc
    simp only [List.mem_cons, List.not_mem_nil, or_false] at hc
    rcases hc with rfl | rfl | rfl
    · exact .inr (.inl rfl)
    · exact .inr (.inr hhigh)
    · exact .inr (.inr hlow)

theorem escape_eq_nil : escape keep text = [] ↔ text = [] := by
  cases text with
  | nil => exact iff_of_true rfl rfl
  | cons b rest =>
    refine iff_of_false ?_ (List.cons_ne_nil b rest)
    rw [escape, List.flatMap_cons, escapeByte]
    split <;> exact List.cons_ne_nil _ _

end UriEscape
