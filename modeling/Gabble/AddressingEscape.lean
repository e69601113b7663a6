/-
# Escaped text (`src/addressing-util.c`)

What GLib does to a part of a JID that `gabble_jid_to_uri` has escaped, when it takes the
URI apart again.

* `unescape_strdown_escape`: the part comes back although its escapes have been made small;
* `normalize_escape`: Unicode normalization leaves it alone, or makes one character of a
  digit of an escape and what follows the escape (`Broken`);
* `unescape_broken`: then it cannot be unescaped.
-/
import Gabble.AddressingUri

namespace Addressing

open CText (toLower isDigit forall_byte)
open UriEscape

variable {g : GLib} {a b t : Bytes}
variable {c : UInt8}

/-! ## ASCII text -/

/-- The text is ASCII. -/
def Ascii (t : Bytes) : Prop := ∀ b ∈ t, 0 < b ∧ b < 128

instance (t : Bytes) : Decidable (Ascii t) :=
  inferInstanceAs (Decidable (∀ b ∈ t, 0 < b ∧ b < 128))

theorem Ascii.append (ha : Ascii a) (hb : Ascii b) : Ascii (a ++ b) := by
  intro c hc
  rcases List.mem_append.mp hc with hc | hc
  · exact ha c hc
  · exact hb c hc

theorem toLower_of_not_capital {b : UInt8} (h : isCapital b = false) : toLower b = b := by
  unfold toLower
  rw [if_neg]
  intro hcapital
  rw [isCapital, hcapital] at h
  cases h

theorem isCapital_toLower : ∀ b : UInt8, isCapital (toLower b) = false :=
  forall_byte (by decide +kernel)

theorem toLower_range {b : UInt8} (h : 0 < b ∧ b < 128) : 0 < toLower b ∧ toLower b < 128 := by
  have hall : ∀ b : UInt8, 0 < b ∧ b < 128 → 0 < toLower b ∧ toLower b < 128 :=
    forall_byte (by decide +kernel)
  exact hall b h

/-- The last ASCII character of a text. -/
theorem last_ascii (t : Bytes) : (∀ b ∈ t, 128 ≤ b) ∨
    ∃ a c run, t = a ++ c :: run ∧ c < 128 ∧ ∀ b ∈ run, 128 ≤ b := by
  induction t with
  | nil => exact .inl fun b hb => absurd hb List.not_mem_nil
  | cons b t ih =>
    rcases ih with hhigh | ⟨a, c, run, rfl, hlow, hhigh⟩
    · by_cases hb : b < 128
      · exact .inr ⟨[], b, t, rfl, hb, hhigh⟩
      · refine .inl fun c hc => ?_
        rcases List.mem_cons.mp hc with rfl | hc
        · exact UInt8.not_lt.mp hb
        · exact hhigh c hc
    · exact .inr ⟨b :: a, c, run, rfl, hlow, hhigh⟩

theorem ascii_lower (ht : Ascii t) : Ascii (t.map toLower) := by
  intro b hb
  obtain ⟨c, hc, rfl⟩ := List.mem_map.mp hb
  exact toLower_range (ht c hc)

section

variable (hg : g.Lawful)

include hg

theorem validate_cons (hc : 0 < c ∧ c < 128) :
    g.validate (c :: t) = true ↔ g.validate t = true := by
  have happend := hg.validate_append [] t c hc.1 hc.2
  rw [hg.validate_nil] at happend
  simpa using happend

theorem validate_ascii_append (ha : Ascii a) :
    g.validate (a ++ t) = true ↔ g.validate t = true := by
  induction a with
  | nil => exact Iff.rfl
  | cons c a ih =>
    rw [List.cons_append, validate_cons hg (ha c List.mem_cons_self)]
    exact ih fun b hb => ha b (List.mem_cons_of_mem _ hb)

theorem validate_ascii (ht : Ascii t) : g.validate t = true := by
  rw [← List.append_nil t, validate_ascii_append hg ht]
  exact hg.validate_nil

/-- ASCII text without capitals is left alone. -/
theorem strdown_ascii_append (ha : Ascii a) (hcapital : ∀ b ∈ a, isCapital b = false)
    (ht : g.validate t = true) : g.strdown (a ++ t) = a ++ t ↔ g.strdown t = t := by
  induction a with
  | nil => exact Iff.rfl
  | cons c a ih =>
    have hc := ha c List.mem_cons_self
    have htail : Ascii a := fun b hb => ha b (List.mem_cons_of_mem _ hb)
    have hbyte := (hg.strdown_byte c hc.1 hc.2).mpr (hcapital c List.mem_cons_self)
    have hpieces := hg.strdown_append [c] (a ++ t)
      ((validate_cons hg hc).mpr hg.validate_nil) ((validate_ascii_append hg htail).mpr ht)
    rw [List.singleton_append] at hpieces
    rw [List.cons_append, hpieces, and_iff_right hbyte]
    exact ih htail fun b hb => hcapital b (List.mem_cons_of_mem _ hb)

/-- Text that is left alone has no capital letter of ASCII. -/
theorem not_capital_of_strdown (ht : g.validate t = true) (hfixed : g.strdown t = t)
    (hc : c ∈ t) : isCapital c = false := by
  by_cases hrange : 0 < c ∧ c < 128
  · obtain ⟨a, b, rfl⟩ := List.append_of_mem hc
    obtain ⟨ha, hb⟩ := (hg.validate_append a b c hrange.1 hrange.2).mp ht
    have hcb : g.validate (c :: b) = true := (validate_cons hg hrange).mpr hb
    have hone : g.validate [c] = true := (validate_cons hg hrange).mpr hg.validate_nil
    have htail := ((hg.strdown_append a (c :: b) ha hcb).mp hfixed).2
    have hbyte := ((hg.strdown_append [c] b hone hb).mp htail).1
    exact (hg.strdown_byte c hrange.1 hrange.2).mp hbyte
  · -- a capital letter is in the range
    by_contra hcapital
    apply hrange
    rw [Bool.not_eq_false, isCapital, Bool.and_eq_true, decide_eq_true_iff,
      decide_eq_true_iff] at hcapital
    rw [UInt8.lt_iff_toNat_lt, UInt8.lt_iff_toNat_lt]
    rw [UInt8.le_iff_toNat_le, UInt8.le_iff_toNat_le] at hcapital
    simp only [UInt8.toNat_ofNat] at hcapital ⊢
    omega

/-- Valid text, one ASCII character after the other. -/
theorem validate_induction {P : Bytes → Prop}
    (hrun : ∀ run, (∀ b ∈ run, 128 ≤ b) → g.validate run = true → P run)
    (hstep : ∀ a c run, g.validate a = true → 0 < c ∧ c < 128 → (∀ b ∈ run, 128 ≤ b) →
      g.validate run = true → P a → P (a ++ c :: run)) :
    ∀ t, g.validate t = true → P t := by
  intro t
  induction hn : t.length using Nat.strong_induction_on generalizing t with
  | _ n ih =>
    intro ht
    subst hn
    rcases last_ascii t with hhigh | ⟨a, c, run, rfl, hlow, hhigh⟩
    · exact hrun t hhigh ht
    · have hpos : 0 < c := by
        have hnul := hg.validate_nul _ ht
        rw [List.mem_append, List.mem_cons, not_or, not_or] at hnul
        exact UInt8.pos_iff_ne_zero.mpr (Ne.symm hnul.2.1)
      obtain ⟨ha, hrest⟩ := (hg.validate_append a run c hpos hlow).mp ht
      refine hstep a c run ha ⟨hpos, hlow⟩ hhigh hrest ?_
      refine ih a.length ?_ a rfl ha
      rw [List.length_append, List.length_cons]
      omega

end

/-! ## Escaped text -/

theorem allowed_of_high {b : UInt8} (hb : 128 ≤ b) : allowed b = true := by
  rw [allowed, decide_eq_true hb, Bool.or_true]

/-- An ASCII character that is escaped. -/
theorem escapeByte_cases (hc : 0 < c ∧ c < 128) (hkeep : allowed c = false) :
    ∃ x y, escapeByte allowed c = [37, x, y] ∧ (48 ≤ x ∧ x ≤ 57) ∧ 0 < y ∧ y < 128 := by
  have hhigh : ∀ n < 8, 48 ≤ hexDigit n ∧ hexDigit n ≤ 57 := by decide
  have hlow : ∀ n < 16, 0 < hexDigit n ∧ hexDigit n < 128 := by decide
  have hlt : c.toNat < 128 := UInt8.lt_iff_toNat_lt.mp hc.2
  refine ⟨hexDigit (c.toNat / 16), hexDigit (c.toNat % 16), ?_, hhigh _ (by omega),
    hlow _ (by omega)⟩
  rw [escapeByte, if_neg (by rw [hkeep]; exact Bool.false_ne_true)]

theorem escapeByte_ne_nil (c : UInt8) : escapeByte allowed c ≠ [] := by
  rw [escapeByte]
  split <;> exact List.cons_ne_nil _ _

theorem escapeByte_ascii (hc : 0 < c ∧ c < 128) : Ascii (escapeByte allowed c) := by
  by_cases hkeep : allowed c = true
  · rw [escapeByte, if_pos hkeep]
    intro b hb
    rwa [List.mem_singleton.mp hb]
  · obtain ⟨x, y, hescaped, hx, hy⟩ := escapeByte_cases hc (eq_false_of_ne_true hkeep)
    rw [hescaped]
    intro b hb
    simp only [List.mem_cons, List.not_mem_nil, or_false] at hb
    rcases hb with rfl | rfl | rfl
    · decide
    · exact ⟨UInt8.lt_of_lt_of_le (by decide) hx.1, UInt8.lt_of_le_of_lt hx.2 (by decide)⟩
    · exact hy

theorem escape_high (hhigh : ∀ b ∈ t, 128 ≤ b) : uriEscapeString t = t :=
  escape_eq_self fun b hb => allowed_of_high (hhigh b hb)

theorem escape_split (a run : Bytes) (c : UInt8) (hhigh : ∀ b ∈ run, 128 ≤ b) :
    uriEscapeString (a ++ c :: run) = uriEscapeString a ++ (escapeByte allowed c ++ run) := by
  have hrun : escape allowed run = run := escape_high hhigh
  rw [uriEscapeString, escape_append, escape_cons, hrun]
  rfl

/-- A character that is escaped and is part of no escape. -/
theorem not_mem_escape (hkeep : allowed c = false) (hpercent : c ≠ 37)
    (hdigit : isDigit 16 c = false) : c ∉ uriEscapeString t := by
  intro hc
  rcases mem_escape hc with ⟨-, hallowed⟩ | hc | hc
  · rw [hkeep] at hallowed
    cases hallowed
  · exact hpercent hc
  · rw [hdigit] at hc
    cases hc

theorem lower_high (hhigh : ∀ b ∈ t, 128 ≤ b) : t.map toLower = t := by
  have hall : ∀ b : UInt8, 128 ≤ b → toLower b = b := forall_byte (by decide +kernel)
  exact (List.map_congr_left fun b hb => hall b (hhigh b hb)).trans (List.map_id t)

section

variable (hg : g.Lawful)

include hg

/-- ASCII between two texts. -/
theorem validate_between {m : Bytes} (ha : g.validate a = true)
    (hm : Ascii (c :: m)) (ht : g.validate t = true) : g.validate (a ++ c :: (m ++ t)) = true := by
  have hc := hm c List.mem_cons_self
  refine (hg.validate_append a _ c hc.1 hc.2).mpr ⟨ha, ?_⟩
  exact (validate_ascii_append hg fun b hb => hm b (List.mem_cons_of_mem _ hb)).mpr ht

theorem validate_lower (ht : g.validate t = true) : g.validate (t.map toLower) = true := by
  refine validate_induction hg (P := fun t => g.validate (t.map toLower) = true) ?_ ?_ t ht
  · intro run hhigh hrun
    rwa [lower_high hhigh]
  · intro a c run ha hc hhigh hrun ih
    have hlower := toLower_range hc
    rw [List.map_append, List.map_cons, lower_high hhigh]
    exact (hg.validate_append _ run _ hlower.1 hlower.2).mpr ⟨ih, hrun⟩

theorem validate_escape (ht : g.validate t = true) : g.validate (uriEscapeString t) = true := by
  refine validate_induction hg (P := fun t => g.validate (uriEscapeString t) = true) ?_ ?_ t ht
  · intro run hhigh hrun
    rwa [escape_high hhigh]
  · intro a c run ha hc hhigh hrun ih
    have hescape := escapeByte_ascii hc
    rw [escape_split a run c hhigh]
    cases hbyte : escapeByte allowed c with
    | nil => exact absurd hbyte (escapeByte_ne_nil c)
    | cons d m =>
      rw [hbyte] at hescape
      exact validate_between hg ih hescape hrun

/-- Small text stays small when its escapes are made small. -/
theorem strdown_lower_escape (ht : g.validate t = true) (hfixed : g.strdown t = t) :
    g.strdown ((uriEscapeString t).map toLower) = (uriEscapeString t).map toLower := by
  refine validate_induction hg (P := fun t => g.strdown t = t →
    g.strdown ((uriEscapeString t).map toLower) = (uriEscapeString t).map toLower) ?_ ?_ t ht hfixed
  · intro run hhigh hrun hfixed
    rwa [escape_high hhigh, lower_high hhigh]
  · intro a c run ha hc hhigh hrun ih hfixed
    have hcrun : g.validate (c :: run) = true := (validate_cons hg hc).mpr hrun
    have hone : g.validate [c] = true := (validate_cons hg hc).mpr hg.validate_nil
    obtain ⟨hafixed, htail⟩ := (hg.strdown_append a (c :: run) ha hcrun).mp hfixed
    have hrunfixed := ((hg.strdown_append [c] run hone hrun).mp htail).2
    have hlower : Ascii ((escapeByte allowed c).map toLower) := ascii_lower (escapeByte_ascii hc)
    have hsmall : ∀ b ∈ (escapeByte allowed c).map toLower, isCapital b = false := by
      intro b hb
      obtain ⟨d, -, rfl⟩ := List.mem_map.mp hb
      exact isCapital_toLower d
    rw [escape_split a run c hhigh, List.map_append, List.map_append, lower_high hhigh]
    refine (hg.strdown_append _ _ (validate_lower hg (validate_escape hg ha))
      ((validate_ascii_append hg hlower).mpr hrun)).mpr ⟨ih hafixed, ?_⟩
    exact (strdown_ascii_append hg hlower hsmall hrun).mpr hrunfixed

/-- Of escaped small text, only the digits are made small. -/
theorem strdown_escape (ht : g.validate t = true) (hfixed : g.strdown t = t) :
    g.strdown (uriEscapeString t) = (uriEscapeString t).map toLower := by
  refine hg.strdown_hex _ (validate_escape hg ht) ?_ (strdown_lower_escape hg ht hfixed)
  intro b hb hcapital
  rcases mem_escape hb with ⟨hmem, -⟩ | rfl | hdigit
  · rw [not_capital_of_strdown hg ht hfixed hmem] at hcapital
    cases hcapital
  · decide
  · have hrange := CText.digit_cases hdigit
    rw [isCapital, Bool.and_eq_true, decide_eq_true_iff, decide_eq_true_iff] at hcapital
    simp only [UInt8.le_iff_toNat_le, UInt8.toNat_ofNat] at hcapital ⊢
    omega

/-- **What was escaped comes back**, also when it has been made small. -/
theorem unescape_strdown_escape (ht : g.validate t = true) (hfixed : g.strdown t = t) :
    unescape (g.strdown (uriEscapeString t)) = some t := by
  rw [strdown_escape hg ht hfixed]
  refine unescape_lower_escape (by decide) (hg.validate_nul t ht) ?_
  intro b hb
  exact toLower_of_not_capital (not_capital_of_strdown hg ht hfixed hb)

end

/-! ## Normal text -/

/-- An escape whose second digit has become part of another character. -/
def Broken (g : GLib) (u : Bytes) : Prop :=
  ∃ a x b w, u = a ++ 37 :: x :: b :: w ∧ g.validate a = true ∧ (48 ≤ x ∧ x ≤ 57) ∧
    128 ≤ b ∧ g.validate (b :: w) = true

theorem Broken.percent {u : Bytes} (h : Broken g u) : 37 ∈ u := by
  obtain ⟨a, x, b, w, rfl, -⟩ := h
  exact List.mem_append_right a List.mem_cons_self

section

variable (hg : g.Lawful)

include hg

theorem Broken.append {u : Bytes} (h : Broken g u) (hc : 0 < c ∧ c < 128)
    (ht : g.validate t = true) : Broken g (u ++ c :: t) := by
  obtain ⟨a, x, b, w, rfl, ha, hx, hb, hw⟩ := h
  refine ⟨a, x, b, w ++ c :: t, by simp, ha, hx, hb, ?_⟩
  exact (hg.validate_append (b :: w) t c hc.1 hc.2).mpr ⟨hw, ht⟩

/-- What the escape of one character and the text after it are normalized to. -/
theorem normalize_escape_step {run : Bytes} (ha : g.validate a = true)
    (hc : 0 < c ∧ c < 128) (hhigh : ∀ b ∈ run, 128 ≤ b) (hrun : g.validate run = true)
    (hnormal : g.normalize (a ++ c :: run) = a ++ c :: run) :
    g.normalize (uriEscapeString (a ++ c :: run)) =
        g.normalize (uriEscapeString a) ++ (escapeByte allowed c ++ run) ∨
      ∃ x y b w, escapeByte allowed c = [37, x, y] ∧
        g.normalize (uriEscapeString (a ++ c :: run)) =
          g.normalize (uriEscapeString a) ++ 37 :: x :: b :: w ∧
        (48 ≤ x ∧ x ≤ 57) ∧ (∀ d ∈ b :: w, 128 ≤ d) ∧ g.validate (b :: w) = true := by
  have hcrun : g.validate (c :: run) = true := (validate_cons hg hc).mpr hrun
  have hone : g.validate [c] = true := (validate_cons hg hc).mpr hg.validate_nil
  have hescape := validate_escape hg ha
  have htail := (hg.normalize_pieces a (c :: run) ha hcrun hnormal).2
  rw [escape_split a run c hhigh]
  by_cases hkeep : allowed c = true
  · rw [escapeByte, if_pos hkeep, List.singleton_append,
      hg.normalize_append _ _ _ hc.1 hc.2 hescape hrun, htail]
    exact .inl rfl
  · obtain ⟨x, y, hbyte, hx, hy⟩ := escapeByte_cases hc (eq_false_of_ne_true hkeep)
    have hxrange : 0 < x ∧ x < 128 :=
      ⟨UInt8.lt_of_lt_of_le (by decide) hx.1, UInt8.lt_of_le_of_lt hx.2 (by decide)⟩
    have hyrun : g.validate (y :: run) = true := (validate_cons hg hy).mpr hrun
    have hxyrun : g.validate (x :: y :: run) = true := (validate_cons hg hxrange).mpr hyrun
    -- the percent sign and the first digit stay as they are
    have hdigits : g.normalize (uriEscapeString a ++ 37 :: x :: y :: run) =
        g.normalize (uriEscapeString a) ++ 37 :: x :: g.normalize (y :: run) := by
      have hsingle : ∀ d : UInt8, 0 < d ∧ d < 128 →
          g.validate [d] = true ∧ g.normalize [d] = [d] := by
        intro d hd
        have hascii : Ascii [d] := fun b hb => by rwa [List.mem_singleton.mp hb]
        exact ⟨validate_ascii hg hascii, hg.normalize_ascii [d] hascii⟩
      obtain ⟨hpercent, hpercentnormal⟩ := hsingle 37 (by decide)
      obtain ⟨hfirst, hfirstnormal⟩ := hsingle x hxrange
      have hafterpercent := hg.normalize_append [37] (y :: run) x hxrange.1 hxrange.2 hpercent hyrun
      have hafterfirst := hg.normalize_append [x] run y hy.1 hy.2 hfirst hrun
      rw [hg.normalize_append _ _ _ (by decide) (by decide) hescape hxyrun]
      rw [List.singleton_append] at hafterpercent hafterfirst
      rw [hafterpercent, hafterfirst, hpercentnormal, hfirstnormal]
      rfl
    rw [hbyte]
    have hrunnormal := (hg.normalize_pieces [c] run hone hrun htail).2
    have hvalid := hg.validate_normalize (y :: run) hyrun
    simp only [List.cons_append, List.nil_append, hdigits]
    rcases hg.normalize_base run y hy.1 hy.2 hrun hhigh hrunnormal with hsame | ⟨hne, hall⟩
    · rw [hsame]
      exact .inl rfl
    · obtain ⟨b, w, hbw⟩ := List.exists_cons_of_ne_nil hne
      rw [hbw] at hall hvalid ⊢
      exact .inr ⟨x, y, b, w, rfl, rfl, hx, hall, hvalid⟩

/-- Escaped text stays as it is or is broken. -/
theorem normalize_escape (ht : g.validate t = true) (hnormal : g.normalize t = t) :
    g.normalize (uriEscapeString t) = uriEscapeString t ∨
      Broken g (g.normalize (uriEscapeString t)) := by
  refine validate_induction hg (P := fun t => g.normalize t = t →
    g.normalize (uriEscapeString t) = uriEscapeString t ∨
      Broken g (g.normalize (uriEscapeString t))) ?_ ?_ t ht hnormal
  · intro run hhigh hrun hnormal
    rw [escape_high hhigh]
    exact .inl hnormal
  · intro a c run ha hc hhigh hrun ih hnormal
    have hcrun : g.validate (c :: run) = true := (validate_cons hg hc).mpr hrun
    have hanormal := (hg.normalize_pieces a (c :: run) ha hcrun hnormal).1
    rcases normalize_escape_step hg ha hc hhigh hrun hnormal with
      hsame | ⟨x, y, b, w, -, hbroken, hx, hhigh, hvalid⟩
    · rw [hsame]
      rcases ih hanormal with ih | ih
      · rw [ih, escape_split a run c hhigh]
        exact .inl rfl
      · refine .inr ?_
        have hescape := escapeByte_ascii hc
        cases hbyte : escapeByte allowed c with
        | nil => exact absurd hbyte (escapeByte_ne_nil c)
        | cons d m =>
          rw [hbyte] at hescape
          refine ih.append hg (hescape d List.mem_cons_self) ?_
          exact (validate_ascii_append hg fun b hb =>
            hescape b (List.mem_cons_of_mem _ hb)).mpr hrun
    · rw [hbroken]
      exact .inr ⟨_, x, b, w, rfl, hg.validate_normalize _ (validate_escape hg ha), hx,
        hhigh b List.mem_cons_self, hvalid⟩

/-- Normalizing escaped text makes no new ASCII character. -/
theorem mem_normalize_escape (ht : g.validate t = true) (hnormal : g.normalize t = t)
    {d : UInt8} (hd : d < 128) (hmem : d ∈ g.normalize (uriEscapeString t)) :
    d ∈ uriEscapeString t := by
  refine validate_induction hg (P := fun t => g.normalize t = t →
    d ∈ g.normalize (uriEscapeString t) → d ∈ uriEscapeString t) ?_ ?_ t ht hnormal hmem
  · intro run hhigh hrun hnormal hmem
    rw [escape_high hhigh] at hmem ⊢
    rwa [hnormal] at hmem
  · intro a c run ha hc hhigh hrun ih hnormal hmem
    have hcrun : g.validate (c :: run) = true := (validate_cons hg hc).mpr hrun
    have hanormal := (hg.normalize_pieces a (c :: run) ha hcrun hnormal).1
    rw [escape_split a run c hhigh, List.mem_append]
    rcases normalize_escape_step hg ha hc hhigh hrun hnormal with
      hsame | ⟨x, y, b, w, hbyte, hbroken, -, hhigh, -⟩
    · rw [hsame, List.mem_append] at hmem
      exact hmem.imp (ih hanormal) id
    · rw [hbroken, List.mem_append, List.mem_cons, List.mem_cons] at hmem
      rw [hbyte]
      rcases hmem with hmem | rfl | rfl | hmem
      · exact .inl (ih hanormal hmem)
      · exact .inr (by simp)
      · exact .inr (by simp)
      · exact absurd hd (UInt8.not_lt.mpr (hhigh d hmem))

theorem strdown_nil : g.strdown [] = [] := by
  have hone := (hg.strdown_byte 48 (by decide) (by decide)).mpr (by decide)
  have haround := hg.strdown_around [] [] 48 (by decide) hg.validate_nil hg.validate_nil
  rw [List.nil_append, hone] at haround
  have hlength := congrArg List.length haround
  simp only [List.length_append, List.length_cons, List.length_nil] at hlength
  exact List.length_eq_zero_iff.mp (by omega)

/-- **What is broken cannot be unescaped.** -/
theorem unescape_broken {u : Bytes} (h : Broken g u) : unescape (g.strdown u) = none := by
  obtain ⟨a, x, b, w, rfl, ha, hx, hb, hw⟩ := h
  have hsplit : a ++ 37 :: x :: b :: w = (a ++ [37]) ++ x :: b :: w := by simp
  have hpercent : g.validate (a ++ [37]) = true :=
    (hg.validate_append a [] 37 (by decide) (by decide)).mpr ⟨ha, hg.validate_nil⟩
  rw [hsplit, hg.strdown_around _ _ x (.inr hx) hpercent hw,
    hg.strdown_around a [] 37 (.inl rfl) ha hg.validate_nil, strdown_nil hg,
    ← Option.not_isSome_iff_eq_none, unescape_isSome_iff, List.append_assoc]
  intro hescaped
  obtain ⟨x', c, rest, hrest, -, hdigit, -⟩ := hescaped (g.strdown a) _ rfl
  have hhead : (g.strdown (b :: w)).head? = some c := by
    rw [(List.cons_eq_cons.mp hrest).2]
    rfl
  rw [hg.strdown_head b w c hb hw hhead] at hdigit
  cases hdigit

end

end Addressing
