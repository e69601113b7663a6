/-
# Base64

The encoder and the decoder of GLib, `g_base64_encode` and `g_base64_decode`,
over lists of characters.  The decoder is the tolerant one: it skips every
character that is not in the alphabet and never fails.  The round trip
`decode_encode` is what a protocol that carries bytes in text relies on.
-/
import Mathlib.Data.List.Basic

namespace Base64

/-- The bytes of a message. -/
abbrev Bytes := List UInt8

/-- A name for the proof that membership tests on byte strings carry. -/
instance : LawfulBEq Bytes := inferInstance

/-- The text of a stanza, one element for each character. -/
abbrev Text := List Char

/-! ## The alphabet -/

/-- The character for six bits. -/
def alphabet (n : ℕ) : Char :=
  if n < 26 then Char.ofNat (65 + n)
  else if n < 52 then Char.ofNat (97 + (n - 26))
  else if n < 62 then Char.ofNat (48 + (n - 52))
  else if n = 62 then '+'
  else '/'

/-- The six bits of a character; `none` outside the alphabet.  The padding
character counts as zero bits, as in `mime_base64_rank`. -/
def rank (c : Char) : Option ℕ :=
  if 'A' ≤ c ∧ c ≤ 'Z' then some (c.toNat - 65)
  else if 'a' ≤ c ∧ c ≤ 'z' then some (c.toNat - 97 + 26)
  else if '0' ≤ c ∧ c ≤ '9' then some (c.toNat - 48 + 52)
  else if c = '+' then some 62
  else if c = '/' then some 63
  else if c = '=' then some 0
  else none

theorem rank_alphabet {n : ℕ} (hn : n < 64) : rank (alphabet n) = some n := by
  have hall : ∀ n < 64, rank (alphabet n) = some n := by decide
  exact hall n hn

theorem alphabet_ne_pad {n : ℕ} (hn : n < 64) : alphabet n ≠ '=' := by
  have hall : ∀ n < 64, alphabet n ≠ '=' := by decide
  exact hall n hn

theorem rank_pad : rank '=' = some 0 := by decide

/-! ## Encoding -/

/-- Three bytes give four characters; one or two bytes at the end are padded. -/
def encode : Bytes → Text
  | [] => []
  | [a] => [alphabet (a.toNat / 4), alphabet (a.toNat % 4 * 16), '=', '=']
  | [a, b] =>
    [alphabet (a.toNat / 4), alphabet (a.toNat % 4 * 16 + b.toNat / 16),
      alphabet (b.toNat % 16 * 4), '=']
  | a :: b :: c :: rest =>
    alphabet (a.toNat / 4) :: alphabet (a.toNat % 4 * 16 + b.toNat / 16) ::
      alphabet (b.toNat % 16 * 4 + c.toNat / 64) :: alphabet (c.toNat % 64) ::
      encode rest

/-! ## Decoding -/

/-- The loop of `g_base64_decode_step`: `v` holds the bits read so far, `i` how
many characters of the current group were read, `last` the character before
the current one. -/
def decodeLoop : ℕ → ℕ → Char → Text → Bytes
  | _, _, _, [] => []
  | v, i, last, c :: cs =>
    match rank c with
    | none => decodeLoop v i last cs
    | some r =>
      if i + 1 = 4 then
        -- the fourth character of a group gives its one, two or three bytes
        UInt8.ofNat ((v * 64 + r) / 65536) ::
          ((if last = '=' then [] else [UInt8.ofNat ((v * 64 + r) / 256)]) ++
            (if c = '=' then [] else [UInt8.ofNat (v * 64 + r)]) ++
            decodeLoop (v * 64 + r) 0 c cs)
      else decodeLoop (v * 64 + r) (i + 1) c cs

/-- `g_base64_decode`. -/
def decode (text : Text) : Bytes := decodeLoop 0 0 '\x00' text

/-! ## The round trip -/

/-- Four characters of the alphabet give the bytes of one group. -/
theorem decodeLoop_group (v : ℕ) (last c₁ c₂ c₃ c₄ : Char) {r₁ r₂ r₃ r₄ : ℕ}
    (cs : Text) (h₁ : rank c₁ = some r₁) (h₂ : rank c₂ = some r₂)
    (h₃ : rank c₃ = some r₃) (h₄ : rank c₄ = some r₄) :
    decodeLoop v 0 last (c₁ :: c₂ :: c₃ :: c₄ :: cs) =
      UInt8.ofNat ((((((v * 64 + r₁) * 64 + r₂) * 64 + r₃) * 64 + r₄) / 65536)) ::
        ((if c₃ = '=' then [] else
            [UInt8.ofNat ((((((v * 64 + r₁) * 64 + r₂) * 64 + r₃) * 64 + r₄) / 256))]) ++
          (if c₄ = '=' then [] else
            [UInt8.ofNat ((((v * 64 + r₁) * 64 + r₂) * 64 + r₃) * 64 + r₄)]) ++
          decodeLoop ((((v * 64 + r₁) * 64 + r₂) * 64 + r₃) * 64 + r₄) 0 c₄ cs) := by
  simp [decodeLoop, h₁, h₂, h₃, h₄]

/-- A number that agrees with a byte modulo 256 is cut to it. -/
theorem ofNat_eq_of_mod {n : ℕ} {a : UInt8} (h : n % 256 = a.toNat) :
    UInt8.ofNat n = a := by
  apply UInt8.toNat_inj.mp
  rw [UInt8.toNat_ofNat']
  exact h

/-- Whatever bits are left over from before, a group boundary decodes the text
of `data` back to `data`. -/
theorem decodeLoop_encode (data : Bytes) (v : ℕ) (last : Char) :
    decodeLoop v 0 last (encode data) = data := by
  induction data using encode.induct generalizing v last with
  | case1 => rfl
  | case2 a =>
    have ha : a.toNat < 256 := a.toNat_lt
    rw [encode, decodeLoop_group v last _ _ _ _ [] (rank_alphabet (by omega))
      (rank_alphabet (by omega)) rank_pad rank_pad]
    rw [ofNat_eq_of_mod (a := a) (by omega)]
    rfl
  | case3 a b =>
    have ha : a.toNat < 256 := a.toNat_lt
    have hb : b.toNat < 256 := b.toNat_lt
    rw [encode, decodeLoop_group v last _ _ _ _ [] (rank_alphabet (by omega))
      (rank_alphabet (by omega)) (rank_alphabet (by omega)) rank_pad]
    rw [if_neg (alphabet_ne_pad (by omega)), ofNat_eq_of_mod (a := a) (by omega),
      ofNat_eq_of_mod (a := b) (by omega)]
    rfl
  | case4 a b c rest ih =>
    have ha : a.toNat < 256 := a.toNat_lt
    have hb : b.toNat < 256 := b.toNat_lt
    have hc : c.toNat < 256 := c.toNat_lt
    rw [encode, decodeLoop_group v last _ _ _ _ _ (rank_alphabet (by omega))
      (rank_alphabet (by omega)) (rank_alphabet (by omega)) (rank_alphabet (by omega))]
    rw [if_neg (alphabet_ne_pad (by omega)), if_neg (alphabet_ne_pad (by omega)),
      ofNat_eq_of_mod (a := a) (by omega), ofNat_eq_of_mod (a := b) (by omega),
      ofNat_eq_of_mod (a := c) (by omega), ih]
    rfl

/-- **Decoding inverts encoding.** -/
theorem decode_encode (data : Bytes) : decode (encode data) = data :=
  decodeLoop_encode data 0 _

example : encode [77, 97, 110] = ['T', 'W', 'F', 'u'] := by decide

/-! ## The text -/

/-- Three bytes, and each group that is begun, take four characters. -/
theorem length_encode (data : Bytes) : (encode data).length = 4 * ((data.length + 2) / 3) := by
  induction data using encode.induct with
  | case1 => rfl
  | case2 a => simp [encode]
  | case3 a b => simp [encode]
  | case4 a b c rest ih =>
    rw [encode]
    simp only [List.length_cons, ih]
    omega

/-- The text is made of the alphabet and of padding. -/
theorem mem_encode {data : Bytes} {c : Char} (h : c ∈ encode data) :
    c = '=' ∨ ∃ n < 64, c = alphabet n := by
  induction data using encode.induct with
  | case1 => cases h
  | case2 a =>
    have ha : a.toNat < 256 := a.toNat_lt
    simp only [encode, List.mem_cons, List.not_mem_nil, or_false] at h
    rcases h with rfl | rfl | rfl | rfl
    · exact .inr ⟨_, by omega, rfl⟩
    · exact .inr ⟨_, by omega, rfl⟩
    · exact .inl rfl
    · exact .inl rfl
  | case3 a b =>
    have ha : a.toNat < 256 := a.toNat_lt
    have hb : b.toNat < 256 := b.toNat_lt
    simp only [encode, List.mem_cons, List.not_mem_nil, or_false] at h
    rcases h with rfl | rfl | rfl | rfl
    · exact .inr ⟨_, by omega, rfl⟩
    · exact .inr ⟨_, by omega, rfl⟩
    · exact .inr ⟨_, by omega, rfl⟩
    · exact .inl rfl
  | case4 a b c' rest ih =>
    have ha : a.toNat < 256 := a.toNat_lt
    have hb : b.toNat < 256 := b.toNat_lt
    have hc : c'.toNat < 256 := c'.toNat_lt
    simp only [encode, List.mem_cons] at h
    rcases h with rfl | rfl | rfl | rfl | h
    · exact .inr ⟨_, by omega, rfl⟩
    · exact .inr ⟨_, by omega, rfl⟩
    · exact .inr ⟨_, by omega, rfl⟩
    · exact .inr ⟨_, by omega, rfl⟩
    · exact ih h

/-- Whole groups need no padding. -/
theorem pad_not_mem_encode {data : Bytes} (h : data.length % 3 = 0) : '=' ∉ encode data := by
  induction data using encode.induct with
  | case1 => exact List.not_mem_nil
  | case2 a => exact absurd h (by simp)
  | case3 a b => exact absurd h (by simp)
  | case4 a b c rest ih =>
    have ha : a.toNat < 256 := a.toNat_lt
    have hb : b.toNat < 256 := b.toNat_lt
    have hc : c.toNat < 256 := c.toNat_lt
    have hrest : rest.length % 3 = 0 := by
      simp only [List.length_cons] at h
      omega
    simp only [encode, List.mem_cons, not_or]
    exact ⟨(alphabet_ne_pad (by omega)).symm, (alphabet_ne_pad (by omega)).symm,
      (alphabet_ne_pad (by omega)).symm, (alphabet_ne_pad (by omega)).symm, ih hrest⟩

/-- The data, filled up with zero bytes to whole groups. -/
def padded (data : Bytes) : Bytes := data ++ List.replicate ((3 - data.length % 3) % 3) 0

theorem length_padded (data : Bytes) : (padded data).length % 3 = 0 := by
  rw [padded, List.length_append, List.length_replicate]
  omega

theorem padded_of_whole {data : Bytes} (h : data.length % 3 = 0) : padded data = data := by
  rw [padded, h]
  exact List.append_nil data

/-- To a renaming that gives padding the name of six zero bits, data is the same as the data
filled up with zero bytes. -/
theorem map_encode_padded {α : Type*} (f : Char → α) (hf : f '=' = f (alphabet 0))
    (data : Bytes) : (encode (padded data)).map f = (encode data).map f := by
  induction data using encode.induct with
  | case1 => rfl
  | case2 a =>
    show (encode [a, 0, 0]).map f = _
    simp only [encode, List.map_cons, List.map_nil, hf]
    rfl
  | case3 a b =>
    show (encode [a, b, 0]).map f = _
    simp only [encode, List.map_cons, List.map_nil, hf]
    rfl
  | case4 a b c rest ih =>
    have hpadded : padded (a :: b :: c :: rest) = a :: b :: c :: padded rest := by
      rw [padded, padded]
      simp only [List.length_cons, List.cons_append]
      rw [show (rest.length + 1 + 1 + 1) % 3 = rest.length % 3 by omega]
    rw [hpadded, encode, encode]
    simp only [List.map_cons, ih]

/-- Data without a zero byte is found again in the data filled up. -/
theorem takeWhile_padded {data : Bytes} (h : 0 ∉ data) :
    (padded data).takeWhile (· ≠ 0) = data := by
  have hnonzero : ∀ b ∈ data, decide (b ≠ 0) = true := by
    intro b hb
    apply decide_eq_true
    rintro rfl
    exact h hb
  rw [padded, List.takeWhile_append_of_pos hnonzero]
  cases (3 - data.length % 3) % 3 with
  | zero => exact List.append_nil data
  | succ n => exact List.append_nil data

end Base64
