/-
# The bus names that a tube generates

`_gabble_generate_dbus_unique_name` makes a bus name from a nick: short nicks are base64
with three characters replaced, of long ones it encodes the first 169 bytes and the SHA-1
sum of the whole nick.  Padding is replaced by a letter that also stands for zero bits, so
this module reads a name back as the nick filled up with zero bytes.  It follows that
different nicks have different names, and the length and the characters are those of a
bus name.
-/
import Gabble.TubeDbusNames

namespace TubeDbus

open Base64 (Bytes)
open CText (ascii)

variable {sha1 : Bytes → Bytes} {nick nick' : Bytes}

/-! ## Characters -/

/-- What the bus names of D-Bus may have between their dots. -/
def legalNameChar (c : UInt8) : Bool := isAlnum c || c == 95 || c == 45

/-- The character of base64 that a character of a name stands for. -/
def base64Char (c : UInt8) : Char :=
  if c = 95 then '+' else if c = 45 then '/' else Char.ofNat c.toNat

theorem base64Char_nameChar {n : ℕ} (hn : n < 64) :
    base64Char (nameChar (Base64.alphabet n)) = Base64.alphabet n := by
  have hall : ∀ n < 64, base64Char (nameChar (Base64.alphabet n)) = Base64.alphabet n := by
    decide
  exact hall n hn

theorem legalNameChar_nameChar {data : Bytes} {c : Char} (h : c ∈ Base64.encode data) :
    legalNameChar (nameChar c) = true := by
  have hall : ∀ n < 64, legalNameChar (nameChar (Base64.alphabet n)) = true := by decide
  rcases Base64.mem_encode h with rfl | ⟨n, hn, rfl⟩
  · decide
  · exact hall n hn

/-! ## Reading a name back -/

/-- The part of a name behind the dot. -/
def nameBody (data : Bytes) : Bytes := (Base64.encode data).map nameChar

theorem nameBody_padded (data : Bytes) : nameBody (Base64.padded data) = nameBody data :=
  Base64.map_encode_padded nameChar rfl data

/-- The bytes that a name was made of, and the zero bytes that fill them up. -/
theorem decode_nameBody (data : Bytes) :
    Base64.decode ((nameBody data).map base64Char) = Base64.padded data := by
  have hback : (nameBody (Base64.padded data)).map base64Char =
      Base64.encode (Base64.padded data) := by
    rw [nameBody, List.map_map]
    refine (List.map_congr_left ?_).trans (List.map_id _)
    intro c hc
    rcases Base64.mem_encode hc with rfl | ⟨n, hn, rfl⟩
    · exact absurd hc (Base64.pad_not_mem_encode (Base64.length_padded data))
    · exact base64Char_nameChar hn
  rw [← nameBody_padded, hback, Base64.decode_encode]

theorem padded_eq_of_nameBody {data data' : Bytes} (h : nameBody data = nameBody data') :
    Base64.padded data = Base64.padded data' := by
  rw [← decode_nameBody, h, decode_nameBody]

theorem length_nameBody (data : Bytes) :
    (nameBody data).length = 4 * ((data.length + 2) / 3) := by
  rw [nameBody, List.length_map, Base64.length_encode]

/-! ## Short and long nicks -/

/-- What of a nick is encoded. -/
def nickData (sha1 : Bytes → Bytes) (nick : Bytes) : Bytes :=
  if nick.length ≤ 186 then nick else nick.take 169 ++ (sha1 nick).take 20

theorem generateDbusUniqueName_eq (sha1 : Bytes → Bytes) (nick : Bytes) :
    generateDbusUniqueName sha1 nick = ascii ":2." ++ nameBody (nickData sha1 nick) := by
  rw [nickData]
  dsimp only [generateDbusUniqueName, nameBody]
  split <;> rfl

theorem length_nickData_le (sha1 : Bytes → Bytes) (nick : Bytes) :
    (nickData sha1 nick).length ≤ 189 := by
  rw [nickData]
  split
  · omega
  · rw [List.length_append, List.length_take, List.length_take]
    omega

/-- Long nicks come to whole groups. -/
theorem length_nickData_long (hsha1 : ∀ data, (sha1 data).length = 20)
    (hlong : ¬ nick.length ≤ 186) : (nickData sha1 nick).length = 189 := by
  rw [nickData, if_neg hlong, List.length_append, List.length_take, List.length_take, hsha1]
  omega

/-- Two long nicks of the same beginning and the same SHA-1 sum. -/
def Collide (sha1 : Bytes → Bytes) (nick nick' : Bytes) : Prop :=
  ¬ nick.length ≤ 186 ∧ ¬ nick'.length ≤ 186 ∧ nick ≠ nick' ∧
    nick.take 169 = nick'.take 169 ∧ sha1 nick = sha1 nick'

instance (sha1 : Bytes → Bytes) (nick nick' : Bytes) : Decidable (Collide sha1 nick nick') :=
  inferInstanceAs (Decidable (_ ∧ _ ∧ _ ∧ _ ∧ _))

/-- Within the short nicks, the zero bytes are the padding. -/
theorem eq_of_short (hnul : 0 ∉ nick) (hnul' : 0 ∉ nick')
    (h : nameBody nick = nameBody nick') : nick = nick' := by
  rw [← Base64.takeWhile_padded hnul, padded_eq_of_nameBody h, Base64.takeWhile_padded hnul']

/-- Within the long nicks there is no padding. -/
theorem eq_of_long (hsha1 : ∀ data, (sha1 data).length = 20) (hlong : ¬ nick.length ≤ 186)
    (hlong' : ¬ nick'.length ≤ 186)
    (h : nameBody (nickData sha1 nick) = nameBody (nickData sha1 nick')) :
    nick.take 169 = nick'.take 169 ∧ sha1 nick = sha1 nick' := by
  have hpadded := padded_eq_of_nameBody h
  rw [Base64.padded_of_whole (by rw [length_nickData_long hsha1 hlong]),
    Base64.padded_of_whole (by rw [length_nickData_long hsha1 hlong']), nickData, nickData,
    if_neg hlong, if_neg hlong'] at hpadded
  have hlength : (nick.take 169).length = (nick'.take 169).length := by
    rw [List.length_take, List.length_take]
    omega
  obtain ⟨hstart, hsum⟩ := List.append_inj hpadded hlength
  rw [List.take_of_length_le (hsha1 nick).le, List.take_of_length_le (hsha1 nick').le] at hsum
  exact ⟨hstart, hsum⟩

/-- A short nick's name is shorter than a long one's. -/
theorem length_nameBody_lt (hsha1 : ∀ data, (sha1 data).length = 20) (hshort : nick.length ≤ 186)
    (hlong : ¬ nick'.length ≤ 186) :
    (nameBody (nickData sha1 nick)).length < (nameBody (nickData sha1 nick')).length := by
  rw [length_nameBody, length_nameBody, length_nickData_long hsha1 hlong, nickData,
    if_pos hshort]
  omega

/-- Nicks of the same name are the same, or collide. -/
theorem eq_or_collide (hsha1 : ∀ data, (sha1 data).length = 20) (hnul : 0 ∉ nick)
    (hnul' : 0 ∉ nick')
    (h : generateDbusUniqueName sha1 nick = generateDbusUniqueName sha1 nick') :
    nick = nick' ∨ Collide sha1 nick nick' := by
  rw [generateDbusUniqueName_eq, generateDbusUniqueName_eq, List.append_cancel_left_eq] at h
  by_cases hshort : nick.length ≤ 186 <;> by_cases hshort' : nick'.length ≤ 186
  · rw [nickData, nickData, if_pos hshort, if_pos hshort'] at h
    exact .inl (eq_of_short hnul hnul' h)
  · have hlt := length_nameBody_lt hsha1 hshort hshort'
    rw [h] at hlt
    exact absurd hlt (lt_irrefl _)
  · have hlt := length_nameBody_lt hsha1 hshort' hshort
    rw [h] at hlt
    exact absurd hlt (lt_irrefl _)
  · obtain ⟨hstart, hsum⟩ := eq_of_long hsha1 hshort hshort' h
    rcases eq_or_ne nick nick' with heq | hne
    · exact .inl heq
    · exact .inr ⟨hshort, hshort', hne, hstart, hsum⟩

/-- **Generated names are unique.**  Different nicks have different names, unless they collide;
and every name has at most 255 characters, which are legal behind the dot. -/
theorem generated_names (sha1 : Bytes → Bytes) (hsha1 : ∀ data, (sha1 data).length = 20) :
    (∀ nick nick', nick ≠ [] → nick' ≠ [] → 0 ∉ nick → 0 ∉ nick' → nick ≠ nick' →
      ¬ Collide sha1 nick nick' →
      generateDbusUniqueName sha1 nick ≠ generateDbusUniqueName sha1 nick') ∧
    ∀ nick, (generateDbusUniqueName sha1 nick).length ≤ 255 ∧
      ∃ body, generateDbusUniqueName sha1 nick = ascii ":2." ++ body ∧
        ∀ c ∈ body, legalNameChar c = true := by
  constructor
  · intro nick nick' _ _ hnul hnul' hne hcollide h
    rcases eq_or_collide hsha1 hnul hnul' h with heq | hcollision
    · exact hne heq
    · exact hcollide hcollision
  · intro nick
    have hle := length_nickData_le sha1 nick
    rw [generateDbusUniqueName_eq]
    refine ⟨?_, nameBody (nickData sha1 nick), rfl, ?_⟩
    · rw [List.length_append, length_nameBody, show (ascii ":2.").length = 3 by decide +kernel]
      omega
    · intro c hc
      obtain ⟨c', hc', rfl⟩ := List.mem_map.mp hc
      exact legalNameChar_nameChar hc'

/-! ### Examples -/

/-- A nick of digits. -/
def sampleNick (n : ℕ) : Bytes := (List.range n).map fun i => UInt8.ofNat (48 + i % 10)

/-- The SHA-1 sums of two nicks of digits. -/
def sampleSum (data : Bytes) : Bytes :=
  if data = sampleNick 187 then
    [69, 93, 244, 46, 77, 130, 105, 145, 15, 168, 233, 213, 251, 70, 233, 117, 4, 115, 93, 113]
  else if data = sampleNick 200 then
    [239, 238, 183, 4, 103, 193, 202, 20, 22, 25, 201, 84, 194, 160, 230, 153, 189, 31, 22, 165]
  else List.replicate 20 0

/-- The nicks of 187 and of 200 digits begin with the same 169. -/
theorem generated_names_sampleNick :
    (∀ data, (sampleSum data).length = 20) ∧
      (sampleNick 187).take 169 = (sampleNick 200).take 169 ∧
      generateDbusUniqueName sampleSum (sampleNick 187) ≠
        generateDbusUniqueName sampleSum (sampleNick 200) ∧
      (generateDbusUniqueName sampleSum (sampleNick 187)).length ≤ 255 := by
  have hlength : ∀ data, (sampleSum data).length = 20 := by
    intro data
    rw [sampleSum]
    split
    · rfl
    split
    · rfl
    · exact List.length_replicate
  obtain ⟨hunique, hlegal⟩ := generated_names sampleSum hlength
  refine ⟨hlength, by decide +kernel, ?_, (hlegal (sampleNick 187)).1⟩
  apply hunique <;> decide +kernel

/-- The end of a name from the tests. -/
example : (generateDbusUniqueName sampleSum (sampleNick 187)).drop 215 =
    ascii "OTAxMjM0NTY3OEVd9C5NgmmRD6jp1ftG6XUEc11x" := by decide +kernel

end TubeDbus
