/-
# JIDs and vCard fields (`src/addressing-util.c`)

A contact is addressed by its JID (`x-jabber`) or by its number on Facebook
(`x-facebook-id`).  `gabble_vcard_address_to_jid` and `gabble_jid_to_vcard_address` go
from one to the other; both return a string and set a `GError`.

* `jidToVcardAddress_jabber_iff`: a JID whose bytes are no text is neither returned nor
  refused;
* `normalizeContact_chat_iff`: which JIDs are normalized to that of a Facebook number;
* `jidToVcardAddress_sound_iff`: so this is when the result and the error agree and the
  number leads back;
* `chat_number_returned_with_error`: a number that is none is returned and refused.
-/
import Gabble.AddressingUriRoundTrip

namespace Addressing

open CText (ascii toLower sameLetters isDigit forall_byte)
open TubeDbus (strchr validateJidNode)
open UriEscape (Bytes)

variable {g : GLib} {field jid address number server : Bytes}

/-! ## The code -/

/-- The string that is returned, and the `GError` that is set. -/
structure Returned where
  result : Option Bytes
  error : Option Failure
  deriving DecidableEq

/-- The field for a JID. -/
def xJabber : Bytes := ascii "x-jabber"

/-- The field for a number on Facebook. -/
def xFacebookId : Bytes := ascii "x-facebook-id"

/-- The server for the contacts on Facebook. -/
def chatServer : Bytes := ascii "chat.facebook.com"

/-- The error about a field that is none of ours. -/
def unsupportedField (field : Bytes) : Failure :=
  .notImplemented (ascii "'" ++ field ++ ascii "' vCard field is not supported by this protocol")

/-- The error about an address that is none on Facebook. -/
def invalidChatAddress (address : Bytes) : Failure :=
  .invalidArgument (ascii "'" ++ address ++ ascii "' is an invalid facebook chat address")

/-- What both functions do for `x-jabber`. -/
def contactAddress (g : GLib) (address : Bytes) : Returned :=
  match normalizeContact g none (some address) .global with
  | .ok jid => ⟨jid, none⟩
  | .error (.invalidHandle message) =>
    ⟨none, some (.invalidArgument (ascii "'" ++ address ++ ascii "' is an invalid address: " ++
      message))⟩
  | .error failure => ⟨none, some failure⟩

/-- `gabble_vcard_address_to_jid`. -/
def vcardAddressToJid (g : GLib) (field address : Bytes) : Returned :=
  if sameLetters field xJabber then contactAddress g address
  else if sameLetters field xFacebookId then
    if address.all (isDigit 10) then ⟨some (45 :: (address ++ 64 :: chatServer)), none⟩
    else ⟨none, some (invalidChatAddress address)⟩
  else ⟨none, some (unsupportedField field)⟩

/-- The test for a contact on Facebook, of a JID in small letters. -/
def ChatForm (jid : Bytes) : Prop := jid.head? = some 45 ∧ 64 :: chatServer <:+ jid

instance (jid : Bytes) : Decidable (ChatForm jid) :=
  inferInstanceAs (Decidable (jid.head? = some 45 ∧ 64 :: chatServer <:+ jid))

/-- What stands between the first character and the first `@`. -/
def chatNumber (jid : Bytes) : Bytes := (strchr 64 jid).1.drop 1

/-- `gabble_jid_to_vcard_address`.  A number that is none is refused after it has become
the result. -/
def jidToVcardAddress (g : GLib) (field jid : Bytes) : Returned :=
  if sameLetters field xJabber then contactAddress g jid
  else if sameLetters field xFacebookId then
    let address := jid.map toLower
    if ChatForm address then
      if (chatNumber address).all (isDigit 10) then ⟨some (chatNumber address), none⟩
      else ⟨some (chatNumber address), some (invalidChatAddress jid)⟩
    else ⟨none, some (invalidChatAddress jid)⟩
  else ⟨none, some (unsupportedField field)⟩

/-! ## The fields -/

theorem not_jabber_of_facebook (h : sameLetters field xFacebookId = true) :
    sameLetters field xJabber = false := by
  have hne : xFacebookId.map toLower ≠ xJabber.map toLower := by decide +kernel
  unfold sameLetters at h ⊢
  rw [decide_eq_true_iff] at h
  rw [h]
  exact decide_eq_false hne

theorem vcardAddressToJid_facebook (h : sameLetters field xFacebookId = true) :
    vcardAddressToJid g field address =
      if address.all (isDigit 10) then ⟨some (45 :: (address ++ 64 :: chatServer)), none⟩
      else ⟨none, some (invalidChatAddress address)⟩ := by
  rw [vcardAddressToJid, not_jabber_of_facebook h, if_neg Bool.false_ne_true, if_pos h]

theorem jidToVcardAddress_facebook (h : sameLetters field xFacebookId = true) :
    jidToVcardAddress g field jid =
      if ChatForm (jid.map toLower) then
        if (chatNumber (jid.map toLower)).all (isDigit 10) then
          ⟨some (chatNumber (jid.map toLower)), none⟩
        else ⟨some (chatNumber (jid.map toLower)), some (invalidChatAddress jid)⟩
      else ⟨none, some (invalidChatAddress jid)⟩ := by
  rw [jidToVcardAddress, not_jabber_of_facebook h, if_neg Bool.false_ne_true, if_pos h]

/-! ## `x-jabber` -/

/-- The node and the server of the JID, if it has both, are text. -/
def TextJid (g : GLib) (jid : Bytes) : Prop :=
  ∀ username server resource, decodeJid g jid = some (some username, server, resource) →
    g.validate (username ++ 64 :: server) = true

theorem encodeJid_bare_isSome {username : Bytes} :
    (encodeJid g (some username, server, none)).isSome = true ↔
      g.validate (username ++ 64 :: server) = true := by
  unfold encodeJid
  simp only [Option.isSome_ite]

/-- A JID is taken, and then its node and server are known, or it is refused. -/
theorem contactAddress_cases (g : GLib) (jid : Bytes) :
    (∃ username server resource, decodeJid g jid = some (some username, server, resource) ∧
      contactAddress g jid = ⟨encodeJid g (some username, server, none), none⟩) ∨
    ((∀ username server resource, decodeJid g jid ≠ some (some username, server, resource)) ∧
      ∃ failure, contactAddress g jid = ⟨none, some failure⟩) := by
  cases hnormal : normalizeContact g none (some jid) .global with
  | ok jid' =>
    obtain ⟨username, server, resource, hdecode, rfl⟩ := decodeJid_of_normalizeContact hnormal
    exact .inl ⟨username, server, resource, hdecode, by simp [contactAddress, hnormal]⟩
  | error failure =>
    refine .inr ⟨?_, ?_⟩
    · intro username server resource hdecode
      rw [normalizeContact_global hdecode] at hnormal
      cases hnormal
    · unfold contactAddress
      rw [hnormal]
      cases failure <;> exact ⟨_, rfl⟩

/-- **NULL comes with an error exactly when the JID is text.** -/
theorem jidToVcardAddress_jabber_iff (h : sameLetters field xJabber = true) :
    ((jidToVcardAddress g field jid).result = none ↔
        (jidToVcardAddress g field jid).error.isSome = true) ↔ TextJid g jid := by
  rw [jidToVcardAddress, if_pos h]
  rcases contactAddress_cases g jid with ⟨username, server, resource, hdecode, haddress⟩ |
    ⟨hnot, failure, haddress⟩
  · rw [haddress]
    have htext : TextJid g jid ↔ g.validate (username ++ 64 :: server) = true := by
      constructor
      · intro htext
        exact htext username server resource hdecode
      · intro hvalid username' server' resource' hdecode'
        rw [hdecode] at hdecode'
        cases hdecode'
        exact hvalid
    rw [htext, ← encodeJid_bare_isSome]
    cases encodeJid g (some username, server, none) with
    | none => simp
    | some address => simp
  · rw [haddress]
    exact iff_of_true (by simp) fun username server resource hdecode =>
      absurd hdecode (hnot username server resource)

/-! ## `x-facebook-id` -/

/-- Digits, and the two signs that surround them, have no capital form. -/
theorem eq_of_map_toLower {t m : Bytes} (hmap : t.map toLower = m)
    (hplain : ∀ b ∈ m, isDigit 10 b = true ∨ b = 45 ∨ b = 64) : t = m := by
  have hall : ∀ b : UInt8, isDigit 10 (toLower b) = true ∨ toLower b = 45 ∨ toLower b = 64 →
      toLower b = b := forall_byte (by decide +kernel)
  have hsame : t.map toLower = t.map id := by
    refine List.map_congr_left fun b hb => hall b ?_
    apply hplain
    rw [← hmap]
    exact List.mem_map_of_mem hb
  rw [← hmap, hsame, List.map_id]

/-- A number is ASCII without capital letters. -/
theorem ascii_number (hdigits : ∀ b ∈ number, isDigit 10 b = true) :
    Ascii (45 :: number) ∧ (∀ b ∈ 45 :: number, isCapital b = false) ∧ 64 ∉ 45 :: number := by
  have hall : ∀ b : UInt8, isDigit 10 b = true →
      (0 < b ∧ b < 128) ∧ isCapital b = false ∧ b ≠ 64 := forall_byte (by decide +kernel)
  refine ⟨?_, ?_, ?_⟩
  · intro b hb
    rcases List.mem_cons.mp hb with rfl | hb
    · decide
    · exact (hall b (hdigits b hb)).1
  · intro b hb
    rcases List.mem_cons.mp hb with rfl | hb
    · decide
    · exact (hall b (hdigits b hb)).2.1
  · intro hb
    rcases List.mem_cons.mp hb with hb | hb
    · exact absurd hb (by decide)
    · exact (hall 64 (hdigits 64 hb)).2.2 rfl

/-- A JID with the form of a contact on Facebook begins with its number. -/
theorem eq_of_chatForm (hform : ChatForm (jid.map toLower))
    (hdigits : ∀ b ∈ chatNumber (jid.map toLower), isDigit 10 b = true) :
    ∃ tail, jid = 45 :: chatNumber (jid.map toLower) ++ 64 :: tail := by
  obtain ⟨hhead, hsuffix⟩ := hform
  have hat : 64 ∈ jid.map toLower := hsuffix.subset List.mem_cons_self
  rcases strchr_cases 64 (jid.map toLower) with ⟨hnot, -⟩ | ⟨before, after, hsplit, -, hfound⟩
  · exact absurd hat hnot
  · -- the `-` stands before the `@`
    have hbefore : before = 45 :: chatNumber (jid.map toLower) := by
      rw [chatNumber, hfound]
      rw [hsplit] at hhead
      cases before with
      | nil =>
        rw [List.nil_append, List.head?_cons, Option.some_inj] at hhead
        cases hhead
      | cons b rest =>
        rw [List.cons_append, List.head?_cons, Option.some_inj] at hhead
        rw [hhead]
        rfl
    obtain ⟨front, rest, hjid, hfront, hrest⟩ := List.map_eq_append_iff.mp hsplit
    obtain ⟨b, tail, rfl, hb, -⟩ := List.map_eq_cons_iff.mp hrest
    refine ⟨tail, ?_⟩
    have hfront' : front = before := by
      refine eq_of_map_toLower hfront ?_
      rw [hbefore]
      intro c hc
      rcases List.mem_cons.mp hc with rfl | hc
      · exact .inr (.inl rfl)
      · exact .inl (hdigits c hc)
    have hb' : [b] = [64] := by
      refine eq_of_map_toLower (congrArg (fun c => [c]) hb) ?_
      intro c hc
      exact .inr (.inr (List.mem_singleton.mp hc))
    rw [hfront', List.singleton_inj.mp hb', hbefore] at hjid
    exact hjid

section

variable (hg : g.Lawful)

include hg

/-- A node of ASCII is left alone. -/
theorem encodeJid_ascii {node : Bytes} (hnode : Ascii node) :
    encodeJid g (some node, server, none) =
      (encodeJid g (none, server, none)).map fun server => node ++ 64 :: server := by
  have hvalid := validate_ascii hg hnode
  by_cases hserver : g.validate server = true
  · rw [encodeJid_bare hg hvalid hserver, hg.normalize_ascii node hnode]
    simp only [encodeJid, hserver, if_true, Option.map_some]
  · have hboth : ¬ g.validate (node ++ 64 :: server) = true := fun hboth =>
      hserver ((hg.validate_append node server 64 (by decide) (by decide)).mp hboth).2
    simp only [encodeJid, hserver, hboth, Bool.false_eq_true, if_false, Option.map_none]

/-- The number is the node of the JID. -/
theorem decodeJid_number {tail username : Bytes} {resource : Option Bytes}
    (hdigits : ∀ b ∈ number, isDigit 10 b = true) (hjid : jid = 45 :: number ++ 64 :: tail)
    (hdecode : decodeJid g jid = some (some username, server, resource)) :
    username = 45 :: number := by
  obtain ⟨hascii, hsmall, hat⟩ := ascii_number hdigits
  obtain ⟨node, domain, rest, hsplit, -, hnode, -, rfl, -⟩ := decodeJid_eq_some hdecode
  have hfirst : (45 :: number, some tail) = (node, some (domain ++ rest)) := by
    rw [← strchr_of_mem hat, ← strchr_of_mem (not_mem_of_validateJidNode hnode).1, ← hjid, hsplit]
  rw [← (Prod.mk.inj hfirst).1]
  have hlower := (strdown_ascii_append hg hascii hsmall hg.validate_nil).mpr (strdown_nil hg)
  rwa [List.append_nil] at hlower

/-- **When the number leads back.**  The server of the JID must be the one that is put
after the number. -/
theorem normalizeContact_chat_iff {tail : Bytes}
    (hdigits : ∀ b ∈ number, isDigit 10 b = true) (hjid : jid = 45 :: number ++ 64 :: tail) :
    normalizeContact g none (some jid) .global =
        .ok (some (45 :: (number ++ 64 :: chatServer))) ↔
      ∃ username server resource, decodeJid g jid = some (some username, server, resource) ∧
        encodeJid g (none, server, none) = some chatServer := by
  obtain ⟨hascii, -, -⟩ := ascii_number hdigits
  constructor
  · intro hnormal
    obtain ⟨username, server, resource, hdecode, hencode⟩ := decodeJid_of_normalizeContact hnormal
    refine ⟨username, server, resource, hdecode, ?_⟩
    rw [decodeJid_number hg hdigits hjid hdecode, encodeJid_ascii hg hascii,
      Option.map_eq_some_iff] at hencode
    obtain ⟨server', hserver, hsame⟩ := hencode
    have htail : 64 :: server' = 64 :: chatServer := List.append_cancel_left hsame
    rw [hserver, (List.cons_eq_cons.mp htail).2]
  · rintro ⟨username, server, resource, hdecode, hserver⟩
    rw [normalizeContact_global hdecode, decodeJid_number hg hdigits hjid hdecode,
      encodeJid_ascii hg hascii, hserver]
    rfl

end

/-! ## The result and the error -/

/-- The result and the error agree; for a contact on Facebook, the result is a number and
leads back to the JID. -/
structure Sound (g : GLib) (field jid : Bytes) : Prop where
  /-- NULL is returned exactly when the error is set. -/
  null_iff : (jidToVcardAddress g field jid).result = none ↔
    (jidToVcardAddress g field jid).error.isSome = true
  digits : sameLetters field xFacebookId = true → ∀ address,
    (jidToVcardAddress g field jid).result = some address → ∀ b ∈ address, isDigit 10 b = true
  back : sameLetters field xFacebookId = true → ∀ address,
    (jidToVcardAddress g field jid).result = some address →
      ∃ jid', (vcardAddressToJid g field address).result = some jid' ∧
        normalizeContact g none (some jid) .global = .ok (some jid')

/-- Only digits stand before the first `@`, and the server of the JID is the one for the
contacts on Facebook. -/
structure ChatJid (g : GLib) (jid : Bytes) : Prop where
  digits : ∀ b ∈ chatNumber (jid.map toLower), isDigit 10 b = true
  server : ∃ username server resource,
    decodeJid g jid = some (some username, server, resource) ∧
      encodeJid g (none, server, none) = some chatServer

/-- A JID with the form of a contact on Facebook must be one. -/
theorem sound_facebook_iff (hg : g.Lawful) (hfield : sameLetters field xFacebookId = true) :
    Sound g field jid ↔ (ChatForm (jid.map toLower) → ChatJid g jid) := by
  have hcode : jidToVcardAddress g field jid = _ := jidToVcardAddress_facebook hfield
  by_cases hform : ChatForm (jid.map toLower)
  · rw [if_pos hform] at hcode
    have hresult : (jidToVcardAddress g field jid).result =
        some (chatNumber (jid.map toLower)) := by
      rw [hcode]
      split <;> rfl
    constructor
    · intro hsound _
      -- the result is a number, so that the JID begins with it and it leads back to the JID
      have hdigits := hsound.digits hfield _ hresult
      obtain ⟨tail, hjid⟩ := eq_of_chatForm hform hdigits
      obtain ⟨jid', hback, hnormal⟩ := hsound.back hfield _ hresult
      rw [vcardAddressToJid_facebook hfield, if_pos (List.all_eq_true.mpr hdigits),
        Option.some_inj] at hback
      rw [← hback] at hnormal
      exact ⟨hdigits, (normalizeContact_chat_iff hg hdigits hjid).mp hnormal⟩
    · intro hchat
      obtain ⟨hdigits, hserver⟩ := hchat hform
      obtain ⟨tail, hjid⟩ := eq_of_chatForm hform hdigits
      have hall := List.all_eq_true.mpr hdigits
      rw [if_pos hall] at hcode
      refine ⟨?_, ?_, ?_⟩
      · rw [hcode]
        simp
      · intro _ address haddress
        rw [hresult, Option.some_inj] at haddress
        rwa [← haddress]
      · intro _ address haddress
        rw [hresult, Option.some_inj] at haddress
        rw [← haddress, vcardAddressToJid_facebook hfield, if_pos hall]
        exact ⟨_, rfl, (normalizeContact_chat_iff hg hdigits hjid).mpr hserver⟩
  · rw [if_neg hform] at hcode
    have hnone : (jidToVcardAddress g field jid).result = none := by rw [hcode]
    refine iff_of_true ⟨?_, ?_, ?_⟩ fun h => absurd h hform
    · rw [hcode]
      simp
    · intro _ address hresult
      rw [hnone] at hresult
      cases hresult
    · intro _ address hresult
      rw [hnone] at hresult
      cases hresult

/-- **When the result can be trusted.**  A JID for `x-jabber` must be text; for
`x-facebook-id`, one that has the form of a contact on Facebook must be one.  Other
fields are refused. -/
theorem jidToVcardAddress_sound_iff (hg : g.Lawful) (field jid : Bytes) :
    Sound g field jid ↔
      (sameLetters field xJabber = true → TextJid g jid) ∧
      (sameLetters field xFacebookId = true → ChatForm (jid.map toLower) → ChatJid g jid) := by
  by_cases hfacebook : sameLetters field xFacebookId = true
  · rw [sound_facebook_iff hg hfacebook, not_jabber_of_facebook hfacebook]
    constructor
    · intro hchat
      exact ⟨fun h => absurd h Bool.false_ne_true, fun _ => hchat⟩
    · rintro ⟨-, hchat⟩
      exact hchat hfacebook
  · -- only the result and the error are left to compare
    have hnull : Sound g field jid ↔ ((jidToVcardAddress g field jid).result = none ↔
        (jidToVcardAddress g field jid).error.isSome = true) :=
      ⟨Sound.null_iff, fun h =>
        ⟨h, fun hfield => absurd hfield hfacebook, fun hfield => absurd hfield hfacebook⟩⟩
    rw [hnull, and_iff_left fun hfield => absurd hfield hfacebook]
    by_cases hjabber : sameLetters field xJabber = true
    · rw [jidToVcardAddress_jabber_iff hjabber]
      exact ⟨fun htext _ => htext, fun h => h hjabber⟩
    · refine iff_of_true ?_ fun h => absurd h hjabber
      rw [jidToVcardAddress, if_neg hjabber, if_neg hfacebook]
      simp

/-- A contact on Facebook, with capital letters in its JID. -/
theorem jidToVcardAddress_sound_number :
    Sound asciiGLib (ascii "X-Facebook-ID") (ascii "-12@Chat.Facebook.com") :=
  (jidToVcardAddress_sound_iff asciiGLib_lawful (ascii "X-Facebook-ID")
    (ascii "-12@Chat.Facebook.com")).mpr ⟨fun h => absurd h (by decide +kernel), fun _ _ =>
      ⟨by decide +kernel, ascii "-12", chatServer, none, by decide +kernel, by decide +kernel⟩⟩

/-- **A number that is none is returned and refused**, and a JID that is none is taken for
that of another contact. -/
theorem chat_number_returned_with_error :
    jidToVcardAddress asciiGLib (ascii "x-facebook-id") (ascii "-12a@chat.facebook.com") =
        ⟨some (ascii "12a"), some (.invalidArgument
          (ascii "'-12a@chat.facebook.com' is an invalid facebook chat address"))⟩ ∧
      ¬ Sound asciiGLib (ascii "x-facebook-id") (ascii "-12a@chat.facebook.com") ∧
      jidToVcardAddress asciiGLib (ascii "x-facebook-id") (ascii "-12@foo@chat.facebook.com") =
        ⟨some (ascii "12"), none⟩ ∧
      (vcardAddressToJid asciiGLib (ascii "x-facebook-id") (ascii "12")).result =
        some (ascii "-12@chat.facebook.com") ∧
      normalizeContact asciiGLib none (some (ascii "-12@foo@chat.facebook.com")) .global =
        .error (.invalidHandle
          (ascii "JID -12@foo@chat.facebook.com is invalid or has no node part")) := by
  have hcode : jidToVcardAddress asciiGLib (ascii "x-facebook-id")
      (ascii "-12a@chat.facebook.com") = ⟨some (ascii "12a"), some (.invalidArgument
        (ascii "'-12a@chat.facebook.com' is an invalid facebook chat address"))⟩ := by
    decide +kernel
  refine ⟨hcode, ?_, by decide +kernel, by decide +kernel, by decide +kernel⟩
  intro hsound
  have hnull := hsound.null_iff
  rw [hcode] at hnull
  exact absurd (hnull.mpr rfl) (by decide)

end Addressing
