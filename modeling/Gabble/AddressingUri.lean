/-
# XMPP addresses and URIs (`src/addressing-util.c`)

`gabble_jid_to_uri`, `gabble_uri_to_jid` and `gabble_normalize_contact_uri`, with what
they use of `src/util.c` and of Wocky.  Strings are lists of bytes without the final
zero; a `:` is 58, a `/` is 47 and an `@` is 64.

What GLib does with Unicode text is a parameter, with the laws that the results need
(`GLib.Lawful`).
-/
import Gabble.TubeDbusNames
import Gabble.UriEscape

namespace Addressing

open CText (ascii toLower sameLetters isDigit)
open TubeDbus (strchr jidParts isAlnum)
open UriEscape (Bytes escape unescape)

/-! ## GLib -/

/-- What GLib does with Unicode text. -/
structure GLib where
  /-- `g_utf8_validate`. -/
  validate : Bytes → Bool
  /-- `g_utf8_normalize` of valid text, to `G_NORMALIZE_NFKC`. -/
  normalize : Bytes → Bytes
  /-- `g_utf8_strdown`. -/
  strdown : Bytes → Bytes

/-- A capital letter of ASCII. -/
def isCapital (b : UInt8) : Bool := 65 ≤ b && b ≤ 90

/-- The laws of Unicode text. -/
structure GLib.Lawful (g : GLib) : Prop where
  validate_nil : g.validate [] = true
  /-- An ASCII character is a character of its own. -/
  validate_append : ∀ a b c, 0 < c → c < 128 →
    (g.validate (a ++ c :: b) = true ↔ g.validate a = true ∧ g.validate b = true)
  validate_nul : ∀ t, g.validate t = true → 0 ∉ t
  validate_normalize : ∀ t, g.validate t = true → g.validate (g.normalize t) = true
  validate_strdown : ∀ t, g.validate t = true → g.validate (g.strdown t) = true
  normalize_normalize : ∀ t, g.validate t = true → g.normalize (g.normalize t) = g.normalize t
  normalize_ascii : ∀ t, (∀ b ∈ t, 0 < b ∧ b < 128) → g.normalize t = t
  /-- An ASCII character composes with nothing before it. -/
  normalize_append : ∀ a b c, 0 < c → c < 128 → g.validate a = true → g.validate b = true →
    g.normalize (a ++ c :: b) = g.normalize a ++ g.normalize (c :: b)
  /-- Nothing composes with an `@`. -/
  normalize_at : ∀ t, g.validate t = true → g.normalize (64 :: t) = 64 :: g.normalize t
  /-- An ASCII character composes to what is no ASCII. -/
  normalize_base : ∀ t c, 0 < c → c < 128 → g.validate t = true → (∀ b ∈ t, 128 ≤ b) →
    g.normalize t = t → g.normalize (c :: t) = c :: t ∨
      (g.normalize (c :: t) ≠ [] ∧ ∀ b ∈ g.normalize (c :: t), 128 ≤ b)
  /-- What normal text is made of is normal. -/
  normalize_pieces : ∀ a b, g.validate a = true → g.validate b = true →
    g.normalize (a ++ b) = a ++ b → g.normalize a = a ∧ g.normalize b = b
  /-- Text without capital letters is made of such text. -/
  strdown_append : ∀ a b, g.validate a = true → g.validate b = true →
    (g.strdown (a ++ b) = a ++ b ↔ g.strdown a = a ∧ g.strdown b = b)
  strdown_byte : ∀ b, 0 < b → b < 128 → (g.strdown [b] = [b] ↔ isCapital b = false)
  /-- What surrounds a percent sign or a digit is made small on its own. -/
  strdown_around : ∀ a b c, c = 37 ∨ 48 ≤ c ∧ c ≤ 57 → g.validate a = true →
    g.validate b = true → g.strdown (a ++ c :: b) = g.strdown a ++ c :: g.strdown b
  /-- Nothing but a digit is made a hexadecimal digit. -/
  strdown_head : ∀ b t c, 128 ≤ b → g.validate (b :: t) = true →
    (g.strdown (b :: t)).head? = some c → isDigit 16 c = false
  /-- The letters from `A` to `F` are made small, in any locale. -/
  strdown_hex : ∀ t, g.validate t = true → (∀ b ∈ t, isCapital b = true → b ≤ 70) →
    g.strdown (t.map toLower) = t.map toLower → g.strdown t = t.map toLower
  /-- Normal text is made small and normal again, without a new `@` or `/`. -/
  settles : ∀ t, g.validate t = true → g.normalize t = t →
    g.strdown (g.normalize (g.strdown t)) = g.normalize (g.strdown t) ∧
      ∀ c, c = 64 ∨ c = 47 → c ∈ g.normalize (g.strdown t) → c ∈ t

/-- `g_uri_parse_scheme`. -/
def parseScheme (uri : Bytes) : Option Bytes :=
  match strchr 58 uri with
  | (scheme, some _) =>
    if (scheme.head?.any fun c => isCapital c || (97 ≤ c && c ≤ 122)) &&
        scheme.all fun c => isAlnum c || c = 43 || c = 45 || c = 46 then some scheme
    else none
  | (_, none) => none

/-- What `g_uri_escape_string` does not escape when all of Unicode is allowed. -/
def allowed (b : UInt8) : Bool := isAlnum b || b = 45 || b = 46 || b = 95 || b = 126 || 128 ≤ b

/-- `g_uri_escape_string`, of valid text. -/
def uriEscapeString (text : Bytes) : Bytes := escape allowed text

/-- `g_uri_unescape_string` of a part that may be missing. -/
def uriUnescapePart : Option Bytes → Option (Option Bytes)
  | none => some none
  | some text => (unescape text).map some

/-! ## JIDs -/

/-- How a function fails. -/
inductive Failure : Type where
  /-- `TP_ERROR_INVALID_ARGUMENT`. -/
  | invalidArgument (message : Bytes) : Failure
  /-- `TP_ERROR_NOT_IMPLEMENTED`. -/
  | notImplemented (message : Bytes) : Failure
  /-- `TP_ERROR_INVALID_HANDLE`. -/
  | invalidHandle (message : Bytes) : Failure
  /-- NULL is returned without an error. -/
  | null : Failure
  /-- An assertion fails. -/
  | aborted : Failure
  deriving DecidableEq

/-- The node, the domain and the resource of a JID. -/
abbrev Parts := Option Bytes × Bytes × Option Bytes

variable (g : GLib)

/-- `wocky_decode_jid`. -/
def decodeJid (jid : Bytes) : Option Parts :=
  (jidParts jid).map fun (node, domain, resource) =>
    (node.map g.strdown, g.strdown domain, resource)

/-- `gabble_encode_jid`; `none` when the text cannot be normalized. -/
def encodeJid : Parts → Option Bytes := fun (node, domain, resource) =>
  let tmp := match node, resource with
    | some node, some resource => node ++ 64 :: domain ++ 47 :: resource
    | some node, none => node ++ 64 :: domain
    | none, some resource => domain ++ 47 :: resource
    | none, none => domain
  if g.validate tmp then some (g.normalize tmp) else none

/-- `GabbleNormalizeContactJIDMode`. -/
inductive JidMode : Type where
  | any : JidMode
  | global : JidMode
  | roomMember : JidMode
  deriving DecidableEq

/-- `gabble_normalize_contact`; `repo` says which contacts it knows. -/
def normalizeContact (repo : Option (Bytes → Bool)) (jid : Option Bytes) (mode : JidMode) :
    Except Failure (Option Bytes) :=
  match jid with
  | none => .error .aborted
  | some jid =>
    match decodeJid g jid with
    | some (some username, server, resource) =>
      let bare := encodeJid g (some username, server, none)
      let full := encodeJid g (some username, server, resource)
      if mode = .roomMember ∧ resource = none then
        .error (.invalidHandle (ascii "JID " ++ jid ++
          ascii " can't be a room member - it has no resource"))
      else if mode ≠ .global ∧ resource ≠ none ∧
          (mode = .roomMember ∨ (full.any fun jid => repo.any fun known => known jid)) then
        .ok full
      else .ok bare
    | _ =>
      .error (.invalidHandle (ascii "JID " ++ jid ++ ascii " is invalid or has no node part"))

/-! ## URIs -/

/-- The message about a URI that is none of ours. -/
def notXmppUri (uri : Bytes) : Bytes := ascii "'" ++ uri ++ ascii "' is not a valid XMPP URI"

/-- The end of `gabble_parse_xmpp_uri`, from the unescaped parts on. -/
def parseUnescaped (uri : Bytes) (parts : Parts) : Except Failure Parts :=
  match normalizeContact g none (encodeJid g parts) .global with
  | .error (.invalidHandle message) =>
    .error (.invalidArgument (notXmppUri uri ++ ascii ": " ++ message))
  | .error failure => .error failure
  | .ok none => .error .aborted
  | .ok (some jid) =>
    match decodeJid g jid with
    | none => .error (.invalidArgument (notXmppUri uri))
    | some parts => .ok parts

/-- `gabble_parse_xmpp_uri`. -/
def parseXmppUri (uri : Bytes) : Except Failure Parts :=
  match parseScheme uri with
  | none => .error (.invalidArgument (ascii "'" ++ uri ++ ascii "' is not a valid URI"))
  | some scheme =>
    match decodeJid g (uri.drop (scheme.length + 1)) with
    | none => .error (.invalidArgument (notXmppUri uri))
    | some (node, domain, resource) =>
      match uriUnescapePart node, unescape domain, uriUnescapePart resource with
      | some node, some domain, some resource => parseUnescaped g uri (node, domain, resource)
      | _, _, _ => .error (.invalidArgument (notXmppUri uri))

/-- `gabble_uri_to_jid`. -/
def uriToJid (uri : Bytes) : Except Failure Bytes :=
  match parseScheme uri with
  | none => .error (.invalidArgument (ascii "'" ++ uri ++ ascii "' is not a valid URI"))
  | some scheme =>
    if sameLetters scheme (ascii "xmpp") then
      match parseXmppUri g uri with
      | .error failure => .error failure
      | .ok parts => (encodeJid g parts).elim (.error .null) .ok
    else
      .error (.notImplemented (ascii "'" ++ scheme ++
        ascii "' URI scheme is not supported by this protocol"))

/-- `gabble_jid_to_uri`. -/
def jidToUri (scheme jid : Bytes) : Except Failure Bytes :=
  match decodeJid g jid with
  | none => .error (.invalidArgument (ascii "'" ++ jid ++ ascii "' is not a valid JID"))
  | some (node, domain, resource) =>
    let escaped := encodeJid g
      (node.map uriEscapeString, uriEscapeString domain, resource.map uriEscapeString)
    .ok (scheme.map toLower ++ 58 :: escaped.getD (ascii "(null)"))

/-- `gabble_normalize_contact_uri`. -/
def normalizeContactUri (uri : Bytes) : Except Failure Bytes :=
  match uriToJid g uri with
  | .error failure => .error failure
  | .ok jid =>
    match parseScheme uri with
    | none => .error .null
    | some scheme => jidToUri g scheme jid

/-! ## Decoding -/

theorem strchr_of_mem {c : UInt8} {a : Bytes} (h : c ∉ a) (b : Bytes) :
    strchr c (a ++ c :: b) = (a, some b) := by
  have hne : ∀ x ∈ a, decide (x ≠ c) = true := by
    intro x hx
    refine decide_eq_true ?_
    rintro rfl
    exact h hx
  unfold strchr
  rw [List.dropWhile_append_of_pos hne, List.takeWhile_append_of_pos hne]
  simp

theorem strchr_of_not_mem {c : UInt8} {a : Bytes} (h : c ∉ a) : strchr c a = (a, none) := by
  have hdrop : a.dropWhile (· ≠ c) = [] := by
    rw [List.dropWhile_eq_nil_iff]
    intro x hx
    refine decide_eq_true ?_
    rintro rfl
    exact h hx
  unfold strchr
  rw [hdrop]

/-- What `strchr` finds. -/
theorem strchr_cases (c : UInt8) (t : Bytes) :
    (c ∉ t ∧ strchr c t = (t, none)) ∨
      ∃ a b, t = a ++ c :: b ∧ c ∉ a ∧ strchr c t = (a, some b) := by
  by_cases h : c ∈ t
  · obtain ⟨a, b, hsplit, hnot⟩ := List.eq_append_cons_of_mem h
    exact .inr ⟨a, b, hsplit, hnot, hsplit ▸ strchr_of_mem hnot b⟩
  · exact .inl ⟨h, strchr_of_not_mem h⟩

end Addressing
