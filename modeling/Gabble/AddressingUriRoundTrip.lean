/-
# From JIDs to URIs and back (`src/addressing-util.c`)

A JID that `gabble_normalize_contact` has made is `node@domain` with parts that GLib
leaves alone (`Settled`).  Its URI escapes both parts, but `gabble_parse_xmpp_uri` takes
the URI apart before it unescapes them, and an escape is no valid part of a domain.

* `Settled.uriToJid_of`: the JID comes back when nothing of the domain is escaped and the
  escaped node is normal;
* `Settled.uriToJid_fails`: otherwise the URI is not valid;
* `address_round_trips`: so this is when the JID comes back and the URI stays the same;
* `address_literal_lost`: a domain that is an IPv6 address does not come back.
-/
import Gabble.AddressingEscape

namespace Addressing

open CText (ascii toLower isDigit forall_byte)
open TubeDbus (strchr jidParts validBare validateJidNode validateJidDomain)
open UriEscape (Bytes unescape)

variable {g : GLib} {jid node domain uri : Bytes}

/-! ## Taking JIDs apart -/

theorem not_mem_of_validateJidNode (h : validateJidNode node = true) :
    64 ∉ node ∧ 47 ∉ node := by
  have hall := List.all_eq_true.mp h
  exact ⟨fun hmem => absurd (hall 64 hmem) (by decide +kernel),
    fun hmem => absurd (hall 47 hmem) (by decide +kernel)⟩

theorem not_mem_of_validateJidDomain (h : validateJidDomain domain = true) :
    64 ∉ domain ∧ 47 ∉ domain ∧ 37 ∉ domain := by
  have hall := List.all_eq_true.mp h
  exact ⟨fun hmem => absurd (hall 64 hmem) (by decide +kernel),
    fun hmem => absurd (hall 47 hmem) (by decide +kernel),
    fun hmem => absurd (hall 37 hmem) (by decide +kernel)⟩

theorem decodeJid_bare (hat : 64 ∉ node) (hslash : 47 ∉ node) (hslash' : 47 ∉ domain) :
    decodeJid g (node ++ 64 :: domain) =
      if domain ≠ [] && validateJidDomain domain && node ≠ [] && validateJidNode node then
        some (some (g.strdown node), g.strdown domain, none)
      else none := by
  have hbare : 47 ∉ node ++ 64 :: domain := by
    rw [List.mem_append, List.mem_cons, not_or, not_or]
    exact ⟨hslash, by decide, hslash'⟩
  rw [decodeJid, jidParts, strchr_of_not_mem hbare]
  dsimp only
  rw [validBare, strchr_of_mem hat]
  dsimp only
  rw [apply_ite (Option.map _)]
  simp only [ne_eq, reduceCtorEq, not_false_eq_true, decide_true, Bool.and_assoc,
    Bool.and_comm, Bool.and_left_comm]
  rfl

/-- A JID that has a node. -/
theorem decodeJid_eq_some {username server : Bytes} {resource : Option Bytes}
    (h : decodeJid g jid = some (some username, server, resource)) :
    ∃ node domain tail, jid = node ++ 64 :: (domain ++ tail) ∧
      (tail = [] ∨ ∃ rest, tail = 47 :: rest) ∧
      validateJidNode node = true ∧ validateJidDomain domain = true ∧
      username = g.strdown node ∧ server = g.strdown domain := by
  have htail : ∃ bare tail, jid = bare ++ tail ∧ (tail = [] ∨ ∃ rest, tail = 47 :: rest) ∧
      (strchr 47 jid).1 = bare := by
    rcases strchr_cases 47 jid with ⟨-, hfound⟩ | ⟨bare, rest, hsplit, -, hfound⟩
    · exact ⟨jid, [], (List.append_nil jid).symm, .inl rfl, by rw [hfound]⟩
    · exact ⟨bare, 47 :: rest, hsplit, .inr ⟨rest, rfl⟩, by rw [hfound]⟩
  obtain ⟨bare, tail, hjid, htail, hbare⟩ := htail
  obtain ⟨parts, hparts, heq⟩ := Option.map_eq_some_iff.mp h
  rw [jidParts] at hparts
  dsimp only at hparts
  rw [hbare] at hparts
  obtain ⟨hvalid, hparts⟩ := Option.ite_none_right_eq_some.mp hparts
  rw [validBare] at hvalid
  rcases strchr_cases 64 bare with ⟨-, hfound⟩ | ⟨node, domain, hsplit, -, hfound⟩
  · rw [hfound] at hparts
    cases hparts
    cases heq
  · rw [hfound] at hparts hvalid
    cases hparts
    cases heq
    simp only [Bool.and_eq_true] at hvalid
    obtain ⟨⟨⟨⟨-, hnode⟩, -⟩, hdomain⟩, -⟩ := hvalid
    refine ⟨node, domain, tail, ?_, htail, hnode, hdomain, rfl, rfl⟩
    rw [hjid, hsplit, List.append_assoc, List.cons_append]

/-- What `gabble_encode_jid` makes is valid and normal. -/
theorem encodeJid_eq_some (hg : g.Lawful) {parts : Parts} (h : encodeJid g parts = some jid) :
    g.validate jid = true ∧ g.normalize jid = jid := by
  obtain ⟨node, domain, resource⟩ := parts
  unfold encodeJid at h
  simp only [Option.ite_none_right_eq_some, Option.some.injEq] at h
  obtain ⟨hvalid, rfl⟩ := h
  exact ⟨hg.validate_normalize _ hvalid, hg.normalize_normalize _ hvalid⟩

/-- Two parts are normalized on their own. -/
theorem encodeJid_bare (hg : g.Lawful) (hnode : g.validate node = true)
    (hdomain : g.validate domain = true) :
    encodeJid g (some node, domain, none) =
      some (g.normalize node ++ 64 :: g.normalize domain) := by
  have hvalid : g.validate (node ++ 64 :: domain) = true :=
    (hg.validate_append node domain 64 (by decide) (by decide)).mpr ⟨hnode, hdomain⟩
  unfold encodeJid
  simp only [hvalid, if_true, hg.normalize_append node domain 64 (by decide) (by decide) hnode
    hdomain, hg.normalize_at domain hdomain]

theorem normalizeContact_global {username server : Bytes} {resource : Option Bytes}
    (h : decodeJid g jid = some (some username, server, resource)) :
    normalizeContact g none (some jid) .global =
      .ok (encodeJid g (some username, server, none)) := by
  simp [normalizeContact, h]

/-- A JID that `gabble_normalize_contact` takes has a node. -/
theorem decodeJid_of_normalizeContact {jid' : Option Bytes}
    (h : normalizeContact g none (some jid) .global = .ok jid') :
    ∃ username server resource, decodeJid g jid = some (some username, server, resource) ∧
      encodeJid g (some username, server, none) = jid' := by
  cases hdecode : decodeJid g jid with
  | none =>
    rw [normalizeContact] at h
    simp only [hdecode] at h
    cases h
  | some parts =>
    obtain ⟨username, server, resource⟩ := parts
    cases username with
    | none =>
      rw [normalizeContact] at h
      simp only [hdecode] at h
      cases h
    | some username =>
      rw [normalizeContact_global hdecode] at h
      exact ⟨username, server, resource, rfl, Except.ok.inj h⟩

/-! ## Settled JIDs -/

/-- A part of a JID that is not empty and that GLib leaves alone. -/
structure SettledPart (g : GLib) (valid : Bytes → Bool) (part : Bytes) : Prop where
  ne : part ≠ []
  valid : valid part = true
  text : g.validate part = true
  small : g.strdown part = part
  normal : g.normalize part = part

/-- A bare JID with such parts. -/
structure Settled (g : GLib) (jid node domain : Bytes) : Prop where
  split : jid = node ++ 64 :: domain
  node : SettledPart g validateJidNode node
  domain : SettledPart g validateJidDomain domain

section

variable (h : Settled g jid node domain)

include h

theorem Settled.strchr :
    TubeDbus.strchr 64 jid = (node, some domain) := by
  rw [h.split]
  exact strchr_of_mem (not_mem_of_validateJidNode h.node.valid).1 domain

theorem Settled.decodeJid :
    Addressing.decodeJid g jid = some (some node, domain, none) := by
  have hnode := not_mem_of_validateJidNode h.node.valid
  have hdomain := not_mem_of_validateJidDomain h.domain.valid
  rw [h.split, decodeJid_bare hnode.1 hnode.2 hdomain.2.1, if_pos, h.node.small, h.domain.small]
  rw [h.node.valid, h.domain.valid, decide_eq_true h.node.ne, decide_eq_true h.domain.ne]
  rfl

theorem Settled.encodeJid (hg : g.Lawful) :
    Addressing.encodeJid g (some node, domain, none) = some jid := by
  rw [encodeJid_bare hg h.node.text h.domain.text, h.node.normal, h.domain.normal, h.split]

theorem Settled.normalizeContact (hg : g.Lawful) :
    Addressing.normalizeContact g none (some jid) .global = .ok (some jid) := by
  rw [normalizeContact_global h.decodeJid, h.encodeJid hg]

end

/-- A part of normal text that has been made small and normal. -/
theorem settledPart_of_strdown (hg : g.Lawful) {valid : Bytes → Bool} {part : Bytes}
    (htext : g.validate part = true)
    (hne : g.normalize (g.strdown part) ≠ [])
    (hvalid : valid (g.normalize (g.strdown part)) = true)
    (hsmall : g.strdown (g.normalize (g.strdown part)) = g.normalize (g.strdown part)) :
    SettledPart g valid (g.normalize (g.strdown part)) where
  ne := hne
  valid := hvalid
  text := hg.validate_normalize _ (hg.validate_strdown _ htext)
  small := hsmall
  normal := hg.normalize_normalize _ (hg.validate_strdown _ htext)

/-- **What `gabble_normalize_contact` makes of normal text is settled.** -/
theorem settled_of_normalizeContact (hg : g.Lawful) {text : Bytes} {parts : Parts}
    (htext : g.validate text = true) (hnormal : g.normalize text = text)
    (h : normalizeContact g none (some text) .global = .ok (some jid))
    (hdecode : decodeJid g jid = some parts) :
    ∃ node domain, Settled g jid node domain ∧ parts = (some node, domain, none) := by
  obtain ⟨username, server, resource, htake, hencode⟩ := decodeJid_of_normalizeContact h
  obtain ⟨node, domain, tail, rfl, htail, hnode, hdomain, rfl, rfl⟩ := decodeJid_eq_some htake
  have hnodeat := not_mem_of_validateJidNode hnode
  have hdomainat := not_mem_of_validateJidDomain hdomain
  -- the parts are valid and normal
  obtain ⟨hnodetext, hresttext⟩ :=
    (hg.validate_append node (domain ++ tail) 64 (by decide) (by decide)).mp htext
  have hattext : g.validate (64 :: (domain ++ tail)) = true :=
    (validate_cons hg (by decide)).mpr hresttext
  obtain ⟨hnodenormal, hatnormal⟩ := hg.normalize_pieces node _ hnodetext hattext hnormal
  rw [hg.normalize_at _ hresttext, List.cons_eq_cons] at hatnormal
  have hdomainparts : g.validate domain = true ∧ g.normalize domain = domain := by
    rcases htail with rfl | ⟨rest, rfl⟩
    · rw [List.append_nil] at hresttext hatnormal
      exact ⟨hresttext, hatnormal.2⟩
    · obtain ⟨hdomaintext, hrest⟩ :=
        (hg.validate_append domain rest 47 (by decide) (by decide)).mp hresttext
      have hslash : g.validate (47 :: rest) = true := (validate_cons hg (by decide)).mpr hrest
      exact ⟨hdomaintext, (hg.normalize_pieces domain _ hdomaintext hslash hatnormal.2).1⟩
  obtain ⟨hdomaintext, hdomainnormal⟩ := hdomainparts
  -- nothing new separates them once they are small
  obtain ⟨hnodesmall, hnodenew⟩ := hg.settles node hnodetext hnodenormal
  obtain ⟨hdomainsmall, hdomainnew⟩ := hg.settles domain hdomaintext hdomainnormal
  rw [encodeJid_bare hg (hg.validate_strdown _ hnodetext) (hg.validate_strdown _ hdomaintext),
    Option.some.injEq] at hencode
  subst hencode
  rw [decodeJid_bare (fun hat => hnodeat.1 (hnodenew 64 (.inl rfl) hat))
    (fun hslash => hnodeat.2 (hnodenew 47 (.inr rfl) hslash))
    (fun hslash => hdomainat.2.1 (hdomainnew 47 (.inr rfl) hslash)),
    Option.ite_none_right_eq_some, Option.some.injEq] at hdecode
  obtain ⟨hchecks, rfl⟩ := hdecode
  simp only [Bool.and_eq_true, decide_eq_true_eq] at hchecks
  obtain ⟨⟨⟨hdomainne, hdomainvalid⟩, hnodene⟩, hnodevalid⟩ := hchecks
  refine ⟨_, _, ⟨rfl, settledPart_of_strdown hg hnodetext hnodene hnodevalid hnodesmall,
    settledPart_of_strdown hg hdomaintext hdomainne hdomainvalid hdomainsmall⟩, ?_⟩
  rw [hnodesmall, hdomainsmall]

/-! ## Taking URIs apart -/

theorem parseUnescaped_eq_ok {parts parts' : Parts}
    (h : parseUnescaped g uri parts = .ok parts') :
    ∃ text jid, encodeJid g parts = some text ∧
      normalizeContact g none (some text) .global = .ok (some jid) ∧
      decodeJid g jid = some parts' := by
  unfold parseUnescaped at h
  split at h
  · cases h
  · cases h
  · cases h
  · rename_i jid hnormalize
    split at h
    · cases h
    · rename_i parts'' hdecode
      cases h
      cases hencode : encodeJid g parts with
      | none =>
        rw [hencode] at hnormalize
        cases hnormalize
      | some text =>
        rw [hencode] at hnormalize
        exact ⟨text, jid, rfl, hnormalize, hdecode⟩

theorem parseXmppUri_eq_ok {parts' : Parts} (h : parseXmppUri g uri = .ok parts') :
    ∃ parts, parseUnescaped g uri parts = .ok parts' := by
  unfold parseXmppUri at h
  split at h
  · cases h
  · split at h
    · cases h
    · split at h
      · exact ⟨_, h⟩
      · cases h

theorem uriToJid_eq_ok (h : uriToJid g uri = .ok jid) :
    ∃ scheme parts, parseScheme uri = some scheme ∧ scheme.map toLower = ascii "xmpp" ∧
      parseXmppUri g uri = .ok parts ∧ encodeJid g parts = some jid := by
  unfold uriToJid at h
  split at h
  · cases h
  · rename_i scheme hscheme
    split at h
    · rename_i hxmpp
      split at h
      · cases h
      · rename_i parts hparts
        cases hencode : encodeJid g parts with
        | none =>
          rw [hencode] at h
          cases h
        | some jid' =>
          rw [hencode] at h
          cases h
          exact ⟨scheme, parts, hscheme, (of_decide_eq_true hxmpp).trans (by decide +kernel),
            hparts, hencode⟩
    · cases h

/-- A URI stands for a settled JID. -/
theorem settled_of_uriToJid (hg : g.Lawful) (h : uriToJid g uri = .ok jid) :
    ∃ node domain, Settled g jid node domain := by
  obtain ⟨scheme, parts', -, -, hparse, hjid⟩ := uriToJid_eq_ok h
  obtain ⟨parts, hunescaped⟩ := parseXmppUri_eq_ok hparse
  obtain ⟨text, jid', hencode, hnormalize, hdecode⟩ := parseUnescaped_eq_ok hunescaped
  obtain ⟨htext, hnormal⟩ := encodeJid_eq_some hg hencode
  obtain ⟨node, domain, hsettled, rfl⟩ :=
    settled_of_normalizeContact hg htext hnormal hnormalize hdecode
  rw [hsettled.encodeJid hg, Option.some.injEq] at hjid
  subst hjid
  exact ⟨node, domain, hsettled⟩

/-- A normalized JID of ASCII is settled. -/
theorem settled_of_ascii (hg : g.Lawful) (hascii : Ascii jid)
    (h : normalizeContact g none (some jid) .global = .ok (some jid)) :
    ∃ node domain, Settled g jid node domain := by
  obtain ⟨username, server, resource, hdecode, -⟩ := decodeJid_of_normalizeContact h
  obtain ⟨node, domain, hsettled, -⟩ := settled_of_normalizeContact hg (validate_ascii hg hascii)
    (hg.normalize_ascii jid hascii) h hdecode
  exact ⟨node, domain, hsettled⟩

/-! ## The URI of a settled JID -/

/-- What `gabble_jid_to_uri` puts behind the scheme. -/
def address (g : GLib) (node domain : Bytes) : Bytes :=
  g.normalize (uriEscapeString node) ++ 64 :: g.normalize (uriEscapeString domain)

theorem Settled.jidToUri (h : Settled g jid node domain) (hg : g.Lawful) (scheme : Bytes) :
    Addressing.jidToUri g scheme jid =
      .ok (scheme.map toLower ++ 58 :: address g node domain) := by
  have hencode := encodeJid_bare hg (validate_escape hg h.node.text)
    (validate_escape hg h.domain.text)
  unfold Addressing.jidToUri
  rw [h.decodeJid]
  simp only [Option.map_some, Option.map_none, hencode, Option.getD_some, address]

theorem parseScheme_xmpp (rest : Bytes) :
    parseScheme (ascii "xmpp" ++ 58 :: rest) = some (ascii "xmpp") := by
  have hcolon : 58 ∉ ascii "xmpp" := by decide +kernel
  unfold parseScheme
  rw [strchr_of_mem hcolon]
  exact if_pos (by decide +kernel)

theorem drop_xmpp (rest : Bytes) :
    (ascii "xmpp" ++ 58 :: rest).drop ((ascii "xmpp").length + 1) = rest := by
  rw [List.drop_append]
  rfl

section

variable {rest : Bytes}

theorem parseXmppUri_of_none (h : decodeJid g rest = none) :
    parseXmppUri g (ascii "xmpp" ++ 58 :: rest) =
      .error (.invalidArgument (notXmppUri (ascii "xmpp" ++ 58 :: rest))) := by
  rw [parseXmppUri, parseScheme_xmpp]
  simp only [drop_xmpp, h]

theorem parseXmppUri_of_unescape_none (h : decodeJid g rest = some (some node, domain, none))
    (hnode : unescape node = none) :
    parseXmppUri g (ascii "xmpp" ++ 58 :: rest) =
      .error (.invalidArgument (notXmppUri (ascii "xmpp" ++ 58 :: rest))) := by
  rw [parseXmppUri, parseScheme_xmpp]
  simp only [drop_xmpp, h, uriUnescapePart, hnode, Option.map_none]

theorem parseXmppUri_of_unescape {node' domain' : Bytes}
    (h : decodeJid g rest = some (some node, domain, none))
    (hnode : unescape node = some node') (hdomain : unescape domain = some domain') :
    parseXmppUri g (ascii "xmpp" ++ 58 :: rest) =
      parseUnescaped g (ascii "xmpp" ++ 58 :: rest) (some node', domain', none) := by
  rw [parseXmppUri, parseScheme_xmpp]
  simp only [drop_xmpp, h, uriUnescapePart, hnode, hdomain, Option.map_some]

end

theorem uriToJid_xmpp (rest : Bytes) :
    uriToJid g (ascii "xmpp" ++ 58 :: rest) =
      match parseXmppUri g (ascii "xmpp" ++ 58 :: rest) with
      | .error failure => .error failure
      | .ok parts => (encodeJid g parts).elim (.error .null) .ok := by
  rw [uriToJid, parseScheme_xmpp]
  exact if_pos (by decide +kernel)

/-- Normal escaped text has nothing that separates the parts of a JID. -/
theorem not_mem_address (hg : g.Lawful) {part : Bytes} (htext : g.validate part = true)
    (hnormal : g.normalize part = part) :
    64 ∉ g.normalize (uriEscapeString part) ∧ 47 ∉ g.normalize (uriEscapeString part) := by
  constructor
  · intro hmem
    exact not_mem_escape (by decide) (by decide) (by decide)
      (mem_normalize_escape hg htext hnormal (by decide) hmem)
  · intro hmem
    exact not_mem_escape (by decide) (by decide) (by decide)
      (mem_normalize_escape hg htext hnormal (by decide) hmem)

theorem Settled.decodeJid_address (h : Settled g jid node domain) (hg : g.Lawful) :
    Addressing.decodeJid g (address g node domain) =
      if g.normalize (uriEscapeString domain) ≠ [] &&
          validateJidDomain (g.normalize (uriEscapeString domain)) &&
          g.normalize (uriEscapeString node) ≠ [] &&
          validateJidNode (g.normalize (uriEscapeString node)) then
        some (some (g.strdown (g.normalize (uriEscapeString node))),
          g.strdown (g.normalize (uriEscapeString domain)), none)
      else none := by
  obtain ⟨hat, hslash⟩ := not_mem_address hg h.node.text h.node.normal
  obtain ⟨-, hslash'⟩ := not_mem_address hg h.domain.text h.domain.normal
  exact decodeJid_bare hat hslash hslash'

/-- No character that a node must not have is left by escaping. -/
theorem validateJidNode_escape (t : Bytes) : validateJidNode (uriEscapeString t) = true := by
  have hbad : ∀ c ∈ ascii "\"&'/:<>@",
      allowed c = false ∧ c ≠ 37 ∧ isDigit 16 c = false := by decide +kernel
  refine List.all_eq_true.mpr fun c hc => decide_eq_true fun hmem => ?_
  obtain ⟨hkeep, hpercent, hdigit⟩ := hbad c hmem
  exact not_mem_escape hkeep hpercent hdigit hc

/-- Nothing of the domain is escaped. -/
def PlainDomain (jid : Bytes) : Prop := ∀ b ∈ (strchr 64 jid).2.getD [], b ≠ 58 ∧ b ≠ 127

instance (jid : Bytes) : Decidable (PlainDomain jid) :=
  inferInstanceAs (Decidable (∀ b ∈ (strchr 64 jid).2.getD [], b ≠ 58 ∧ b ≠ 127))

/-- No character after an escape makes one character with its last digit. -/
def NormalNode (g : GLib) (jid : Bytes) : Prop :=
  g.normalize (uriEscapeString (strchr 64 jid).1) = uriEscapeString (strchr 64 jid).1

/-- What a domain may have and what a URI may have differ in two characters. -/
theorem allowed_of_validateJidDomain (h : validateJidDomain domain = true) {b : UInt8}
    (hb : b ∈ domain) : allowed b = true ↔ b ≠ 58 ∧ b ≠ 127 := by
  have hall : ∀ b : UInt8, validateJidDomain [b] = true →
      (allowed b = true ↔ b ≠ 58 ∧ b ≠ 127) := forall_byte (by decide +kernel)
  refine hall b ?_
  rw [validateJidDomain, List.all_cons, List.all_eq_true.mp h b hb]
  rfl

/-- **The JID comes back.** -/
theorem Settled.uriToJid_of (h : Settled g jid node domain) (hg : g.Lawful)
    (hplain : PlainDomain jid) (hnormal : NormalNode g jid) :
    uriToJid g (ascii "xmpp" ++ 58 :: address g node domain) = .ok jid := by
  have hdomain : uriEscapeString domain = domain := by
    refine UriEscape.escape_eq_self fun b hb => ?_
    rw [PlainDomain, h.strchr] at hplain
    exact (allowed_of_validateJidDomain h.domain.valid hb).mpr (hplain b hb)
  have hnode : g.normalize (uriEscapeString node) = uriEscapeString node := by
    rwa [NormalNode, h.strchr] at hnormal
  have hdecode : Addressing.decodeJid g (address g node domain) =
      some (some (g.strdown (uriEscapeString node)), domain, none) := by
    rw [h.decodeJid_address hg, hdomain, hnode, h.domain.normal, h.domain.small, if_pos]
    have hne : uriEscapeString node ≠ [] := mt UriEscape.escape_eq_nil.mp h.node.ne
    rw [h.domain.valid, validateJidNode_escape, decide_eq_true h.domain.ne, decide_eq_true hne]
    rfl
  have hpercent := (not_mem_of_validateJidDomain h.domain.valid).2.2
  have hparts : parseXmppUri g (ascii "xmpp" ++ 58 :: address g node domain) =
      .ok (some node, domain, none) := by
    rw [parseXmppUri_of_unescape hdecode (unescape_strdown_escape hg h.node.text h.node.small)
      (UriEscape.unescape_eq_self hpercent)]
    simp only [parseUnescaped, h.encodeJid hg, h.normalizeContact hg, h.decodeJid]
  rw [uriToJid_xmpp, hparts]
  simp only [h.encodeJid hg, Option.elim_some]

/-- An escape is left in a domain that needs one. -/
theorem Settled.percent_mem (h : Settled g jid node domain) (hg : g.Lawful)
    (hplain : ¬ PlainDomain jid) : 37 ∈ g.normalize (uriEscapeString domain) := by
  have hescape : 37 ∈ uriEscapeString domain := by
    rw [PlainDomain, h.strchr] at hplain
    push Not at hplain
    obtain ⟨b, hb, hspecial⟩ := hplain
    refine UriEscape.percent_mem_escape hb (eq_false_of_ne_true fun hkeep => ?_)
    obtain ⟨hcolon, hdelete⟩ := (allowed_of_validateJidDomain h.domain.valid hb).mp hkeep
    exact hdelete (hspecial hcolon)
  rcases normalize_escape hg h.domain.text h.domain.normal with hsame | hbroken
  · rwa [hsame]
  · exact hbroken.percent

/-- **Otherwise the URI is not valid.** -/
theorem Settled.uriToJid_fails (h : Settled g jid node domain) (hg : g.Lawful)
    (hnot : ¬ (PlainDomain jid ∧ NormalNode g jid)) :
    ∃ failure, uriToJid g (ascii "xmpp" ++ 58 :: address g node domain) = .error failure := by
  have hparse : parseXmppUri g (ascii "xmpp" ++ 58 :: address g node domain) =
      .error (.invalidArgument (notXmppUri (ascii "xmpp" ++ 58 :: address g node domain))) := by
    by_cases hplain : PlainDomain jid
    · -- the escapes of the node are broken
      have hnode : unescape (g.strdown (g.normalize (uriEscapeString node))) = none := by
        have hnormal : ¬ NormalNode g jid := fun hnormal => hnot ⟨hplain, hnormal⟩
        rw [NormalNode, h.strchr] at hnormal
        exact unescape_broken hg
          ((normalize_escape hg h.node.text h.node.normal).resolve_left hnormal)
      have hdecode := h.decodeJid_address hg
      split at hdecode
      · exact parseXmppUri_of_unescape_none hdecode hnode
      · exact parseXmppUri_of_none hdecode
    · -- the domain has an escape
      have hdomain : validateJidDomain (g.normalize (uriEscapeString domain)) = false := by
        refine eq_false_of_ne_true fun hvalid => ?_
        exact (not_mem_of_validateJidDomain hvalid).2.2 (h.percent_mem hg hplain)
      refine parseXmppUri_of_none ?_
      rw [h.decodeJid_address hg, hdomain, Bool.and_false, Bool.false_and, Bool.false_and,
        if_neg Bool.false_ne_true]
  rw [uriToJid_xmpp, hparse]
  exact ⟨_, rfl⟩

/-- Escaped ASCII is normal. -/
theorem normalNode_of_ascii (hg : g.Lawful) (hascii : Ascii jid) : NormalNode g jid := by
  have hnode : Ascii (strchr 64 jid).1 := by
    rcases strchr_cases 64 jid with ⟨-, hfound⟩ | ⟨node, domain, rfl, -, hfound⟩
    · rwa [hfound]
    · rw [hfound]
      exact fun b hb => hascii b (List.mem_append_left _ hb)
  refine hg.normalize_ascii _ fun b hb => ?_
  obtain ⟨c, hc, hbyte⟩ := List.mem_flatMap.mp hb
  exact escapeByte_ascii (hnode c hc) b hbyte

/-- **When addresses round-trip.**  A normalized JID of ASCII comes back from its URI when
nothing of its domain is escaped; normalizing a URI twice changes nothing more when,
moreover, no character of its JID makes one character with an escape before it. -/
theorem address_round_trips (hg : g.Lawful) :
    (∀ jid, Ascii jid → normalizeContact g none (some jid) .global = .ok (some jid) →
      ((∃ uri, jidToUri g (ascii "xmpp") jid = .ok uri ∧ uriToJid g uri = .ok jid) ↔
        PlainDomain jid)) ∧
    ∀ uri uri', normalizeContactUri g uri = .ok uri' →
      ∃ jid, uriToJid g uri = .ok jid ∧
        (normalizeContactUri g uri' = .ok uri' ↔ PlainDomain jid ∧ NormalNode g jid) := by
  have hlower : (ascii "xmpp").map toLower = ascii "xmpp" := by decide +kernel
  constructor
  · intro jid hascii hnormalized
    obtain ⟨node, domain, hsettled⟩ := settled_of_ascii hg hascii hnormalized
    have hnormal := normalNode_of_ascii hg hascii
    rw [hsettled.jidToUri hg, hlower]
    constructor
    · rintro ⟨uri, huri, hback⟩
      cases huri
      by_contra hplain
      obtain ⟨failure, hfails⟩ := hsettled.uriToJid_fails hg fun h => hplain h.1
      rw [hfails] at hback
      cases hback
    · intro hplain
      exact ⟨_, rfl, hsettled.uriToJid_of hg hplain hnormal⟩
  · intro uri uri' haccepted
    unfold normalizeContactUri at haccepted
    split at haccepted
    · cases haccepted
    · rename_i jid hjid
      obtain ⟨node, domain, hsettled⟩ := settled_of_uriToJid hg hjid
      obtain ⟨scheme, -, hscheme, hxmpp, -⟩ := uriToJid_eq_ok hjid
      rw [hscheme] at haccepted
      simp only [hsettled.jidToUri hg, hxmpp] at haccepted
      cases haccepted
      refine ⟨jid, hjid, ?_⟩
      rw [normalizeContactUri]
      constructor
      · intro hagain
        by_contra hnot
        obtain ⟨failure, hfails⟩ := hsettled.uriToJid_fails hg hnot
        rw [hfails] at hagain
        cases hagain
      · rintro ⟨hplain, hnormal⟩
        rw [hsettled.uriToJid_of hg hplain hnormal]
        simp only [parseScheme_xmpp, hsettled.jidToUri hg, hlower]

/-! ## A GLib for ASCII -/

/-- GLib as far as ASCII goes. -/
def asciiGLib : GLib where
  validate := fun t => t.all fun b => 0 < b && b < 128
  normalize := id
  strdown := List.map toLower

theorem asciiGLib_validate {t : Bytes} : asciiGLib.validate t = true ↔ Ascii t := by
  refine List.all_eq_true.trans (forall₂_congr fun b hb => ?_)
  rw [Bool.and_eq_true, decide_eq_true_iff, decide_eq_true_iff]

theorem toLower_eq_self {b : UInt8} : toLower b = b ↔ isCapital b = false := by
  constructor
  · intro h
    rw [← h]
    exact isCapital_toLower b
  · exact toLower_of_not_capital

theorem asciiGLib_lawful : asciiGLib.Lawful where
  validate_nil := rfl
  validate_append a b c hpos hlow := by
    rw [asciiGLib_validate, asciiGLib_validate, asciiGLib_validate]
    constructor
    · intro h
      exact ⟨fun d hd => h d (List.mem_append_left _ hd),
        fun d hd => h d (List.mem_append_right _ (List.mem_cons_of_mem _ hd))⟩
    · rintro ⟨ha, hb⟩
      refine ha.append fun d hd => ?_
      rcases List.mem_cons.mp hd with rfl | hd
      · exact ⟨hpos, hlow⟩
      · exact hb d hd
  validate_nul t ht hmem := absurd (asciiGLib_validate.mp ht 0 hmem).1 (by decide)
  validate_normalize _ ht := ht
  validate_strdown t ht := asciiGLib_validate.mpr (ascii_lower (asciiGLib_validate.mp ht))
  normalize_normalize _ _ := rfl
  normalize_ascii _ _ := rfl
  normalize_append _ _ _ _ _ _ _ := rfl
  normalize_at _ _ := rfl
  normalize_base _ _ _ _ _ _ _ := .inl rfl
  normalize_pieces _ _ _ _ _ := ⟨rfl, rfl⟩
  strdown_append a b _ _ := by
    change (a ++ b).map toLower = a ++ b ↔ a.map toLower = a ∧ b.map toLower = b
    rw [List.map_append]
    constructor
    · intro h
      exact List.append_inj h (List.length_map ..)
    · rintro ⟨ha, hb⟩
      rw [ha, hb]
  strdown_byte b _ _ := by
    change [b].map toLower = [b] ↔ _
    rw [List.map_singleton, List.singleton_inj]
    exact toLower_eq_self
  strdown_around a b c hc _ _ := by
    have hsame : toLower c = c := by
      rcases hc with rfl | ⟨hlow, hhigh⟩
      · rfl
      · refine toLower_of_not_capital (eq_false_of_ne_true fun hcapital => ?_)
        rw [isCapital, Bool.and_eq_true, decide_eq_true_iff, decide_eq_true_iff] at hcapital
        exact absurd (UInt8.le_trans hcapital.1 hhigh) (by decide)
    change (a ++ c :: b).map toLower = a.map toLower ++ c :: b.map toLower
    rw [List.map_append, List.map_cons, hsame]
  strdown_head b t c hb ht _ := by
    have hlow := (asciiGLib_validate.mp ht b List.mem_cons_self).2
    exact absurd hlow (UInt8.not_lt.mpr hb)
  strdown_hex _ _ _ _ := rfl
  settles t _ _ := by
    have hsame : ∀ b : UInt8, toLower b = 64 ∨ toLower b = 47 → toLower b = b :=
      forall_byte (by decide +kernel)
    constructor
    · change (t.map toLower).map toLower = t.map toLower
      rw [List.map_map]
      exact List.map_congr_left fun b _ => toLower_of_not_capital (isCapital_toLower b)
    · intro c hc hmem
      obtain ⟨d, hd, rfl⟩ := List.mem_map.mp hmem
      rwa [hsame d hc]

/-- A node that is escaped comes back, and its URI stays the same. -/
theorem address_round_trips_percent :
    (∃ uri, jidToUri asciiGLib (ascii "xmpp") (ascii "a%b@capulet.lit") = .ok uri ∧
      uriToJid asciiGLib uri = .ok (ascii "a%b@capulet.lit")) ∧
    ∃ jid, uriToJid asciiGLib (ascii "XMPP:A%25b@Capulet.lit/x") = .ok jid ∧
      (normalizeContactUri asciiGLib (ascii "xmpp:a%25b@capulet.lit") =
        .ok (ascii "xmpp:a%25b@capulet.lit") ↔ PlainDomain jid ∧ NormalNode asciiGLib jid) :=
  ⟨((address_round_trips asciiGLib_lawful).1 (ascii "a%b@capulet.lit") (by decide +kernel)
      (by decide +kernel)).mpr (by decide +kernel),
    (address_round_trips asciiGLib_lawful).2 (ascii "XMPP:A%25b@Capulet.lit/x")
      (ascii "xmpp:a%25b@capulet.lit") (by decide +kernel)⟩

/-- **An IPv6 address is lost.**  Wocky takes the JID, and the URI that is made of it is
refused. -/
theorem address_literal_lost :
    normalizeContact asciiGLib none (some (ascii "juliet@::1")) .global =
        .ok (some (ascii "juliet@::1")) ∧
      jidToUri asciiGLib (ascii "xmpp") (ascii "juliet@::1") =
        .ok (ascii "xmpp:juliet@%3A%3A1") ∧
      uriToJid asciiGLib (ascii "xmpp:juliet@%3A%3A1") =
        .error (.invalidArgument (ascii "'xmpp:juliet@%3A%3A1' is not a valid XMPP URI")) ∧
      normalizeContactUri asciiGLib (ascii "xmpp:juliet@::1") =
        .ok (ascii "xmpp:juliet@%3A%3A1") ∧
      normalizeContactUri asciiGLib (ascii "xmpp:juliet@%3A%3A1") =
        .error (.invalidArgument (ascii "'xmpp:juliet@%3A%3A1' is not a valid XMPP URI")) := by
  decide +kernel

end Addressing
