/-
# The grammar of the SOCKS5 messages

Whether the parsers of a SOCKS5 stream follow the grammar of the messages they read:
an authorization request with any methods, and a CONNECT command or reply with a
domain of any length, of which some bytes have arrived.  The lengths are bytes, and
the code holds them in a signed `char` and in a `guint8`, so the large ones wrap.
-/
import Gabble.BytestreamSocks5Messages

namespace Socks5

open Base64

/-! ## The grammar -/

/-- An authorization request. -/
def greeting (methods : Bytes) : Bytes := [5, UInt8.ofNat methods.length] ++ methods

/-- A CONNECT command, or the reply to it. -/
def connectBytes (code : UInt8) (domain : Bytes) (port : UInt8 × UInt8) : Bytes :=
  [5, code, 0, 3, UInt8.ofNat domain.length] ++ domain ++ [port.1, port.2]

/-- What a parser has to answer when `arrived` bytes are there of a message of `length`
bytes: it waits, or uses the message, or refuses it. -/
def due (length arrived : ℕ) (right : Bool) : ℤ :=
  if arrived < length then 0 else if right then length else -1

theorem zero_eq_due_iff {length arrived : ℕ} {right : Bool} (h : 0 < length) :
    0 = due length arrived right ↔ arrived < length := by
  rw [due]
  split
  · next hless => exact iff_of_true rfl hless
  · next hless =>
    refine iff_of_false (fun hzero => ?_) hless
    split at hzero
    · omega
    · cases hzero

/-- The lengths do not wrap, or it does not show: the message is not complete, and does
not look so; or it fits into the bytes that have arrived, counted modulo 256; or it is
one with the longest domain that is refused anyway. -/
def LengthsFit (domainLength arrived : ℕ) (right : Bool) : Prop :=
  (arrived < 7 + domainLength ∧ (domainLength = 255 → arrived % 256 < 6)) ∨
    7 + domainLength ≤ arrived % 256 ∨
    (domainLength = 255 ∧ 7 + domainLength ≤ arrived ∧ 6 ≤ arrived % 256 ∧ right = false)

/-! ## Authorization requests -/

theorem toNat_ofNat {n : ℕ} (h : n ≤ 255) : (UInt8.ofNat n).toNat = n :=
  UInt8.toNat_ofNat_of_lt' (show n < 256 by omega)

/-- A request is accepted as a whole if it has less than 128 methods and offers no
authentication among them. -/
theorem authRequest_greeting_iff {methods : Bytes} (h : methods.length ≤ 255) :
    authRequest (greeting methods) = .accepted (2 + methods.length) ↔
      methods.length < 128 ∧ 0 ∈ methods := by
  have hlength : (greeting methods).length = methods.length + 2 := rfl
  have hversion : ¬ byteAt (greeting methods) 0 ≠ 5 := not_not_intro rfl
  have hmethods : byteAt (greeting methods) 1 = UInt8.ofNat methods.length := rfl
  rw [authRequest, if_neg (by omega), if_neg hversion, hmethods, authLength, toNat_ofNat h]
  dsimp only
  by_cases hsmall : methods.length < 128
  · have hany : (((greeting methods).take (methods.length + 2)).drop 2 |>.any fun b => b = 0) =
        decide (0 ∈ methods) := by
      rw [← hlength, List.take_length]
      show (methods.any fun b => decide (b = 0)) = decide (0 ∈ methods)
      rw [List.any_eq]
      simp
    rw [if_pos hsmall, hlength, if_neg (lt_irrefl _), hany, Nat.add_comm]
    by_cases hzero : 0 ∈ methods
    · simp [hzero, hsmall]
    · simp [hzero]
  · refine iff_of_false (fun haccepted => ?_) fun hboth => hsmall hboth.1
    rw [if_neg hsmall] at haccepted
    split at haccepted
    · cases haccepted
    · split at haccepted
      · -- the sum is not the length of the request
        have hused := Verdict.accepted.inj haccepted
        omega
      · cases haccepted

/-! ## Messages with a domain -/

section

variable {code : UInt8} {domain rest : Bytes} {port : UInt8 × UInt8} {arrived : ℕ}

theorem length_connectBytes : (connectBytes code domain port).length = 7 + domain.length := by
  simp [connectBytes]
  omega

/-- What has arrived of a message, and of what follows it. -/
def arrivedBytes (code : UInt8) (domain : Bytes) (port : UInt8 × UInt8) (rest : Bytes)
    (arrived : ℕ) : Bytes :=
  (connectBytes code domain port ++ rest).take arrived

theorem byteAt_take {buffer : Bytes} {i n : ℕ} (h : i < n) :
    byteAt (buffer.take n) i = byteAt buffer i := by
  rw [byteAt, byteAt, List.getD_eq_getElem?_getD, List.getD_eq_getElem?_getD,
    List.getElem?_take_of_lt h]

theorem byteAt_arrivedBytes {i : ℕ} (h : i < arrived) (hi : i < 7 + domain.length) :
    byteAt (arrivedBytes code domain port rest arrived) i =
      byteAt (connectBytes code domain port) i := by
  rw [arrivedBytes, byteAt_take h, byteAt_append (by rw [length_connectBytes]; exact hi)]

theorem byteAt_port :
    byteAt (connectBytes code domain port) (5 + domain.length) = port.1 ∧
      byteAt (connectBytes code domain port) (6 + domain.length) = port.2 := by
  have hbefore : ([5, code, 0, 3, UInt8.ofNat domain.length] ++ domain).length =
      5 + domain.length := by simp; omega
  constructor
  · rw [byteAt, List.getD_eq_getElem?_getD, connectBytes,
      List.getElem?_append_right (by rw [hbefore]), hbefore, Nat.sub_self]
    rfl
  · rw [byteAt, List.getD_eq_getElem?_getD, connectBytes,
      List.getElem?_append_right (by rw [hbefore]; omega), hbefore,
      show 6 + domain.length - (5 + domain.length) = 1 by omega]
    rfl

/-- The length of the address of a domain, as the code adds it up. -/
theorem addrLen_toNat {n : ℕ} (h : n ≤ 255) :
    (UInt8.ofNat n + 1).toNat = if n = 255 then 0 else n + 1 := by
  rw [UInt8.toNat_add, toNat_ofNat h]
  split <;> simp <;> omega

/-- A header that is read as the one of a message with a domain. -/
def ReadsDomain (header : Header) (code : UInt8) (domain : Bytes) (port : UInt8 × UInt8)
    (rest : Bytes) (arrived : ℕ) : Prop :=
  6 ≤ arrived → header (arrivedBytes code domain port rest arrived) =
    some (UInt8.ofNat domain.length + 1, true)

theorem readsDomain_replyHeader : ReadsDomain replyHeader 0 domain port rest arrived := by
  intro h
  rw [replyHeader, byteAt_arrivedBytes (by omega) (by omega),
    byteAt_arrivedBytes (by omega) (by omega), byteAt_arrivedBytes (by omega) (by omega),
    byteAt_arrivedBytes (by omega) (by omega), byteAt_arrivedBytes (by omega) (by omega)]
  rfl

theorem readsDomain_commandHeader : ReadsDomain commandHeader 1 domain port rest arrived := by
  intro h
  rw [commandHeader, byteAt_arrivedBytes (by omega) (by omega),
    byteAt_arrivedBytes (by omega) (by omega), byteAt_arrivedBytes (by omega) (by omega),
    byteAt_arrivedBytes (by omega) (by omega), byteAt_arrivedBytes (by omega) (by omega)]
  rfl

theorem length_arrivedBytes
    (harrived : arrived ≤ (connectBytes code domain port ++ rest).length) :
    (arrivedBytes code domain port rest arrived).length = arrived := by
  rw [arrivedBytes, List.length_take, Nat.min_eq_left harrived]

/-- What the code makes of a message with a domain that is not the longest one. -/
theorem message_short {header : Header} (hlen : domain.length < 255)
    (hheader : ReadsDomain header code domain port rest arrived)
    (harrived : arrived ≤ (connectBytes code domain port ++ rest).length) :
    message header (arrivedBytes code domain port rest arrived) =
      if arrived % 256 < 7 + domain.length then .wait
      else if port = (0, 0) then .accepted (7 + domain.length) else .refused := by
  have haddr : (UInt8.ofNat domain.length + 1).toNat = domain.length + 1 := by
    rw [addrLen_toNat hlen.le, if_neg hlen.ne]
  rw [message, length_arrivedBytes harrived, minLength]
  by_cases hmin : arrived < 6
  · rw [if_pos hmin, if_pos (by omega)]
  rw [if_neg hmin, hheader (by omega)]
  dsimp only
  rw [complete, length_cast, length_arrivedBytes harrived, haddr, minLength]
  by_cases hwait : arrived % 256 < 7 + domain.length
  · rw [if_pos (by omega), if_pos hwait]
  · rw [if_neg (by omega), if_neg hwait,
      show 4 + (domain.length + 1) = 5 + domain.length by omega,
      show 5 + (domain.length + 1) = 6 + domain.length by omega,
      byteAt_arrivedBytes (by omega) (by omega), byteAt_arrivedBytes (by omega) (by omega),
      byteAt_port.1, byteAt_port.2, show 6 + (domain.length + 1) = 7 + domain.length by omega]
    obtain ⟨first, second⟩ := port
    by_cases hfirst : first = 0
    · by_cases hsecond : second = 0
      · simp [hfirst, hsecond]
      · simp [hsecond]
    · simp [hfirst]

/-- The longest domain is taken for none, and its length for the port. -/
theorem message_longest {header : Header} (hlen : domain.length = 255)
    (hheader : ReadsDomain header code domain port rest arrived)
    (harrived : arrived ≤ (connectBytes code domain port ++ rest).length) :
    message header (arrivedBytes code domain port rest arrived) =
      if arrived % 256 < 6 then .wait else .refused := by
  have haddr : (UInt8.ofNat domain.length + 1).toNat = 0 := by
    rw [addrLen_toNat hlen.le, if_pos hlen]
  rw [message, length_arrivedBytes harrived, minLength]
  by_cases hmin : arrived < 6
  · rw [if_pos hmin, if_pos (by omega)]
  rw [if_neg hmin, hheader (by omega)]
  dsimp only
  rw [complete, length_cast, length_arrivedBytes harrived, haddr, minLength]
  by_cases hwait : arrived % 256 < 6
  · rw [if_pos (by omega), if_pos hwait]
  · have hfour : byteAt (arrivedBytes code domain port rest arrived) (4 + 0) = 255 := by
      rw [byteAt_arrivedBytes (by omega) (by omega)]
      show UInt8.ofNat domain.length = 255
      rw [hlen]
      rfl
    rw [if_neg (by omega), if_neg hwait, hfour]
    rfl

/-- **A message with a domain.**  The parser answers what it has to exactly if the
lengths do not wrap; `extra` is what else is checked of a message that is complete. -/
theorem answer_iff {header : Header} (hlen : domain.length ≤ 255)
    (hheader : ReadsDomain header code domain port rest arrived)
    (harrived : arrived ≤ (connectBytes code domain port ++ rest).length) (extra : Bool)
    {answer : ℤ}
    (hwait : message header (arrivedBytes code domain port rest arrived) = .wait → answer = 0)
    (hrefused : message header (arrivedBytes code domain port rest arrived) = .refused →
      answer = -1)
    (haccepted : message header (arrivedBytes code domain port rest arrived) =
      .accepted (7 + domain.length) → domain.length < 255 → 7 + domain.length ≤ arrived →
      answer = if extra then ((7 + domain.length : ℕ) : ℤ) else -1) :
    answer = due (7 + domain.length) arrived (port = (0, 0) && extra) ↔
      LengthsFit domain.length arrived (port = (0, 0) && extra) := by
  have hmod := Nat.mod_le arrived 256
  rcases hlen.lt_or_eq with hshort | hlongest
  · rw [message_short hshort hheader harrived] at hwait hrefused haccepted
    by_cases hless : arrived % 256 < 7 + domain.length
    · rw [hwait (if_pos hless), zero_eq_due_iff (by omega), LengthsFit]
      omega
    · rw [if_neg hless] at hrefused haccepted
      refine iff_of_true ?_ (.inr (.inl (Nat.le_of_not_lt hless)))
      have harrived' : ¬ arrived < 7 + domain.length := by omega
      rw [due, if_neg harrived']
      by_cases hport : port = (0, 0)
      · rw [haccepted (if_pos hport) hshort (by omega), decide_eq_true hport, Bool.true_and]
      · rw [hrefused (if_neg hport), decide_eq_false hport, Bool.false_and]
        rfl
  · rw [message_longest hlongest hheader harrived] at hwait hrefused
    by_cases hless : arrived % 256 < 6
    · rw [hwait (if_pos hless), zero_eq_due_iff (by omega), LengthsFit]
      omega
    · rw [hrefused (if_neg hless), LengthsFit, due]
      by_cases hcomplete : arrived < 7 + domain.length
      · rw [if_pos hcomplete]
        exact iff_of_false (by decide) (by omega)
      · rw [if_neg hcomplete]
        cases (decide (port = (0, 0)) && extra) with
        | false => exact iff_of_true rfl (.inr (.inr ⟨hlongest, by omega, by omega, rfl⟩))
        | true =>
          refine iff_of_false (fun h => ?_) ?_
          · rw [if_pos rfl] at h
            omega
          · rintro (h | h | ⟨-, -, -, h⟩)
            · omega
            · omega
            · cases h

end

/-! ## Wrong fields -/

/-- Version, status, reserved byte and address type of a CONNECT reply; type 0 is a reply
without a domain. -/
def ReplyFields (buffer : Bytes) : Prop :=
  byteAt buffer 0 = 5 ∧ byteAt buffer 1 = 0 ∧ byteAt buffer 2 = 0 ∧
    (byteAt buffer 3 = 3 ∨ byteAt buffer 3 = 0)

/-- Version, command, reserved byte and address type of a CONNECT command. -/
def CommandFields (buffer : Bytes) : Prop :=
  byteAt buffer 0 = 5 ∧ byteAt buffer 1 = 1 ∧ byteAt buffer 2 = 0 ∧ byteAt buffer 3 = 3

theorem authRequest_refused {buffer : Bytes} (hlen : 2 ≤ buffer.length)
    (hversion : byteAt buffer 0 ≠ 5) : authRequest buffer = .refused := by
  rw [authRequest, if_neg (by omega), if_pos hversion]

theorem connectReply_refused {buffer : Bytes} (hlen : 6 ≤ buffer.length)
    (hfields : ¬ ReplyFields buffer) : connectReply buffer = .refused := by
  rw [connectReply, if_neg (show ¬ buffer.length < minLength from by rw [minLength]; omega)]
  split
  · rfl
  next hfirst =>
    simp only [ne_eq, Bool.or_eq_true, decide_eq_true_eq, not_or, not_not] at hfirst
    obtain ⟨⟨hversion, hstatus⟩, hreserved⟩ := hfirst
    rw [if_neg fun h => hfields ⟨hversion, hstatus, hreserved, .inl h⟩,
      if_neg fun h => hfields ⟨hversion, hstatus, hreserved, .inr h⟩]

/-- A reply without a domain. -/
theorem connectReply_typeZero {buffer : Bytes} (hlen : 6 ≤ buffer.length)
    (hfields : ReplyFields buffer) (htype : byteAt buffer 3 = 0) :
    connectReply buffer = if buffer.length % 256 < 6 then .wait
      else if byteAt buffer 4 = 0 ∧ byteAt buffer 5 = 0 then .accepted 6 else .refused := by
  obtain ⟨hversion, hstatus, hreserved, -⟩ := hfields
  rw [connectReply, if_neg (show ¬ buffer.length < minLength from by rw [minLength]; omega)]
  simp only [hversion, hstatus, hreserved, htype]
  rw [if_neg (by decide), if_neg (by decide), if_pos trivial, complete, length_cast, minLength]
  by_cases hport : byteAt buffer 4 = 0 ∧ byteAt buffer 5 = 0
  · simp [hport]
  · have hwrong : (!true || decide (byteAt buffer (4 + (0 : UInt8).toNat) ≠ 0) ||
        decide (byteAt buffer (5 + (0 : UInt8).toNat) ≠ 0)) = true := by
      simpa [imp_iff_not_or] using hport
    rw [if_neg hport, hwrong, if_pos rfl]
    rfl

theorem connectCommand_refused {buffer : Bytes} (hfields : ¬ CommandFields buffer) :
    connectCommand buffer =
      if 6 + (byteAt buffer 4 + 1).toNat ≤ buffer.length % 256 then .refused else .wait := by
  have hok : (byteAt buffer 0 = 5 && byteAt buffer 1 = 1 && byteAt buffer 2 = 0 &&
      byteAt buffer 3 = 3 : Bool) = false := by
    rw [← Bool.not_eq_true]
    simpa [CommandFields, and_assoc] using hfields
  have hmod := Nat.mod_le buffer.length 256
  rw [connectCommand, hok, complete, length_cast, minLength]
  split
  · rw [if_neg (by omega)]
  · split
    · rw [if_neg (by omega)]
    · rw [Bool.not_false, Bool.true_or, Bool.true_or, if_pos rfl, if_pos (by omega)]

/-! ## The parsers -/

theorem follow_answer (v : Verdict) (s : State) (accept : ℕ → State × ℤ) :
    (v = .wait → (follow v s accept).2 = 0) ∧ (v = .refused → (follow v s accept).2 = -1) ∧
      ∀ used, v = .accepted used → (follow v s accept).2 = (accept used).2 := by
  refine ⟨?_, ?_, ?_⟩
  · rintro rfl
    rfl
  · rintro rfl
    rfl
  · rintro used rfl
    rfl

/-- The domain of a message is compared with the one that is expected. -/
theorem checkDomain_arrivedBytes {code : UInt8} {domain rest expected : Bytes}
    {port : UInt8 × UInt8} {arrived : ℕ} (hlen : domain.length < 255)
    (harrived : 7 + domain.length ≤ arrived) :
    checkDomain (arrivedBytes code domain port rest arrived) expected =
      (domain.length = 40 && domain = expected) := by
  have hfour : byteAt (arrivedBytes code domain port rest arrived) 4 =
      UInt8.ofNat domain.length := by
    rw [byteAt_arrivedBytes (by omega) (by omega)]
    rfl
  have hforty : UInt8.ofNat domain.length = 40 ↔ domain.length = 40 := by
    refine ⟨fun h => ?_, fun h => by rw [h]; rfl⟩
    have hvalue := congrArg UInt8.toNat h
    rwa [toNat_ofNat hlen.le] at hvalue
  rw [checkDomain, hfour]
  by_cases hlength : domain.length = 40
  · have hdrop : (arrivedBytes code domain port rest arrived).drop 5 =
        (domain ++ ([port.1, port.2] ++ rest)).take (arrived - 5) := by
      rw [arrivedBytes, List.drop_take]
      simp [connectBytes]
    have htake : ((arrivedBytes code domain port rest arrived).drop 5).take 40 = domain := by
      rw [hdrop, List.take_take, Nat.min_eq_left (by omega), List.take_append_of_le_length hlength.ge,
        ← hlength, List.take_length]
    rw [htake]
    simp [hlength]
  · simp [hforty, hlength]

/-- The position of the last byte that is looked at. -/
theorem complete_reads {addrLen : UInt8} {ok : Bool} {buffer : Bytes}
    (h : complete addrLen ok buffer ≠ .wait) : 5 + addrLen.toNat < buffer.length := by
  rw [complete, length_cast, minLength] at h
  have hmod := Nat.mod_le buffer.length 256
  by_contra hshort
  exact h (if_pos (by omega))

section

variable (sha1Hex : Bytes → Bytes) (s : State)

/-- **The parsers and the grammar.**  An authorization request is accepted if and only
if it offers no authentication, exactly if it does not offer it or has less than 128
methods.  To a CONNECT command or reply of which some bytes have arrived the parser
answers what it has to, exactly if its lengths do not wrap.  In any case no byte is read
that is not there, and a message with a wrong field is never used; a reply of address type
0 has no domain. -/
theorem parsers_follow_grammar_iff :
    (s.socks5State = .initiatorAwaitingAuthRequest → ∀ methods : Bytes, methods.length ≤ 255 →
      (((handleReceivedData sha1Hex s (greeting methods)).2 = (2 + methods.length : ℕ) ↔
        0 ∈ methods) ↔ (0 ∈ methods → methods.length < 128))) ∧
    (s.socks5State = .initiatorAwaitingCommand →
      ∀ (domain rest : Bytes) (port : UInt8 × UInt8) (arrived : ℕ), domain.length ≤ 255 →
        arrived ≤ (connectBytes 1 domain port ++ rest).length →
        let right := decide (port = (0, 0)) &&
          (domain.length = 40 && domain = Socks5.domain sha1Hex false s)
        ((handleReceivedData sha1Hex s (arrivedBytes 1 domain port rest arrived)).2 =
          due (7 + domain.length) arrived right ↔ LengthsFit domain.length arrived right)) ∧
    (s.socks5State = .targetConnectRequested ∨ s.socks5State = .initiatorConnectRequested →
      ∀ (domain rest : Bytes) (port : UInt8 × UInt8) (arrived : ℕ), domain.length ≤ 255 →
        arrived ≤ (connectBytes 0 domain port ++ rest).length →
        ((handleReceivedData sha1Hex s (arrivedBytes 0 domain port rest arrived)).2 =
          due (7 + domain.length) arrived (port = (0, 0)) ↔
            LengthsFit domain.length arrived (port = (0, 0)))) ∧
    (∀ (addrLen : UInt8) (ok : Bool) (buffer : Bytes), complete addrLen ok buffer ≠ .wait →
      5 + addrLen.toNat < buffer.length) ∧
    (s.socks5State = .initiatorAwaitingAuthRequest → ∀ buffer : Bytes, 2 ≤ buffer.length →
      byteAt buffer 0 ≠ 5 → (handleReceivedData sha1Hex s buffer).2 = -1) ∧
    (s.socks5State = .initiatorAwaitingCommand → ∀ buffer : Bytes, ¬ CommandFields buffer →
      (handleReceivedData sha1Hex s buffer).2 =
        if 6 + (byteAt buffer 4 + 1).toNat ≤ buffer.length % 256 then -1 else 0) ∧
    (s.socks5State = .targetConnectRequested ∨ s.socks5State = .initiatorConnectRequested →
      ∀ buffer : Bytes, 6 ≤ buffer.length →
        (¬ ReplyFields buffer → (handleReceivedData sha1Hex s buffer).2 = -1) ∧
        (ReplyFields buffer → byteAt buffer 3 = 0 → (handleReceivedData sha1Hex s buffer).2 =
          if buffer.length % 256 < 6 then 0
          else if byteAt buffer 4 = 0 ∧ byteAt buffer 5 = 0 then 6 else -1)) := by
  have hreply : s.socks5State = .targetConnectRequested ∨
      s.socks5State = .initiatorConnectRequested → ∀ buffer,
        (handleReceivedData sha1Hex s buffer).2 =
          (follow (connectReply buffer) s fun used => (s, (used : ℤ))).2 := by
    intro hstate buffer
    rcases hstate with hstate | hstate
    all_goals
      simp only [handleReceivedData, hstate]
      cases connectReply buffer <;> rfl
  refine ⟨fun hstate methods hlen => ?_, fun hstate domain rest port arrived hlen harrived => ?_,
    fun hstate domain rest port arrived hlen harrived => ?_, fun _ _ _ => complete_reads,
    fun hstate buffer hlen hversion => ?_, fun hstate buffer hfields => ?_,
    fun hstate buffer hlen => ⟨fun hfields => ?_, fun hfields htype => ?_⟩⟩
  · have hanswer : (handleReceivedData sha1Hex s (greeting methods)).2 =
          (2 + methods.length : ℕ) ↔
        authRequest (greeting methods) = .accepted (2 + methods.length) := by
      simp only [handleReceivedData, hstate]
      cases authRequest (greeting methods) with
      | wait => exact iff_of_false (by rw [follow]; omega) nofun
      | refused => exact iff_of_false (by rw [follow]; omega) nofun
      | accepted used =>
        rw [follow, Verdict.accepted.injEq]
        exact Int.natCast_inj
    rw [hanswer, authRequest_greeting_iff hlen]
    tauto
  · simp only [handleReceivedData, hstate]
    obtain ⟨hwait, hrefused, haccepted⟩ := follow_answer
      (connectCommand (arrivedBytes 1 domain port rest arrived)) s fun used =>
        if checkDomain (arrivedBytes 1 domain port rest arrived) (Socks5.domain sha1Hex false s) then
          (sendConnectReply sha1Hex s, (used : ℤ))
        else (socks5Error (closeTransport s), -1)
    refine answer_iff hlen readsDomain_commandHeader harrived _ hwait hrefused
      fun h hshort hall => ?_
    rw [haccepted _ h, checkDomain_arrivedBytes hshort hall]
    split
    · rfl
    · rfl
  · have hanswer := hreply hstate (arrivedBytes 0 domain port rest arrived)
    obtain ⟨hwait, hrefused, haccepted⟩ := follow_answer
      (connectReply (arrivedBytes 0 domain port rest arrived)) s fun used => (s, (used : ℤ))
    rw [connectReply_eq] at hwait hrefused haccepted hanswer
    have hiff := answer_iff hlen readsDomain_replyHeader harrived true hwait hrefused
      fun h _ _ => haccepted _ h
    rwa [Bool.and_true, ← hanswer] at hiff
  · simp only [handleReceivedData, hstate, authRequest_refused hlen hversion, follow]
  · simp only [handleReceivedData, hstate, connectCommand_refused hfields]
    split <;> rfl
  · rw [hreply hstate, connectReply_refused hlen hfields, follow]
  · rw [hreply hstate, connectReply_typeZero hlen hfields htype]
    split
    · rfl
    split <;> rfl

end

/-- A stream that reads in this state. -/
def reading (state : Socks5State) : State :=
  { State.new [] [] [] false .initiating [] with socks5State := state, readBuffer := some [] }

/-- A request with 128 methods that offers no authentication, a reply with a domain of
249 bytes, and one with 40 bytes behind which there are 209 others, are waited for; and
six bytes of a reply with a domain of 255 bytes are refused. -/
theorem lengths_wrap :
    (handleReceivedData id (reading .initiatorAwaitingAuthRequest)
        (greeting (List.replicate 128 0))).2 = 0 ∧
      (handleReceivedData id (reading .targetConnectRequested)
        (connectBytes 0 (List.replicate 249 97) (0, 0))).2 = 0 ∧
      (handleReceivedData id (reading .targetConnectRequested)
        (connectBytes 0 (List.replicate 40 97) (0, 0) ++ List.replicate 209 1)).2 = 0 ∧
      (handleReceivedData id (reading .targetConnectRequested)
        (arrivedBytes 0 (List.replicate 255 97) (0, 0) [] 6)).2 = -1 := by
  decide +kernel

end Socks5
