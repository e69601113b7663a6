/-
# The messages of a SOCKS5 negotiation

What is made of the bytes of a message when they come in several reads.  A message
with an address is the difficult one, because the length of the buffer is compared
as a byte: `message` is what the code makes of it, and `ideal` what one would make
of it who reads byte by byte.  The first message of a negotiation is told by the
bytes that it uses.
-/
import Gabble.BytestreamSocks5

namespace Socks5

open Base64

variable {buffer : Bytes}

/-! ## Messages with an address -/

/-- The length of the address of a message that is long enough to tell, and whether
its first bytes are right; `none` if the message is refused at once. -/
abbrev Header := Bytes → Option (UInt8 × Bool)

/-- The header of a CONNECT reply. -/
def replyHeader : Header := fun buffer =>
  if byteAt buffer 0 ≠ 5 || byteAt buffer 1 ≠ 0 || byteAt buffer 2 ≠ 0 then none
  else if byteAt buffer 3 = 3 then some (byteAt buffer 4 + 1, true)
  else if byteAt buffer 3 = 0 then some (0, true)
  else none

/-- The header of a CONNECT command. -/
def commandHeader : Header := fun buffer =>
  some (byteAt buffer 4 + 1,
    byteAt buffer 0 = 5 && byteAt buffer 1 = 1 && byteAt buffer 2 = 0 && byteAt buffer 3 = 3)

/-- What the code makes of a message with an address. -/
def message (header : Header) (buffer : Bytes) : Verdict :=
  if buffer.length < minLength then .wait
  else
    match header buffer with
    | none => .refused
    | some (addrLen, ok) => complete addrLen ok buffer

theorem connectReply_eq (buffer : Bytes) : connectReply buffer = message replyHeader buffer := by
  rw [connectReply, message, replyHeader]
  split
  · rfl
  split
  · rfl
  split
  · rfl
  split
  · rfl
  · rfl

theorem connectCommand_eq (buffer : Bytes) :
    connectCommand buffer = message commandHeader buffer := rfl

/-- Whether the message is refused, once it is complete. -/
def wrong (addrLen : UInt8) (ok : Bool) (buffer : Bytes) : Bool :=
  !ok || byteAt buffer (4 + addrLen.toNat) ≠ 0 || byteAt buffer (5 + addrLen.toNat) ≠ 0

/-- What one makes of a message with an address who reads byte by byte: a message
of more than 255 bytes is never complete. -/
def ideal (header : Header) (buffer : Bytes) : Verdict :=
  if buffer.length < minLength then .wait
  else
    match header buffer with
    | none => .refused
    | some (addrLen, ok) =>
      if 255 < minLength + addrLen.toNat || buffer.length < minLength + addrLen.toNat then .wait
      else if wrong addrLen ok buffer then .refused
      else .accepted (minLength + addrLen.toNat)

/-- A header is told by the first bytes. -/
def Local (header : Header) : Prop :=
  ∀ buffer more, minLength ≤ buffer.length → header (buffer ++ more) = header buffer

theorem byteAt_append {i : ℕ} (h : i < buffer.length) (more : Bytes) :
    byteAt (buffer ++ more) i = byteAt buffer i := by
  rw [byteAt, byteAt, List.getD_eq_getElem?_getD, List.getD_eq_getElem?_getD,
    List.getElem?_append_left h]

theorem local_replyHeader : Local replyHeader := by
  intro buffer more h
  rw [minLength] at h
  simp only [replyHeader, byteAt_append (show 0 < buffer.length by omega),
    byteAt_append (show 1 < buffer.length by omega),
    byteAt_append (show 2 < buffer.length by omega),
    byteAt_append (show 3 < buffer.length by omega),
    byteAt_append (show 4 < buffer.length by omega)]

theorem local_commandHeader : Local commandHeader := by
  intro buffer more h
  rw [minLength] at h
  simp only [commandHeader, byteAt_append (show 0 < buffer.length by omega),
    byteAt_append (show 1 < buffer.length by omega),
    byteAt_append (show 2 < buffer.length by omega),
    byteAt_append (show 3 < buffer.length by omega),
    byteAt_append (show 4 < buffer.length by omega)]

theorem length_cast (buffer : Bytes) :
    (UInt8.ofNat buffer.length).toNat = buffer.length % 256 := UInt8.toNat_ofNat'

/-- **The cast.**  The code waits, or makes of a message what one makes of it who reads
byte by byte. -/
theorem message_eq (header : Header) (buffer : Bytes) :
    message header buffer = .wait ∨ message header buffer = ideal header buffer := by
  rw [message, ideal]
  split
  · exact .inl rfl
  cases header buffer with
  | none => exact .inr rfl
  | some p =>
    obtain ⟨addrLen, ok⟩ := p
    dsimp only
    rw [complete, length_cast]
    by_cases hwait : buffer.length % 256 < minLength + addrLen.toNat
    · exact .inl (if_pos hwait)
    · have hlong : (decide (255 < minLength + addrLen.toNat) ||
          decide (buffer.length < minLength + addrLen.toNat)) = false := by
        simp only [Bool.or_eq_false_iff, decide_eq_false_iff_not]
        omega
      rw [if_neg hwait, hlong, if_neg Bool.false_ne_true]
      exact .inr rfl

/-- The cast does not matter for less than 256 bytes. -/
theorem message_eq_ideal (header : Header) (h : buffer.length < 256) :
    message header buffer = ideal header buffer := by
  rw [message, ideal]
  split
  · rfl
  cases header buffer with
  | none => rfl
  | some p =>
    obtain ⟨addrLen, ok⟩ := p
    dsimp only
    rw [complete, length_cast, Nat.mod_eq_of_lt h]
    by_cases hwait : buffer.length < minLength + addrLen.toNat
    · rw [if_pos hwait, decide_eq_true hwait, Bool.or_true, if_pos rfl]
    · have hlong : ¬ (decide (255 < minLength + addrLen.toNat) ||
          decide (buffer.length < minLength + addrLen.toNat)) = true := by
        simp only [Bool.or_eq_true, decide_eq_true_eq, not_or]
        omega
      rw [if_neg hwait, if_neg hlong]
      rfl

variable {header : Header}

/-- What is decided stays decided when more is read. -/
theorem ideal_append (hlocal : Local header) (h : ideal header buffer ≠ .wait) (more : Bytes) :
    ideal header (buffer ++ more) = ideal header buffer := by
  rw [ideal] at h
  split at h
  case isTrue => exact absurd rfl h
  case isFalse hmin =>
    have hlong : ¬ (buffer ++ more).length < minLength := by
      rw [List.length_append]
      omega
    rw [ideal, ideal, if_neg hlong, if_neg hmin, hlocal buffer more (by omega)]
    cases hheader : header buffer with
    | none => rfl
    | some p =>
      obtain ⟨addrLen, ok⟩ := p
      rw [hheader] at h
      dsimp only at h ⊢
      split at h
      case isTrue => exact absurd rfl h
      case isFalse hcomplete =>
        have hbefore := hcomplete
        simp only [Bool.or_eq_true, decide_eq_true_eq, not_or] at hcomplete
        have hmore : ¬ (decide (255 < minLength + addrLen.toNat) ||
            decide ((buffer ++ more).length < minLength + addrLen.toNat)) = true := by
          simp only [Bool.or_eq_true, decide_eq_true_eq, not_or, List.length_append]
          omega
        have hlast : 5 + addrLen.toNat < buffer.length := by
          rw [minLength] at hcomplete
          omega
        rw [if_neg hmore, if_neg hbefore, wrong, wrong, byteAt_append (by omega),
          byteAt_append hlast]

/-- What is accepted has been received. -/
theorem ideal_accepted {used : ℕ}
    (h : ideal header buffer = .accepted used) : minLength ≤ used ∧ used ≤ buffer.length := by
  rw [ideal] at h
  split at h
  · cases h
  · split at h
    · cases h
    · split at h
      · cases h
      case isFalse hcomplete =>
        simp only [Bool.or_eq_true, decide_eq_true_eq, not_or] at hcomplete
        split at h
        · cases h
        · cases h
          omega

/-- A message is accepted from its first bytes, when their number modulo 256 is not less than
its length. -/
theorem message_take (hlocal : Local header) {used m : ℕ}
    (h : ideal header buffer = .accepted used) (hm : m ≤ buffer.length) (hle : used ≤ m % 256) :
    message header (buffer.take m) = .accepted used := by
  obtain ⟨hmin, -⟩ := ideal_accepted h
  have hlen : (buffer.take m).length = m := by
    rw [List.length_take]
    omega
  have hheader := hlocal (buffer.take m) (buffer.drop m) (by omega)
  rw [List.take_append_drop] at hheader
  rw [ideal, if_neg (by omega), hheader] at h
  rw [message, if_neg (by omega)]
  cases hbuffer : header (buffer.take m) with
  | none =>
    rw [hbuffer] at h
    cases h
  | some p =>
    obtain ⟨addrLen, ok⟩ := p
    rw [hbuffer] at h
    dsimp only at h ⊢
    split at h
    · cases h
    · have hused : used = minLength + addrLen.toNat := by
        split at h
        · cases h
        · cases h
          rfl
      have hlast : 5 + addrLen.toNat < (buffer.take m).length := by
        rw [minLength] at hused
        omega
      rw [wrong, ← List.take_append_drop m buffer, byteAt_append (by omega),
        byteAt_append hlast] at h
      rw [complete, length_cast, hlen, if_neg (by omega)]
      exact h

theorem le_mod_of_accepted {used : ℕ}
    (h : message header buffer = .accepted used) : used ≤ buffer.length % 256 := by
  rw [message] at h
  split at h
  · cases h
  · split at h
    · cases h
    · rw [complete, length_cast] at h
      split at h
      · cases h
      · split at h
        · cases h
        · cases h
          omega

/-- One who waits has waited all along. -/
theorem message_take_of_le (hlocal : Local header) {j n : ℕ}
    (h : ideal header (buffer.take n) = .wait) (hj : j ≤ n) :
    message header (buffer.take j) = .wait := by
  by_contra hne
  rcases message_eq header (buffer.take j) with hwait | hideal
  · exact hne hwait
  have hmore := ideal_append hlocal (hideal ▸ hne) ((buffer.drop j).take (n - j))
  rw [← List.take_add, show j + (n - j) = n by omega, h, ← hideal] at hmore
  exact hne hmore.symm

/-- A message one waits for is decided in time by one who reads byte by byte. -/
theorem exists_message_ne_wait (hlocal : Local header) (h : ideal header buffer ≠ .wait) :
    ∃ n, n ≤ buffer.length ∧ n < 256 ∧ message header (buffer.take n) ≠ .wait := by
  rw [ideal] at h
  split at h
  case isTrue => exact absurd rfl h
  case isFalse hmin =>
    have htake : ∀ n, minLength ≤ n → n ≤ buffer.length →
        header (buffer.take n) = header buffer := by
      intro n hn hle
      have hlen : minLength ≤ (buffer.take n).length := by
        rw [List.length_take]
        omega
      rw [← hlocal (buffer.take n) (buffer.drop n) hlen, List.take_append_drop]
    cases hheader : header buffer with
    | none =>
      refine ⟨minLength, by omega, by decide, ?_⟩
      have hlen : ¬ (buffer.take minLength).length < minLength := by
        rw [List.length_take]
        omega
      rw [message, if_neg hlen, htake minLength le_rfl (by omega), hheader]
      exact Verdict.noConfusion
    | some p =>
      obtain ⟨addrLen, ok⟩ := p
      rw [hheader] at h
      dsimp only at h
      split at h
      case isTrue => exact absurd rfl h
      case isFalse hcomplete =>
        simp only [Bool.or_eq_true, decide_eq_true_eq, not_or] at hcomplete
        refine ⟨minLength + addrLen.toNat, by omega, by omega, ?_⟩
        have hlen : (buffer.take (minLength + addrLen.toNat)).length =
            minLength + addrLen.toNat := by
          rw [List.length_take]
          omega
        rw [message, if_neg (by omega), htake _ (by omega) (by omega), hheader]
        dsimp only
        rw [complete, length_cast, hlen, if_neg (by omega)]
        split
        · exact Verdict.noConfusion
        · exact Verdict.noConfusion

/-- One who waits has waited all the way in steps of 256 bytes. -/
theorem message_take_eq_wait (hlocal : Local header)
    (hwait : message header buffer = .wait) (k : ℕ) :
    message header (buffer.take (buffer.length % 256 + 256 * k)) = .wait := by
  by_cases hlong : buffer.length % 256 + 256 * k < buffer.length
  case neg => rwa [List.take_of_length_le (by omega)]
  have hlen : (buffer.take (buffer.length % 256 + 256 * k)).length =
      buffer.length % 256 + 256 * k := by
    rw [List.length_take]
    omega
  rw [message, hlen]
  split
  · rfl
  case isFalse hmin =>
    have hheader := hlocal (buffer.take (buffer.length % 256 + 256 * k))
      (buffer.drop (buffer.length % 256 + 256 * k)) (by omega)
    rw [List.take_append_drop] at hheader
    rw [message, if_neg (by omega)] at hwait
    rw [← hheader]
    cases hbuffer : header buffer with
    | none =>
      rw [hbuffer] at hwait
      cases hwait
    | some p =>
      obtain ⟨addrLen, ok⟩ := p
      rw [hbuffer] at hwait
      dsimp only at hwait ⊢
      rw [complete, length_cast] at hwait
      rw [complete, length_cast, hlen]
      have hshort : buffer.length % 256 < minLength + addrLen.toNat := by
        by_contra hge
        rw [if_neg hge] at hwait
        split at hwait
        · cases hwait
        · cases hwait
      rw [if_pos (by omega)]

/-! ## The first message -/

/-- A verdict that is told by the bytes that it uses. -/
structure Prompt (front : Bytes → Verdict) : Prop where
  stays : ∀ {buffer : Bytes}, front buffer ≠ .wait → ∀ more, front (buffer ++ more) = front buffer
  enough : ∀ {buffer more : Bytes} {used : ℕ}, front (buffer ++ more) = .accepted used →
    used ≤ buffer.length → front buffer ≠ .wait
  used : ∀ {buffer : Bytes} {used : ℕ}, front buffer = .accepted used →
    2 ≤ used ∧ used ≤ buffer.length

/-- An accepted message is accepted as soon as it is there. -/
theorem Prompt.front_take {front : Bytes → Verdict} (h : Prompt front) {used n : ℕ}
    (hfront : front buffer = .accepted used) (hn : used ≤ n) :
    front (buffer.take n) = .accepted used := by
  have hle := (h.used hfront).2
  rw [← List.take_append_drop n buffer] at hfront
  have hdone := h.enough hfront (by rw [List.length_take]; omega)
  rw [← h.stays hdone (buffer.drop n), hfront]

theorem prompt_authReply : Prompt authReply where
  stays := by
    intro buffer h more
    rw [authReply] at h
    split at h
    case isTrue => exact absurd rfl h
    case isFalse hlen =>
      have hmore : ¬ (buffer ++ more).length < 2 := by
        rw [List.length_append]
        omega
      rw [authReply, authReply, if_neg hmore, if_neg hlen, byteAt_append (by omega),
        byteAt_append (by omega)]
  enough := by
    intro buffer more used h hused
    rw [authReply] at h
    split at h
    · cases h
    · split at h
      · cases h
      · cases h
        rw [authReply, if_neg (by omega)]
        split
        · exact Verdict.noConfusion
        · exact Verdict.noConfusion
  used := by
    intro buffer used h
    rw [authReply] at h
    split at h
    · cases h
    · split at h
      · cases h
      · cases h
        omega

theorem authRequest_accepted {used : ℕ} (h : authRequest buffer = .accepted used) :
    ¬ buffer.length < 2 ∧ byteAt buffer 0 = 5 ∧ used = authLength (byteAt buffer 1) ∧
      2 ≤ used ∧ used ≤ buffer.length := by
  rw [authRequest] at h
  split at h
  · cases h
  case isFalse hlen =>
    split at h
    · cases h
    case isFalse hversion =>
      dsimp only at h
      split at h
      · cases h
      case isFalse hall =>
        split at h
        case isTrue hany =>
          cases h
          refine ⟨hlen, not_not.mp hversion, rfl, ?_, by omega⟩
          -- a method is found behind the second byte
          by_contra hshort
          rw [List.drop_eq_nil_of_le (by rw [List.length_take]; omega)] at hany
          cases hany
        · cases h

theorem prompt_authRequest : Prompt authRequest where
  stays := by
    intro buffer h more
    rw [authRequest] at h
    split at h
    case isTrue => exact absurd rfl h
    case isFalse hlen =>
      have hmore : ¬ (buffer ++ more).length < 2 := by
        rw [List.length_append]
        omega
      rw [authRequest, authRequest, if_neg hmore, if_neg hlen, byteAt_append (by omega),
        byteAt_append (by omega)]
      split at h
      case isTrue hversion => rw [if_pos hversion, if_pos hversion]
      case isFalse hversion =>
        dsimp only at h ⊢
        split at h
        case isTrue => exact absurd rfl h
        case isFalse hall =>
          have hall' : ¬ (buffer ++ more).length < authLength (byteAt buffer 1) := by
            rw [List.length_append]
            omega
          rw [if_neg hversion, if_neg hversion, if_neg hall', if_neg hall,
            List.take_append_of_le_length (by omega)]
  enough := by
    intro buffer more used h hused
    obtain ⟨-, hversion, hlength, hmin, -⟩ := authRequest_accepted h
    rw [byteAt_append (by omega)] at hversion hlength
    rw [authRequest, if_neg (by omega), if_neg (not_not.mpr hversion)]
    dsimp only
    rw [if_neg (by omega)]
    split
    · exact Verdict.noConfusion
    · exact Verdict.noConfusion
  used := by
    intro buffer used h
    obtain ⟨-, -, -, hmin, hle⟩ := authRequest_accepted h
    exact ⟨hmin, hle⟩

end Socks5
