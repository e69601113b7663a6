/-
# What the streamhosts have sent

The negotiation with a streamhost has succeeded once the bytes that it has sent are a
reply that asks for no authorization, and one that accepts the CONNECT command.  A
transcript keeps the bytes of every streamhost that was tried, and `Justified` says that
the target takes the same one for the successful one.  It overlooks a reply when the
length of its buffer, counted modulo 256, is smaller than that of the reply.
-/
import Gabble.BytestreamSocks5Negotiation

namespace Socks5

open Base64 Transition

/-! ## Replies -/

/-- The bytes begin with a reply that accepts the CONNECT command: the version, success, a
reserved byte, no address or a domain with its length before it, and the port 0. -/
def Accepts (bytes : Bytes) : Prop :=
  bytes.take 6 = [5, 0, 0, 0, 0, 0] ∨
    bytes.take 4 = [5, 0, 0, 3] ∧ (bytes.drop (5 + (byteAt bytes 4).toNat)).take 2 = [0, 0]

instance (bytes : Bytes) : Decidable (Accepts bytes) := inferInstanceAs (Decidable (_ ∨ _ ∧ _))

/-- The length of this reply. -/
def replyLength (bytes : Bytes) : ℕ :=
  if byteAt bytes 3 = 0 then 6 else 7 + (byteAt bytes 4).toNat

/-- The negotiation with a streamhost that has sent these bytes has succeeded: it asks for
no authorization, and accepts the CONNECT command. -/
def Succeeds (bytes : Bytes) : Prop := bytes.take 2 = [5, 0] ∧ Accepts (bytes.drop 2)

instance (bytes : Bytes) : Decidable (Succeeds bytes) := inferInstanceAs (Decidable (_ ∧ _))

section

variable {bytes buffer : Bytes}

theorem take_eq_append {n : ℕ} {front : Bytes} (h : bytes.take n = front)
    (hn : front.length = n) (more : Bytes) : (bytes ++ more).take n = front := by
  have hlength := congrArg List.length h
  rw [List.length_take, hn] at hlength
  rw [List.take_append_of_le_length (by omega), h]

theorem le_length_of_take {n : ℕ} {front : Bytes} (h : bytes.take n = front)
    (hn : front.length = n) : n ≤ bytes.length := by
  have hlength := congrArg List.length h
  rw [List.length_take, hn] at hlength
  omega

/-- A reply is not taken back by what comes after it. -/
theorem Accepts.append (h : Accepts bytes) (more : Bytes) : Accepts (bytes ++ more) := by
  rcases h with h | ⟨hfront, hport⟩
  · exact .inl (take_eq_append h rfl more)
  · have hlong := le_length_of_take hport rfl
    rw [List.length_drop] at hlong
    refine .inr ⟨take_eq_append hfront rfl more, ?_⟩
    rw [byteAt_append (by omega), List.drop_append_of_le_length (by omega)]
    exact take_eq_append hport rfl more

theorem Succeeds.append (h : Succeeds bytes) (more : Bytes) : Succeeds (bytes ++ more) := by
  refine ⟨take_eq_append h.1 rfl more, ?_⟩
  rw [List.drop_append_of_le_length (le_length_of_take h.1 rfl)]
  exact h.2.append more

theorem byteAt_drop (n i : ℕ) : byteAt (bytes.drop n) i = byteAt bytes (n + i) := by
  rw [byteAt, byteAt, List.getD_eq_getElem?_getD, List.getD_eq_getElem?_getD,
    List.getElem?_drop]

theorem take_two_iff {x y : UInt8} :
    bytes.take 2 = [x, y] ↔ 2 ≤ bytes.length ∧ byteAt bytes 0 = x ∧ byteAt bytes 1 = y := by
  rcases bytes with _ | ⟨a, _ | ⟨b, rest⟩⟩
  · simp
  · simp
  · simp [byteAt]

theorem authReply_accepted_iff : authReply buffer = .accepted 2 ↔ buffer.take 2 = [5, 0] := by
  rw [authReply, take_two_iff]
  by_cases hlength : buffer.length < 2
  · rw [if_pos hlength]
    exact iff_of_false Verdict.noConfusion fun h => absurd h.1 (by omega)
  · rw [if_neg hlength]
    by_cases hversion : byteAt buffer 0 = 5
    · by_cases hmethod : byteAt buffer 1 = 0
      · simp [hversion, hmethod, Nat.not_lt.mp hlength]
      · simp [hmethod]
    · simp [hversion]

theorem take_two_drop_iff (n : ℕ) {x y : UInt8} :
    (bytes.drop n).take 2 = [x, y] ↔
      n + 1 < bytes.length ∧ byteAt bytes n = x ∧ byteAt bytes (n + 1) = y := by
  rw [take_two_iff, List.length_drop, byteAt_drop, byteAt_drop, Nat.add_zero]
  exact and_congr_left fun _ => by omega

/-- Whether a message is accepted that is complete. -/
theorem complete_accepted_iff {addrLen : UInt8} :
    (∃ used, complete addrLen true buffer = .accepted used) ↔
      6 + addrLen.toNat ≤ buffer.length % 256 ∧
        (buffer.drop (4 + addrLen.toNat)).take 2 = [0, 0] := by
  have hmod := Nat.mod_le buffer.length 256
  rw [complete, length_cast, minLength, take_two_drop_iff]
  by_cases hwait : buffer.length % 256 < 6 + addrLen.toNat
  · rw [if_pos hwait]
    exact iff_of_false (fun h => Exists.elim h fun _ h => Verdict.noConfusion h) (by omega)
  · rw [if_neg hwait, show 4 + addrLen.toNat + 1 = 5 + addrLen.toNat by omega]
    by_cases hfirst : byteAt buffer (4 + addrLen.toNat) = 0
    · by_cases hsecond : byteAt buffer (5 + addrLen.toNat) = 0
      · simp only [hfirst, hsecond, Bool.not_true, ne_eq, not_true_eq_false, decide_false,
          Bool.or_self, Bool.false_eq_true, if_false]
        exact iff_of_true ⟨_, rfl⟩ ⟨by omega, by omega, trivial, trivial⟩
      · simp [hsecond]
    · simp [hfirst]

/-- A reply with a domain, whose length is added up as a byte. -/
theorem domain_accepted_iff :
    (∃ used, complete (byteAt buffer 4 + 1) true buffer = .accepted used) ↔
      (buffer.drop (5 + (byteAt buffer 4).toNat)).take 2 = [0, 0] ∧
        7 + (byteAt buffer 4).toNat ≤ buffer.length % 256 := by
  generalize hn : byteAt buffer 4 = n
  rw [complete_accepted_iff]
  have hbyte : n.toNat < 256 := n.toNat_lt
  have hadd : (n + 1).toNat = (n.toNat + 1) % 256 := UInt8.toNat_add n 1
  by_cases hlongest : n.toNat = 255
  · -- the length wraps, and the byte with it is taken for the port
    rw [hlongest] at hadd
    rw [hadd, take_two_drop_iff, hn, hlongest]
    refine iff_of_false ?_ fun h => ?_
    · rintro ⟨-, -, hzero, -⟩
      rw [hzero] at hlongest
      cases hlongest
    · have := Nat.mod_lt buffer.length (show 0 < 256 by omega)
      omega
  · rw [Nat.mod_eq_of_lt (by omega)] at hadd
    rw [hadd, show 4 + (n.toNat + 1) = 5 + n.toNat by omega,
      show 6 + (n.toNat + 1) = 7 + n.toNat by omega]
    exact and_comm

/-- The parser accepts a reply that is there, unless the length of the buffer looks too
small for it. -/
theorem connectReply_accepted_iff :
    (∃ used, connectReply buffer = .accepted used) ↔
      Accepts buffer ∧ replyLength buffer ≤ buffer.length % 256 := by
  have hwaits : ¬ ∃ used, Verdict.wait = .accepted used := fun h =>
    Exists.elim h fun _ h => Verdict.noConfusion h
  have hrefused : ¬ ∃ used, Verdict.refused = .accepted used := fun h =>
    Exists.elim h fun _ h => Verdict.noConfusion h
  by_cases hlength : buffer.length < 6
  · rw [connectReply, minLength, if_pos hlength]
    refine iff_of_false hwaits ?_
    rintro ⟨h | ⟨-, hport⟩, -⟩
    · have := le_length_of_take h rfl
      omega
    · have := le_length_of_take hport rfl
      rw [List.length_drop] at this
      omega
  rw [connectReply, minLength, if_neg hlength, Accepts, replyLength]
  have htake : ∀ {w x y z}, buffer.take 4 = [w, x, y, z] ↔ byteAt buffer 0 = w ∧
      byteAt buffer 1 = x ∧ byteAt buffer 2 = y ∧ byteAt buffer 3 = z := by
    rcases buffer with _ | ⟨a, _ | ⟨b, _ | ⟨c, _ | ⟨d, rest⟩⟩⟩⟩ <;> simp [byteAt] at hlength ⊢
  have hsix : buffer.take 6 = [5, 0, 0, 0, 0, 0] ↔
      buffer.take 4 = [5, 0, 0, 0] ∧ (buffer.drop 4).take 2 = [0, 0] := by
    rcases buffer with _ | ⟨a, _ | ⟨b, _ | ⟨c, _ | ⟨d, _ | ⟨e, _ | ⟨f, rest⟩⟩⟩⟩⟩⟩ <;>
      simp [and_assoc] at hlength ⊢
  rw [hsix, htake, htake]
  by_cases hfront : byteAt buffer 0 = 5 ∧ byteAt buffer 1 = 0 ∧ byteAt buffer 2 = 0
  · obtain ⟨hversion, hreply, hreserved⟩ := hfront
    rw [if_neg (by simp [hversion, hreply, hreserved])]
    by_cases hdomain : byteAt buffer 3 = 3
    · rw [if_pos hdomain, domain_accepted_iff, hdomain, if_neg (by decide)]
      simp [hversion, hreply, hreserved]
    · rw [if_neg hdomain]
      by_cases hnone : byteAt buffer 3 = 0
      · rw [if_pos hnone, if_pos hnone, complete_accepted_iff, hnone]
        simp [hversion, hreply, hreserved, and_comm]
      · rw [if_neg hnone]
        exact iff_of_false hrefused fun h => h.1.elim (fun h => hnone h.1.2.2.2)
          fun h => hdomain h.1.2.2.2
  · rw [if_pos (by simp only [ne_eq, Bool.or_eq_true, decide_eq_true_eq]; tauto)]
    exact iff_of_false hrefused fun h => h.1.elim
      (fun h => hfront ⟨h.1.1, h.1.2.1, h.1.2.2.1⟩) fun h => hfront ⟨h.1.1, h.1.2.1, h.1.2.2.1⟩

end

/-! ## Transcripts -/

def Event.bytes : Event → Bytes
  | .received data => data
  | _ => []

def Mark.isUsed : Mark → Bool
  | .used _ _ => true
  | _ => false

def Mark.isFailed : Mark → Bool
  | .failed _ => true
  | _ => false

/-- How many attempts to connect to a streamhost there were. -/
def tries (s : State) : ℕ := (marks s).countP Mark.isTried

/-- A target, with the bytes that each streamhost has sent: those that it tried before, and
the one that it tried last. -/
structure Transcript where
  state : State
  earlier : List Bytes
  current : Bytes
deriving DecidableEq

/-- Nothing has been received yet. -/
def Transcript.new (s : State) : Transcript := ⟨s, [], []⟩

/-- The transcript after an event, with the state after it: with an attempt to connect the
bytes of another streamhost begin. -/
def Transcript.next (t : Transcript) (e : Event) (s : State) : Transcript :=
  if tries s = tries t.state then ⟨s, t.earlier, t.current ++ e.bytes⟩
  else ⟨s, t.earlier ++ [t.current ++ e.bytes], []⟩

def Transcript.step (sha1Hex : Bytes → Bytes) (t : Transcript) (e : Event) : Option Transcript :=
  (Socks5.step sha1Hex t.state e).map (t.next e)

/-- The negotiation has succeeded with the streamhost that the answer names, which is the
one that was tried last, and with no other; without such an answer it has with none. -/
structure Justified (t : Transcript) : Prop where
  earlier : ∀ bytes ∈ t.earlier, ¬ Succeeds bytes
  current : Succeeds t.current ↔ ∃ m ∈ marks t.state, m.isUsed = true

/-- A reply is overlooked: the number of bytes in the buffer, modulo 256, is smaller than
its length, or the CONNECT command that it answers breaks the connection. -/
def Overlooks (s : State) (buffer : Bytes) : Prop :=
  s.socks5State = .targetConnectRequested ∧ Accepts buffer ∧
      buffer.length % 256 < replyLength buffer ∨
    s.socks5State = .targetAuthRequestSent ∧ Succeeds buffer ∧
      (breaks s = true ∨ (buffer.drop 2).length % 256 < replyLength (buffer.drop 2))

instance (s : State) (buffer : Bytes) : Decidable (Overlooks s buffer) :=
  inferInstanceAs (Decidable (_ ∧ _ ∧ _ ∨ _ ∧ _ ∧ (_ ∨ _)))

/-- The target takes the reply. -/
def Takes (s : State) (buffer : Bytes) : Prop :=
  s.socks5State = .targetConnectRequested ∧ (∃ used, connectReply buffer = .accepted used) ∨
    s.socks5State = .targetAuthRequestSent ∧ authReply buffer = .accepted 2 ∧
      breaks s = false ∧ ∃ used, connectReply (buffer.drop 2) = .accepted used

/-! ## What a transcript tells about the buffer -/

/-- Justified, with what has been read of the streamhost that is tried still in the
buffer, but for its first reply. -/
structure Hears (t : Transcript) : Prop extends Justified t where
  gone : (∃ m ∈ marks t.state, m.isFailed = true) →
    t.state.transport = none ∧ t.state.readBuffer = none
  asking : t.state.socks5State.isTarget = true →
    t.state.socks5State ≠ .targetConnectRequested → t.state.readBuffer = some t.current
  requesting : t.state.socks5State = .targetConnectRequested →
    t.current.take 2 = [5, 0] ∧ t.state.readBuffer = some (t.current.drop 2)

section

variable {sha1Hex : Bytes → Bytes} {iq : ℕ} {hosts done rest : List Streamhost} {h : Streamhost}
  {s s' : State} {e : Event} {t t' : Transcript} {buffer data : Bytes}

/-- Streamhosts are tried. -/
theorem isTried_of_mem_map (hs : List Streamhost) :
    ∀ m ∈ hs.map Streamhost.mark, m.isTried = true := by
  intro m hm
  obtain ⟨h, -, rfl⟩ := List.mem_map.mp hm
  rfl

theorem Negotiates.isTried (hs : Negotiates iq hosts s) : ∀ m ∈ marks s, m.isTried = true := by
  obtain ⟨done, h, rest, -, htries⟩ := hs.tries
  rw [htries.marks]
  exact isTried_of_mem_map _

/-- What was tried is no answer. -/
theorem Mark.not_answer {m : Mark} (hm : m.isTried = true) :
    ¬ m.isUsed = true ∧ ¬ m.isFailed = true := by
  cases m with
  | tried host port => exact ⟨Bool.false_ne_true, Bool.false_ne_true⟩
  | used iq jid => cases hm
  | failed iq => cases hm

theorem exists_mem_append_singleton {ms : List Mark} {m : Mark} {p : Mark → Prop}
    (hms : ∀ m ∈ ms, ¬ p m) : (∃ m' ∈ ms ++ [m], p m') ↔ p m := by
  simp only [List.mem_append, List.mem_singleton]
  constructor
  · rintro ⟨m', hmem | rfl, hp⟩
    · exact absurd hp (hms m' hmem)
    · exact hp
  · exact fun hp => ⟨m, .inr rfl, hp⟩

theorem tries_append {m : Mark} (hmarks : marks s' = marks s ++ [m]) :
    tries s' = tries s + if m.isTried then 1 else 0 := by
  rw [tries, hmarks, List.countP_append, List.countP_singleton]
  rfl

theorem Transcript.next_same (htries : tries s' = tries t.state) :
    t.next e s' = ⟨s', t.earlier, t.current ++ e.bytes⟩ := if_pos htries

/-- The current streamhost has failed: the next one is tried, or there is none. -/
inductive GivenUp (s s' : State) : Prop where
  | next {host : Bytes} {port : ℕ} (hmarks : marks s' = marks s ++ [.tried host port])
      (hstate : s'.socks5State ≠ .targetConnectRequested) (hbuffer : s'.readBuffer = some []) :
      GivenUp s s'
  | last {iq : ℕ} (hmarks : marks s' = marks s ++ [.failed iq])
      (htarget : s'.socks5State.isTarget = false)
      (hgone : s'.transport = none ∧ s'.readBuffer = none) : GivenUp s s'

theorem GivenUp.of_marks {s₁ : State} (h : GivenUp s₁ s') (hmarks : marks s₁ = marks s) :
    GivenUp s s' := by
  cases h with
  | next hshown hstate hbuffer => exact .next (hshown.trans (by rw [hmarks])) hstate hbuffer
  | last hshown htarget hgone => exact .last (hshown.trans (by rw [hmarks])) htarget hgone

/-- The state is what the code takes it for after a lost authorization request. -/
theorem GivenUp.missed (h : GivenUp s s') {state : Socks5State}
    (hstate : state ≠ .targetConnectRequested)
    (htarget : s'.socks5State.isTarget = false → state.isTarget = false) :
    GivenUp s { s' with socks5State := state } := by
  cases h with
  | next hshown _ hbuffer => exact .next hshown hstate hbuffer
  | last hshown hlast hgone => exact .last hshown (htarget hlast) hgone

/-- `socks5_error` in a state of the target. -/
theorem Tries.givenUp_socks5Error (hs : Tries iq done h rest s)
    (htarget : s.socks5State.isTarget = true) : GivenUp s (socks5Error s) := by
  rw [socks5Error_target htarget hs.acknowledge, hs.streamhosts, List.tail_cons]
  cases rest with
  | nil => exact .last (marks_exhausted iq s) rfl ⟨rfl, rfl⟩
  | cons h' rest =>
    exact .next (marks_retried h' rest s) (show Socks5State.targetTryingConnect ≠ _ by decide) rfl

/-- Nothing is shown, and the same streamhost is tried. -/
theorem Hears.kept (hh : Hears t) (hs : Negotiates iq hosts t.state)
    (hmarks : marks s' = marks t.state) :
    (Justified (t.next e s') ↔ ¬ Succeeds (t.current ++ e.bytes)) ∧
      (¬ Succeeds (t.current ++ e.bytes) →
        (s'.socks5State ≠ .targetConnectRequested →
          s'.readBuffer = some (t.current ++ e.bytes)) →
        (s'.socks5State = .targetConnectRequested → (t.current ++ e.bytes).take 2 = [5, 0] ∧
          s'.readBuffer = some ((t.current ++ e.bytes).drop 2)) → Hears (t.next e s')) := by
  have htries : tries s' = tries t.state := by rw [tries, hmarks, tries]
  have hnone : ¬ ∃ m ∈ marks s', m.isUsed = true := by
    rintro ⟨m, hm, hused⟩
    exact (Mark.not_answer (hs.isTried m (hmarks ▸ hm))).1 hused
  rw [Transcript.next_same htries]
  have hjustified : Justified ⟨s', t.earlier, t.current ++ e.bytes⟩ ↔
      ¬ Succeeds (t.current ++ e.bytes) :=
    ⟨fun h hsucceeds => hnone (h.current.mp hsucceeds),
      fun h => ⟨hh.earlier, iff_of_false h hnone⟩⟩
  refine ⟨hjustified, fun hno hasking hrequesting => ⟨hjustified.mpr hno, ?_, ?_, hrequesting⟩⟩
  · rintro ⟨m, hm, hfailed⟩
    exact absurd hfailed (Mark.not_answer (hs.isTried m (hmarks ▸ hm))).2
  · exact fun _ hstate => hasking hstate

/-- The current streamhost is given up: rightly so, if it has not succeeded. -/
theorem Hears.givenUp (hh : Hears t) (hs : Negotiates iq hosts t.state)
    (hg : GivenUp t.state s') :
    (Justified (t.next e s') ↔ ¬ Succeeds (t.current ++ e.bytes)) ∧
      (¬ Succeeds (t.current ++ e.bytes) → Hears (t.next e s')) := by
  have hused : ∀ m ∈ marks t.state, ¬ m.isUsed = true := fun m hm =>
    (Mark.not_answer (hs.isTried m hm)).1
  have hfailed : ∀ m ∈ marks t.state, ¬ m.isFailed = true := fun m hm =>
    (Mark.not_answer (hs.isTried m hm)).2
  cases hg with
  | next hmarks hstate hbuffer =>
    have hmore : tries s' ≠ tries t.state := by
      rw [tries_append hmarks]
      exact Nat.succ_ne_self _
    rw [Transcript.next, if_neg hmore]
    have hjustified : Justified ⟨s', t.earlier ++ [t.current ++ e.bytes], []⟩ ↔
        ¬ Succeeds (t.current ++ e.bytes) := by
      refine ⟨fun h => h.earlier _ (List.mem_append_right _ (List.mem_singleton.mpr rfl)),
        fun h => ⟨List.forall_mem_append.mpr ⟨hh.earlier, List.forall_mem_singleton.mpr h⟩,
          iff_of_false (show ¬ Succeeds [] by decide) ?_⟩⟩
      rw [hmarks, exists_mem_append_singleton hused]
      exact Bool.false_ne_true
    refine ⟨hjustified, fun hno => ⟨hjustified.mpr hno, ?_, fun _ _ => hbuffer,
      fun hrequested => absurd hrequested hstate⟩⟩
    rw [hmarks, exists_mem_append_singleton hfailed]
    exact fun h => absurd h Bool.false_ne_true
  | last hmarks htarget hgone =>
    rw [Transcript.next_same (tries_append hmarks)]
    have hnone : ¬ ∃ m ∈ marks s', m.isUsed = true := by
      rw [hmarks, exists_mem_append_singleton hused]
      exact Bool.false_ne_true
    have hjustified : Justified ⟨s', t.earlier, t.current ++ e.bytes⟩ ↔
        ¬ Succeeds (t.current ++ e.bytes) :=
      ⟨fun h hsucceeds => hnone (h.current.mp hsucceeds),
        fun h => ⟨hh.earlier, iff_of_false h hnone⟩⟩
    refine ⟨hjustified, fun hno => ⟨hjustified.mpr hno, fun _ => hgone, fun hstill => ?_,
      fun hrequested => ?_⟩⟩
    · rw [show s'.socks5State.isTarget = true from hstill] at htarget
      cases htarget
    · rw [show s'.socks5State = _ from hrequested] at htarget
      cases htarget

/-- The current streamhost is used: rightly so, if it has succeeded. -/
theorem Hears.used (hh : Hears t) (hs : Negotiates iq hosts t.state) {jid : Bytes}
    (hmarks : marks s' = marks t.state ++ [.used (some iq) jid])
    (htarget : s'.socks5State.isTarget = false) (hsucceeds : Succeeds (t.current ++ e.bytes)) :
    Hears (t.next e s') := by
  have hfailed : ∀ m ∈ marks t.state, ¬ m.isFailed = true := fun m hm =>
    (Mark.not_answer (hs.isTried m hm)).2
  rw [Transcript.next_same (tries_append hmarks)]
  refine ⟨⟨hh.earlier, iff_of_true hsucceeds ⟨.used (some iq) jid, ?_, rfl⟩⟩, ?_, fun hstill => ?_,
    fun hrequested => ?_⟩
  · exact hmarks ▸ List.mem_append_right _ (List.mem_singleton.mpr rfl)
  · rw [hmarks, exists_mem_append_singleton hfailed]
    exact fun h => absurd h Bool.false_ne_true
  · rw [show s'.socks5State.isTarget = true from hstill] at htarget
    cases htarget
  · rw [show s'.socks5State = _ from hrequested] at htarget
    cases htarget

/-! ## The bytes of a streamhost -/

/-- What comes of the bytes that the streamhost has sent, up to the ones in the buffer. -/
inductive Received (iq : ℕ) (s : State) (buffer : Bytes) (s' : State) : Prop where
  | used {jid : Bytes} (htakes : Takes s buffer)
      (hmarks : marks s' = marks s ++ [.used (some iq) jid])
      (htarget : s'.socks5State.isTarget = false) : Received iq s buffer s'
  | givenUp (htakes : ¬ Takes s buffer) (hg : GivenUp s s') : Received iq s buffer s'
  | waits (htakes : ¬ Takes s buffer) (hmarks : marks s' = marks s)
      (hstate : s'.socks5State = s.socks5State) (hbuffer : s'.readBuffer = some buffer) :
      Received iq s buffer s'
  | asks (htakes : ¬ Takes s buffer) (hmarks : marks s' = marks s)
      (hstate : s.socks5State = .targetAuthRequestSent)
      (hstate' : s'.socks5State = .targetConnectRequested) (hfront : buffer.take 2 = [5, 0])
      (hbuffer : s'.readBuffer = some (buffer.drop 2)) : Received iq s buffer s'

/-- The end of a round after the negotiation shows nothing. -/
theorem Over.silent_next {r : State × ℤ} (hs : Over iq hosts r.1) (fuel : ℕ) :
    Silent r.1 (next sha1Hex fuel r) := by
  rw [Socks5.next]
  split
  · exact Silent.refl _
  split
  · exact Silent.refl _
  case h_2 buffer hbuffer =>
    have hne : r.1.readBuffer ≠ none := by simp [hbuffer]
    dsimp only
    generalize (if r.2 < 0 then [] else buffer.drop r.2.toNat) = rest
    split
    · refine (silent_readBuffer hne rest).trans (silent_readLoop fuel ?_)
      exact hs.ended.imp_right fun hended => hended.resolve_right fun hgone => hne hgone.2
    · exact silent_readBuffer hne rest

/-- The end of a round in which the streamhost was refused. -/
theorem GivenUp.round {s₁ : State} (hg : GivenUp s s₁) (fuel : ℕ) :
    GivenUp s (Socks5.next sha1Hex fuel (s₁, -1)) := by
  rw [Socks5.next]
  dsimp only
  split
  · exact hg
  split
  · exact hg
  case h_2 buffer hbuffer =>
    change GivenUp s { s₁ with readBuffer := some [] }
    cases hg with
    | next hmarks hstate _ => exact .next hmarks hstate rfl
    | last _ _ hgone =>
      rw [hgone.2] at hbuffer
      cases hbuffer

theorem Tries.marks_targetGotConnectReply (hs : Tries iq done h rest s) :
    Socks5.marks (targetGotConnectReply s) = Socks5.marks s ++ [.used (some iq) h.jid] := by
  have hopened := silent_setState (show Ibb.BytestreamState.opened ≠ .initiating by decide)
    { s with socks5State := .connected }
  have hcalm := calm_setState .opened { s with socks5State := .connected }
  rw [targetGotConnectReply]
  dsimp only
  rw [hcalm.streamhosts.trans hs.streamhosts]
  dsimp only
  have hused : Socks5.marks (emit (.streamhostUsed (some iq) h.jid)
      (setState .opened { s with socks5State := .connected })) =
        Socks5.marks s ++ [.used (some iq) h.jid] :=
    (marks_append rfl).trans (congrArg (· ++ [Mark.used (some iq) h.jid]) hopened.marks)
  rw [hcalm.acknowledge.trans hs.acknowledge]
  split
  · exact (silent_blockReceiving true _).marks.trans hused
  · exact hused

/-- Bytes that are no message yet stay in the buffer. -/
theorem next_waits (fuel : ℕ) (hrunning : s.aborted = false) (hbuffer : s.readBuffer = some buffer) :
    Socks5.next sha1Hex fuel (s, 0) = s := by
  rw [Socks5.next, if_neg (by rw [hrunning]; exact Bool.false_ne_true), hbuffer]
  change ({ s with readBuffer := some buffer } : State) = s
  rw [← hbuffer]

/-- The reply to the CONNECT command, as far as it is in the buffer. -/
theorem Negotiates.readLoop_reply (hs : Negotiates iq hosts s)
    (hstate : s.socks5State = .targetConnectRequested) (hbuffer : s.readBuffer = some buffer)
    (fuel : ℕ) : Received iq s buffer (readLoop sha1Hex (fuel + 1) s) := by
  obtain ⟨done, h, rest, hsplit, htries⟩ := hs.tries
  have htakes : Takes s buffer ↔ ∃ used, connectReply buffer = .accepted used := by
    rw [Takes, hstate]
    simp
  rw [readLoop_next fuel hbuffer, handleReceivedData, hstate]
  dsimp only
  cases hverdict : connectReply buffer with
  | wait =>
    have hround : Socks5.next sha1Hex fuel (s, 0) = s := next_waits fuel htries.running hbuffer
    rw [follow, hround]
    refine .waits ?_ rfl rfl hbuffer
    rw [htakes, hverdict]
    exact fun h => Exists.elim h fun _ h => Verdict.noConfusion h
  | refused =>
    refine .givenUp ?_ ((htries.givenUp_socks5Error hs.isTarget).round fuel)
    rw [htakes, hverdict]
    exact fun h => Exists.elim h fun _ h => Verdict.noConfusion h
  | accepted used =>
    have hstopped : Tries iq done h rest (stopTimer s) := htries.set _ _ _ _
    have hover : Over iq hosts (targetGotConnectReply (stopTimer s)) :=
      hstopped.over_targetGotConnectReply hsplit
    have hsilent : Silent (targetGotConnectReply (stopTimer s))
        (Socks5.next sha1Hex fuel (targetGotConnectReply (stopTimer s), (used : ℤ))) :=
      Over.silent_next (r := (targetGotConnectReply (stopTimer s), (used : ℤ))) hover fuel
    refine .used (htakes.mpr ⟨used, hverdict⟩)
      (hsilent.marks.trans hstopped.marks_targetGotConnectReply) (hover.silent hsilent).target

/-- The reply to the authorization request, as far as it is in the buffer, and what comes
after it. -/
theorem Negotiates.readLoop_authReply (hs : Negotiates iq hosts s)
    (hstate : s.socks5State = .targetAuthRequestSent)
    (hconnected : ∀ t, s.transport = some t → t.phase = .connected)
    (hbuffer : s.readBuffer = some buffer) (hno : ¬ Retries s buffer) {fuel : ℕ}
    (hfuel : buffer.length ≤ fuel + 1) :
    Received iq s buffer (readLoop sha1Hex (fuel + 1) s) := by
  obtain ⟨done, h, rest, hsplit, htries⟩ := hs.tries
  obtain ⟨t, ht, hstage⟩ := hs.stage
  have hphase := hconnected t ht
  have htimer : s.timer = false := by
    rw [hstate, hphase] at hstage
    generalize s.timer = timer, asked s = asked at hstage
    cases hstage
    rfl
  have htakes : Takes s buffer ↔ authReply buffer = .accepted 2 ∧ breaks s = false ∧
      ∃ used, connectReply (buffer.drop 2) = .accepted used := by
    rw [Takes, hstate]
    simp
  rw [readLoop_next fuel hbuffer, handleReceivedData, hstate]
  dsimp only
  cases hverdict : authReply buffer with
  | wait =>
    have hround : Socks5.next sha1Hex fuel (s, 0) = s := next_waits fuel htries.running hbuffer
    rw [follow, hround]
    refine .waits ?_ rfl rfl hbuffer
    rw [htakes, hverdict]
    exact fun h => Verdict.noConfusion h.1
  | refused =>
    refine .givenUp ?_ ((htries.givenUp_socks5Error hs.isTarget).round fuel)
    rw [htakes, hverdict]
    exact fun h => Verdict.noConfusion h.1
  | accepted used =>
    obtain rfl := authReply_accepted hverdict
    have hrest : breaks s = true → rest = [] := fun hbreaks => by
      by_contra hne
      refine hno ⟨hstate, hverdict, hbreaks, ?_⟩
      rw [htries.streamhosts]
      exact hne
    obtain ⟨data, ⟨hkept, heq⟩ | ⟨hbreaks, heq⟩⟩ : ∃ data, _ :=
      htries.sendConnectCommand_eq hstate htimer ht hphase hrest
    · -- the command is out: bytes behind the first reply belong to the second one
      have hnegotiates : Negotiates iq hosts (requested data t s) :=
        htries.negotiates_requested hsplit data hphase hs.buffer
      set c : State := { requested data t s with readBuffer := some (buffer.drop 2) } with hc
      have hmarks : marks c = marks s := (htries.wrote data t).marks.trans htries.marks.symm
      have hround : Socks5.next sha1Hex fuel (requested data t s, (2 : ℕ)) =
          if !(buffer.drop 2).isEmpty then readLoop sha1Hex fuel c else c := by
        rw [Socks5.next, if_neg (show ¬ (requested data t s).aborted = true by
          rw [show (requested data t s).aborted = s.aborted from rfl, htries.running]
          exact Bool.false_ne_true), show (requested data t s).readBuffer = _ from hbuffer]
        rfl
      have hfront : buffer.take 2 = [5, 0] := authReply_accepted_iff.mp hverdict
      rw [follow, heq, hround]
      split
      case isTrue hmore =>
        have hlong : 2 < buffer.length := by
          by_contra hshort
          rw [List.drop_eq_nil_of_le (by omega)] at hmore
          cases hmore
        obtain ⟨fuel, rfl⟩ : ∃ n, fuel = n + 1 := ⟨fuel - 1, by omega⟩
        have hc' : Negotiates iq hosts c := by
          obtain ⟨done', h', rest', hsplit', htries'⟩ := hnegotiates.tries
          exact ⟨⟨done', h', rest', hsplit', htries'.set _ _ _ (some (buffer.drop 2))⟩,
            hnegotiates.stage, Option.some_ne_none _⟩
        have hreceived : Received iq c (buffer.drop 2) (readLoop sha1Hex (fuel + 1) c) :=
          hc'.readLoop_reply rfl rfl fuel
        have hsame : Takes c (buffer.drop 2) ↔ Takes s buffer := by
          rw [htakes, Takes]
          simp [hc, requested, hverdict, hkept]
        cases hreceived with
        | used htaken hused htarget =>
          exact .used (hsame.mp htaken) (hused.trans (by rw [hmarks])) htarget
        | givenUp htaken hg => exact .givenUp (mt hsame.mpr htaken) (hg.of_marks hmarks)
        | waits htaken hshown hkeeps hleft =>
          exact .asks (mt hsame.mpr htaken) (hshown.trans hmarks) hstate hkeeps hfront hleft
        | asks _ _ hasking =>
          exact absurd hasking (show Socks5State.targetConnectRequested ≠ _ by decide)
      case isFalse hmore =>
        refine .asks ?_ hmarks hstate rfl hfront rfl
        rw [htakes]
        rintro ⟨-, -, used, hused⟩
        have hnil : buffer.drop 2 = [] := by simpa using hmore
        rw [hnil] at hused
        cases hused
    · obtain rfl := hrest hbreaks
      have hround : Socks5.next sha1Hex fuel (lost iq data t s, (2 : ℕ)) = lost iq data t s :=
        next_gone sha1Hex fuel rfl
      rw [follow, heq, hround]
      have hmarks : marks (lost iq data t s) = marks s ++ [.failed iq] :=
        (marks_exhausted iq _).trans
          (congrArg (· ++ [Mark.failed iq]) ((htries.broke data t).marks.trans htries.marks.symm))
      refine .givenUp ?_ (.last hmarks rfl ⟨rfl, rfl⟩)
      rw [htakes, hbreaks]
      exact fun h => absurd h.2.1.symm Bool.false_ne_true

/-- What comes of the bytes that are read. -/
theorem Negotiates.received_cases (hs : Negotiates iq hosts s) (hreceives : receives s = true)
    (hread : isRead data = true) (hbuffer : s.readBuffer = some buffer)
    (hno : ¬ Retries s (buffer ++ data))
    (hstate : s.socks5State = .targetAuthRequestSent ∨ s.socks5State = .targetConnectRequested) :
    Received iq s (buffer ++ data) (transportHandler sha1Hex data s) := by
  obtain ⟨done, h, rest, hsplit, htries⟩ := hs.tries
  obtain ⟨t, ht, hphase, -⟩ := receives_iff.mp hreceives
  have hconnected : ∀ t, s.transport = some t → t.phase = .connected := fun t' ht' =>
    Option.some.inj (ht.symm.trans ht') ▸ hphase
  have hlength : (buffer ++ data).length ≠ 0 := by
    rw [isRead, Bool.and_eq_true] at hread
    intro hzero
    rw [(List.append_eq_nil_iff.mp (List.length_eq_zero_iff.mp hzero)).2] at hread
    cases hread.1
  obtain ⟨fuel, hfuel⟩ := Nat.exists_eq_succ_of_ne_zero hlength
  set s₁ : State := { s with readBuffer := some (buffer ++ data) }
  have hs₁ : Negotiates iq hosts s₁ :=
    ⟨⟨done, h, rest, hsplit, htries.set _ _ _ (some (buffer ++ data))⟩, hs.stage,
      Option.some_ne_none _⟩
  have hreceived : Received iq s₁ (buffer ++ data) (readLoop sha1Hex (fuel + 1) s₁) := by
    rcases hstate with hstate | hstate
    · exact hs₁.readLoop_authReply hstate hconnected rfl hno hfuel.le
    · exact hs₁.readLoop_reply hstate rfl fuel
  rw [transportHandler, hbuffer]
  dsimp only
  rw [hfuel]
  cases hreceived with
  | used htakes hmarks htarget => exact .used htakes hmarks htarget
  | givenUp htakes hg => exact .givenUp htakes (hg.of_marks rfl)
  | waits htakes hmarks hsame hleft => exact .waits htakes hmarks hsame hleft
  | asks htakes hmarks hauth hrequested hfront hleft =>
    exact .asks htakes hmarks hauth hrequested hfront hleft

/-- A streamhost whose negotiation has succeeded is taken, or overlooked. -/
theorem Hears.succeeds_iff (hh : Hears t) (hbuffer : t.state.readBuffer = some buffer)
    (hstate : t.state.socks5State = .targetAuthRequestSent ∨
      t.state.socks5State = .targetConnectRequested) (data : Bytes) :
    (Succeeds (t.current ++ data) ↔
      Takes t.state (buffer ++ data) ∨ Overlooks t.state (buffer ++ data)) ∧
        (Takes t.state (buffer ++ data) → ¬ Overlooks t.state (buffer ++ data)) := by
  rcases hstate with hstate | hstate
  · have hcurrent : t.current = buffer := by
      have hread := hh.asking (by rw [hstate]; rfl) (by rw [hstate]; decide)
      exact Option.some.inj (hread.symm.trans hbuffer)
    have hreply := @connectReply_accepted_iff ((buffer ++ data).drop 2)
    rw [hcurrent, Takes, Overlooks, hstate, Succeeds, authReply_accepted_iff, hreply, ← Nat.not_lt]
    simp only [reduceCtorEq, false_and, true_and, false_or]
    set reply := (buffer ++ data).drop 2
    by_cases hshort : reply.length % 256 < replyLength reply
    · cases breaks t.state <;> simp [hshort]
    · cases breaks t.state <;> simp [hshort]
  · obtain ⟨hfront, hread⟩ := hh.requesting hstate
    have hlength := le_length_of_take hfront rfl
    have hrest : t.current.drop 2 = buffer := Option.some.inj (hread.symm.trans hbuffer)
    rw [Succeeds, take_eq_append hfront rfl, List.drop_append_of_le_length hlength, hrest, Takes,
      Overlooks, hstate, connectReply_accepted_iff, ← Nat.not_lt]
    simp only [reduceCtorEq, false_and, true_and, or_false]
    by_cases hshort : (buffer ++ data).length % 256 < replyLength (buffer ++ data)
    · simp only [hshort, not_true_eq_false, and_false, and_true, false_or, false_imp_iff, iff_self]
    · simp only [hshort, not_false_eq_true, and_true, and_false, or_false, iff_self, imp_true_iff]

/-- What is read of the streamhost that is tried. -/
theorem Hears.received (hh : Hears t) (hs : Negotiates iq hosts t.state)
    (hbuffer : t.state.readBuffer = some buffer)
    (hstate : t.state.socks5State = .targetAuthRequestSent ∨
      t.state.socks5State = .targetConnectRequested)
    (hreceived : Received iq t.state (buffer ++ data) s') :
    (Justified (t.next (.received data) s') ↔ ¬ Overlooks t.state (buffer ++ data)) ∧
      (¬ Overlooks t.state (buffer ++ data) → Hears (t.next (.received data) s')) := by
  obtain ⟨hsucceeds, hexclusive⟩ := hh.succeeds_iff hbuffer hstate data
  have hasked : t.state.socks5State = .targetAuthRequestSent → t.current = buffer := fun hauth =>
    Option.some.inj ((hh.asking (by rw [hauth]; rfl) (by rw [hauth]; decide)).symm.trans hbuffer)
  cases hreceived with
  | used htakes hmarks htarget =>
    have hheard := hh.used (e := .received data) hs hmarks htarget
      (hsucceeds.mpr (.inl htakes))
    exact ⟨iff_of_true hheard.toJustified (hexclusive htakes), fun _ => hheard⟩
  | givenUp htakes hg =>
    have hiff : Overlooks t.state (buffer ++ data) ↔ Succeeds (t.current ++ data) := by
      rw [hsucceeds, or_iff_right htakes]
    rw [hiff]
    exact hh.givenUp (e := .received data) hs hg
  | waits htakes hmarks hsame hleft =>
    have hiff : Overlooks t.state (buffer ++ data) ↔ Succeeds (t.current ++ data) := by
      rw [hsucceeds, or_iff_right htakes]
    obtain ⟨hjustified, hheard⟩ := hh.kept (e := .received data) hs hmarks
    rw [hiff]
    refine ⟨hjustified, fun hno => hheard hno (fun hother => ?_) fun hrequested => ?_⟩
    · rw [hasked (hstate.resolve_right fun hrequested => hother (hsame.trans hrequested))]
      exact hleft
    · obtain ⟨hfront, hread⟩ := hh.requesting (hsame.symm.trans hrequested)
      have hrest : t.current.drop 2 = buffer := Option.some.inj (hread.symm.trans hbuffer)
      refine ⟨take_eq_append hfront rfl data, ?_⟩
      rw [List.drop_append_of_le_length (le_length_of_take hfront rfl), hrest]
      exact hleft
  | asks htakes hmarks hauth hrequested hfront hleft =>
    have hiff : Overlooks t.state (buffer ++ data) ↔ Succeeds (t.current ++ data) := by
      rw [hsucceeds, or_iff_right htakes]
    obtain ⟨hjustified, hheard⟩ := hh.kept (e := .received data) hs hmarks
    rw [hiff]
    refine ⟨hjustified, fun hno => hheard hno (fun hother => absurd hrequested hother)
      fun _ => ?_⟩
    rw [hasked hauth]
    exact ⟨hfront, hleft⟩

/-- After the negotiation nothing changes what the streamhosts have shown. -/
theorem Hears.over (hh : Hears t) (hs : Over iq hosts t.state)
    (hstep : Socks5.step sha1Hex t.state e = some s') (hquery : ∀ iq nodes, e ≠ .query iq nodes) :
    Hears (t.next e s') := by
  have hsilent := hs.silent_step hstep hquery
  have htarget : s'.socks5State.isTarget = false := hsilent.isTarget hs.target
  have hcurrent : Succeeds (t.current ++ e.bytes) ↔ ∃ m ∈ marks s', m.isUsed = true := by
    rw [hsilent.marks]
    have htold := hs.told
    generalize hshown : marks t.state = shown at htold
    cases htold with
    | trying _ hstill =>
      rw [hs.target] at hstill
      cases hstill
    | used _ _ =>
      have hused : ∃ m ∈ marks t.state, m.isUsed = true := by
        rw [hshown]
        exact ⟨_, List.mem_append_right _ (List.mem_singleton.mpr rfl), rfl⟩
      exact iff_of_true ((hh.current.mpr hused).append _) (hshown ▸ hused)
    | failed _ _ =>
      have hgone := hh.gone (by
        rw [hshown]
        exact ⟨_, List.mem_append_right _ (List.mem_singleton.mpr rfl), rfl⟩)
      have hnone : e.bytes = [] := by
        cases e with
        | received data =>
          obtain ⟨-, -, henabled, -⟩ := step_live hstep
          rw [enabled, Bool.and_eq_true] at henabled
          obtain ⟨transport, htransport, -⟩ := receives_iff.mp henabled.1
          rw [hgone.1] at htransport
          cases htransport
        | _ => rfl
      rw [hnone, List.append_nil, ← hshown]
      exact hh.current
  rw [Transcript.next_same (by rw [tries, hsilent.marks, tries])]
  refine ⟨⟨hh.earlier, hcurrent⟩, fun hfailed => hsilent.gone (hh.gone ?_), fun hstill => ?_,
    fun hrequested => ?_⟩
  · exact hsilent.marks ▸ hfailed
  · rw [show s'.socks5State.isTarget = true from hstill] at htarget
    cases htarget
  · rw [show s'.socks5State = _ from hrequested] at htarget
    cases htarget

end

end Socks5
