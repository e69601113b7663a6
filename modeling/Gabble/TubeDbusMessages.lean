/-
# Well formed messages in a D-Bus tube

The encoding of a D-Bus message: a fixed header in the byte order of its
sender, an array of header fields padded to eight bytes, and a body.  A stream
of them is cut at exactly their ends, so that the tube delivers them all unless
it reads a header wrong, which happens to big endian messages only.
-/
import Gabble.TubeDbusReassembly

namespace TubeDbus

open Base64 (Bytes)
open Segments

/-- A D-Bus message within the size a tube accepts.  The contents of the fields
and of the body do not matter here. -/
structure Message where
  bigEndian : Bool
  messageType : UInt8
  flags : UInt8
  version : UInt8
  serial : Fin 4 → UInt8
  fields : Bytes
  body : Bytes
  accepted : ¬ TooLarge body.length fields.length

/-- The byte of a 32-bit number at a place; the lowest one is at place 0. -/
def byteOf (n place : ℕ) : UInt8 := UInt8.ofNat (n / 2 ^ (8 * place))

/-- The byte of a length that is sent in the place `i` of its four. -/
def Message.lengthByte (m : Message) (n i : ℕ) : UInt8 :=
  byteOf n (if m.bigEndian then 3 - i else i)

/-- The bytes of a message. -/
def Message.encode (m : Message) : Bytes :=
  (if m.bigEndian then dbusBigEndian else dbusLittleEndian) :: m.messageType :: m.flags ::
    m.version ::
    m.lengthByte m.body.length 0 :: m.lengthByte m.body.length 1 ::
    m.lengthByte m.body.length 2 :: m.lengthByte m.body.length 3 ::
    m.serial 0 :: m.serial 1 :: m.serial 2 :: m.serial 3 ::
    m.lengthByte m.fields.length 0 :: m.lengthByte m.fields.length 1 ::
    m.lengthByte m.fields.length 2 :: m.lengthByte m.fields.length 3 ::
    (m.fields ++ List.replicate ((8 - m.fields.length % 8) % 8) 0 ++ m.body)

/-- The messages of a stream, one after the other. -/
def streamOf (msgs : List Message) : Bytes := msgs.flatMap Message.encode

/-- A big endian message without a bit in the second lowest byte of a length;
any little endian message. -/
def Message.plain (m : Message) : Prop :=
  m.bigEndian = true → m.body.length / 256 % 256 = 0 ∧ m.fields.length / 256 % 256 = 0

/-! ## The header of a message -/

theorem toNat_byteOf (n place : ℕ) : (byteOf n place).toNat = n / 2 ^ (8 * place) % 256 :=
  UInt8.toNat_ofNat'

section Header

variable (m : Message) (rest : Bytes)

theorem length_encode :
    m.encode.length = claimedLength m.body.length m.fields.length := by
  rw [claimedLength, paddedLength, Message.encode]
  simp only [List.length_cons, List.length_append, List.length_replicate]

theorem accepted_bounds :
    m.body.length < 2 ^ 28 ∧ m.fields.length < 2 ^ 28 := by
  have h := m.accepted
  have hmax : dbusMaximumMessageLength = 134217728 := rfl
  have harr : dbusMaximumArrayLength = 67108864 := rfl
  rw [TooLarge, not_or, not_or, paddedLength] at h
  omega

theorem getD_encode_zero : (m.encode ++ rest).getD 0 0 =
    if m.bigEndian then dbusBigEndian else dbusLittleEndian := rfl

/-- The four bytes of the body length. -/
theorem byteAt_encode_body {i : ℕ} (hi : i < 4) :
    byteAt (m.encode ++ rest) (4 + i) = (m.lengthByte m.body.length i).toNat := by
  obtain rfl | rfl | rfl | rfl : i = 0 ∨ i = 1 ∨ i = 2 ∨ i = 3 := by omega
  all_goals rfl

/-- The four bytes of the length of the fields. -/
theorem byteAt_encode_fields {i : ℕ} (hi : i < 4) :
    byteAt (m.encode ++ rest) (12 + i) = (m.lengthByte m.fields.length i).toNat := by
  obtain rfl | rfl | rfl | rfl : i = 0 ∨ i = 1 ∨ i = 2 ∨ i = 3 := by omega
  all_goals rfl

/-- Four bytes in the sender's order give the number back. -/
theorem be32_of_bytes {str : Bytes} {n : ℕ} (hn : n < 2 ^ 28) (hbig : m.bigEndian = true)
    (h : ∀ i < 4, byteAt str i = (m.lengthByte n i).toNat) : be32 str = n := by
  rw [be32, h 0 (by omega), h 1 (by omega), h 2 (by omega), h 3 (by omega)]
  simp only [Message.lengthByte, hbig, if_true, toNat_byteOf]
  omega

theorem le32_of_bytes {str : Bytes} {n : ℕ} (hn : n < 2 ^ 28) (hlittle : m.bigEndian = false)
    (h : ∀ i < 4, byteAt str i = (m.lengthByte n i).toNat) : le32 str = n := by
  rw [le32, h 0 (by omega), h 1 (by omega), h 2 (by omega), h 3 (by omega)]
  simp only [Message.lengthByte, hlittle, Bool.false_eq_true, if_false, toNat_byteOf]
  omega

/-- The two lengths in the header. -/
theorem byteAt_lengths :
    (∀ i < 4, byteAt ((m.encode ++ rest).drop 4) i = (m.lengthByte m.body.length i).toNat) ∧
      ∀ i < 4, byteAt ((m.encode ++ rest).drop 12) i = (m.lengthByte m.fields.length i).toNat :=
  ⟨fun i hi => (byteAt_drop _ 4 i).trans (byteAt_encode_body m rest hi),
    fun i hi => (byteAt_drop _ 12 i).trans (byteAt_encode_fields m rest hi)⟩

/-- **The header of a message claims its length.** -/
theorem verdict_encode : verdict (m.encode ++ rest) = .claims m.encode.length := by
  obtain ⟨hbody, hfields⟩ := accepted_bounds m
  obtain ⟨hb, hf⟩ := byteAt_lengths m rest
  have hjudge : judge m.body.length m.fields.length = .claims m.encode.length := by
    rw [judge, if_neg m.accepted, length_encode]
  have hfirst := getD_encode_zero m rest
  rcases Bool.eq_false_or_eq_true m.bigEndian with hbig | hlittle
  · rw [if_pos hbig] at hfirst
    rw [verdict, if_pos hfirst, be32_of_bytes m hbody hbig hb, be32_of_bytes m hfields hbig hf,
      hjudge]
  · rw [if_neg (by simp [hlittle])] at hfirst
    rw [verdict, hfirst, if_neg dbusBigEndian_ne, if_pos rfl, le32_of_bytes m hbody hlittle hb,
      le32_of_bytes m hfields hlittle hf, hjudge]

/-- Which messages have their header read right. -/
theorem headerOk_encode : HeaderOk (m.encode ++ rest) ↔ m.plain := by
  obtain ⟨hbody, hfields⟩ := accepted_bounds m
  obtain ⟨hb, hf⟩ := byteAt_lengths m rest
  rw [HeaderOk, getD_encode_zero, Message.plain]
  rcases Bool.eq_false_or_eq_true m.bigEndian with hbig | hlittle
  · have h6 : byteAt (m.encode ++ rest) 6 = m.body.length / 256 % 256 := by
      have h := byteAt_encode_body m rest (by omega : 2 < 4)
      rwa [Message.lengthByte, if_pos hbig, toNat_byteOf] at h
    have h14 : byteAt (m.encode ++ rest) 14 = m.fields.length / 256 % 256 := by
      have h := byteAt_encode_fields m rest (by omega : 2 < 4)
      rwa [Message.lengthByte, if_pos hbig, toNat_byteOf] at h
    rw [if_pos hbig, be32_of_bytes m hbody hbig hb, be32_of_bytes m hfields hbig hf, h6, h14]
    constructor
    · rintro ⟨-, h⟩ -
      rcases h rfl with h | ⟨hlarge, -⟩
      · exact h
      · exact absurd hlarge m.accepted
    · exact fun h => ⟨fun heq => absurd heq.symm dbusBigEndian_ne, fun _ => .inl (h hbig)⟩
  · rw [if_neg (by simp [hlittle])]
    constructor
    · intro _ hbig
      rw [hlittle] at hbig
      cases hbig
    · intro _
      refine ⟨fun _ => ?_, fun heq => absurd heq dbusBigEndian_ne⟩
      rw [le32_of_bytes m hfields hlittle hf, guint32Size]
      omega

theorem sixteen_le_length_encode : 16 ≤ (m.encode ++ rest).length := by
  rw [List.length_append, length_encode, claimedLength]
  omega

end Header

/-! ## Streams of messages -/

theorem streamOf_cons (m : Message) (msgs : List Message) :
    streamOf (m :: msgs) = m.encode ++ streamOf msgs := List.flatMap_cons

/-- A stream of messages is cut at their ends. -/
theorem drainAll_streamOf (msgs : List Message) {s : Frames} (hopen : s.closed = false) :
    drainAll takeFrame s (streamOf msgs) =
      ({ s with messages := s.messages ++ msgs.map Message.encode }, []) := by
  induction msgs generalizing s with
  | nil =>
    rw [List.map_nil, List.append_nil]
    rfl
  | cons m msgs ih =>
    have hlen := sixteen_le_length_encode m (streamOf msgs)
    have htake := takeFrame_whole hopen hlen (verdict_encode m _)
      (by rw [List.length_append]; omega)
    have hused : (takeFrame s (m.encode ++ streamOf msgs)).2 ≠ 0 := by
      rw [htake, length_encode, claimedLength]
      omega
    rw [streamOf_cons, drainAll_of_take hused (List.ne_nil_of_length_pos (by omega)), htake,
      List.drop_left, List.take_left, ih (by exact hopen), List.map_cons, List.append_assoc]
    rfl

/-- The headers of a stream of plain messages are all read right. -/
theorem headersOk_streamOf (msgs : List Message) (h : ∀ m ∈ msgs, m.plain) :
    HeadersOk (streamOf msgs) := by
  induction msgs with
  | nil =>
    intro k _ hlen
    rw [streamOf, List.flatMap_nil, List.drop_nil] at hlen
    exact absurd hlen (by decide)
  | cons m msgs ih =>
    intro k hk hlen
    rw [streamOf_cons] at hk hlen ⊢
    rcases hk.cases_start with rfl | ⟨-, n, hv, -, j, rfl, hj⟩
    · rw [List.drop_zero]
      exact (headerOk_encode m _).mpr (h m (by simp))
    · rw [verdict_encode] at hv
      cases hv
      rw [List.drop_left] at hj
      rw [← List.drop_drop, List.drop_left] at hlen ⊢
      exact ih (fun m' hm' => h m' (List.mem_cons_of_mem _ hm')) j hj hlen

/-- Every message arrived once, as it was sent and in order. -/
def Delivered (sender : ℕ) (msgs : List Message) (chunks : List Bytes) : Prop :=
  ∃ t, receiveAll sender (Tube.new .contact) chunks = some t ∧
    t.received = msgs.map fun m => (sender, m.encode)

/-- The loop over a stream with a message that is not plain does not deliver
what was sent. -/
theorem received_ne_of_not_plain {sender : ℕ} (msgs : List Message) {t t' : Tube} {s : Frames}
    (ht : AtBoundary sender t s (streamOf msgs)) (hneeded : t.reassemblyBytesNeeded = 0)
    (hbad : ∃ m ∈ msgs, ¬ m.plain) (hleaves : Leaves sender t t') :
    t'.received ≠ (s.messages ++ msgs.map Message.encode).map (sender, ·) := by
  induction msgs generalizing t s with
  | nil =>
    obtain ⟨m, hm, -⟩ := hbad
    cases hm
  | cons m msgs ih =>
    have hlen := sixteen_le_length_encode m (streamOf msgs)
    have hv := verdict_encode m (streamOf msgs)
    have hn : m.encode.length ≤ (m.encode ++ streamOf msgs).length := by
      rw [List.length_append]
      omega
    rw [streamOf_cons] at ht
    by_cases hplain : m.plain
    · have hread : readVerdict t.reassemblyBuffer = some (.claims m.encode.length) := by
        rw [ht.buffer, (readVerdict_eq_iff _).mpr ((headerOk_encode m _).mpr hplain), hv]
      rcases leaves_claims_cases hneeded (by rwa [ht.buffer]) hread hleaves with
        ⟨-, hrest⟩ | ⟨hpart, -⟩
      swap
      · rw [ht.buffer] at hpart
        omega
      have hat : AtBoundary sender
          (messageReceived sender { t with reassemblyBytesNeeded := m.encode.length })
          { s with messages := s.messages ++ [m.encode] } (streamOf msgs) := by
        refine ⟨ht.contact, ?_, ht.opened, ht.closed, ht.aborted, ?_⟩
        · rw [messageReceived, ht.buffer, ht.received, List.map_append, List.take_left]
          rfl
        · rw [messageReceived, ht.buffer, List.drop_left]
      have hlater : ∃ m ∈ msgs, ¬ m.plain := by
        obtain ⟨m', hm', hnot⟩ := hbad
        rcases List.mem_cons.mp hm' with rfl | hm'
        · exact absurd hplain hnot
        · exact ⟨m', hm', hnot⟩
      have h := ih hat rfl hlater hrest
      rwa [List.append_assoc] at h
    · refine received_ne_of_misread ht hneeded hlen hv hn
        (fun h => hplain ((headerOk_encode m _).mp h)) hleaves ?_
      rw [List.take_left, List.map_cons]
      exact ⟨msgs.map Message.encode, by rw [List.append_assoc]; rfl⟩

/-- **A stream of messages arrives whole, however it is cut, exactly when none
of its big endian messages has a length with a bit in its second lowest byte.** -/
theorem delivered_iff (sender : ℕ) (msgs : List Message) :
    (∀ chunks : List Bytes, chunks.flatten = streamOf msgs → Delivered sender msgs chunks) ↔
      ∀ m ∈ msgs, m.bigEndian = true →
        m.body.length / 256 % 256 = 0 ∧ m.fields.length / 256 % 256 = 0 := by
  constructor
  · intro h
    by_contra hbad
    have hbad' : ∃ m ∈ msgs, ¬ m.plain := by
      by_contra hall
      exact hbad fun m hm => by_contra fun hnot => hall ⟨m, hm, hnot⟩
    obtain ⟨t, hrun, hreceived⟩ := h [streamOf msgs] (by rw [List.flatten_singleton])
    refine received_ne_of_not_plain msgs (atBoundary_new sender _) rfl hbad'
      (receiveAll_singleton hrun) ?_
    rw [hreceived, List.nil_append, List.map_map]
    rfl
  · rintro h chunks hchunks
    have hok : HeadersOk chunks.flatten := by
      rw [hchunks]
      exact headersOk_streamOf msgs h
    obtain ⟨t, hrun, hmatches⟩ := handled_of_headersOk sender hok
    refine ⟨t, hrun, ?_⟩
    rw [hmatches.received, hchunks, drainAll_streamOf msgs rfl, List.nil_append, List.map_map]
    rfl

/-- A big endian message with a body of 256 bytes. -/
def bigMessage : Message :=
  ⟨true, 1, 0, 1, fun _ => 1, [], List.replicate 256 7, by rw [List.length_replicate]; decide⟩

/-- The tube takes 256 for `2 ^ 24` and waits. -/
theorem not_delivered_bigMessage : ¬ Delivered 1 [bigMessage] [streamOf [bigMessage]] := by
  rintro ⟨t, hrun, hreceived⟩
  have hres : receiveAll 1 (Tube.new .contact) [streamOf [bigMessage]] =
      some ⟨.contact, streamOf [bigMessage], 2 ^ 24 + 16, [], false, false⟩ := by decide +kernel
  rw [hres] at hrun
  cases hrun
  cases hreceived

end TubeDbus
