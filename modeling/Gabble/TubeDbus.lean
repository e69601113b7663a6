/-
# One to one D-Bus tubes

The model of the receiving side of `tube-dbus.c`.  The bytestream of a tube
carries D-Bus messages one after the other and keeps no message boundaries, so
`data_received_cb` collects what arrives until a message is whole.  How long a
message is follows from two 32-bit fields of its header, in the byte order of
its sender.

The numbers of the source are 32 bits wide; here they are natural numbers and
every operation that may leave the range is taken modulo `2 ^ 32`.
-/
import Mathlib.Algebra.Group.Nat.Defs
import Gabble.Base64
import Gabble.Segments
import Mathlib.Tactic.Common

namespace TubeDbus

open Base64 (Bytes)

variable {sender : ℕ}

/-- `DBUS_MAXIMUM_ARRAY_LENGTH` of the D-Bus protocol. -/
def dbusMaximumArrayLength : ℕ := 67108864

/-- `DBUS_MAXIMUM_MESSAGE_LENGTH` of the D-Bus protocol. -/
def dbusMaximumMessageLength : ℕ := dbusMaximumArrayLength * 2

/-- `DBUS_BIG_ENDIAN`: the letter B. -/
def dbusBigEndian : UInt8 := 66

/-- `DBUS_LITTLE_ENDIAN`: the letter l. -/
def dbusLittleEndian : UInt8 := 108

/-- The values of a `guint32`. -/
def guint32Size : ℕ := 2 ^ 32

/-! ## Data -/

/-- The handle types a tube can have. -/
inductive HandleType : Type where
  | contact : HandleType
  | room : HandleType
deriving DecidableEq

/-- The part of `GabbleTubeDBusPrivate` that receiving uses.  The calls of
`message_received` are in `received`; `aborted` says that an assertion failed. -/
structure Tube where
  targetHandleType : HandleType
  reassemblyBuffer : Bytes
  reassemblyBytesNeeded : ℕ
  received : List (ℕ × Bytes)
  closed : Bool
  aborted : Bool
deriving DecidableEq

/-- A tube that has received nothing yet. -/
def Tube.new (targetHandleType : HandleType) : Tube :=
  ⟨targetHandleType, [], 0, [], false, false⟩

/-- The byte at an index of a buffer. -/
def byteAt (str : Bytes) (i : ℕ) : ℕ := (str.getD i 0).toNat

/-! ## The code -/

/-- `collect_le32` -/
def collectLe32 (str : Bytes) : ℕ :=
  byteAt str 0 ||| byteAt str 1 <<< 8 ||| byteAt str 2 <<< 16 ||| byteAt str 3 <<< 24

/-- `collect_be32` -/
def collectBe32 (str : Bytes) : ℕ :=
  byteAt str 0 <<< 24 ||| byteAt str 1 <<< 16 ||| byteAt str 2 <<< 24 ||| byteAt str 3

/-- The body length and the length of the array of header fields, if the first
byte is an endianness. -/
def collectLengths (buf : Bytes) : Option (ℕ × ℕ) :=
  if buf.getD 0 0 = dbusBigEndian then
    some (collectBe32 (buf.drop 4), collectBe32 (buf.drop 12))
  else if buf.getD 0 0 = dbusLittleEndian then
    some (collectLe32 (buf.drop 4), collectLe32 (buf.drop 12))
  else none

/-- The array length padded to an 8-byte boundary. -/
def paramsLength (m : ℕ) : ℕ := (m + (8 - m % 8) % 8) % guint32Size

/-- The three assertions after the padding. -/
def assertParams (m : ℕ) : Prop :=
  paramsLength m % 8 = 0 ∧ m ≤ paramsLength m ∧ paramsLength m < (m + 8) % guint32Size

instance (m : ℕ) : Decidable (assertParams m) :=
  inferInstanceAs (Decidable (_ ∧ _))

/-- The size of the message whose header has these lengths. -/
def bytesNeeded (bodyLength m : ℕ) : ℕ := (paramsLength m + bodyLength + 16) % guint32Size

/-- One of the three tests for a message that is too large. -/
def refused (bodyLength m : ℕ) : Prop :=
  bodyLength > dbusMaximumMessageLength ∨ paramsLength m > dbusMaximumArrayLength ∨
    bytesNeeded bodyLength m > dbusMaximumMessageLength

instance (bodyLength m : ℕ) : Decidable (refused bodyLength m) :=
  inferInstanceAs (Decidable (_ ∨ _))

/-- What a round of the loop does: another round follows, or it was the last. -/
inductive Round : Type where
  | again (t : Tube) : Round
  | leave (t : Tube) : Round

/-- The second half of a round: how big is the next message? -/
def nextHeader (t : Tube) : Round :=
  if t.reassemblyBuffer.length < 16 then .leave t
  else
    match collectLengths t.reassemblyBuffer with
    | none => .leave { t with closed := true }
    | some (bodyLength, m) =>
      if ¬ assertParams m then .leave { t with aborted := true }
      else if refused bodyLength m then
        .leave { t with reassemblyBytesNeeded := bytesNeeded bodyLength m, closed := true }
      else if bytesNeeded bodyLength m = 0 then
        .leave { t with reassemblyBytesNeeded := 0, aborted := true }
      else .again { t with reassemblyBytesNeeded := bytesNeeded bodyLength m }

/-- `message_received` and the erasing of the message. -/
def messageReceived (sender : ℕ) (t : Tube) : Tube :=
  { t with
    received := t.received ++ [(sender, t.reassemblyBuffer.take t.reassemblyBytesNeeded)]
    reassemblyBuffer := t.reassemblyBuffer.drop t.reassemblyBytesNeeded
    reassemblyBytesNeeded := 0 }

/-- A round of the loop of `data_received_cb`. -/
def round (sender : ℕ) (t : Tube) : Round :=
  if t.reassemblyBuffer.length < 16 then .leave t
  else if t.reassemblyBytesNeeded ≠ 0 then
    if t.reassemblyBuffer.length ≥ t.reassemblyBytesNeeded then
      nextHeader (messageReceived sender t)
    else .leave t
  else nextHeader t

/-- The loop of `data_received_cb`; `none` when it does not end in `fuel` rounds. -/
def loop (sender : ℕ) : ℕ → Tube → Option Tube
  | 0, _ => none
  | fuel + 1, t =>
    match round sender t with
    | .leave t' => some t'
    | .again t' => loop sender fuel t'

/-- The bytes of a chunk are added to the reassembly buffer. -/
def appendData (t : Tube) (data : Bytes) : Tube :=
  { t with reassemblyBuffer := t.reassemblyBuffer ++ data }

/-- `data_received_cb` -/
def dataReceivedCb (sender : ℕ) (t : Tube) (data : Bytes) : Option Tube :=
  match t.targetHandleType with
  | .contact => loop sender ((appendData t data).reassemblyBuffer.length + 2) (appendData t data)
  | .room => some { t with received := t.received ++ [(sender, data)] }

/-- The chunks of a bytestream arrive one after the other.  A tube that was
closed has closed its bytestream and gets no more of them. -/
def receiveAll (sender : ℕ) : Tube → List Bytes → Option Tube
  | t, [] => some t
  | t, data :: rest =>
    if t.closed ∨ t.aborted then some t
    else (dataReceivedCb sender t data).bind fun t' => receiveAll sender t' rest

/-! ## The loop ends -/

/-- What a round lowers: the bytes there are, and whether the size of the next
message is still to be found out. -/
def Tube.measure (t : Tube) : ℕ :=
  t.reassemblyBuffer.length + if t.reassemblyBytesNeeded = 0 then 1 else 0

variable {t t' : Tube}

theorem nextHeader_again (h : nextHeader t = .again t') :
    t'.reassemblyBytesNeeded ≠ 0 ∧
      t' = { t with reassemblyBytesNeeded := t'.reassemblyBytesNeeded } := by
  rw [nextHeader] at h
  split at h
  · cases h
  split at h
  · cases h
  split at h
  · cases h
  split at h
  · cases h
  split at h
  · cases h
  · next hzero =>
      cases h
      exact ⟨hzero, rfl⟩

theorem measure_lt_of_again (h : round sender t = .again t') :
    t'.measure < t.measure := by
  rw [round] at h
  split at h
  · cases h
  next hlen =>
  split at h
  · next hneeded =>
      split at h
      · -- a message was delivered: it had at least one byte
        obtain ⟨hnz, ht⟩ := nextHeader_again h
        rw [Tube.measure, Tube.measure, if_neg hnz, if_neg hneeded, ht]
        change (t.reassemblyBuffer.drop t.reassemblyBytesNeeded).length + 0 < _
        rw [List.length_drop]
        omega
      · cases h
  · next hneeded =>
      obtain ⟨hnz, ht⟩ := nextHeader_again h
      rw [Tube.measure, Tube.measure, if_neg hnz, if_pos (not_not.mp hneeded), ht]
      exact Nat.lt_succ_self _

/-- **The loop ends**: it makes no more rounds than there are bytes, and two. -/
theorem exists_loop_eq_some (sender : ℕ) (t : Tube) {fuel : ℕ} (h : t.measure < fuel) :
    ∃ t', loop sender fuel t = some t' := by
  induction fuel generalizing t with
  | zero => omega
  | succ fuel ih =>
    rw [loop]
    rcases hround : round sender t with t' | t'
    · have hlt := measure_lt_of_again hround
      exact ih t' (by omega)
    · exact ⟨t', rfl⟩

/-- The loop, left after some number of rounds. -/
def Leaves (sender : ℕ) (t t' : Tube) : Prop := ∃ fuel, loop sender fuel t = some t'

theorem loop_eq_of_le {sender fuel fuel' : ℕ} (h : loop sender fuel t = some t')
    (hle : fuel ≤ fuel') : loop sender fuel' t = some t' := by
  induction fuel generalizing t fuel' with
  | zero => cases h
  | succ fuel ih =>
    obtain ⟨fuel', rfl⟩ : ∃ k, fuel' = k + 1 := ⟨fuel' - 1, by omega⟩
    rw [loop] at h ⊢
    rcases hround : round sender t with s | s
    · rw [hround] at h
      exact ih h (by omega)
    · rw [hround] at h
      exact h

theorem Leaves.unique {t t₁ t₂ : Tube} (h₁ : Leaves sender t t₁)
    (h₂ : Leaves sender t t₂) : t₁ = t₂ := by
  obtain ⟨f₁, h₁⟩ := h₁
  obtain ⟨f₂, h₂⟩ := h₂
  have h := loop_eq_of_le h₁ (Nat.le_max_left f₁ f₂)
  rw [loop_eq_of_le h₂ (Nat.le_max_right f₁ f₂)] at h
  exact (Option.some.inj h).symm

theorem leaves_of_leave (h : round sender t = .leave t') :
    Leaves sender t t' := by
  refine ⟨1, ?_⟩
  rw [loop, h]

theorem leaves_of_again {t s t' : Tube} (h : round sender t = .again s)
    (hs : Leaves sender s t') : Leaves sender t t' := by
  obtain ⟨fuel, hs⟩ := hs
  refine ⟨fuel + 1, ?_⟩
  rw [loop, h]
  exact hs

/-- A call on a contact tube gives what its loop is left with. -/
theorem dataReceivedCb_eq {data : Bytes}
    (htype : t.targetHandleType = .contact) (h : Leaves sender (appendData t data) t') :
    dataReceivedCb sender t data = some t' := by
  have hbound : (appendData t data).measure < (appendData t data).reassemblyBuffer.length + 2 := by
    rw [Tube.measure]
    split <;> omega
  obtain ⟨r, hr⟩ := exists_loop_eq_some sender _ hbound
  rw [dataReceivedCb]
  split
  · rw [hr, Leaves.unique ⟨_, hr⟩ h]
  · next hroom =>
      rw [htype] at hroom
      cases hroom

end TubeDbus
