/-
# D-Bus names in a room

In a chat room a D-Bus tube has many parties, and each announces the bus name it
uses in its presence.  The tube keeps the names in two tables, one for each
direction.  This module has the tables, the queue of messages that wait for the
local application to connect, and that the tables stay inverse to each other.

Strings of the source are lists of bytes without the final zero.
-/
import Gabble.Base64
import Gabble.CText
import Gabble.InverseTables
import Gabble.Transition
import Gabble.TubeDbus

namespace TubeDbus

open Base64 (Bytes)
open CText (ascii)
open InverseTables Transition

/-! ## JIDs -/

/-- What stands before and after the first `c`, as `strchr` finds it. -/
def strchr (c : UInt8) (l : Bytes) : Bytes × Option Bytes :=
  match l.dropWhile (· ≠ c) with
  | [] => (l, none)
  | _ :: rest => (l.takeWhile (· ≠ c), some rest)

/-- `validate_jid_node` -/
def validateJidNode (node : Bytes) : Bool := node.all fun c => c ∉ ascii "\"&'/:<>@"

/-- `g_ascii_isalnum` -/
def isAlnum (c : UInt8) : Bool :=
  (48 ≤ c && c ≤ 57) || (65 ≤ c && c ≤ 90) || (97 ≤ c && c ≤ 122)

/-- `validate_jid_domain` -/
def validateJidDomain (domain : Bytes) : Bool :=
  domain.all fun c => 0x7f ≤ c || isAlnum c || c ∈ ascii ":-."

/-- The tests of `wocky_decode_jid` on the part before the slash. -/
def validBare (bare : Bytes) : Bool :=
  match strchr 64 bare with
  | (node, some domain) =>
    node ≠ [] && validateJidNode node && domain ≠ [] && validateJidDomain domain
  | (domain, none) => domain ≠ [] && validateJidDomain domain

/-- The node, the domain and the resource of a valid JID, as they stand in it. -/
def jidParts (jid : Bytes) : Option (Option Bytes × Bytes × Option Bytes) :=
  let (bare, resource) := strchr 47 jid
  if validBare bare && resource ≠ some [] then
    match strchr 64 bare with
    | (node, some domain) => some (some node, domain, resource)
    | (domain, none) => some (none, domain, resource)
  else none

/-- `wocky_decode_jid`, asked for the resource: `none` when the JID is invalid,
`some none` when it has no resource. -/
def decodeJid (jid : Bytes) : Option (Option Bytes) := (jidParts jid).map fun parts => parts.2.2

/-! ## Data -/

/-- The fields of a `DBusMessage` that the tube reads, and its bytes. -/
structure DBusMessage where
  sender : Option Bytes
  destination : Option Bytes
  bytes : Bytes
  deriving DecidableEq

/-- The signal `DBusNamesChanged`. -/
structure DBusNamesChanged where
  added : List (ℕ × Bytes)
  removed : List ℕ
  deriving DecidableEq

/-- `MAX_QUEUE_SIZE` -/
def maxQueueSize : ℕ := 4096 * 1024

/-- The part of `GabbleTubeDBusPrivate` that a tube in a room uses.  `sent` are
the calls of `dbus_connection_send`; `aborted` says that an assertion failed. -/
structure MucTube where
  targetHandleType : HandleType
  selfHandle : ℕ
  dbusLocalName : Bytes
  dbusNames : AList fun _ : ℕ => Bytes
  dbusNameToHandle : AList fun _ : Bytes => ℕ
  dbusConn : Bool
  dbusMsgQueue : List DBusMessage
  dbusMsgQueueSize : ℕ
  sent : List DBusMessage
  signals : List DBusNamesChanged
  aborted : Bool

/-- What can happen to the tube. -/
inductive MucEvent where
  /-- `gabble_tube_dbus_add_name`, for a presence of a room member. -/
  | addName (handle : ℕ) (name : Bytes)
  /-- `gabble_tube_dbus_remove_name` -/
  | removeName (handle : ℕ)
  /-- The bytestream has received a message. -/
  | messageReceived (sender : ℕ) (data : Bytes)
  /-- The local application connects. -/
  | newConnection
  /-- The local application disconnects. -/
  | disconnected
  deriving DecidableEq

/-! ## The code -/

def MucTube.abort (tube : MucTube) : MucTube := { tube with aborted := true }

/-- The character that stands for one of base64 in a bus name. -/
def nameChar (c : Char) : UInt8 :=
  if c = '+' then 95 else if c = '/' then 45 else if c = '=' then 65 else UInt8.ofNat c.toNat

-- `sha1_bin`, `tp_handle_inspect` on a contact, and `dbus_message_demarshal`
variable (sha1 : Bytes → Bytes) (inspect : ℕ → Bytes) (demarshal : Bytes → Option DBusMessage)

/-- `_gabble_generate_dbus_unique_name` -/
def generateDbusUniqueName (nick : Bytes) : Bytes :=
  let encoded :=
    if nick.length ≤ 186 then Base64.encode nick
    else Base64.encode (nick.take 169 ++ (sha1 nick).take 20)
  ascii ":2." ++ encoded.map nameChar

/-- `gabble_tube_dbus_constructed`, for a tube in a room; `none` when one of its
assertions fails. -/
def constructed (selfHandle : ℕ) : Option MucTube :=
  if selfHandle = 0 then none
  else
    match decodeJid (inspect selfHandle) with
    | some (some nick) =>
      some {
        targetHandleType := .room
        selfHandle := selfHandle
        dbusLocalName := generateDbusUniqueName sha1 nick
        dbusNames := ∅
        dbusNameToHandle := ∅
        dbusConn := false
        dbusMsgQueue := []
        dbusMsgQueueSize := 0
        sent := []
        signals := []
        aborted := false }
    | _ => none

/-- The insertions of `gabble_tube_dbus_add_name`, and its signal. -/
def insertName (handle : ℕ) (name : Bytes) (tube : MucTube) : MucTube :=
  { tube with
    dbusNames := tube.dbusNames.insert handle name
    dbusNameToHandle := tube.dbusNameToHandle.insert name handle
    signals := tube.signals ++ [⟨[(handle, name)], []⟩] }

/-- `gabble_tube_dbus_add_name`; a handle of zero in a table is no handle. -/
def addName (handle : ℕ) (name : Bytes) (tube : MucTube) : Bool × MucTube :=
  if tube.targetHandleType ≠ .room then (false, tube.abort)
  else if size tube.dbusNames ≠ size tube.dbusNameToHandle then (false, tube.abort)
  else if tube.dbusNames.lookup handle ≠ none then (false, tube)
  else if (tube.dbusNameToHandle.lookup name).getD 0 ≠ 0 then (false, tube)
  else if (ascii ":2.").isPrefixOf name then
    match decodeJid (inspect handle) with
    | some (some nick) =>
      if name ≠ generateDbusUniqueName sha1 nick then (false, tube)
      else (true, insertName handle name tube)
    | _ => (false, tube.abort)
  else (true, insertName handle name tube)

/-- The removals of `gabble_tube_dbus_remove_name`. -/
def eraseName (handle : ℕ) (name : Bytes) (tube : MucTube) : MucTube :=
  { tube with
    dbusNameToHandle := tube.dbusNameToHandle.erase name
    dbusNames := tube.dbusNames.erase handle }

/-- `gabble_tube_dbus_remove_name` -/
def removeName (handle : ℕ) (tube : MucTube) : Bool × MucTube :=
  if tube.targetHandleType ≠ .room then (false, tube.abort)
  else
    match tube.dbusNames.lookup handle with
    | none => (false, tube)
    | some name =>
      let tube := eraseName handle name tube
      if size tube.dbusNames ≠ size tube.dbusNameToHandle then (false, tube.abort)
      else (true, { tube with signals := tube.signals ++ [⟨[], [handle]⟩] })

/-- A message without a destination is for everyone. -/
def intended (msg : DBusMessage) (tube : MucTube) : Bool :=
  msg.destination == none || msg.destination == some tube.dbusLocalName

/-- The tests of `message_received` on a message in a room. -/
def admitted (sender : ℕ) (msg : DBusMessage) (tube : MucTube) : Bool :=
  intended msg tube && tube.dbusNames.lookup sender == msg.sender

/-- `message_received`, once the message has been taken apart and admitted. -/
def deliver (data : Bytes) (msg : DBusMessage) (tube : MucTube) : MucTube :=
  if ¬ tube.dbusConn then
    if tube.dbusMsgQueueSize + data.length > maxQueueSize then tube
    else { tube with
      dbusMsgQueue := tube.dbusMsgQueue ++ [msg]
      dbusMsgQueueSize := tube.dbusMsgQueueSize + data.length }
  else { tube with sent := tube.sent ++ [msg] }

/-- `message_received` -/
def mucMessageReceived (sender : ℕ) (data : Bytes) (tube : MucTube) : MucTube :=
  match demarshal data with
  | none => tube
  | some msg =>
    if tube.targetHandleType = .room then
      if admitted sender msg tube then deliver data msg tube else tube
    else deliver data msg tube

/-- `new_connection_cb`: what was queued is delivered in the order it came. -/
def newConnection (tube : MucTube) : MucTube :=
  if tube.dbusConn then tube
  else { tube with
    dbusConn := true
    sent := tube.sent ++ tube.dbusMsgQueue
    dbusMsgQueue := []
    dbusMsgQueueSize := 0 }

/-- The handle of a room member: like ours it is the room's JID with a nick. -/
def Occupant (selfHandle handle : ℕ) : Prop :=
  handle ≠ 0 ∧ (strchr 47 (inspect handle)).1 = (strchr 47 (inspect selfHandle)).1 ∧
    (strchr 47 (inspect handle)).2 ≠ none ∧ (strchr 47 (inspect handle)).2 ≠ some []

instance (selfHandle handle : ℕ) : Decidable (Occupant inspect selfHandle handle) :=
  inferInstanceAs (Decidable (_ ∧ _ ∧ _ ∧ _))

/-- One event. -/
def mucStep (tube : MucTube) : MucEvent → Option MucTube
  | .addName handle name =>
    if Occupant inspect tube.selfHandle handle then
      some (addName sha1 inspect handle name tube).2
    else none
  | .removeName handle => some (removeName handle tube).2
  | .messageReceived sender data => some (mucMessageReceived demarshal sender data tube)
  | .newConnection => some (newConnection tube)
  | .disconnected => if tube.dbusConn then some { tube with dbusConn := false } else none

/-! ## The tables -/

variable {sha1 inspect demarshal}
variable {tube tube' : MucTube} {handle : ℕ} {name : Bytes}

/-- What the tables of a tube are, and that it may look at its members. -/
structure Consistent (inspect : ℕ → Bytes) (tube : MucTube) : Prop where
  room : tube.targetHandleType = .room
  valid : validBare (strchr 47 (inspect tube.selfHandle)).1 = true
  inverse : Inverse tube.dbusNames tube.dbusNameToHandle
  nonzero : tube.dbusNames.lookup 0 = none
  alive : tube.aborted = false

/-- All of the bare JID but its validity is dropped. -/
theorem decodeJid_eq (jid : Bytes) :
    decodeJid jid = if validBare (strchr 47 jid).1 && (strchr 47 jid).2 ≠ some [] then
      some (strchr 47 jid).2 else none := by
  rw [decodeJid, jidParts]
  dsimp only
  split
  · split
    · rfl
    · rfl
  · rfl

theorem decodeJid_eq_some {jid nick : Bytes} (h : decodeJid jid = some (some nick)) :
    validBare (strchr 47 jid).1 = true ∧ (strchr 47 jid).2 = some nick := by
  rw [decodeJid_eq] at h
  obtain ⟨hcond, hnick⟩ := Option.ite_none_right_eq_some.mp h
  exact ⟨(Bool.and_eq_true _ _ ▸ hcond).1, Option.some.inj hnick⟩

/-- A room member's JID is valid, and has a nick. -/
theorem decodeJid_of_occupant {selfHandle : ℕ} (h : Occupant inspect selfHandle handle)
    (hvalid : validBare (strchr 47 (inspect selfHandle)).1 = true) :
    ∃ nick, decodeJid (inspect handle) = some (some nick) := by
  obtain ⟨-, hbare, hsome, hne⟩ := h
  obtain ⟨nick, hnick⟩ := Option.ne_none_iff_exists'.mp hsome
  refine ⟨nick, ?_⟩
  rw [decodeJid_eq, hbare, hvalid, if_pos (by simpa using hne), hnick]

theorem consistent_constructed {selfHandle : ℕ}
    (h : constructed sha1 inspect selfHandle = some tube) : Consistent inspect tube := by
  rw [constructed] at h
  obtain ⟨-, h⟩ := Option.ite_none_left_eq_some.mp h
  rcases hdecode : decodeJid (inspect selfHandle) with _ | _ | nick
  · simp [hdecode] at h
  · simp [hdecode] at h
  · rw [hdecode] at h
    cases h
    exact ⟨rfl, (decodeJid_eq_some hdecode).1, inverse_empty, AList.lookup_empty 0, rfl⟩

/-- No name belongs to a handle of zero. -/
theorem Consistent.getD_eq_zero (h : Consistent inspect tube) :
    (tube.dbusNameToHandle.lookup name).getD 0 = 0 ↔ tube.dbusNameToHandle.lookup name = none := by
  rcases hlookup : tube.dbusNameToHandle.lookup name with _ | handle
  · exact iff_of_true rfl rfl
  · refine iff_of_false ?_ fun hno => nomatch hno
    rintro rfl
    have hzero := (h.inverse 0 name).mpr hlookup
    rw [h.nonzero] at hzero
    cases hzero

/-- **Adding a name.**  Nothing happens, or a handle and a name that were both
free are put into the tables. -/
theorem addName_cases (sha1 : Bytes → Bytes) (name : Bytes) (h : Consistent inspect tube)
    (hoccupant : Occupant inspect tube.selfHandle handle) :
    addName sha1 inspect handle name tube = (false, tube) ∨
      (tube.dbusNames.lookup handle = none ∧ tube.dbusNameToHandle.lookup name = none ∧
        addName sha1 inspect handle name tube = (true, insertName handle name tube)) := by
  obtain ⟨nick, hnick⟩ := decodeJid_of_occupant hoccupant h.valid
  rw [addName, if_neg (not_not.mpr h.room), if_neg (not_not.mpr h.inverse.size_eq)]
  by_cases hhandle : tube.dbusNames.lookup handle = none
  · rw [if_neg (not_not.mpr hhandle)]
    by_cases hname : (tube.dbusNameToHandle.lookup name).getD 0 = 0
    · rw [if_neg (not_not.mpr hname), hnick]
      have hfree := h.getD_eq_zero.mp hname
      split
      · dsimp only
        split
        · exact .inl rfl
        · exact .inr ⟨hhandle, hfree, rfl⟩
      · exact .inr ⟨hhandle, hfree, rfl⟩
    · rw [if_pos hname]
      exact .inl rfl
  · rw [if_pos hhandle]
    exact .inl rfl

/-- **Removing a name.**  Nothing happens, or a handle and its name are taken out
of the tables. -/
theorem removeName_cases (handle : ℕ) (h : Consistent inspect tube) :
    (tube.dbusNames.lookup handle = none ∧ removeName handle tube = (false, tube)) ∨
      ∃ name, tube.dbusNames.lookup handle = some name ∧
        Inverse (eraseName handle name tube).dbusNames
          (eraseName handle name tube).dbusNameToHandle ∧
        removeName handle tube = (true, { eraseName handle name tube with
          signals := tube.signals ++ [⟨[], [handle]⟩] }) := by
  rw [removeName, if_neg (not_not.mpr h.room)]
  rcases hlookup : tube.dbusNames.lookup handle with _ | name
  · exact .inl ⟨rfl, rfl⟩
  · have hinverse : Inverse (eraseName handle name tube).dbusNames
        (eraseName handle name tube).dbusNameToHandle := h.inverse.erase hlookup
    refine .inr ⟨name, rfl, hinverse, ?_⟩
    dsimp only
    rw [if_neg (not_not.mpr hinverse.size_eq)]
    rfl

/-- Receiving a message looks at the tables and changes nothing but the queue. -/
structure SameNames (tube tube' : MucTube) : Prop where
  targetHandleType : tube'.targetHandleType = tube.targetHandleType
  selfHandle : tube'.selfHandle = tube.selfHandle
  dbusNames : tube'.dbusNames = tube.dbusNames
  dbusNameToHandle : tube'.dbusNameToHandle = tube.dbusNameToHandle
  aborted : tube'.aborted = tube.aborted

theorem SameNames.consistent (hsame : SameNames tube tube') (h : Consistent inspect tube) :
    Consistent inspect tube' := by
  obtain ⟨htype, hself, hnames, hhandles, haborted⟩ := hsame
  obtain ⟨hroom, hvalid, hinverse, hnonzero, halive⟩ := h
  exact ⟨htype.trans hroom, by rwa [hself], by rwa [hnames, hhandles], by rwa [hnames],
    haborted.trans halive⟩

theorem sameNames_deliver (data : Bytes) (msg : DBusMessage) (tube : MucTube) :
    SameNames tube (deliver data msg tube) := by
  rw [deliver]
  split
  · split <;> exact ⟨rfl, rfl, rfl, rfl, rfl⟩
  · exact ⟨rfl, rfl, rfl, rfl, rfl⟩

theorem sameNames_mucMessageReceived (sender : ℕ) (data : Bytes) (tube : MucTube) :
    SameNames tube (mucMessageReceived demarshal sender data tube) := by
  rw [mucMessageReceived]
  split
  · exact ⟨rfl, rfl, rfl, rfl, rfl⟩
  · split
    · split
      · exact sameNames_deliver data _ tube
      · exact ⟨rfl, rfl, rfl, rfl, rfl⟩
    · exact sameNames_deliver data _ tube

theorem sameNames_newConnection (tube : MucTube) : SameNames tube (newConnection tube) := by
  rw [newConnection]
  split <;> exact ⟨rfl, rfl, rfl, rfl, rfl⟩

theorem consistent_step {e : MucEvent} (h : Consistent inspect tube)
    (hstep : mucStep sha1 inspect demarshal tube e = some tube') : Consistent inspect tube' := by
  cases e with
  | addName handle name =>
    rw [mucStep] at hstep
    obtain ⟨hoccupant, hstep⟩ := Option.ite_none_right_eq_some.mp hstep
    cases hstep
    rcases addName_cases sha1 name h hoccupant with hkept | ⟨hhandle, hname, hadded⟩
    · rw [hkept]
      exact h
    · rw [hadded]
      refine ⟨h.room, h.valid, h.inverse.insert hhandle hname, ?_, h.alive⟩
      exact (AList.lookup_insert_ne hoccupant.1.symm).trans h.nonzero
  | removeName handle =>
    cases hstep
    rcases removeName_cases handle h with ⟨-, hkept⟩ | ⟨name, hname, hinverse, hremoved⟩
    · rw [hkept]
      exact h
    · rw [hremoved]
      refine ⟨h.room, h.valid, hinverse, ?_, h.alive⟩
      by_cases hzero : handle = 0
      · rw [hzero]
        exact AList.lookup_erase 0 _
      · exact (AList.lookup_erase_ne (Ne.symm hzero)).trans h.nonzero
  | messageReceived sender data =>
    cases hstep
    exact (sameNames_mucMessageReceived sender data tube).consistent h
  | newConnection =>
    cases hstep
    exact (sameNames_newConnection tube).consistent h
  | disconnected =>
    rw [mucStep] at hstep
    obtain ⟨-, hstep⟩ := Option.ite_none_right_eq_some.mp hstep
    cases hstep
    have hsame : SameNames tube { tube with dbusConn := false } := ⟨rfl, rfl, rfl, rfl, rfl⟩
    exact hsame.consistent h

theorem consistent_of_reachable {selfHandle : ℕ} {start : MucTube}
    (hnew : constructed sha1 inspect selfHandle = some start)
    (h : Reachable (mucStep sha1 inspect demarshal) anyEvent start tube) :
    Consistent inspect tube :=
  h.invariant (consistent_constructed hnew) fun _ _ _ h _ hstep => consistent_step h hstep

/-- **The two tables are inverse to each other.**  In every run of names that
room members announce and withdraw, a handle has a name exactly when the name
has the handle, and no assertion fails. -/
theorem names_inverse {selfHandle : ℕ} {start : MucTube}
    (hnew : constructed sha1 inspect selfHandle = some start)
    (h : Reachable (mucStep sha1 inspect demarshal) anyEvent start tube) :
    (∀ handle name, tube.dbusNames.lookup handle = some name ↔
      tube.dbusNameToHandle.lookup name = some handle) ∧ tube.aborted = false := by
  have hconsistent := consistent_of_reachable hnew h
  exact ⟨hconsistent.inverse, hconsistent.alive⟩

/-! ### Examples -/

/-- A room in which our handle is 1. -/
def sampleRoom (handle : ℕ) : Bytes :=
  ascii "room@host/" ++ [if handle = 1 then 109 else UInt8.ofNat (110 + handle)]

/-- A digest for nicks that are not longer than 186 bytes. -/
def sampleSha1 (_ : Bytes) : Bytes := []

/-- A name is claimed by two members; the first keeps it until it leaves. -/
def sampleNames : List MucEvent :=
  [.addName 1 (ascii ":2.bQAA"), .addName 2 (ascii ":1.5"), .addName 3 (ascii ":1.5"),
    .removeName 4, .addName 2 (ascii ":1.6"), .removeName 2, .addName 3 (ascii ":1.5")]

theorem names_inverse_sampleNames :
    ∃ start tube, constructed sampleSha1 sampleRoom 1 = some start ∧
      run (mucStep sampleSha1 sampleRoom fun _ => none) start sampleNames = some tube ∧
      size tube.dbusNames = 2 ∧ tube.dbusNames.lookup 3 = some (ascii ":1.5") ∧
      (∀ handle name, tube.dbusNames.lookup handle = some name ↔
        tube.dbusNameToHandle.lookup name = some handle) ∧ tube.aborted = false := by
  have hrun : ((constructed sampleSha1 sampleRoom 1).any fun start =>
      (run (mucStep sampleSha1 sampleRoom fun _ => none) start sampleNames).any fun tube =>
        decide (size tube.dbusNames = 2 ∧ tube.dbusNames.lookup 3 = some (ascii ":1.5"))) =
      true := by decide +kernel
  obtain ⟨start, hstart, hrun⟩ := (Option.any_eq_true _ _).mp hrun
  obtain ⟨tube, htube, hfacts⟩ := (Option.any_eq_true _ _).mp hrun
  obtain ⟨hsize, hthree⟩ := of_decide_eq_true hfacts
  have hreach := reachable_of_run sampleNames (admits_anyEvent sampleNames) htube
  exact ⟨start, tube, hstart, htube, hsize, hthree, names_inverse hstart hreach⟩

end TubeDbus
