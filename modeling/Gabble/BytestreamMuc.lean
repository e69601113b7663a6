/-
# Bytestreams in a room

The model of `bytestream-muc.c`: a pseudo in-band bytestream whose stanzas all
the members of a room see.  A message longer than `MAX_BLOCK_SIZE` is cut into
a first, some middle and a last part; the receiver keeps one unfinished message
for each sender.

The room gives every member the stanzas of each sender in the order they were
sent, mixed with those of the others in any way.  The main result is that what
is mixed comes apart again: for each sender exactly the messages it sent whole.
-/
import Gabble.BytestreamIbb
import Mathlib.Data.Set.Function

namespace Muc

open Base64
open Ibb (BytestreamState)

/-- `MAX_BLOCK_SIZE` -/
def maxBlockSize : ℕ := 1024 * 45

/-! ## Data -/

/-- The values of the attribute "frag". -/
inductive Frag : Type where
  | complete : Frag
  | first : Frag
  | middle : Frag
  | last : Frag
deriving DecidableEq

/-- A stanza as `send_data_to` builds it. -/
structure Message where
  dest : String
  groupchat : Bool
  sid : String
  frag : Option String
  content : Text
deriving DecidableEq

/-- A stanza as the room delivers it: with the room JID of its sender. -/
structure Stanza where
  source : String
  frag : Option String
  content : Text
deriving DecidableEq

/-- `GabbleBytestreamMucPrivate`.  The table of unfinished messages is a
function of the sender; what was signalled as "data-received" is in `out`. -/
structure State where
  state : BytestreamState
  peerJid : String
  streamId : String
  buffers : String → Option Bytes
  out : List (ℕ × Bytes)

/-- The attribute `send_data_to` sets for a kind of fragment. -/
def Frag.attribute : Frag → Option String
  | .complete => none
  | .first => some "first"
  | .middle => some "middle"
  | .last => some "last"

/-- The kind of fragment the receiver reads off the attribute. -/
def fragOf : Option String → Option Frag
  | none => some .complete
  | some "first" => some .first
  | some "middle" => some .middle
  | some "last" => some .last
  | some "complete" => some .complete
  | some _ => none

@[simp] theorem fragOf_attribute (frag : Frag) : fragOf frag.attribute = some frag := by
  cases frag <;> rfl

/-! ## Sending -/

/-- The fragment sent when `left` bytes are left and `count` stanzas went out. -/
def nextFrag (left count : ℕ) : Frag :=
  if left > maxBlockSize then
    if count = 0 then .first else .middle
  else
    if count = 0 then .complete else .last

/-- How many of the bytes that are left go into the next stanza. -/
def sendNow (left : ℕ) : ℕ :=
  if left > maxBlockSize then maxBlockSize else left

/-- The loop of `send_data_to`.  `taken n` says whether the connection takes
the stanza number `n`; the first refusal ends the message.  Every round sends
at least one byte, so that as many rounds as bytes are enough. -/
def sendLoop (build : Frag → Text → Message) (taken : ℕ → Bool) (str : Bytes) :
    ℕ → ℕ → ℕ → List Message × Bool
  | 0, _, _ => ([], true)
  | fuel + 1, sent, count =>
    if sent < str.length then
      let left := str.length - sent
      let msg := build (nextFrag left count) (encode ((str.drop sent).take (sendNow left)))
      if taken count then
        let rest := sendLoop build taken str fuel (sent + sendNow left) (count + 1)
        (msg :: rest.1, rest.2)
      else ([], false)
    else ([], true)

/-- `send_data_to`: the stanzas the connection took and the value returned. -/
def sendDataTo (s : State) (taken : ℕ → Bool) (dest : String) (groupchat : Bool)
    (str : Bytes) : List Message × Bool :=
  if s.state ≠ .opened then ([], false)
  else
    sendLoop (fun frag content => ⟨dest, groupchat, s.streamId, frag.attribute, content⟩)
      taken str str.length 0 0

/-- `gabble_bytestream_muc_send` -/
def send (s : State) (taken : ℕ → Bool) (str : Bytes) : List Message × Bool :=
  sendDataTo s taken s.peerJid true str

/-! ## Receiving -/

/-- The signal "data-received". -/
def dataReceived (s : State) (sender : ℕ) (str : Bytes) : State :=
  { s with out := s.out ++ [(sender, str)] }

def setBuffer (s : State) (source : String) (buffer : Option Bytes) : State :=
  { s with buffers := Function.update s.buffers source buffer }

/-- `gabble_bytestream_muc_receive`; `lookup` is `tp_handle_lookup`, which gives
0 for a contact it does not know. -/
def receive (lookup : String → ℕ) (s : State) (msg : Stanza) : State :=
  if s.state ≠ .opened then s
  else if lookup msg.source = 0 then s
  else
    match fragOf msg.frag with
    | none => s
    | some .complete =>
      -- an unfinished message of this sender is dropped
      dataReceived (setBuffer s msg.source none) (lookup msg.source) (decode msg.content)
    | some .first => setBuffer s msg.source (some (decode msg.content))
    | some .middle =>
      match s.buffers msg.source with
      | none => s
      | some buffer => setBuffer s msg.source (some (buffer ++ decode msg.content))
    | some .last =>
      match s.buffers msg.source with
      | none => s
      | some buffer =>
        dataReceived (setBuffer s msg.source none) (lookup msg.source)
          (buffer ++ decode msg.content)

/-! ## One sender -/

/-- What a fragment does to the unfinished message of its sender, and the
messages it completes. -/
def accept (buffer : Option Bytes) : Frag → Bytes → Option Bytes × List Bytes
  | .complete, str => (none, [str])
  | .first, str => (some str, [])
  | .middle, str => (buffer.map (· ++ str), [])
  | .last, str => (none, (buffer.map (· ++ str)).toList)

/-- The same for a stanza, which may have no valid attribute. -/
def acceptStanza (buffer : Option Bytes) (msg : Stanza) : Option Bytes × List Bytes :=
  match fragOf msg.frag with
  | none => (buffer, [])
  | some frag => accept buffer frag (decode msg.content)

/-- The messages a list of stanzas of one sender completes. -/
def reassemble : Option Bytes → List Stanza → List Bytes
  | _, [] => []
  | buffer, msg :: msgs =>
    (acceptStanza buffer msg).2 ++ reassemble (acceptStanza buffer msg).1 msgs

/-- The unfinished message after a list of stanzas. -/
def unfinished : Option Bytes → List Stanza → Option Bytes
  | buffer, [] => buffer
  | buffer, msg :: msgs => unfinished (acceptStanza buffer msg).1 msgs

theorem reassemble_append (buffer : Option Bytes) (xs ys : List Stanza) :
    reassemble buffer (xs ++ ys) =
      reassemble buffer xs ++ reassemble (unfinished buffer xs) ys := by
  induction xs generalizing buffer with
  | nil => rfl
  | cons x xs ih => rw [List.cons_append, reassemble, ih, reassemble, unfinished, List.append_assoc]

/-- **What one stanza does**: it changes the unfinished message of its own
sender and signals under its own handle. -/
theorem receive_eq (lookup : String → ℕ) (s : State) (msg : Stanza) (hopen : s.state = .opened)
    (hknown : lookup msg.source ≠ 0) :
    receive lookup s msg =
      { s with
        buffers := Function.update s.buffers msg.source
          (acceptStanza (s.buffers msg.source) msg).1
        out := s.out ++
          (acceptStanza (s.buffers msg.source) msg).2.map (lookup msg.source, ·) } := by
  have hsame :
      { s with buffers := Function.update s.buffers msg.source (s.buffers msg.source) } = s := by
    rw [Function.update_eq_self]
  rw [receive, if_neg (not_not.mpr hopen), if_neg hknown, acceptStanza]
  rcases hfrag : fragOf msg.frag with _ | frag
  · simp
  · cases frag with
    | complete => rfl
    | first => simp [accept, setBuffer]
    | middle =>
      rcases hbuffer : s.buffers msg.source with _ | buffer
      · rw [hbuffer] at hsame
        simpa [accept] using hsame.symm
      · simp [accept, setBuffer]
    | last =>
      rcases hbuffer : s.buffers msg.source with _ | buffer
      · rw [hbuffer] at hsame
        simpa [accept] using hsame.symm
      · simp [accept, setBuffer, dataReceived]

/-! ## The fragments of one message -/

/-- The stanza the room makes of a message. -/
def reflect (source : String) (msg : Message) : Stanza := ⟨source, msg.frag, msg.content⟩

theorem acceptStanza_reflect (source : String) (dest : String) (groupchat : Bool) (sid : String)
    (frag : Frag) (str : Bytes) (buffer : Option Bytes) :
    acceptStanza buffer (reflect source ⟨dest, groupchat, sid, frag.attribute, encode str⟩) =
      accept buffer frag str := by
  rw [acceptStanza, reflect, fragOf_attribute, decode_encode]

section Loop

variable (source dest : String) (groupchat : Bool) (sid : String) (taken : ℕ → Bool) (str : Bytes)

/-- The rest of a message that was begun: the loop either completes it or is
cut off and completes nothing. -/
theorem reassemble_sendLoop (fuel : ℕ) :
    ∀ sent count, 0 < count → sent < str.length → str.length ≤ sent + fuel →
      reassemble (some (str.take sent))
          ((sendLoop (fun frag content => ⟨dest, groupchat, sid, frag.attribute, content⟩)
            taken str fuel sent count).1.map (reflect source)) =
        if (sendLoop (fun frag content => ⟨dest, groupchat, sid, frag.attribute, content⟩)
            taken str fuel sent count).2 then [str] else [] := by
  induction fuel with
  | zero =>
    intro sent count _ hsent hfuel
    omega
  | succ fuel ih =>
    intro sent count hcount hsent hfuel
    rw [sendLoop, if_pos hsent]
    cases taken count with
    | false => rfl
    | true =>
      rw [if_pos rfl, List.map_cons, reassemble, acceptStanza_reflect]
      by_cases hleft : str.length - sent > maxBlockSize
      · -- a middle part: the message goes on
        have hnow : sendNow (str.length - sent) = maxBlockSize := if_pos hleft
        have hfrag : nextFrag (str.length - sent) count = .middle := by
          rw [nextFrag, if_pos hleft, if_neg (by omega)]
        have hpos : 0 < maxBlockSize := by decide
        rw [hfrag, hnow, accept, Option.map_some, List.nil_append, ← List.take_add]
        exact ih (sent + maxBlockSize) (count + 1) (by omega) (by omega) (by omega)
      · -- the last part: nothing is left after it
        have hnow : sendNow (str.length - sent) = str.length - sent := if_neg hleft
        have hfrag : nextFrag (str.length - sent) count = .last := by
          rw [nextFrag, if_neg hleft, if_neg (by omega)]
        have hdone : sendLoop (fun frag content =>
            ⟨dest, groupchat, sid, frag.attribute, content⟩) taken str fuel
            (sent + (str.length - sent)) (count + 1) = ([], true) := by
          cases fuel with
          | zero => rfl
          | succ fuel => rw [sendLoop, if_neg (by omega)]
        have hwhole : str.take sent ++ (str.drop sent).take (str.length - sent) = str := by
          rw [← List.take_add, List.take_of_length_le (by omega)]
        rw [hfrag, hnow, hdone, accept, Option.map_some, hwhole]
        rfl

end Loop

/-- **One message.**  Whatever was unfinished before it, the stanzas of a call
complete its message when the call succeeds and nothing when it fails. -/
theorem reassemble_send (source : String) (s : State) (taken : ℕ → Bool) (str : Bytes)
    (hstr : str ≠ []) (buffer : Option Bytes) :
    reassemble buffer ((send s taken str).1.map (reflect source)) =
      if (send s taken str).2 then [str] else [] := by
  have hlen : 0 < str.length := List.length_pos_iff.mpr hstr
  rw [send, sendDataTo]
  by_cases hopen : s.state = .opened
  swap
  · rw [if_pos hopen]
    rfl
  rw [if_neg (not_not.mpr hopen)]
  obtain ⟨fuel, hfuel⟩ : ∃ fuel, str.length = fuel + 1 := ⟨str.length - 1, by omega⟩
  rw [hfuel, sendLoop, if_pos hlen]
  cases taken 0 with
  | false => rfl
  | true =>
    rw [if_pos rfl, List.map_cons, reassemble, acceptStanza_reflect, List.drop_zero,
      Nat.sub_zero, Nat.zero_add]
    by_cases hleft : str.length > maxBlockSize
    · have hnow : sendNow str.length = maxBlockSize := if_pos hleft
      have hfrag : nextFrag str.length 0 = .first := by
        rw [nextFrag, if_pos hleft, if_pos rfl]
      have hpos : 0 < maxBlockSize := by decide
      rw [hfrag, hnow, accept, List.nil_append]
      exact reassemble_sendLoop source s.peerJid true s.streamId taken str fuel maxBlockSize 1
        (by omega) hleft (by omega)
    · have hnow : sendNow str.length = str.length := if_neg hleft
      have hfrag : nextFrag str.length 0 = .complete := by
        rw [nextFrag, if_neg hleft, if_pos rfl]
      have hdone : ∀ build, sendLoop build taken str fuel str.length 1 = ([], true) := by
        intro build
        cases fuel with
        | zero => rfl
        | succ fuel => rw [sendLoop, if_neg (by omega)]
      rw [hfrag, hnow, hdone, accept, List.take_of_length_le (Nat.le_refl _)]
      rfl

/-! ## All the messages of one sender -/

/-- A call of `gabble_bytestream_muc_send`: the sender's bytestream when it is
made, the message, and which of its stanzas the connection takes. -/
structure Call where
  stream : State
  str : Bytes
  taken : ℕ → Bool

/-- The call returned `TRUE`. -/
def Call.completes (c : Call) : Bool := (send c.stream c.taken c.str).2

/-- The stanzas the room has of a sender that made these calls. -/
def stanzasOf (source : String) (calls : List Call) : List Stanza :=
  calls.flatMap fun c => (send c.stream c.taken c.str).1.map (reflect source)

/-- The messages a sender completed. -/
def completed (calls : List Call) : List Bytes := (calls.filter Call.completes).map Call.str

theorem reassemble_stanzasOf (source : String) (calls : List Call)
    (hstr : ∀ c ∈ calls, c.str ≠ []) (buffer : Option Bytes) :
    reassemble buffer (stanzasOf source calls) = completed calls := by
  induction calls generalizing buffer with
  | nil => rfl
  | cons c calls ih =>
    have hhead := reassemble_send source c.stream c.taken c.str (hstr c (by simp)) buffer
    have hcut : stanzasOf source (c :: calls) =
        (send c.stream c.taken c.str).1.map (reflect source) ++ stanzasOf source calls :=
      List.flatMap_cons
    rw [hcut, reassemble_append, hhead, ih fun d hd => hstr d (List.mem_cons_of_mem _ hd),
      completed, completed, List.filter_cons]
    change (if c.completes then [c.str] else []) ++ _ = _
    cases c.completes <;> rfl

/-! ## Many senders -/

/-- The messages signalled under a handle. -/
def signalled (sender : ℕ) (out : List (ℕ × Bytes)) : List Bytes :=
  (out.filter (·.1 = sender)).map (·.2)

theorem signalled_append (sender : ℕ) (xs ys : List (ℕ × Bytes)) :
    signalled sender (xs ++ ys) = signalled sender xs ++ signalled sender ys := by
  rw [signalled, List.filter_append, List.map_append, signalled, signalled]

theorem signalled_map_self (sender : ℕ) (strs : List Bytes) :
    signalled sender (strs.map (sender, ·)) = strs := by
  induction strs with
  | nil => rfl
  | cons str strs ih =>
    rw [signalled] at ih ⊢
    rw [List.map_cons, List.filter_cons_of_pos (by simp), List.map_cons, ih]

theorem signalled_map_other {sender other : ℕ} (h : other ≠ sender) (strs : List Bytes) :
    signalled sender (strs.map (other, ·)) = [] := by
  rw [signalled, List.map_eq_nil_iff, List.filter_eq_nil_iff]
  intro entry hentry
  obtain ⟨str, _, rfl⟩ := List.mem_map.mp hentry
  simpa using h

section Room

variable (lookup : String → ℕ) (members : Set String)

/-- The stanzas of one sender come apart from those of the others: what is
signalled under its handle depends on them alone. -/
theorem signalled_foldl_receive (hknown : ∀ j ∈ members, lookup j ≠ 0)
    (hinj : Set.InjOn lookup members) {j : String} (hj : j ∈ members) (log : List Stanza)
    (hlog : ∀ m ∈ log, m.source ∈ members) (s : State) (hopen : s.state = .opened) :
    signalled (lookup j) (log.foldl (receive lookup) s).out =
      signalled (lookup j) s.out ++ reassemble (s.buffers j) (log.filter (·.source = j)) := by
  induction log generalizing s with
  | nil => rw [List.foldl_nil, List.filter_nil, reassemble, List.append_nil]
  | cons m log ih =>
    have hm : m.source ∈ members := hlog m (by simp)
    rw [List.foldl_cons, receive_eq lookup s m hopen (hknown _ hm)]
    refine (ih (fun m' hm' => hlog m' (List.mem_cons_of_mem _ hm')) _ ?_).trans ?_
    · exact hopen
    dsimp only
    rw [signalled_append]
    by_cases hsource : m.source = j
    · rw [List.filter_cons_of_pos (by simpa using hsource), reassemble, hsource,
        signalled_map_self, Function.update_self, List.append_assoc]
    · have hother : lookup m.source ≠ lookup j := fun h => hsource (hinj hm hj h)
      rw [List.filter_cons_of_neg (by simpa using hsource), signalled_map_other hother,
        List.append_nil, Function.update_of_ne (Ne.symm hsource)]

/-- Every signal is under the handle of a sender. -/
theorem mem_out_foldl_receive (log : List Stanza) (hlog : ∀ m ∈ log, m.source ∈ members)
    (hknown : ∀ j ∈ members, lookup j ≠ 0) (s : State) (hopen : s.state = .opened)
    (hout : ∀ entry ∈ s.out, ∃ j ∈ members, entry.1 = lookup j) :
    ∀ entry ∈ (log.foldl (receive lookup) s).out, ∃ j ∈ members, entry.1 = lookup j := by
  induction log generalizing s with
  | nil => exact hout
  | cons m log ih =>
    have hm : m.source ∈ members := hlog m (by simp)
    rw [List.foldl_cons, receive_eq lookup s m hopen (hknown _ hm)]
    refine ih (fun m' hm' => hlog m' (List.mem_cons_of_mem _ hm')) _ hopen ?_
    intro entry hentry
    rcases List.mem_append.mp hentry with h | h
    · exact hout entry h
    · obtain ⟨str, _, rfl⟩ := List.mem_map.mp h
      exact ⟨m.source, hm, rfl⟩

/-- A bytestream that has received nothing yet. -/
def State.new (state : BytestreamState) (peerJid streamId : String) : State :=
  ⟨state, peerJid, streamId, fun _ => none, []⟩

/-- **Reassembly in a room.**  However the stanzas of the senders are mixed,
the receiver signals for each sender the messages it completed, in order and
byte for byte, and signals nothing else; a message a sender gave up leaves no
trace. -/
theorem receive_interleaved (calls : String → List Call) (peerJid streamId : String)
    (log : List Stanza) (hknown : ∀ j ∈ members, lookup j ≠ 0)
    (hinj : Set.InjOn lookup members)
    (hstr : ∀ j ∈ members, ∀ c ∈ calls j, c.str ≠ [])
    (hlog : ∀ m ∈ log, m.source ∈ members)
    (horder : ∀ j ∈ members, log.filter (·.source = j) = stanzasOf j (calls j)) :
    (∀ j ∈ members,
      signalled (lookup j)
          (log.foldl (receive lookup) (State.new .opened peerJid streamId)).out =
        completed (calls j)) ∧
      ∀ entry ∈ (log.foldl (receive lookup) (State.new .opened peerJid streamId)).out,
        ∃ j ∈ members, entry.1 = lookup j := by
  constructor
  · intro j hj
    rw [signalled_foldl_receive lookup members hknown hinj hj log hlog _ rfl, horder j hj,
      reassemble_stanzasOf j (calls j) (hstr j hj)]
    rfl
  · exact mem_out_foldl_receive lookup members log hlog hknown _ rfl
      (fun entry hentry => absurd hentry (List.not_mem_nil))

end Room

theorem filter_stanzasOf_self (j : String) (calls : List Call) :
    (stanzasOf j calls).filter (·.source = j) = stanzasOf j calls := by
  rw [List.filter_eq_self]
  intro m hm
  obtain ⟨c, _, hm⟩ := List.mem_flatMap.mp hm
  obtain ⟨msg, _, rfl⟩ := List.mem_map.mp hm
  simp [reflect]

theorem filter_stanzasOf_other {i j : String} (hij : j ≠ i) (calls : List Call) :
    (stanzasOf j calls).filter (·.source = i) = [] := by
  rw [List.filter_eq_nil_iff]
  intro m hm
  obtain ⟨c, _, hm⟩ := List.mem_flatMap.mp hm
  obtain ⟨msg, _, rfl⟩ := List.mem_map.mp hm
  simp [reflect, hij]

theorem source_of_mem_stanzasOf {j : String} {calls : List Call} {m : Stanza}
    (hm : m ∈ stanzasOf j calls) : m.source = j := by
  obtain ⟨c, _, hm⟩ := List.mem_flatMap.mp hm
  obtain ⟨msg, _, rfl⟩ := List.mem_map.mp hm
  rfl

/-- A message of more than one block is given up when the connection refuses
its second stanza. -/
theorem not_completes_of_refused {c : Call} (hlen : maxBlockSize < c.str.length)
    (hrefused : c.taken 1 = false) : c.completes = false := by
  have hpos : 0 < maxBlockSize := by decide
  obtain ⟨fuel, hfuel⟩ : ∃ fuel, c.str.length = fuel + 1 + 1 := ⟨c.str.length - 2, by omega⟩
  have hnow : sendNow c.str.length = maxBlockSize := if_pos hlen
  rw [Call.completes, send, sendDataTo]
  by_cases hopen : c.stream.state = .opened
  · rw [if_neg (not_not.mpr hopen), hfuel, sendLoop, if_pos (by omega), Nat.sub_zero]
    dsimp only
    rw [hnow]
    cases c.taken 0 with
    | false => rfl
    | true =>
      rw [if_pos rfl, sendLoop, if_pos (by omega), Nat.zero_add, if_neg (by simp [hrefused])]
  · rw [if_pos hopen]

/-- A message of two blocks whose second stanza the connection refuses. -/
def abandonedCall : Call :=
  ⟨State.new .opened "room" "sid", List.replicate (2 * maxBlockSize) 7, fun n => n = 0⟩

def shortCall : Call := ⟨State.new .opened "room" "sid", [1, 2, 3], fun _ => true⟩

/-- The calls of two members of a room. -/
def roomCalls (j : String) : List Call :=
  if j = "ann" then [abandonedCall, shortCall] else [shortCall]

def roomLookup (j : String) : ℕ := if j = "ann" then 1 else if j = "bob" then 2 else 0

/-- The short message of one member arrives between the abandoned message and
the short message of another. -/
def roomLog : List Stanza :=
  stanzasOf "ann" [abandonedCall] ++ (stanzasOf "bob" [shortCall] ++ stanzasOf "ann" [shortCall])

theorem length_abandonedCall : abandonedCall.str.length = 2 * maxBlockSize :=
  List.length_replicate

theorem receive_interleaved_room :
    (∀ j ∈ ({"ann", "bob"} : Set String),
      signalled (roomLookup j)
          (roomLog.foldl (receive roomLookup) (State.new .opened "room" "sid")).out =
        completed (roomCalls j)) ∧
      completed (roomCalls "ann") = [[1, 2, 3]] := by
  have hne : ("bob" : String) ≠ "ann" := by decide
  refine ⟨(receive_interleaved roomLookup {"ann", "bob"} roomCalls "room" "sid" roomLog
    ?_ ?_ ?_ ?_ ?_).1, ?_⟩
  · rintro j (rfl | rfl) <;> decide
  · rintro i (rfl | rfl) j (rfl | rfl) <;> decide
  · rintro j (rfl | rfl) c hc
    · rcases List.mem_pair.mp hc with rfl | rfl
      · exact List.ne_nil_of_length_pos (by rw [length_abandonedCall]; decide)
      · decide
    · rw [roomCalls, if_neg hne, List.mem_singleton] at hc
      subst hc
      decide
  · intro m hm
    rcases List.mem_append.mp hm with h | h
    · exact .inl (source_of_mem_stanzasOf h)
    · rcases List.mem_append.mp h with h | h
      · exact .inr (source_of_mem_stanzasOf h)
      · exact .inl (source_of_mem_stanzasOf h)
  · rintro j (rfl | rfl)
    · rw [roomLog, List.filter_append, List.filter_append, filter_stanzasOf_self,
        filter_stanzasOf_self, filter_stanzasOf_other hne, List.nil_append, stanzasOf, stanzasOf,
        ← List.flatMap_append]
      rfl
    · rw [roomLog, List.filter_append, List.filter_append, filter_stanzasOf_self,
        filter_stanzasOf_other hne.symm, filter_stanzasOf_other hne.symm, List.nil_append,
        List.append_nil]
      rfl
  · have habandoned : abandonedCall.completes = false :=
      not_completes_of_refused (by rw [length_abandonedCall]; decide) rfl
    have hshort : shortCall.completes = true := by rfl
    rw [roomCalls, if_pos rfl, completed, List.filter_cons_of_neg (by simp [habandoned]),
      List.filter_cons_of_pos hshort]
    rfl

end Muc
