/-
# The bytestream factory

The part of `bytestream-factory.c` that owns the bytestreams.  There is a table for
each kind, and a bytestream is in it under the jid of the peer and the id of the
stream until it is `CLOSED`.  The id of a stream that the peer initiates is the
peer's choice.

A bytestream has a number; it is an object that is there as long as a table or
somebody else has a reference to it.  What a bytestream does is known to the factory
by its state alone, which others change in any order.
-/
import Mathlib.Logic.Function.Basic
import Gabble.Base64
import Gabble.BytestreamIbb
import Gabble.Transition

namespace Factory

open Base64 (Bytes)
open Ibb (BytestreamState)
open Transition

/-! ## Data -/

/-- The kinds of bytestreams, each with a table of its own. -/
inductive Kind : Type where
  | ibb : Kind
  | socks5 : Kind
  | muc : Kind
  | multiple : Kind
deriving DecidableEq

/-- `BytestreamIdentifier` -/
structure Ident where
  jid : Bytes
  stream : Bytes
deriving DecidableEq

/-- A bytestream, as far as the factory is concerned. -/
structure Bytestream where
  kind : Kind
  ident : Ident
  state : BytestreamState
  /-- how many references others than the factory have -/
  refs : ℕ
  /-- some data is not sent yet, and closing waits for it -/
  unsent : Bool
deriving DecidableEq

/-- An entry leaves its table because a bytestream is closed. -/
structure Removal where
  closed : ℕ
  entry : ℕ
deriving DecidableEq

structure State where
  bytestreams : ℕ → Option Bytestream
  next : ℕ
  table : Kind → Ident → Option ℕ
  removals : List Removal

/-- A new factory. -/
def State.new : State where
  bytestreams := fun _ => none
  next := 0
  table := fun _ _ => none
  removals := []

def setBytestream (id : ℕ) (b : Option Bytestream) (s : State) : State :=
  { s with bytestreams := Function.update s.bytestreams id b }

def setEntry (kind : Kind) (ident : Ident) (entry : Option ℕ) (s : State) : State :=
  { s with table := Function.update s.table kind (Function.update (s.table kind) ident entry) }

/-! ## Removing bytestreams -/

/-- A reference of the factory goes; the bytestream is destroyed if it was the last
one. -/
def unrefWith (destroy : ℕ → State → State) (id : ℕ) (s : State) : State :=
  match s.bytestreams id with
  | none => s
  | some b => if b.refs = 0 then destroy id s else s

/-- `remove_bytestream`: what is in the table under the key of the bytestream. -/
def removeBytestreamWith (destroy : ℕ → State → State) (id : ℕ) (b : Bytestream) (s : State) :
    State :=
  match s.table b.kind b.ident with
  | none => s
  | some entry =>
    let s := setEntry b.kind b.ident none s
    unrefWith destroy entry { s with removals := s.removals ++ [⟨id, entry⟩] }

/-- Whether closing a bytestream ends in `CLOSED` at once. -/
def Bytestream.closesAtOnce (b : Bytestream) : Bool :=
  b.state ≠ .closed && (b.kind = .muc || b.state = .localPending || !b.unsent)

/-- The last reference to a bytestream goes: it is closed, which may remove another
one from its table, and it is not there any more.  What is removed has the same key,
so that this happens at most once more. -/
def destroy : ℕ → ℕ → State → State
  | 0, id, s => setBytestream id none s
  | rounds + 1, id, s =>
    match s.bytestreams id with
    | none => s
    | some b =>
      let s :=
        if b.closesAtOnce then
          removeBytestreamWith (destroy rounds) id b
            (setBytestream id (some { b with state := .closed }) s)
        else s
      setBytestream id none s

/-- `g_object_unref` by the factory. -/
def unref (id : ℕ) (s : State) : State := unrefWith (destroy 2) id s

/-- `remove_bytestream` -/
def removeBytestream (id : ℕ) (b : Bytestream) (s : State) : State :=
  removeBytestreamWith (destroy 2) id b s

/-! ## Creating bytestreams -/

/-- `g_hash_table_insert`, which drops what was in the table under the key. -/
def insert (id : ℕ) (kind : Kind) (ident : Ident) (s : State) : State :=
  match s.table kind ident with
  | none => setEntry kind ident (some id) s
  | some old => unref old (setEntry kind ident (some id) s)

/-- The four functions that create a bytestream of some kind. -/
def create (kind : Kind) (ident : Ident) (state : BytestreamState) (s : State) : State :=
  insert s.next kind ident
    { setBytestream s.next (some ⟨kind, ident, state, 0, false⟩) s with next := s.next + 1 }

/-- `gabble_bytestream_factory_create_ibb` -/
def createIbb (ident : Ident) (state : BytestreamState) (s : State) : State :=
  create .ibb ident state s

/-- `gabble_bytestream_factory_create_muc` -/
def createMuc (ident : Ident) (state : BytestreamState) (s : State) : State :=
  create .muc ident state s

/-- `gabble_bytestream_factory_create_socks5` -/
def createSocks5 (ident : Ident) (state : BytestreamState) (s : State) : State :=
  create .socks5 ident state s

/-- `gabble_bytestream_factory_create_multiple` -/
def createMultiple (ident : Ident) (state : BytestreamState) (s : State) : State :=
  create .multiple ident state s

/-- `bytestream_state_changed_cb`, when a bytestream changes its state. -/
def stateChanged (id : ℕ) (b : Bytestream) (state : BytestreamState) (s : State) : State :=
  if b.state = state then s
  else
    let s := setBytestream id (some { b with state := state }) s
    if state = .closed then removeBytestream id b s else s

/-- The end of `streaminit_reply_cb` for a stream that cannot be initiated. -/
def initiateFailed (id : ℕ) (b : Bytestream) (s : State) : State := removeBytestream id b s

/-! ## Steps -/

/-- What can happen. -/
inductive Event : Type where
  | createIbb (ident : Ident) (state : BytestreamState) : Event
  | createMuc (ident : Ident) (state : BytestreamState) : Event
  | createSocks5 (ident : Ident) (state : BytestreamState) : Event
  | createMultiple (ident : Ident) (state : BytestreamState) : Event
  | stateChanged (id : ℕ) (state : BytestreamState) : Event
  | initiateFailed (id : ℕ) : Event
  /-- somebody takes a reference, or gives one back -/
  | ref (id : ℕ) : Event
  | unref (id : ℕ) : Event
  | unsentChanged (id : ℕ) (unsent : Bool) : Event
deriving DecidableEq

/-- The table and the key a creation is about. -/
def Event.creates : Event → Option (Kind × Ident)
  | .createIbb ident _ => some (.ibb, ident)
  | .createMuc ident _ => some (.muc, ident)
  | .createSocks5 ident _ => some (.socks5, ident)
  | .createMultiple ident _ => some (.multiple, ident)
  | _ => none

/-- A bytestream that nobody else has a reference to. -/
def isNew (b : Bytestream) : Bool := b.refs = 0 && b.state = .initiating

/-- The last reference, and no table has the bytestream. -/
def isLast (id : ℕ) (b : Bytestream) (s : State) : Bool :=
  b.refs = 1 && s.table b.kind b.ident ≠ some id

/-- One event.  Nobody creates a bytestream that is `CLOSED`. -/
def step (s : State) : Event → Option State
  | .createIbb ident state => if state ≠ .closed then some (createIbb ident state s) else none
  | .createMuc ident state => if state ≠ .closed then some (createMuc ident state s) else none
  | .createSocks5 ident state =>
    if state ≠ .closed then some (createSocks5 ident state s) else none
  | .createMultiple ident state =>
    if state ≠ .closed then some (createMultiple ident state s) else none
  | .stateChanged id state => (s.bytestreams id).map fun b => stateChanged id b state s
  | .initiateFailed id =>
    (s.bytestreams id).bind fun b => if isNew b then some (initiateFailed id b s) else none
  | .ref id =>
    (s.bytestreams id).map fun b => setBytestream id (some { b with refs := b.refs + 1 }) s
  | .unref id =>
    (s.bytestreams id).bind fun b =>
      if b.refs = 0 then none
      else
        let s' := setBytestream id (some { b with refs := b.refs - 1 }) s
        some (if isLast id b s then destroy 2 id s' else s')
  | .unsentChanged id unsent =>
    (s.bytestreams id).map fun b => setBytestream id (some { b with unsent := unsent }) s

/-! ## Whose entry it is -/

/-- A bytestream that is not `CLOSED` is in its table. -/
def Found (s : State) : Prop :=
  ∀ id b, s.bytestreams id = some b → b.state ≠ .closed → s.table b.kind b.ident = some id

/-- Closing a bytestream has never removed another one from its table. -/
def OwnEntries (s : State) : Prop := ∀ r ∈ s.removals, r.entry = r.closed

/-- The bytestream an entry is for goes when the entry is dropped, and is not closed
then: nobody else has it, and it waits with closing until its data is sent. -/
def goesUnclosed (s : State) (id : ℕ) : Bool :=
  (s.bytestreams id).any fun b => b.refs = 0 && !b.closesAtOnce

/-- The condition on one event: the key of a bytestream that is created is not in use,
or only for one that goes unclosed; and one that is `CLOSED` stays so. -/
def Within (s : State) : Event → Prop
  | .stateChanged id state => ∀ b ∈ s.bytestreams id, b.state = .closed → state = .closed
  | e => ∀ key ∈ e.creates, ∀ old ∈ s.table key.1 key.2, goesUnclosed s old

instance (s : State) : (e : Event) → Decidable (Within s e)
  | .stateChanged id _ => inferInstanceAs (Decidable (∀ b ∈ s.bytestreams id, _ → _))
  | .createIbb ident _ =>
    inferInstanceAs (Decidable (∀ key ∈ some (Kind.ibb, ident), ∀ old ∈ s.table key.1 key.2, _))
  | .createMuc ident _ =>
    inferInstanceAs (Decidable (∀ key ∈ some (Kind.muc, ident), ∀ old ∈ s.table key.1 key.2, _))
  | .createSocks5 ident _ =>
    inferInstanceAs
      (Decidable (∀ key ∈ some (Kind.socks5, ident), ∀ old ∈ s.table key.1 key.2, _))
  | .createMultiple ident _ =>
    inferInstanceAs
      (Decidable (∀ key ∈ some (Kind.multiple, ident), ∀ old ∈ s.table key.1 key.2, _))
  | .initiateFailed _ => .isTrue fun _ h => nomatch h
  | .ref _ => .isTrue fun _ h => nomatch h
  | .unref _ => .isTrue fun _ h => nomatch h
  | .unsentChanged _ _ => .isTrue fun _ h => nomatch h

end Factory
