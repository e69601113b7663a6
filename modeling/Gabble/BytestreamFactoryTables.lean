/-
# Every open bytestream is in its table

The factory finds its bytestreams by their keys, and takes them out by their keys as
well.  Both are right as long as no two open bytestreams of a kind have the same key;
the peer can see to it that two have.
-/
import Gabble.BytestreamFactory

namespace Factory

open Ibb (BytestreamState)
open Transition

variable {s s' : State} {id : ℕ} {b : Bytestream}
variable {kind : Kind} {ident : Ident} {state : BytestreamState}

/-! ## Reading a changed state -/

theorem bytestreams_setBytestream (o : Option Bytestream) (other : ℕ) :
    (setBytestream id o s).bytestreams other = if other = id then o else s.bytestreams other :=
  Function.update_apply ..

@[simp] theorem table_setBytestream (o : Option Bytestream) :
    (setBytestream id o s).table = s.table := rfl

@[simp] theorem removals_setBytestream (o : Option Bytestream) :
    (setBytestream id o s).removals = s.removals := rfl

theorem table_setEntry (kind kind' : Kind) (ident ident' : Ident) (entry : Option ℕ) :
    (setEntry kind ident entry s).table kind' ident' =
      if kind' = kind ∧ ident' = ident then entry else s.table kind' ident' := by
  change Function.update s.table kind (Function.update (s.table kind) ident entry) kind' ident' = _
  by_cases hkind : kind' = kind
  · subst hkind
    simp [Function.update_apply]
  · simp [hkind]

@[simp] theorem bytestreams_setEntry (kind : Kind) (ident : Ident) (entry : Option ℕ) :
    (setEntry kind ident entry s).bytestreams = s.bytestreams := rfl

/-! ## What holds of the tables -/

/-- The tables and the open bytestreams are the same, and no bytestream has a number
that comes later. -/
structure Inv (s : State) : Prop where
  entry : ∀ kind ident id, s.table kind ident = some id →
    ∃ b, s.bytestreams id = some b ∧ b.kind = kind ∧ b.ident = ident ∧ b.state ≠ .closed
  found : Found s
  own : OwnEntries s
  unused : ∀ id, s.next ≤ id → s.bytestreams id = none

theorem inv_new : Inv .new where
  entry _ _ _ h := nomatch h
  found _ _ h := nomatch h
  own _ h := nomatch h
  unused _ _ := rfl

theorem Inv.lt_next (h : Inv s) (hb : s.bytestreams id = some b) : id < s.next := by
  by_contra hlt
  rw [h.unused id (not_lt.mp hlt)] at hb
  cases hb

/-- A bytestream that stays open, or stays closed, stays where it is. -/
theorem Inv.keep (h : Inv s) (hb : s.bytestreams id = some b) (b' : Bytestream)
    (hkind : b'.kind = b.kind) (hident : b'.ident = b.ident)
    (hclosed : b'.state = .closed ↔ b.state = .closed) :
    Inv (setBytestream id (some b') s) where
  entry kind ident other htable := by
    rw [bytestreams_setBytestream]
    obtain ⟨c, hc, hk, hi, hopen⟩ := h.entry kind ident other htable
    by_cases heq : other = id
    · subst heq
      rw [hb] at hc
      cases hc
      exact ⟨b', if_pos rfl, hkind.trans hk, hident.trans hi, mt hclosed.mp hopen⟩
    · exact ⟨c, (if_neg heq).trans hc, hk, hi, hopen⟩
  found other c hc hopen := by
    rw [bytestreams_setBytestream] at hc
    by_cases heq : other = id
    · subst heq
      rw [if_pos rfl] at hc
      cases hc
      rw [table_setBytestream, hkind, hident]
      exact h.found other b hb (mt hclosed.mpr hopen)
    · rw [if_neg heq] at hc
      exact h.found other c hc hopen
  own := h.own
  unused other hle := by
    rw [bytestreams_setBytestream, if_neg (Nat.ne_of_gt (lt_of_lt_of_le (h.lt_next hb) hle))]
    exact h.unused other hle

/-- A closed bytestream can go. -/
theorem Inv.dropClosed (h : Inv s) (hb : s.bytestreams id = some b) (hclosed : b.state = .closed) :
    Inv (setBytestream id none s) where
  entry kind ident other htable := by
    obtain ⟨c, hc, hk, hi, hopen⟩ := h.entry kind ident other htable
    have hne : other ≠ id := by
      rintro rfl
      rw [hb] at hc
      cases hc
      exact hopen hclosed
    exact ⟨c, by rw [bytestreams_setBytestream, if_neg hne, hc], hk, hi, hopen⟩
  found other c hc hopen := by
    rw [bytestreams_setBytestream] at hc
    by_cases heq : other = id
    · rw [if_pos heq] at hc
      cases hc
    · rw [if_neg heq] at hc
      exact h.found other c hc hopen
  own := h.own
  unused other hle := by
    rw [bytestreams_setBytestream]
    split
    · rfl
    · exact h.unused other hle

/-- An open bytestream goes with its entry, or is closed as it loses its entry. -/
theorem Inv.leave (h : Inv s) (hb : s.bytestreams id = some b) (hopen : b.state ≠ .closed)
    (o : Option Bytestream) (ho : ∀ c ∈ o, c.state = .closed) :
    Inv (setEntry b.kind b.ident none (setBytestream id o s)) where
  entry kind ident other htable := by
    rw [table_setEntry] at htable
    split at htable
    next => cases htable
    next hkey =>
      obtain ⟨c, hc, hk, hi, hc'⟩ := h.entry kind ident other htable
      have hne : other ≠ id := by
        rintro rfl
        rw [hb] at hc
        cases hc
        exact hkey ⟨hk.symm, hi.symm⟩
      exact ⟨c, by rw [bytestreams_setEntry, bytestreams_setBytestream, if_neg hne, hc],
        hk, hi, hc'⟩
  found other c hc hc' := by
    rw [bytestreams_setEntry, bytestreams_setBytestream] at hc
    by_cases heq : other = id
    · rw [if_pos heq] at hc
      exact absurd (ho c hc) hc'
    · rw [if_neg heq] at hc
      have hfound := h.found other c hc hc'
      rw [table_setEntry, if_neg]
      · exact hfound
      · rintro ⟨hk, hi⟩
        rw [hk, hi, h.found id b hb hopen] at hfound
        cases hfound
        exact heq rfl
  own := h.own
  unused other hle := by
    have hne := Nat.ne_of_gt (lt_of_lt_of_le (h.lt_next hb) hle)
    rw [bytestreams_setEntry, bytestreams_setBytestream, if_neg hne]
    exact h.unused other hle

/-- A removal of the own entry is recorded. -/
theorem Inv.record (h : Inv s) (id : ℕ) :
    Inv { s with removals := s.removals ++ [⟨id, id⟩] } where
  entry := h.entry
  found := h.found
  own r hr := by
    rcases List.mem_append.mp hr with hr | hr
    · exact h.own r hr
    · rw [List.mem_singleton.mp hr]
  unused := h.unused

/-- A new bytestream with a key that is not in use. -/
theorem Inv.createNew (h : Inv s) (hfree : s.table kind ident = none) (hopen : state ≠ .closed) :
    Inv (setEntry kind ident (some s.next)
      { setBytestream s.next (some ⟨kind, ident, state, 0, false⟩) s with next := s.next + 1 }) where
  entry kind' ident' other htable := by
    rw [table_setEntry] at htable
    rw [bytestreams_setEntry, bytestreams_setBytestream]
    split at htable
    next hkey =>
      cases htable
      exact ⟨_, if_pos rfl, hkey.1.symm, hkey.2.symm, hopen⟩
    next =>
      obtain ⟨c, hc, hrest⟩ := h.entry kind' ident' other htable
      exact ⟨c, by rw [if_neg (Nat.ne_of_lt (h.lt_next hc)), hc], hrest⟩
  found other c hc hc' := by
    rw [bytestreams_setEntry, bytestreams_setBytestream] at hc
    rw [table_setEntry]
    by_cases heq : other = s.next
    · rw [if_pos heq] at hc
      cases hc
      rw [if_pos ⟨rfl, rfl⟩, heq]
    · rw [if_neg heq] at hc
      have hfound := h.found other c hc hc'
      rw [if_neg]
      · exact hfound
      · rintro ⟨hk, hi⟩
        rw [hk, hi, hfree] at hfound
        cases hfound
  own := h.own
  unused other hle := by
    have hlt : s.next < other := hle
    rw [bytestreams_setEntry, bytestreams_setBytestream, if_neg (Nat.ne_of_gt hlt)]
    exact h.unused other (Nat.le_of_lt hlt)

/-! ## Removing in a state of the tables -/

/-- A bytestream that is not closed as it goes just goes. -/
theorem destroy_of_unclosed (rounds : ℕ) (hb : s.bytestreams id = some b)
    (hquiet : b.closesAtOnce = false) : destroy (rounds + 1) id s = setBytestream id none s := by
  simp [destroy, hb, hquiet]

theorem setBytestream_twice (o o' : Option Bytestream) :
    setBytestream id o' (setBytestream id o s) = setBytestream id o' s := by
  simp only [setBytestream, Function.update_idem]

/-- Nor does one take anything with it whose key is not in use. -/
theorem destroy_of_free (rounds : ℕ) (hb : s.bytestreams id = some b)
    (hfree : s.table b.kind b.ident = none) :
    destroy (rounds + 1) id s = setBytestream id none s := by
  cases hquiet : b.closesAtOnce with
  | false => exact destroy_of_unclosed rounds hb hquiet
  | true =>
    have hremove (b' : Bytestream) :
        removeBytestreamWith (destroy rounds) id b (setBytestream id (some b') s) =
          setBytestream id (some b') s := by
      rw [removeBytestreamWith, table_setBytestream, hfree]
    simp only [destroy, hb, hquiet, if_true, hremove, setBytestream_twice]

theorem closesAtOnce_of_closed (hclosed : b.state = .closed) : b.closesAtOnce = false := by
  simp [Bytestream.closesAtOnce, hclosed]

/-- The removal of a bytestream that is the one in the table. -/
theorem removeBytestream_of_own (htable : s.table b.kind b.ident = some id) :
    removeBytestream id b s =
      unref id { setEntry b.kind b.ident none s with
        removals := s.removals ++ [⟨id, id⟩] } := by
  simp only [removeBytestream, removeBytestreamWith, htable, unref]
  rfl

/-- The factory drops its reference to a closed bytestream. -/
theorem Inv.unrefClosed (h : Inv s) (hb : s.bytestreams id = some b) (hclosed : b.state = .closed) :
    Inv (unref id s) := by
  rw [unref, unrefWith, hb]
  dsimp only
  split
  · rw [destroy_of_unclosed 1 hb (closesAtOnce_of_closed hclosed)]
    exact h.dropClosed hb hclosed
  · exact h

/-- A bytestream becomes `CLOSED`. -/
theorem Inv.close (h : Inv s) (hb : s.bytestreams id = some b) (hopen : b.state ≠ .closed) :
    Inv (removeBytestream id b (setBytestream id (some { b with state := .closed }) s)) := by
  have hleft := h.leave hb hopen (some { b with state := .closed })
    (by rintro c ⟨⟩; rfl)
  rw [@removeBytestream_of_own (setBytestream id (some { b with state := .closed }) s) id b
    (h.found id b hb hopen)]
  refine (hleft.record id).unrefClosed (b := { b with state := .closed }) ?_ rfl
  exact (bytestreams_setBytestream _ _).trans (if_pos rfl)

/-- A bytestream that could not be initiated is forgotten. -/
theorem Inv.initiateFailed (h : Inv s) (hb : s.bytestreams id = some b) (hnew : isNew b = true) :
    Inv (initiateFailed id b s) := by
  simp only [isNew, Bool.and_eq_true, decide_eq_true_eq] at hnew
  have hopen : b.state ≠ .closed := by
    rw [hnew.2]
    exact nofun
  have hleft := (h.leave hb hopen none nofun).record id
  rw [Factory.initiateFailed, removeBytestream_of_own (h.found id b hb hopen), unref, unrefWith]
  have hfree : (setEntry b.kind b.ident none s).table b.kind b.ident = none :=
    (table_setEntry ..).trans (if_pos ⟨rfl, rfl⟩)
  have hgone := @destroy_of_free
    { setEntry b.kind b.ident none s with removals := s.removals ++ [⟨id, id⟩] } id b 1 hb hfree
  rw [show ({ setEntry b.kind b.ident none s with
      removals := s.removals ++ [⟨id, id⟩] } : State).bytestreams id = some b from hb]
  dsimp only
  rw [if_pos hnew.1, hgone]
  exact hleft

/-! ## Creating in a state of the tables -/

theorem goesUnclosed_iff (hb : s.bytestreams id = some b) :
    goesUnclosed s id = true ↔ b.refs = 0 ∧ b.closesAtOnce = false := by
  simp [goesUnclosed, hb]

/-- A removal stays recorded. -/
theorem mem_removals_destroy {r : Removal} (rounds : ℕ) (hr : r ∈ s.removals) :
    r ∈ (destroy rounds id s).removals := by
  induction rounds generalizing s id with
  | zero => exact hr
  | succ rounds ih =>
    rw [destroy]
    split
    · exact hr
    · rw [removals_setBytestream]
      split
      · rw [removeBytestreamWith]
        split
        · exact hr
        · have hr' (l : List Removal) : r ∈ s.removals ++ l := List.mem_append_left l hr
          rw [unrefWith]
          split
          · exact hr' _
          · split
            · exact ih (hr' _)
            · exact hr' _
      · exact hr

/-- A bytestream that is closed as it goes takes out whoever has its key. -/
theorem mem_removals_of_closes (rounds : ℕ) {entry : ℕ} (hb : s.bytestreams id = some b)
    (hcloses : b.closesAtOnce = true) (htable : s.table b.kind b.ident = some entry) :
    ⟨id, entry⟩ ∈ (destroy (rounds + 1) id s).removals := by
  have hmem (l : List Removal) : ⟨id, entry⟩ ∈ l ++ [⟨id, entry⟩] :=
    List.mem_append_right l (List.mem_singleton.mpr rfl)
  simp only [destroy, hb, hcloses, if_true, removeBytestreamWith, table_setBytestream, htable,
    removals_setBytestream, unrefWith]
  split
  · exact hmem _
  · split
    · exact mem_removals_destroy rounds (hmem _)
    · exact hmem _

/-- What a creation does when the key is in use. -/
theorem create_of_used (state : BytestreamState) {old : ℕ}
    (htable : s.table kind ident = some old) :
    create kind ident state s =
      unref old (setEntry kind ident (some s.next)
        { setBytestream s.next (some ⟨kind, ident, state, 0, false⟩) s with
          next := s.next + 1 }) := by
  simp only [create, insert]
  rw [show ({ setBytestream s.next (some ⟨kind, ident, state, 0, false⟩) s with
    next := s.next + 1 } : State).table kind ident = some old from htable]

theorem create_of_free (state : BytestreamState) (htable : s.table kind ident = none) :
    create kind ident state s =
      setEntry kind ident (some s.next)
        { setBytestream s.next (some ⟨kind, ident, state, 0, false⟩) s with
          next := s.next + 1 } := by
  simp only [create, insert]
  rw [show ({ setBytestream s.next (some ⟨kind, ident, state, 0, false⟩) s with
    next := s.next + 1 } : State).table kind ident = none from htable]

/-- A new bytestream takes the key of one that goes unclosed. -/
theorem Inv.createOver (h : Inv s) {old : ℕ}
    (htable : s.table kind ident = some old) (hquiet : goesUnclosed s old = true)
    (hopen : state ≠ .closed) : Inv (create kind ident state s) := by
  obtain ⟨b, hb, rfl, rfl, hb'⟩ := h.entry kind ident old htable
  obtain ⟨hrefs, hunclosed⟩ := (goesUnclosed_iff hb).mp hquiet
  have hne : old ≠ s.next := Nat.ne_of_lt (h.lt_next hb)
  have hleft := h.leave hb hb' none nofun
  have hfree : (setEntry b.kind b.ident none (setBytestream old none s)).table b.kind b.ident =
      none := (table_setEntry ..).trans (if_pos ⟨rfl, rfl⟩)
  have hcreated := hleft.createNew hfree hopen
  have hold : (setEntry b.kind b.ident (some s.next)
      { setBytestream s.next (some ⟨b.kind, b.ident, state, 0, false⟩) s with
        next := s.next + 1 }).bytestreams old = some b :=
    (bytestreams_setBytestream ..).trans ((if_neg hne).trans hb)
  rw [create_of_used state htable, unref, unrefWith, hold]
  dsimp only
  rw [if_pos hrefs, destroy_of_unclosed 1 hold hunclosed]
  -- the same state as without the old bytestream from the start
  refine Eq.subst (motive := Inv) ?_ hcreated
  simp only [setEntry, setBytestream, Function.update_self, Function.update_idem,
    Function.update_comm hne]

theorem Inv.create (h : Inv s) (hkey : ∀ old ∈ s.table kind ident, goesUnclosed s old)
    (hopen : state ≠ .closed) : Inv (create kind ident state s) := by
  cases htable : s.table kind ident with
  | none =>
    rw [create_of_free state htable]
    exact h.createNew htable hopen
  | some old => exact h.createOver htable (hkey old htable) hopen

/-- **A key that is in use.**  Either the bytestream that has it is not found any
more, or it is closed and takes out the entry of the new one. -/
theorem key_free_of_found_own (h : Inv s)
    (hfound : Found (create kind ident state s)) (hown : OwnEntries (create kind ident state s)) :
    ∀ old ∈ s.table kind ident, goesUnclosed s old := by
  intro old htable
  obtain ⟨b, hb, rfl, rfl, hb'⟩ := h.entry kind ident old htable
  have hne : old ≠ s.next := Nat.ne_of_lt (h.lt_next hb)
  have hnew : (setEntry b.kind b.ident (some s.next)
      { setBytestream s.next (some ⟨b.kind, b.ident, state, 0, false⟩) s with
        next := s.next + 1 }).table b.kind b.ident = some s.next :=
    (table_setEntry ..).trans (if_pos ⟨rfl, rfl⟩)
  have hold : (setEntry b.kind b.ident (some s.next)
      { setBytestream s.next (some ⟨b.kind, b.ident, state, 0, false⟩) s with
        next := s.next + 1 }).bytestreams old = some b :=
    (bytestreams_setBytestream ..).trans ((if_neg hne).trans hb)
  rw [create_of_used state htable, unref, unrefWith, hold] at hfound hown
  dsimp only at hfound hown
  rw [goesUnclosed_iff hb]
  by_cases hrefs : b.refs = 0
  · refine ⟨hrefs, Bool.eq_false_iff.mpr fun hcloses => ?_⟩
    rw [if_pos hrefs] at hown
    exact hne (hown _ (mem_removals_of_closes 1 hold hcloses hnew)).symm
  · rw [if_neg hrefs] at hfound
    have hlost := hfound old b hold hb'
    rw [hnew] at hlost
    cases hlost
    exact absurd rfl hne

/-! ## Whole runs -/

theorem Inv.create_iff (h : Inv s) (hopen : state ≠ .closed) :
    ((Found (Factory.create kind ident state s) ∧ OwnEntries (Factory.create kind ident state s)) ↔
        ∀ old ∈ s.table kind ident, goesUnclosed s old) ∧
      ((∀ old ∈ s.table kind ident, goesUnclosed s old) →
        Inv (Factory.create kind ident state s)) := by
  have hkeep (hkey : ∀ old ∈ s.table kind ident, goesUnclosed s old) := h.create hkey hopen
  exact ⟨⟨fun hP => key_free_of_found_own h hP.1 hP.2,
    fun hkey => ⟨(hkeep hkey).found, (hkeep hkey).own⟩⟩, hkeep⟩

/-- A step that keeps what holds of the tables, and meets the condition. -/
theorem iff_of_inv {e : Event} (h : Inv s') (hwithin : Within s e) :
    ((Found s' ∧ OwnEntries s') ↔ Within s e) ∧ (Within s e → Inv s') :=
  ⟨iff_of_true ⟨h.found, h.own⟩ hwithin, fun _ => h⟩

theorem Inv.stateChanged_iff (h : Inv s) (hb : s.bytestreams id = some b)
    (state : BytestreamState) :
    ((Found (stateChanged id b state s) ∧ OwnEntries (stateChanged id b state s)) ↔
        (b.state = .closed → state = .closed)) ∧
      ((b.state = .closed → state = .closed) → Inv (stateChanged id b state s)) := by
  rw [stateChanged]
  by_cases hsame : b.state = state
  · rw [if_pos hsame]
    exact ⟨iff_of_true ⟨h.found, h.own⟩ (hsame.symm.trans ·), fun _ => h⟩
  rw [if_neg hsame]
  by_cases hclosed : state = .closed
  · subst hclosed
    dsimp only
    rw [if_pos rfl]
    have h' := h.close hb hsame
    exact ⟨iff_of_true ⟨h'.found, h'.own⟩ fun _ => rfl, fun _ => h'⟩
  dsimp only
  rw [if_neg hclosed]
  have hkeep (hopen : b.state ≠ .closed) :
      Inv (setBytestream id (some { b with state := state }) s) :=
    h.keep hb { b with state := state } rfl rfl (iff_of_false hclosed hopen)
  by_cases hopen : b.state = .closed
  · refine ⟨iff_of_false ?_ (fun himp => hclosed (himp hopen)),
      fun himp => absurd (himp hopen) hclosed⟩
    -- a closed bytestream has no entry, so that it is not found when it is open again
    rintro ⟨hfound, -⟩
    have htable : s.table b.kind b.ident = some id :=
      hfound id { b with state := state } ((bytestreams_setBytestream ..).trans (if_pos rfl))
        hclosed
    obtain ⟨c, hc, -, -, hc'⟩ := h.entry _ _ _ htable
    rw [hb] at hc
    cases hc
    exact hc' hopen
  · have h' := hkeep hopen
    exact ⟨iff_of_true ⟨h'.found, h'.own⟩ fun heq => absurd heq hopen, fun _ => h'⟩

theorem Inv.unref (h : Inv s) (hb : s.bytestreams id = some b) :
    Inv (if isLast id b s then
        destroy 2 id (setBytestream id (some { b with refs := b.refs - 1 }) s)
      else setBytestream id (some { b with refs := b.refs - 1 }) s) := by
  have hkeep := h.keep hb { b with refs := b.refs - 1 } rfl rfl Iff.rfl
  split
  next hlast =>
    -- it is not in its table, so that it is closed already
    have hclosed : b.state = .closed := by
      by_contra hopen
      have hfound := h.found id b hb hopen
      simp [isLast, hfound] at hlast
    have hb' : (setBytestream id (some { b with refs := b.refs - 1 }) s).bytestreams id =
        some { b with refs := b.refs - 1 } := (bytestreams_setBytestream ..).trans (if_pos rfl)
    rw [destroy_of_unclosed 1 hb' (closesAtOnce_of_closed hclosed)]
    exact hkeep.dropClosed hb' hclosed
  next => exact hkeep

/-- The four events that create a bytestream. -/
theorem Inv.create_step (h : Inv s) {e : Event}
    (hwithin : Within s e ↔ ∀ old ∈ s.table kind ident, goesUnclosed s old)
    (hstep : (if state ≠ .closed then some (Factory.create kind ident state s) else none) =
      some s') :
    ((Found s' ∧ OwnEntries s') ↔ Within s e) ∧ (Within s e → Inv s') := by
  rw [hwithin]
  split at hstep
  next hopen =>
    cases hstep
    exact h.create_iff hopen
  next => cases hstep

/-- **One event.**  After it the tables are right exactly if it meets the condition. -/
theorem step_iff (s : State) (e : Event) (s' : State) (h : Inv s) (hstep : step s e = some s') :
    ((Found s' ∧ OwnEntries s') ↔ Within s e) ∧ (Within s e → Inv s') := by
  cases e with
  | createIbb ident state => exact h.create_step (by simp [Within, Event.creates]) hstep
  | createMuc ident state => exact h.create_step (by simp [Within, Event.creates]) hstep
  | createSocks5 ident state => exact h.create_step (by simp [Within, Event.creates]) hstep
  | createMultiple ident state => exact h.create_step (by simp [Within, Event.creates]) hstep
  | stateChanged id state =>
    obtain ⟨b, hb, rfl⟩ := Option.map_eq_some_iff.mp hstep
    have hwithin : Within s (.stateChanged id state) ↔ (b.state = .closed → state = .closed) := by
      simp [Within, hb]
    rw [hwithin]
    exact h.stateChanged_iff hb state
  | initiateFailed id =>
    obtain ⟨b, hb, hstep⟩ := Option.bind_eq_some_iff.mp hstep
    split at hstep
    next hnew =>
      cases hstep
      exact iff_of_inv (h.initiateFailed hb hnew) nofun
    next => cases hstep
  | ref id =>
    obtain ⟨b, hb, rfl⟩ := Option.map_eq_some_iff.mp hstep
    exact iff_of_inv (h.keep hb _ rfl rfl Iff.rfl) nofun
  | unref id =>
    obtain ⟨b, hb, hstep⟩ := Option.bind_eq_some_iff.mp hstep
    split at hstep
    next => cases hstep
    next =>
      cases hstep
      exact iff_of_inv (h.unref hb) nofun
  | unsentChanged id unsent =>
    obtain ⟨b, hb, rfl⟩ := Option.map_eq_some_iff.mp hstep
    exact iff_of_inv (h.keep hb _ rfl rfl Iff.rfl) nofun

/-- **The tables.**  All along a run every bytestream that is not closed is found under
its key, and no bytestream takes another one's entry out, exactly if no bytestream is
created under a key that is in use, and none that is closed is opened again. -/
theorem found_ownEntries_iff (events : List Event) (s : State)
    (hrun : run step State.new events = some s) :
    (∀ before after s', events = before ++ after → run step State.new before = some s' →
        Found s' ∧ OwnEntries s') ↔
      Admits Within step State.new events :=
  forall_run_iff_admits (fun _ h => ⟨h.found, h.own⟩) step_iff events inv_new hrun

/-- A stream that the peer asks for, and one of ours to the same peer with another
id. -/
def twoStreams : List Event :=
  [.createIbb ⟨[1], [1]⟩ .localPending, .ref 0, .createIbb ⟨[1], [2]⟩ .initiating, .ref 1,
    .stateChanged 0 .accepted, .stateChanged 0 .opened, .stateChanged 0 .closed, .unref 0,
    .stateChanged 1 .opened]

theorem found_ownEntries_iff_twoStreams :
    (∃ s, run step State.new twoStreams = some s ∧ s.table .ibb ⟨[1], [2]⟩ = some 1 ∧
      s.table .ibb ⟨[1], [1]⟩ = none) ∧
      ∀ before after s', twoStreams = before ++ after → run step State.new before = some s' →
        Found s' ∧ OwnEntries s' :=
  ⟨⟨_, rfl, rfl, rfl⟩, (found_ownEntries_iff twoStreams _ rfl).mpr (by decide)⟩

/-- The peer asks for a stream, and for another one with the same id. -/
def sameId : List Event :=
  [.createIbb ⟨[1], [1]⟩ .localPending, .ref 0, .createIbb ⟨[1], [1]⟩ .localPending, .ref 1]

/-- Then the first one is not found any more, and when it is closed the second one is
not found either. -/
theorem entry_of_other_removed :
    ¬ ∀ events s, run step State.new events = some s → Found s ∧ OwnEntries s := by
  intro hall
  have hlost := (hall sameId _ rfl).1 0 ⟨.ibb, ⟨[1], [1]⟩, .localPending, 1, false⟩ rfl nofun
  have hremoved : ⟨0, 1⟩ ∈ (((run step State.new
      (sameId ++ [Event.stateChanged 0 .closed])).get rfl).removals) := by
    decide
  have hnot := (hall (sameId ++ [Event.stateChanged 0 .closed]) _ rfl).2 ⟨0, 1⟩ hremoved
  cases hnot

end Factory
