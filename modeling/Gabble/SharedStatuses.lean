/-
# Google's shared statuses (`src/conn-presence.c`)

Google's server keeps the last status messages of a user, in a list for each `show`, and
says how many of them a list may have.  `insert_presence_to_shared_statuses` puts a new
message in front of a list and cuts it.  The maximum is a `gint` that the server chooses,
the length of the new list is a `guint`, and the array has one cell more.

* `insertStatus_first_iff`: what becomes of a list;
* `fits_iff`: which maxima do for a list that is not too long;
* `insertPresence_first_iff`: so this is when the message and the beginning of the list are
  stored;
* `status_stored_beyond_maximum`: a maximum of zero stores a message, and the array of a
  list is not terminated; one of -1 makes an array without cells.
-/
import Mathlib.Tactic.Common
import Mathlib.Logic.Function.Basic
import Gabble.CInt
import Gabble.CText
import Gabble.Presence
import Gabble.Strv

namespace ConnPresence

open CInt
open CText (ascii strtoll)
open Strv (Cells Fault new0 write copy strings)

/-- A text; its bytes. -/
abbrev Text := List UInt8

/-! ## The code -/

/-- The part of `GabbleConnectionPresencePrivate` about the lists. -/
structure PresencePrivate where
  /-- The array for each `show`. -/
  sharedStatuses : Text → Option (Cells Text)
  maxSharedStatuses : ℤ

/-- The part of the user's own `GabblePresence` that is shared. -/
structure SelfPresence where
  status : PresenceId
  statusMessage : Option Text

/-- `is_presence_away` -/
def isPresenceAway (status : PresenceId) : Bool :=
  status = PresenceId.away || status = PresenceId.xa

/-- The `show` of a status. -/
def showOf (status : PresenceId) : Text :=
  if status = PresenceId.dnd then ascii "dnd" else ascii "default"

/-- `g_hash_table_insert` into the lists. -/
def PresencePrivate.setStatuses (priv : PresencePrivate) (show_ : Text)
    (statuses : Cells Text) : PresencePrivate :=
  { priv with sharedStatuses := Function.update priv.sharedStatuses show_ (some statuses) }

/-- A `<status-list/>`: its `show`, and the contents of its `<status/>`. -/
abbrev StatusList := Option Text × List (Option Text)

/-- The array of a `<status-list/>` is stored. -/
def PresencePrivate.storeList (priv : PresencePrivate) (list : StatusList) : PresencePrivate :=
  match list.1 with
  | none => priv
  | some show_ => priv.setStatuses show_ (list.2 ++ [none])

/-- `store_shared_statuses`, the part about the lists. -/
def PresencePrivate.storeSharedStatuses (priv : PresencePrivate) (lists : List StatusList) :
    PresencePrivate :=
  lists.foldl PresencePrivate.storeList { priv with sharedStatuses := fun _ => none }

/-- The maximum that the server supplies as `status-list-contents-max`, or five. -/
def serverMaximum (maxShared : Option Text) : ℤ :=
  match maxShared with
  | some text => strtoll text
  | none => 5

/-- `get_shared_status_cb`, for a reply that has a query. -/
def PresencePrivate.getSharedStatusCb (priv : PresencePrivate) (maxShared : Option Text)
    (lists : List StatusList) : PresencePrivate :=
  { priv with maxSharedStatuses := gint (serverMaximum maxShared) }.storeSharedStatuses lists

/-- `list_len`, for an old list of that length. -/
def listLen (maxSharedStatuses : ℤ) (length : ℕ) : ℕ :=
  guint (min maxSharedStatuses (gint (gint length + 1)))

/-- `new_statuses`, with the message in front.  The number of cells is a `guint`. -/
def newStatuses (len : ℕ) (message : Text) : Except Fault (Cells Text) :=
  write (new0 ((len + 1) % 2 ^ 32)) 0 (some message)

/-- The array that `insert_presence_to_shared_statuses` makes of an old one. -/
def insertStatus (maxSharedStatuses : ℤ) (message : Text) (statuses : Cells Text) :
    Except Fault (Cells Text) := do
  let length ← Strv.length statuses
  let cells ← newStatuses (listLen maxSharedStatuses length) message
  copy statuses 0 1 (listLen maxSharedStatuses length - 1) cells

/-- The array for a `show` that may have one. -/
def insertMessage (maxSharedStatuses : ℤ) (message : Text) :
    Option (Cells Text) → Except Fault (Cells Text)
  | none => write (new0 2) 0 (some message)
  | some statuses => insertStatus maxSharedStatuses message statuses

/-- `insert_presence_to_shared_statuses` -/
def insertPresence (priv : PresencePrivate) (presence : SelfPresence) :
    Except Fault PresencePrivate :=
  match presence.statusMessage with
  | none => .ok priv
  | some message =>
    if isPresenceAway presence.status then .ok priv
    else
      (insertMessage priv.maxSharedStatuses message
        (priv.sharedStatuses (showOf presence.status))).map
        (priv.setStatuses (showOf presence.status))

/-! ## Stored lists -/

@[simp] theorem setStatuses_self (priv : PresencePrivate) (show_ : Text) (cells : Cells Text) :
    (priv.setStatuses show_ cells).sharedStatuses show_ = some cells :=
  Function.update_self ..

theorem setStatuses_ne (priv : PresencePrivate) {show_ show' : Text} (hne : show' ≠ show_)
    (cells : Cells Text) :
    (priv.setStatuses show_ cells).sharedStatuses show' = priv.sharedStatuses show' :=
  Function.update_of_ne hne ..

/-- Every array has a NULL. -/
def Terminated (priv : PresencePrivate) : Prop :=
  ∀ show_ cells, priv.sharedStatuses show_ = some cells → none ∈ cells

theorem Terminated.setStatuses {priv : PresencePrivate} (h : Terminated priv) {cells : Cells Text}
    (hcells : none ∈ cells) (show_ : Text) : Terminated (priv.setStatuses show_ cells) := by
  intro show' cells' hlist
  by_cases hshow : show' = show_
  · subst hshow
    rw [setStatuses_self, Option.some_inj] at hlist
    rwa [← hlist]
  · rw [setStatuses_ne priv hshow] at hlist
    exact h show' cells' hlist

/-- What the server sends is terminated. -/
theorem terminated_storeSharedStatuses (priv : PresencePrivate) (lists : List StatusList) :
    Terminated (priv.storeSharedStatuses lists) := by
  refine List.foldlRecOn lists _ ?_ fun priv' hpriv list _ => ?_
  · intro show_ cells hlist
    cases hlist
  · unfold PresencePrivate.storeList
    split
    · exact hpriv
    · exact hpriv.setStatuses (List.mem_append_right _ (List.mem_singleton.mpr rfl)) _

/-! ## One array -/

theorem listLen_lt (maxSharedStatuses : ℤ) (length : ℕ) :
    listLen maxSharedStatuses length < 2 ^ 32 := by
  unfold listLen guint
  omega

theorem newStatuses_eq {len : ℕ} (message : Text) (hlen : len + 1 < 2 ^ 32) :
    newStatuses len message = .ok (some message :: List.replicate len none) := by
  rw [newStatuses, Nat.mod_eq_of_lt hlen]
  exact Strv.write_of_lt (by simp [new0]) _

/-- No cell is allocated. -/
theorem newStatuses_error {len : ℕ} (message : Text) (hlen : len + 1 = 2 ^ 32) :
    newStatuses len message = .error .writeOutside := by
  rw [newStatuses, hlen, Nat.mod_self]
  exact Strv.write_of_le (Nat.zero_le _) _

section

variable {maxSharedStatuses : ℤ} {message : Text} {statuses : Cells Text} {old : List Text}
  (hold : strings statuses = some old)

include hold

/-- The array, when its length is known. -/
theorem insertStatus_of_strings :
    insertStatus maxSharedStatuses message statuses =
      newStatuses (listLen maxSharedStatuses old.length) message >>= fun cells =>
        copy statuses 0 1 (listLen maxSharedStatuses old.length - 1) cells := by
  have hlength : Strv.length statuses = pure old.length := by
    rw [Strv.length, hold]
    rfl
  rw [insertStatus, hlength, pure_bind]

/-- The old array is copied into the new one. -/
theorem insertStatus_of_ok (halloc : listLen maxSharedStatuses old.length + 1 < 2 ^ 32) :
    insertStatus maxSharedStatuses message statuses =
      copy statuses 0 1 (listLen maxSharedStatuses old.length - 1)
        (some message :: List.replicate (listLen maxSharedStatuses old.length) none) := by
  have hnew : newStatuses (listLen maxSharedStatuses old.length) message = pure _ :=
    newStatuses_eq message halloc
  rw [insertStatus_of_strings hold, hnew, pure_bind]

theorem insertStatus_unallocated (hlen : listLen maxSharedStatuses old.length + 1 = 2 ^ 32) :
    insertStatus maxSharedStatuses message statuses = .error .writeOutside := by
  rw [insertStatus_of_strings hold, newStatuses_error message hlen]
  rfl

/-- The message is all that is stored, and there is no NULL after it. -/
theorem insertStatus_zero (hlen : listLen maxSharedStatuses old.length = 0) :
    insertStatus maxSharedStatuses message statuses = .ok [some message] := by
  rw [insertStatus_of_ok hold (by omega), hlen]
  rfl

/-- The message and the beginning of the old array. -/
theorem insertStatus_inside (hpos : 1 ≤ listLen maxSharedStatuses old.length)
    (halloc : listLen maxSharedStatuses old.length + 1 < 2 ^ 32)
    (hinside : listLen maxSharedStatuses old.length ≤ statuses.length + 1) :
    insertStatus maxSharedStatuses message statuses =
      .ok (some message ::
        (statuses.take (listLen maxSharedStatuses old.length - 1) ++ [none])) := by
  rw [insertStatus_of_ok hold halloc]
  generalize listLen maxSharedStatuses old.length = len at *
  have hsource : 0 + (len - 1) ≤ statuses.length := by omega
  have hspace : 1 + (len - 1) ≤ (some message :: List.replicate len none).length := by
    rw [List.length_cons, List.length_replicate]
    omega
  have hrest : (some message :: List.replicate len none).drop (1 + (len - 1)) =
      [(none : Option Text)] := by
    rw [show 1 + (len - 1) = (len - 1) + 1 by omega, List.drop_succ_cons, List.drop_replicate,
      show len - (len - 1) = 1 by omega]
    rfl
  rw [Strv.copy_eq hsource hspace, hrest]
  rfl

/-- The old array is read beyond its end. -/
theorem insertStatus_outside (halloc : listLen maxSharedStatuses old.length + 1 < 2 ^ 32)
    (houtside : statuses.length + 1 < listLen maxSharedStatuses old.length) :
    ∃ fault, insertStatus maxSharedStatuses message statuses = .error fault := by
  rw [insertStatus_of_ok hold halloc]
  exact Strv.copy_error (Nat.zero_le _) (by omega)

end

/-- Converted to `gint`, the smaller of the maximum and the length of the new list is still
the smaller one, and `list_len + 1` is not wrapped; or there are so many cells behind the
NULL that the last 32 bits of the maximum do as well. -/
structure Fits (maximum : ℤ) (length size : ℕ) : Prop where
  positive : 1 ≤ maximum
  converted :
    min maximum (length + 1) + 1 < 2 ^ 32 ∧
        gint (min maximum (length + 1)) = min (gint maximum) (gint (length + 1)) ∨
      length + 1 ≤ maximum % 2 ^ 32 ∧ maximum % 2 ^ 32 ≤ size + 1 ∧ maximum % 2 ^ 32 + 1 < 2 ^ 32

theorem listLen_eq (maxSharedStatuses : ℤ) (length : ℕ) :
    listLen maxSharedStatuses length = guint (min maxSharedStatuses (gint (length + 1))) := by
  rw [listLen, gint_gint_add]

/-- The array is allocated, the old one is not left, and the new list is cut where the
maximum says. -/
theorem fits_iff_listLen {maximum : ℤ} {length size : ℕ} (hlength : length < size) :
    Fits maximum length size ↔ 1 ≤ maximum ∧ listLen (gint maximum) length + 1 < 2 ^ 32 ∧
      listLen (gint maximum) length ≤ size + 1 ∧
      min (listLen (gint maximum) length) (length + 1) = min maximum.toNat (length + 1) := by
  have hfits : Fits maximum length size ↔ 1 ≤ maximum ∧ _ :=
    ⟨fun h => ⟨h.positive, h.converted⟩, fun h => ⟨h.1, h.2⟩⟩
  obtain ⟨hlow, hhigh⟩ := gint_bounds maximum
  obtain ⟨hlow', hhigh'⟩ := gint_bounds (length + 1)
  have hmod := gint_emod maximum
  have hmod' := gint_emod (length + 1)
  rw [hfits, listLen_eq, guint]
  -- the smaller one before the conversion, and the smaller one after it
  rcases le_total maximum (length + 1) with hle | hle <;>
    rcases le_total (gint maximum) (gint (length + 1)) with hg | hg
  · rw [min_eq_left hle, min_eq_left hg, min_eq_left (show maximum.toNat ≤ length + 1 by omega)]
    generalize gint maximum = g, gint (length + 1) = g' at *
    omega
  · rw [min_eq_left hle, min_eq_right hg, min_eq_left (show maximum.toNat ≤ length + 1 by omega)]
    generalize gint maximum = g, gint (length + 1) = g' at *
    omega
  · rw [min_eq_right hle, min_eq_left hg, min_eq_right (show length + 1 ≤ maximum.toNat by omega)]
    generalize gint maximum = g, gint (length + 1) = g' at *
    omega
  · rw [min_eq_right hle, min_eq_right hg, min_eq_right (show length + 1 ≤ maximum.toNat by omega)]
    generalize gint maximum = g, gint (length + 1) = g' at *
    omega

/-- What the new array holds. -/
theorem strings_inserted {message : Text} {statuses : Cells Text} {old : List Text} {len : ℕ}
    (hold : strings statuses = some old) (hpos : 1 ≤ len) :
    strings (some message :: (statuses.take (len - 1) ++ [none])) =
      some ((message :: old).take len) := by
  obtain ⟨n, rfl⟩ : ∃ n, len = n + 1 := ⟨len - 1, by omega⟩
  rw [strings, Nat.add_sub_cancel, Strv.strings_take hold, List.take_succ_cons]
  rfl

/-- **What becomes of a list.**  The message and the beginning of the list are stored
exactly if the maximum comes through the conversions. -/
theorem insertStatus_first_iff {message : Text} {statuses : Cells Text} {old : List Text}
    (hold : strings statuses = some old) (maximum : ℤ) :
    (∃ cells, insertStatus (gint maximum) message statuses = .ok cells ∧
      strings cells = some ((message :: old).take maximum.toNat)) ↔
      Fits maximum old.length statuses.length := by
  rw [fits_iff_listLen (Strv.strings_length_lt hold)]
  have hlt := listLen_lt (gint maximum) old.length
  constructor
  · rintro ⟨cells, hinsert, hcells⟩
    -- each way to fail has an equation of its own: no cell, the end of the old array, no NULL
    have halloc : listLen (gint maximum) old.length + 1 < 2 ^ 32 := by
      by_contra hnot
      rw [insertStatus_unallocated hold (by omega)] at hinsert
      cases hinsert
    have hinside : listLen (gint maximum) old.length ≤ statuses.length + 1 := by
      by_contra hnot
      obtain ⟨fault, hfault⟩ : ∃ fault,
          insertStatus (gint maximum) message statuses = .error fault :=
        insertStatus_outside hold halloc (by omega)
      rw [hfault] at hinsert
      cases hinsert
    have hpos : 1 ≤ listLen (gint maximum) old.length := by
      by_contra hnot
      rw [insertStatus_zero hold (by omega), Except.ok.injEq] at hinsert
      subst hinsert
      cases hcells
    rw [insertStatus_inside hold hpos halloc hinside, Except.ok.injEq] at hinsert
    rw [← hinsert, strings_inserted hold hpos, Option.some_inj, List.take_eq_take_iff,
      List.length_cons] at hcells
    refine ⟨?_, halloc, hinside, hcells⟩
    omega
  · rintro ⟨hmaximum, halloc, hinside, hsame⟩
    have hpos : 1 ≤ listLen (gint maximum) old.length := by omega
    refine ⟨_, insertStatus_inside hold hpos halloc hinside, ?_⟩
    rw [strings_inserted hold hpos, Option.some_inj, List.take_eq_take_iff, List.length_cons]
    exact hsame

/-- **Which maxima do**, for an array of less than `2 ^ 31 - 1` cells: those below `2 ^ 31`,
and those whose last 32 bits make a number that is longer than the list. -/
theorem fits_iff {maximum : ℤ} {length size : ℕ} (hlength : length < size)
    (hsize : size + 1 < 2 ^ 31) :
    Fits maximum length size ↔
      1 ≤ maximum ∧ (maximum < 2 ^ 31 ∨ (length : ℤ) < gint maximum) := by
  obtain ⟨hlow, hhigh⟩ := gint_bounds maximum
  have hmod := gint_emod maximum
  have hnew : gint (length + 1) = length + 1 := gint_of_lt (by omega) (by omega)
  have hsmall : maximum < 2 ^ 31 → 1 ≤ maximum → gint maximum = maximum :=
    fun hlt hpos => gint_of_lt (by omega) hlt
  rcases le_total maximum (length + 1) with hle | hle
  · refine ⟨fun h => ⟨h.positive, .inl (by omega)⟩, fun ⟨hpos, _⟩ => ⟨hpos, .inl ⟨?_, ?_⟩⟩⟩
    · rw [min_eq_left hle]
      omega
    · rw [hnew, hsmall (by omega) hpos, min_eq_left hle]
      exact hsmall (by omega) hpos
  · constructor
    · rintro ⟨hpos, ⟨-, hconv⟩ | hbehind⟩
      · rw [min_eq_right hle, hnew] at hconv
        exact ⟨hpos, .inr (by omega)⟩
      · exact ⟨hpos, .inr (by omega)⟩
    · rintro ⟨hpos, hmaximum⟩
      have hlong : (length : ℤ) + 1 ≤ gint maximum := by
        rcases hmaximum with hlt | hlong
        · rwa [hsmall hlt hpos]
        · exact hlong
      refine ⟨hpos, .inl ⟨?_, ?_⟩⟩
      · rw [min_eq_right hle]
        omega
      · rw [min_eq_right hle, hnew, min_eq_right hlong]

/-! ## The new message -/

/-- What the array for a `show` holds. -/
def PresencePrivate.oldList (priv : PresencePrivate) (show_ : Text) : List Text :=
  ((priv.sharedStatuses show_).bind strings).getD []

/-- The array for the `show` holds as much of the message and the old list as the maximum
allows, and is terminated. -/
def StoresFirst (maximum : ℤ) (priv : PresencePrivate) (presence : SelfPresence)
    (message : Text) : Prop :=
  ∃ priv' cells, insertPresence priv presence = .ok priv' ∧
    priv'.sharedStatuses (showOf presence.status) = some cells ∧
    strings cells = some ((message :: priv.oldList (showOf presence.status)).take maximum.toNat)

variable {priv priv' : PresencePrivate} {presence : SelfPresence} {message : Text}

/-- The first list needs a maximum that is positive, and a list that is stored one that
`Fits`. -/
structure Allowed (maximum : ℤ) (priv : PresencePrivate) (show_ : Text) : Prop where
  first : priv.sharedStatuses show_ = none → 1 ≤ maximum
  next : ∀ cells, priv.sharedStatuses show_ = some cells →
    Fits maximum (priv.oldList show_).length cells.length

section

variable (hmessage : presence.statusMessage = some message)
  (haway : isPresenceAway presence.status = false)

include hmessage haway

theorem insertPresence_eq :
    insertPresence priv presence =
      (insertMessage priv.maxSharedStatuses message
        (priv.sharedStatuses (showOf presence.status))).map
        (priv.setStatuses (showOf presence.status)) := by
  rw [insertPresence, hmessage]
  simp only [haway, Bool.false_eq_true, if_false]

/-- Only the array for the `show` counts. -/
theorem storesFirst_iff (maximum : ℤ) :
    StoresFirst maximum priv presence message ↔
      ∃ cells, insertMessage priv.maxSharedStatuses message
          (priv.sharedStatuses (showOf presence.status)) = .ok cells ∧
        strings cells =
          some ((message :: priv.oldList (showOf presence.status)).take maximum.toNat) := by
  unfold StoresFirst
  rw [insertPresence_eq hmessage haway]
  cases insertMessage priv.maxSharedStatuses message
      (priv.sharedStatuses (showOf presence.status)) with
  | error fault => simp [Except.map]
  | ok cells => simp [Except.map]

theorem storesFirst_iff_allowed {maximum : ℤ} (hmax : priv.maxSharedStatuses = gint maximum)
    (hstored : ∀ cells, priv.sharedStatuses (showOf presence.status) = some cells → none ∈ cells) :
    StoresFirst maximum priv presence message ↔
      Allowed maximum priv (showOf presence.status) := by
  rw [storesFirst_iff hmessage haway, hmax]
  cases hlist : priv.sharedStatuses (showOf presence.status) with
  | none =>
    have hold : priv.oldList (showOf presence.status) = [] := by
      rw [PresencePrivate.oldList, hlist]
      rfl
    -- the code does not look at the maximum for a first list
    have hfirst : insertMessage (gint maximum) message none =
        .ok [some message, none] := rfl
    rw [hfirst, hold]
    constructor
    · rintro ⟨cells, hcells, hstrings⟩
      rw [Except.ok.injEq] at hcells
      subst hcells
      refine ⟨fun _ => ?_, fun cells h =>
        absurd (hlist.symm.trans h) (Option.some_ne_none cells).symm⟩
      by_contra hnot
      rw [show maximum.toNat = 0 by omega] at hstrings
      cases hstrings
    · rintro ⟨hpos, -⟩
      have hone := hpos hlist
      refine ⟨_, rfl, ?_⟩
      rw [List.take_of_length_le (by rw [List.length_singleton]; omega)]
      rfl
  | some statuses =>
    obtain ⟨old, hold⟩ := Option.isSome_iff_exists.mp
      (Strv.strings_isSome_iff.mpr (hstored statuses hlist))
    have hold' : priv.oldList (showOf presence.status) = old := by
      rw [PresencePrivate.oldList, hlist, Option.bind_some, hold]
      rfl
    rw [hold']
    refine (insertStatus_first_iff hold maximum).trans ?_
    constructor
    · intro hfits
      refine ⟨fun h => absurd (hlist.symm.trans h) (Option.some_ne_none _),
        fun cells hcells => ?_⟩
      rw [hlist, Option.some_inj] at hcells
      rwa [hold', ← hcells]
    · rintro ⟨-, hfits⟩
      rw [← hold']
      exact hfits statuses hlist

/-- **When the lists keep to the server's maximum.** -/
theorem insertPresence_first_iff (maxShared : Option Text)
    (hmax : priv.maxSharedStatuses = gint (serverMaximum maxShared))
    (hstored : ∀ cells, priv.sharedStatuses (showOf presence.status) = some cells → none ∈ cells) :
    StoresFirst (serverMaximum maxShared) priv presence message ↔
      Allowed (serverMaximum maxShared) priv (showOf presence.status) :=
  storesFirst_iff_allowed hmessage haway hmax hstored

end

/-- The lists after the first reply. -/
def replied (maxShared : Option Text) (lists : List StatusList) : PresencePrivate :=
  PresencePrivate.getSharedStatusCb ⟨fun _ => none, 0⟩ maxShared lists

/-- A list of the server with two messages. -/
def serverLists : List StatusList :=
  [(some (ascii "default"), [some (ascii "b"), some (ascii "c")])]

/-- The user is available, with a new message. -/
def newMessage : SelfPresence := ⟨PresenceId.available, some (ascii "a")⟩

theorem serverLists_stored (maxShared : Option Text) :
    (replied maxShared serverLists).sharedStatuses (ascii "default") =
      some [some (ascii "b"), some (ascii "c"), none] :=
  setStatuses_self ..

theorem serverLists_old (maxShared : Option Text) :
    (replied maxShared serverLists).oldList (ascii "default") = [ascii "b", ascii "c"] := by
  rw [PresencePrivate.oldList, serverLists_stored]
  rfl

/-- The last message makes way for the new one. -/
theorem insertPresence_first_two :
    StoresFirst (serverMaximum (some (ascii "2"))) (replied (some (ascii "2")) serverLists)
      newMessage (ascii "a") := by
  have hterminated : Terminated (replied (some (ascii "2")) serverLists) :=
    terminated_storeSharedStatuses _ _
  have hshow : showOf newMessage.status = ascii "default" := rfl
  refine (insertPresence_first_iff rfl rfl (some (ascii "2")) rfl (hterminated _)).mpr
    ⟨fun h => ?_, fun cells hcells => ?_⟩
  · rw [hshow, serverLists_stored] at h
    cases h
  · rw [hshow, serverLists_stored, Option.some_inj] at hcells
    rw [hshow, serverLists_old, ← hcells]
    exact (fits_iff (by decide) (by decide)).mpr (by decide +kernel)

/-- **A maximum that is not positive.**  With no list, a message is stored although none is
allowed; the array of a list is not terminated, or has no cell for the message. -/
theorem status_stored_beyond_maximum :
    (∃ priv', insertPresence (replied (some (ascii "0")) []) newMessage = .ok priv' ∧
      priv'.sharedStatuses (ascii "default") = some [some (ascii "a"), none]) ∧
    ¬ StoresFirst (serverMaximum (some (ascii "0"))) (replied (some (ascii "0")) [])
      newMessage (ascii "a") ∧
    insertMessage (gint (serverMaximum (some (ascii "0")))) (ascii "a")
      (some [some (ascii "b"), some (ascii "c"), none]) = .ok [some (ascii "a")] ∧
    insertMessage (gint (serverMaximum (some (ascii "-1")))) (ascii "a")
      (some [some (ascii "b"), some (ascii "c"), none]) = .error .writeOutside := by
  have hold : strings [some (ascii "b"), some (ascii "c"), none] =
      some [ascii "b", ascii "c"] := rfl
  refine ⟨⟨_, rfl, setStatuses_self ..⟩, fun h => ?_, ?_, ?_⟩
  · have hnone : (replied (some (ascii "0")) []).sharedStatuses (showOf newMessage.status) = none :=
      rfl
    have hterminated : Terminated (replied (some (ascii "0")) []) :=
      terminated_storeSharedStatuses _ _
    have hallowed := (storesFirst_iff_allowed rfl rfl rfl (hterminated _)).mp h
    exact absurd (hallowed.first hnone) (by decide +kernel)
  · exact insertStatus_zero hold (by decide +kernel)
  · exact insertStatus_unallocated hold (by decide +kernel)

end ConnPresence
