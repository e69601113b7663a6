/-
# The own vCard on the server

A SET replaces the whole vCard, so one that was made from an old copy would undo
another edit.  Here the manager is put together with a server that handles its IQs
in their order, and with the IQs and answers that are on the way.  The copy that
`manager_patch_vcard` patches is what the server has whenever it matters: a GET that
is answered while there is a SET is not looked at, and one that is answered later
was read after that SET.
-/
import Mathlib.Tactic.Common
import Gabble.VCardManagerSettle
import Gabble.VCardPatch

open Transition

namespace VCardManager

variable {β : Type} [DecidableEq β]

/-! ## Edits made one by one -/

/-- Make the edits in their order, each with one of the connections. -/
def MadeWith (conns : Connection β → Prop) : List (EditInfo β) → VCard β → VCard β → Prop
  | [], vcard, vcard' => vcard' = vcard
  | info :: infos, vcard, vcard' =>
    ∃ conn, conns conn ∧ MadeWith conns infos (info.apply conn vcard).2 vcard'

section

variable {conns conns' : Connection β → Prop} {conn : Connection β}
  {infos infos' : List (EditInfo β)} {vcard vcard' vcard'' : VCard β}

theorem MadeWith.append (h : MadeWith conns infos vcard vcard')
    (h' : MadeWith conns infos' vcard' vcard'') :
    MadeWith conns (infos ++ infos') vcard vcard'' := by
  induction infos generalizing vcard with
  | nil =>
    cases h
    exact h'
  | cons info infos ih =>
    obtain ⟨conn, hconn, h⟩ := h
    exact ⟨conn, hconn, ih h⟩

theorem MadeWith.mono (himp : ∀ conn, conns conn → conns' conn)
    (h : MadeWith conns infos vcard vcard') : MadeWith conns' infos vcard vcard' := by
  induction infos generalizing vcard with
  | nil => exact h
  | cons info infos ih =>
    obtain ⟨conn, hconn, h⟩ := h
    exact ⟨conn, himp conn hconn, ih h⟩

/-- `manager_patch_vcard` makes all the edits with the connection as it is. -/
theorem madeWith_applyEdits (hconn : conns conn) (infos : List (EditInfo β)) (vcard : VCard β) :
    MadeWith conns infos vcard (applyEdits conn infos vcard).2 := by
  induction infos generalizing vcard with
  | nil => rfl
  | cons info infos ih => exact ⟨conn, hconn, ih _⟩

/-- With one connection there is one way to make them. -/
theorem MadeWith.eq_applyEdits (hone : ∀ conn', conns conn' → conn' = conn)
    (h : MadeWith conns infos vcard vcard') : vcard' = (applyEdits conn infos vcard).2 := by
  induction infos generalizing vcard with
  | nil => exact h
  | cons info infos ih =>
    obtain ⟨conn', hconn, h⟩ := h
    cases hone conn' hconn
    exact ih h

end

/-! ## The manager and the server -/

/-- The vCard in the answer of a GET that did not fail; `pipeline_reply_cb` takes no
vCard for an empty one. -/
def GetResult.vcard : GetResult β → Option (VCard β)
  | .success node => some (node.getD [])
  | .itemNotFound node => some (node.getD [])
  | .wait => none
  | .error => none

/-- An IQ about the own vCard that the server has not handled yet. -/
inductive Query (β : Type) : Type where
  | get (g : ItemId) : Query β
  | set (i : ItemId) (vcard : VCard β) : Query β
  deriving DecidableEq

/-- An answer that has not reached the manager yet. -/
inductive Answer (β : Type) : Type where
  | got (g : ItemId) (result : GetResult β) : Answer β
  | done (i : ItemId) : Answer β
  deriving DecidableEq

/-- The manager, the server's copy of the own vCard, and what is on the way between
them.  `asked` and `aliases` are ghost data: the edits that were asked for, in their
order, and the aliases that the rest of the connection has had for the local user. -/
structure Net (β : Type) where
  manager : State β
  toServer : List (Query β)
  toManager : List (Answer β)
  vcard : VCard β
  asked : List (EditInfo β)
  aliases : List (Option String)

/-- Nothing is on the way, and nothing has been asked for. -/
def Net.start (s : State β) (vcard : VCard β) : Net β where
  manager := s
  toServer := []
  toManager := []
  vcard := vcard
  asked := []
  aliases := [s.conn.cachedAlias]

/-- The connection with one of the aliases it has had. -/
def Net.HadConn (net : Net β) (conn : Connection β) : Prop :=
  ∃ name ∈ net.aliases, conn = { net.manager.conn with cachedAlias := name }

/-- The edits an event asks for: those of `gabble_vcard_manager_edit`, and the alias
at the beginning. -/
def State.asks (s : State β) : Event β → List (EditInfo β)
  | .edit infos _ => if s.status = .connected then infos else []
  | .connected => s.aliasEdits.map Edit.info
  | _ => []

/-- The IQs about the own vCard that were sent between two states. -/
def State.sentSince (s s' : State β) : List (Query β) :=
  (s'.gets.filter fun get => s.nextItem ≤ get.id &&
      (s'.requests get.userData).any (·.handle == s'.conn.selfHandle)).map (.get ·.id) ++
    (s'.sets.filter fun item => s.nextItem ≤ item.id).map fun item =>
      .set item.id (s'.patchedVCard.getD [])

/-- The manager has gone on to `s'`, and was asked for more edits. -/
def Net.moved (net : Net β) (s' : State β) (infos : List (EditInfo β)) : Net β :=
  { net with
    manager := s'
    toServer := net.toServer ++ net.manager.sentSince s'
    asked := net.asked ++ infos
    aliases := net.aliases ++ [s'.conn.cachedAlias] }

/-- The manager handles an event. -/
def Net.move (net : Net β) (e : Event β) : Option (Net β) :=
  (step net.manager e).map fun s' => net.moved s' (net.manager.asks e)

inductive NetEvent (β : Type) : Type where
  | act (e : Event β) : NetEvent β
  | serveGet (result : GetResult β) : NetEvent β
  | serveSet : NetEvent β
  | deliver (now : ℕ) : NetEvent β
  deriving DecidableEq

/-- One step.  The server handles the first IQ that waits, and the first answer on
the way arrives. -/
def Net.step (net : Net β) : NetEvent β → Option (Net β)
  | .act e => net.move e
  | .serveGet result =>
    match net.toServer with
    | .get g :: rest =>
      if result.vcard = some net.vcard then
        some { net with toServer := rest, toManager := net.toManager ++ [.got g result] }
      else none
    | _ => none
  | .serveSet =>
    match net.toServer with
    | .set i vcard :: rest =>
      some { net with
        toServer := rest, toManager := net.toManager ++ [.done i], vcard := vcard }
    | _ => none
  | .deliver now =>
    match net.toManager with
    | .got g result :: rest => { net with toManager := rest }.move (.getReply g result now)
    | .done i :: rest => { net with toManager := rest }.move (.setReply i true)
    | [] => none

/-- The answer of a SET, whatever it is. -/
def Event.isSetReply : Event β → Bool
  | .setReply _ _ => true
  | _ => false

/-- The IQs about the own vCard are answered by the server alone, and nothing goes
wrong with them: what the manager does of itself is anything else. -/
def ErrorFree (net : Net β) : NetEvent β → Prop
  | .act e =>
    SetAlone net.manager e ∧ e ≠ .dispose ∧ e.isSetReply = false ∧
      (net.manager.answer e).map Prod.fst ≠ some net.manager.conn.selfHandle
  | _ => True

instance (net : Net β) : (e : NetEvent β) → Decidable (ErrorFree net e)
  | .act e =>
    inferInstanceAs (Decidable (SetAlone net.manager e ∧ e ≠ .dispose ∧ e.isSetReply = false ∧ _))
  | .serveGet _ => .isTrue trivial
  | .serveSet => .isTrue trivial
  | .deliver _ => .isTrue trivial

/-! ## What a step of the manager does to the edits -/

/-- The SET is left alone, and more edits may be queued. -/
structure Kept (s s' : State β) (queued : List (EditInfo β)) : Prop where
  conn : ∃ name, s'.conn = { s.conn with cachedAlias := name }
  editPipelineItem : s'.editPipelineItem = s.editPipelineItem
  patchedVCard : s'.patchedVCard = s.patchedVCard
  sets : s'.sets = s.sets
  edits : s'.edits.map Edit.info = s.edits.map Edit.info ++ queued
  nextItem : s.nextItem ≤ s'.nextItem

/-- The queued edits are made to a copy of the vCard, which is sent if they change
it. -/
structure PatchedFrom (vcard : VCard β) (s s' : State β) : Prop where
  conn : s'.conn = s.conn
  edits : s'.edits = []
  outcome : (s'.editPipelineItem = none ∧ s'.patchedVCard = none ∧ s'.sets = [] ∧
      (applyEdits s.conn (s.edits.map Edit.info) vcard).2 = vcard) ∨
    ∃ i, s'.editPipelineItem = some i ∧ s'.sets = [⟨i, s.edits⟩] ∧
      s'.patchedVCard = some (applyEdits s.conn (s.edits.map Edit.info) vcard).2 ∧
      s.nextItem ≤ i ∧ i < s'.nextItem

section

variable {s s₁ s' : State β} {e : Event β} {vcard : VCard β} {infos : List (EditInfo β)}

omit [DecidableEq β] in
theorem SameEdits.kept (h : SameEdits s s') : Kept s s' [] where
  conn := ⟨s.conn.cachedAlias, h.conn⟩
  editPipelineItem := h.editPipelineItem
  patchedVCard := h.patchedVCard
  sets := h.sets
  edits := by rw [h.edits, List.append_nil]
  nextItem := h.nextItem

omit [DecidableEq β] in
theorem Kept.trans (h : Kept s s₁ []) (h' : Kept s₁ s' infos) : Kept s s' infos where
  conn := by
    obtain ⟨name, hname⟩ := h.conn
    obtain ⟨name', hname'⟩ := h'.conn
    exact ⟨name', by rw [hname', hname]⟩
  editPipelineItem := h'.editPipelineItem.trans h.editPipelineItem
  patchedVCard := h'.patchedVCard.trans h.patchedVCard
  sets := h'.sets.trans h.sets
  edits := by rw [h'.edits, h.edits, List.append_nil]
  nextItem := h.nextItem.trans h'.nextItem

omit [DecidableEq β] in
theorem addEditRequest_kept (s : State β) (infos : List (EditInfo β)) (bound : Bool) :
    Kept s (s.addEditRequest infos bound) infos where
  conn := ⟨s.conn.cachedAlias, rfl⟩
  editPipelineItem := rfl
  patchedVCard := rfl
  sets := rfl
  edits := by simp [State.addEditRequest, Function.comp_def]
  nextItem := Nat.le_refl _

omit [DecidableEq β] in
theorem removeEditRequest_kept (s : State β) (q : EditId) :
    Kept s (s.removeEditRequest q) [] where
  conn := ⟨s.conn.cachedAlias, rfl⟩
  editPipelineItem := rfl
  patchedVCard := rfl
  sets := rfl
  edits := (List.append_nil _).symm
  nextItem := Nat.le_refl _

/-- The state after a step is the one its operation returns. -/
theorem step_eq_of_operation (hs : step s e = some s') (hop : operation s e = some (.ok s₁)) :
    s' = s₁ := by
  obtain ⟨hf, hd, _⟩ := step_cases hs
  rw [step_of_ok hf hd hop] at hs
  exact (Option.some.inj hs).symm

/-- `gabble_vcard_manager_edit` queues its edits behind the others. -/
theorem edit_kept (hv : Served s) {bound : Bool} (hs : step s (.edit infos bound) = some s') :
    Kept s s' (s.asks (.edit infos bound)) := by
  by_cases hst : s.status = .connected
  · obtain ⟨s₁, hs₁, _, hsame, _⟩ := hv.carried.edit hv.edits infos bound hst
    have hop : operation s (.edit infos bound) = some (.ok (s₁.addEditRequest infos bound)) :=
      congrArg some hs₁
    rw [step_eq_of_operation hs hop, State.asks, if_pos hst]
    exact hsame.kept.trans (addEditRequest_kept s₁ infos bound)
  · have hop : operation s (.edit infos bound) = some (.ok s) := by
      rw [operation, State.edit, if_pos hst]
    rw [step_eq_of_operation hs hop, State.asks, if_neg hst]
    exact (SameEdits.refl s).kept

theorem connected_kept (hv : Served s) (hs : step s .connected = some s') :
    Kept s s' (s.asks .connected) := by
  obtain ⟨_, hlive, hcases⟩ := step_cases hs
  have hnew : s.status = .new := by
    rcases hcases with ⟨_, hop, _⟩ | ⟨_, hop, _⟩ <;>
      exact (Option.ite_none_right_eq_some.mp hop).1
  obtain ⟨s₁, hs₁, _, hsame, _⟩ := hv.statusChangedCb hlive hnew
  have hop : operation s .connected = some (.ok s₁) := by
    rw [operation, if_pos hnew, hs₁]
  rw [step_eq_of_operation hs hop]
  refine ⟨⟨s.conn.cachedAlias, hsame.conn⟩, hsame.editPipelineItem, hsame.patchedVCard, hsame.sets,
    ?_, hsame.nextItem⟩
  rw [hsame.edits, List.map_append]
  rfl

/-- A step that answers no IQ about the own vCard. -/
theorem Effect.kept (heff : Effect s e s') (hlive : e ≠ .dispose) (hconn : e ≠ .connected)
    (hedit : ∀ infos bound, e ≠ .edit infos bound) (hset : e.isSetReply = false)
    (hother : (s.answer e).map Prod.fst ≠ some s.conn.selfHandle) : Kept s s' [] := by
  cases heff with
  | same _ _ hsame _ => exact hsame.kept
  | environment _ status name _ =>
    exact ⟨⟨name, rfl⟩, rfl, rfl, rfl, (List.append_nil _).symm, Nat.le_refl _⟩
  | connected _ _ _ _ => exact absurd rfl hconn
  | get _ hans hsame hsame' _ =>
    have hne : _ ≠ s.conn.selfHandle := fun hself => hother (by rw [hans, ← hself]; rfl)
    rw [editEffect_of_ne _ (by rw [hsame.conn]; exact hne)] at hsame'
    exact (hsame.trans hsame').kept
  | edit _ _ => exact absurd rfl (hedit _ _)
  | remove _ q _ => exact removeEditRequest_kept s q
  | setFailed _ => cases hset
  | setDone _ _ _ _ => cases hset
  | dispose _ _ _ => exact absurd rfl hlive

/-- What the manager does of itself leaves the SET alone. -/
theorem kept_of_step (hv : Served s) (hstep : InStep s) (hok : SetAlone s e)
    (hs : step s e = some s') (hlive : e ≠ .dispose) (hset : e.isSetReply = false)
    (hother : (s.answer e).map Prod.fst ≠ some s.conn.selfHandle) : Kept s s' (s.asks e) := by
  have heff := (hstep.step hv hok hs).2.2
  cases e with
  | edit infos bound => exact edit_kept hv hs
  | connected => exact connected_kept hv hs
  | _ => exact heff.kept hlive nofun nofun hset hother

/-- `manager_patch_vcard`, when there is no SET. -/
theorem managerPatchVCard_patched (hnone : s.editPipelineItem = none) (hstep : InStep s)
    (vcard : VCard β) : PatchedFrom vcard s (s.managerPatchVCard vcard) := by
  obtain ⟨hsets, hpatched⟩ := hstep.idle hnone
  rcases managerPatchVCard_cases s vcard with ⟨heq, hcase⟩ | ⟨_, _, ⟨hch, heq⟩ | ⟨_, heq⟩⟩
  · have hnil : s.edits = [] := hcase.resolve_right fun hne => hne hnone
    rw [heq]
    exact ⟨rfl, hnil, .inl ⟨hnone, hpatched, hsets, by rw [hnil]; rfl⟩⟩
  · rw [heq]
    exact ⟨rfl, rfl, .inl ⟨hnone, hpatched, hsets, applyEdits_unchanged hch⟩⟩
  · rw [heq]
    refine ⟨rfl, rfl, .inr ⟨s.nextItem, rfl, ?_, rfl, Nat.le_refl _, Nat.lt_succ_self _⟩⟩
    simp [State.sendEdits, hsets]

/-- The rest of the step does not touch the edits. -/
theorem PatchedFrom.congr (h : PatchedFrom vcard s₁ s') {s₂ : State β} (hconn : s₁.conn = s.conn)
    (hedits : s₁.edits = s.edits) (hitem : s.nextItem ≤ s₁.nextItem) (hsame : SameEdits s' s₂) :
    PatchedFrom vcard s s₂ := by
  have hout := h.outcome
  rw [hconn, hedits] at hout
  refine ⟨hsame.conn.trans (h.conn.trans hconn), hsame.edits.trans h.edits, ?_⟩
  rw [hsame.editPipelineItem, hsame.patchedVCard, hsame.sets]
  refine hout.imp_right ?_
  rintro ⟨i, hi, hsets, hp, hle, hlt⟩
  exact ⟨i, hi, hsets, hp, hitem.trans hle, hlt.trans_le hsame.nextItem⟩

omit [DecidableEq β] in
theorem answer_getReply {g : ItemId} {result result' : GetResult β} {now : ℕ} {h : Handle}
    (hans : s.answer (.getReply g result now) = some (h, result')) : result' = result := by
  simp only [State.answer] at hans
  cases hfind : s.gets.find? (·.id == g) with
  | none =>
    rw [hfind] at hans
    cases hans
  | some get =>
    rw [hfind] at hans
    obtain ⟨_, _, heq⟩ := Option.map_eq_some_iff.mp hans
    cases heq
    rfl

/-- The answer of a GET is not looked at while there is a SET. -/
theorem got_step (hv : Served s) (hstep : InStep s) {g : ItemId} {result : GetResult β} {now : ℕ}
    (hs : step s (.getReply g result now) = some s') (hres : result.vcard = some vcard) :
    Kept s s' [] ∨ (s.editPipelineItem = none ∧ PatchedFrom vcard s s') := by
  have herror : result ≠ .error := by
    rintro rfl
    cases hres
  have hok : SetAlone s (.getReply g result now) :=
    ⟨trivial, fun hans => absurd (answer_getReply hans).symm herror⟩
  cases (hstep.step hv hok hs).2.2 with
  | same _ _ hsame _ => exact .inl hsame.kept
  | environment _ status name _ =>
    exact .inl ⟨⟨name, rfl⟩, rfl, rfl, rfl, (List.append_nil _).symm, Nat.le_refl _⟩
  | remove _ q _ => exact .inl (removeEditRequest_kept s q)
  | @get _ handle result' s₁ _ _ hans hsame hsame' _ =>
    cases answer_getReply hans
    rcases editEffect_cases s₁ handle result with ⟨heq, _⟩ | ⟨_, ⟨rfl, _⟩ | ⟨node, hnode, heq⟩⟩
    · rw [heq] at hsame'
      exact .inl (hsame.trans hsame').kept
    · exact absurd rfl herror
    · have hvcard : node.getD [] = vcard := by
        rcases hnode with rfl | rfl <;> exact Option.some.inj hres
      rw [heq, hvcard] at hsame'
      by_cases hnone : s.editPipelineItem = none
      · refine .inr ⟨hnone, ?_⟩
        have hnone₁ : s₁.editPipelineItem = none := hsame.editPipelineItem.trans hnone
        exact (managerPatchVCard_patched hnone₁ (hstep.congr hsame) vcard).congr hsame.conn
          hsame.edits hsame.nextItem hsame'
      · have hbusy : s₁.managerPatchVCard vcard = s₁ := by
          unfold State.managerPatchVCard
          rw [if_pos (.inr (by rw [hsame.editPipelineItem]; exact hnone))]
        rw [hbusy] at hsame'
        exact .inl (hsame.trans hsame').kept

/-- An acknowledged SET: what it sent is the copy that is patched next. -/
theorem done_step (hv : Served s) (hstep : InStep s) {i : ItemId}
    (hs : step s (.setReply i true) = some s') (hpatched : s.patchedVCard = some vcard) :
    PatchedFrom vcard s s' := by
  obtain ⟨item, _, rfl, _, hsets, _⟩ := hstep.answered (operation_setReply hs).1
  set s₀ : State β := ({ s.answerSet item.id true with editPipelineItem := none, patchedVCard := none }
    : State β).completeEditRequests true
  have hstep₀ : InStep s₀ := .inl ⟨rfl, answerSet_sets hsets true, rfl⟩
  have hsame : SameEdits (s₀.managerPatchVCard vcard) s' := step_setDone hv hpatched hs
  exact (managerPatchVCard_patched rfl hstep₀ vcard).congr rfl rfl (Nat.le_refl _) hsame

/-! ## The IQs that a step sends -/

/-- There is no SET among them. -/
def GetsOnly (queries : List (Query β)) : Prop := ∀ i vcard, .set i vcard ∉ queries

omit [DecidableEq β] in
theorem GetsOnly.append {queries queries' : List (Query β)} (h : GetsOnly queries)
    (h' : GetsOnly queries') : GetsOnly (queries ++ queries') := fun i vcard hm =>
  (List.mem_append.mp hm).elim (h i vcard) (h' i vcard)

omit [DecidableEq β] in
theorem getsOnly_map (gets : List GetItem) :
    GetsOnly (gets.map fun get => (.get get.id : Query β)) := by
  intro i vcard hm
  simp at hm

omit [DecidableEq β] in
theorem sentSince_getsOnly (hsets : ∀ item ∈ s'.sets, item.id < s.nextItem) :
    GetsOnly (s.sentSince s') := by
  have hnone : (s'.sets.filter fun item => s.nextItem ≤ item.id) = [] := by
    refine List.filter_eq_nil_iff.mpr fun item hitem => ?_
    simpa using hsets item hitem
  rw [State.sentSince, hnone, List.map_nil, List.append_nil]
  exact getsOnly_map _

omit [DecidableEq β] in
theorem sentSince_set {i : ItemId} {edits : List (Edit β)} (hsets : s'.sets = [⟨i, edits⟩])
    (hpatched : s'.patchedVCard = some vcard) (hi : s.nextItem ≤ i) :
    ∃ gets, GetsOnly gets ∧ s.sentSince s' = gets ++ [Query.set i vcard] := by
  refine ⟨_, getsOnly_map (s'.gets.filter fun get => s.nextItem ≤ get.id &&
    (s'.requests get.userData).any (·.handle == s'.conn.selfHandle)), ?_⟩
  rw [State.sentSince, hsets, hpatched, List.filter_singleton]
  simp [hi]

end

/-! ## The invariant -/

/-- The answer of a GET, with this vCard. -/
def Answer.Carries : Answer β → VCard β → Prop
  | .got _ result, vcard => result.vcard = some vcard
  | .done _, _ => False

/-- Where the SET is.  Without one the answers on the way have the vCard that the
server has; so do the ones behind the answer of a SET. -/
inductive Phase (net : Net β) : Prop where
  | idle (hitem : net.manager.editPipelineItem = none) (hpatched : net.manager.patchedVCard = none)
      (hsets : net.manager.sets = []) (hqueries : GetsOnly net.toServer)
      (hanswers : ∀ a ∈ net.toManager, a.Carries net.vcard) : Phase net
  | sent {item : SetItem β} {vcard : VCard β} {before after : List (Query β)}
      (hitem : net.manager.editPipelineItem = some item.id)
      (hpatched : net.manager.patchedVCard = some vcard) (hsets : net.manager.sets = [item])
      (hqueries : net.toServer = before ++ .set item.id vcard :: after)
      (hbefore : GetsOnly before) (hafter : GetsOnly after)
      (hanswers : ∀ a ∈ net.toManager, ∃ vcard, a.Carries vcard) : Phase net
  | handled {item : SetItem β} {before after : List (Answer β)}
      (hitem : net.manager.editPipelineItem = some item.id)
      (hpatched : net.manager.patchedVCard = some net.vcard) (hsets : net.manager.sets = [item])
      (hqueries : GetsOnly net.toServer) (hanswers : net.toManager = before ++ .done item.id :: after)
      (hbefore : ∀ a ∈ before, ∃ vcard, a.Carries vcard)
      (hafter : ∀ a ∈ after, a.Carries net.vcard) : Phase net

/-- The copy that the server has, or will have, is the first one with all the edits
that are not queued. -/
structure NetOk (conn : Connection β) (vcard₀ : VCard β) (net : Net β) : Prop where
  served : Served net.manager
  inStep : InStep net.manager
  ids : ∀ item ∈ net.manager.sets, item.id < net.manager.nextItem
  conn : ∃ name, net.manager.conn = { conn with cachedAlias := name }
  seen : net.manager.conn.cachedAlias ∈ net.aliases
  phase : Phase net
  made : ∃ past, net.asked = past ++ net.manager.edits.map Edit.info ∧
    MadeWith net.HadConn past vcard₀ (net.manager.patchedVCard.getD net.vcard)

section

variable {conn : Connection β} {vcard₀ : VCard β} {net : Net β} {s' : State β}
  {infos : List (EditInfo β)}

omit [DecidableEq β] in
theorem hadConn_moved (hconn : ∃ name, s'.conn = { net.manager.conn with cachedAlias := name })
    (c : Connection β) (h : net.HadConn c) : (net.moved s' infos).HadConn c := by
  obtain ⟨name, hname, rfl⟩ := h
  obtain ⟨name', hconn⟩ := hconn
  refine ⟨name, List.mem_append_left _ hname, ?_⟩
  simp only [Net.moved, hconn]

omit [DecidableEq β] in
/-- A SET that is left alone stays where it is. -/
theorem Phase.kept (h : Phase net) (hids : ∀ item ∈ net.manager.sets, item.id < net.manager.nextItem)
    (hk : Kept net.manager s' infos) : Phase (net.moved s' infos) := by
  have hgets : GetsOnly (net.manager.sentSince s') :=
    sentSince_getsOnly fun item hitem => hids item (hk.sets ▸ hitem)
  cases h with
  | idle hitem hpatched hsets hqueries hanswers =>
    exact .idle (hk.editPipelineItem.trans hitem) (hk.patchedVCard.trans hpatched)
      (hk.sets.trans hsets) (hqueries.append hgets) hanswers
  | @sent item vcard before after hitem hpatched hsets hqueries hbefore hafter hanswers =>
    have hafter' : GetsOnly (after ++ net.manager.sentSince s') := hafter.append hgets
    refine .sent (hk.editPipelineItem.trans hitem) (hk.patchedVCard.trans hpatched)
      (hk.sets.trans hsets) ?_ hbefore hafter' hanswers
    simp only [Net.moved, hqueries, List.append_assoc, List.cons_append]
  | handled hitem hpatched hsets hqueries hanswers hbefore hafter =>
    exact .handled (hk.editPipelineItem.trans hitem) (hk.patchedVCard.trans hpatched)
      (hk.sets.trans hsets) (hqueries.append hgets) hanswers hbefore hafter

theorem NetOk.kept (h : NetOk conn vcard₀ net) (hv : Served s') (hstep : InStep s')
    (hk : Kept net.manager s' infos) : NetOk conn vcard₀ (net.moved s' infos) where
  served := hv
  inStep := hstep
  ids := fun item hitem => (h.ids item (hk.sets ▸ hitem)).trans_le hk.nextItem
  conn := by
    obtain ⟨name, hname⟩ := h.conn
    obtain ⟨name', hname'⟩ := hk.conn
    exact ⟨name', by rw [Net.moved, hname', hname]⟩
  seen := List.mem_append_right _ (List.mem_singleton_self _)
  phase := h.phase.kept h.ids hk
  made := by
    obtain ⟨past, hasked, hmade⟩ := h.made
    refine ⟨past, ?_, ?_⟩
    · simp only [Net.moved, hk.edits, hasked, List.append_assoc]
    · have hbase : (net.moved s' infos).manager.patchedVCard = net.manager.patchedVCard :=
        hk.patchedVCard
      rw [hbase]
      exact hmade.mono (hadConn_moved hk.conn)

/-- The edits are made to the copy the server has. -/
theorem Phase.patched (hqueries : GetsOnly net.toServer)
    (hanswers : ∀ a ∈ net.toManager, a.Carries net.vcard)
    (hp : PatchedFrom net.vcard net.manager s') : Phase (net.moved s' []) := by
  rcases hp.outcome with ⟨hitem, hpatched, hsets, _⟩ | ⟨i, hitem, hsets, hpatched, hle, _⟩
  · refine .idle hitem hpatched hsets (hqueries.append (sentSince_getsOnly ?_)) hanswers
    rw [hsets]
    exact fun _ hmem => by cases hmem
  · obtain ⟨gets, hgets, hsent⟩ := sentSince_set hsets hpatched hle
    have hnone : GetsOnly ([] : List (Query β)) := fun _ _ hm => by cases hm
    have hcarry : ∀ a ∈ net.toManager, ∃ vcard, a.Carries vcard := fun a ha => ⟨_, hanswers a ha⟩
    refine @Phase.sent β (net.moved s' []) ⟨i, net.manager.edits⟩ _ (net.toServer ++ gets) []
      hitem hpatched hsets ?_ (hqueries.append hgets) hnone hcarry
    simp only [Net.moved, hsent, List.append_assoc]

section

variable (h : NetOk conn vcard₀ net)

include h

/-- An answer lets the manager make its edits to the copy the server has. -/
theorem NetOk.patched (hv : Served s') (hstep : InStep s')
    (hbase : net.manager.patchedVCard.getD net.vcard = net.vcard)
    (hqueries : GetsOnly net.toServer) {rest : List (Answer β)}
    (hanswers : ∀ a ∈ rest, a.Carries net.vcard) (hp : PatchedFrom net.vcard net.manager s') :
    NetOk conn vcard₀ ({ net with toManager := rest }.moved s' []) where
  served := hv
  inStep := hstep
  ids := by
    intro item hitem
    rcases hp.outcome with ⟨_, _, hsets, _⟩ | ⟨i, _, hsets, _, _, hlt⟩
    · have hmem : item ∈ s'.sets := hitem
      rw [hsets] at hmem
      cases hmem
    · have hmem : item ∈ s'.sets := hitem
      rw [hsets, List.mem_singleton] at hmem
      exact hmem ▸ hlt
  conn := by
    obtain ⟨name, hname⟩ := h.conn
    exact ⟨name, by rw [Net.moved, hp.conn, hname]⟩
  seen := List.mem_append_right _ (List.mem_singleton_self _)
  phase := .patched hqueries hanswers hp
  made := by
    obtain ⟨past, hasked, hmade⟩ := h.made
    rw [hbase] at hmade
    have hconn : net.HadConn net.manager.conn := ⟨_, h.seen, rfl⟩
    have hall := hmade.append (madeWith_applyEdits hconn (net.manager.edits.map Edit.info) net.vcard)
    rw [← hasked] at hall
    refine ⟨net.asked, by simp [Net.moved, hp.edits], ?_⟩
    have hcopy : s'.patchedVCard.getD net.vcard =
        (applyEdits net.manager.conn (net.manager.edits.map Edit.info) net.vcard).2 := by
      rcases hp.outcome with ⟨_, hpatched, _, hsame⟩ | ⟨i, _, _, hpatched, _⟩
      · rw [hpatched, hsame]
        rfl
      · rw [hpatched]
        rfl
    change MadeWith _ net.asked vcard₀ (s'.patchedVCard.getD net.vcard)
    rw [hcopy]
    exact hall.mono (hadConn_moved ⟨net.manager.conn.cachedAlias, hp.conn⟩)

/-! ## One step -/

/-- The first answer on the way is the one of a GET. -/
theorem NetOk.popGot {g : ItemId} {result : GetResult β}
    {rest : List (Answer β)} (hanswers : net.toManager = .got g result :: rest) :
    NetOk conn vcard₀ { net with toManager := rest } ∧ ∃ vcard, result.vcard = some vcard ∧
      (net.manager.editPipelineItem = none → vcard = net.vcard ∧ GetsOnly net.toServer ∧
        (∀ a ∈ rest, a.Carries net.vcard) ∧ net.manager.patchedVCard = none) := by
  have hrest : ∀ {P : Answer β → Prop}, (∀ a ∈ net.toManager, P a) →
      P (.got g result) ∧ ∀ a ∈ rest, P a := by
    intro P hall
    rw [hanswers] at hall
    exact ⟨hall _ List.mem_cons_self, fun a ha => hall a (List.mem_cons_of_mem _ ha)⟩
  have hok : Phase { net with toManager := rest } → NetOk conn vcard₀ { net with toManager := rest } :=
    fun hphase => ⟨h.served, h.inStep, h.ids, h.conn, h.seen, hphase, h.made⟩
  cases h.phase with
  | idle hitem hpatched hsets hqueries hall =>
    obtain ⟨hhead, hall⟩ := hrest hall
    exact ⟨hok (.idle hitem hpatched hsets hqueries hall), _, hhead,
      fun _ => ⟨rfl, hqueries, hall, hpatched⟩⟩
  | sent hitem hpatched hsets hqueries hbefore hafter hall =>
    obtain ⟨⟨vcard, hhead⟩, hall⟩ := hrest hall
    refine ⟨hok (.sent hitem hpatched hsets hqueries hbefore hafter hall), vcard, hhead, ?_⟩
    exact fun hnone => by rw [hnone] at hitem; cases hitem
  | @handled item before after hitem hpatched hsets hqueries hsplit hbefore hafter =>
    rw [hanswers] at hsplit
    cases before with
    | nil => cases hsplit
    | cons a before =>
      obtain ⟨rfl, rfl⟩ := List.cons_eq_cons.mp hsplit
      obtain ⟨vcard, hhead⟩ := hbefore _ List.mem_cons_self
      refine ⟨hok (.handled hitem hpatched hsets hqueries rfl (fun a ha => ?_) hafter), vcard,
        hhead, fun hnone => by rw [hnone] at hitem; cases hitem⟩
      exact hbefore a (List.mem_cons_of_mem _ ha)

/-- The first answer on the way is the one of the SET. -/
theorem NetOk.popDone {i : ItemId} {rest : List (Answer β)}
    (hanswers : net.toManager = .done i :: rest) :
    net.manager.patchedVCard = some net.vcard ∧ GetsOnly net.toServer ∧
      ∀ a ∈ rest, a.Carries net.vcard := by
  cases h.phase with
  | idle _ _ _ _ hall =>
    rw [hanswers] at hall
    exact (hall _ List.mem_cons_self).elim
  | sent _ _ _ _ _ _ hall =>
    rw [hanswers] at hall
    obtain ⟨_, hnot⟩ := hall _ List.mem_cons_self
    exact hnot.elim
  | @handled item before after _ hpatched _ hqueries hsplit hbefore hafter =>
    rw [hanswers] at hsplit
    cases before with
    | nil =>
      obtain ⟨_, rfl⟩ := List.cons_eq_cons.mp hsplit
      exact ⟨hpatched, hqueries, hafter⟩
    | cons a before =>
      obtain ⟨rfl, _⟩ := List.cons_eq_cons.mp hsplit
      obtain ⟨_, hnot⟩ := hbefore _ List.mem_cons_self
      exact hnot.elim

/-- The server reads the own vCard. -/
theorem NetOk.serveGet {g : ItemId} {result : GetResult β}
    {rest : List (Query β)} (hqueries : net.toServer = .get g :: rest)
    (hres : result.vcard = some net.vcard) :
    NetOk conn vcard₀
      { net with toServer := rest, toManager := net.toManager ++ [Answer.got g result] } := by
  refine ⟨h.served, h.inStep, h.ids, h.conn, h.seen, ?_, h.made⟩
  have hnew : ∀ {P : Answer β → Prop}, (∀ a ∈ net.toManager, P a) → P (.got g result) →
      ∀ a ∈ net.toManager ++ [Answer.got g result], P a := by
    intro P hall hlast a ha
    rcases List.mem_append.mp ha with ha | ha
    · exact hall a ha
    · exact List.mem_singleton.mp ha ▸ hlast
  have htail : GetsOnly net.toServer → GetsOnly rest := fun hgets i vcard hm =>
    hgets i vcard (hqueries ▸ List.mem_cons_of_mem _ hm)
  cases h.phase with
  | idle hitem hpatched hsets hgets hall =>
    exact .idle hitem hpatched hsets (htail hgets) (hnew hall hres)
  | @sent item vcard before after hitem hpatched hsets hsplit hbefore hafter hall =>
    rw [hqueries] at hsplit
    cases before with
    | nil => cases hsplit
    | cons query before =>
      obtain ⟨-, rfl⟩ := List.cons_eq_cons.mp hsplit
      refine .sent hitem hpatched hsets rfl (fun i vcard hm => ?_) hafter (hnew hall ⟨_, hres⟩)
      exact hbefore i vcard (List.mem_cons_of_mem _ hm)
  | @handled item before after hitem hpatched hsets hgets hsplit hbefore hafter =>
    have hafter' : ∀ a ∈ after ++ [Answer.got g result], a.Carries net.vcard := by
      intro a ha
      rcases List.mem_append.mp ha with ha | ha
      · exact hafter a ha
      · exact List.mem_singleton.mp ha ▸ hres
    refine .handled hitem hpatched hsets (htail hgets) ?_ hbefore hafter'
    simp only [hsplit, List.append_assoc, List.cons_append]

/-- The server replaces the own vCard. -/
theorem NetOk.serveSet {i : ItemId} {vcard : VCard β}
    {rest : List (Query β)} (hqueries : net.toServer = .set i vcard :: rest) :
    NetOk conn vcard₀ { net with
      toServer := rest, toManager := net.toManager ++ [Answer.done i], vcard := vcard } := by
  have hnot : ¬ GetsOnly net.toServer := fun hgets =>
    hgets i vcard (hqueries ▸ List.mem_cons_self)
  cases h.phase with
  | idle _ _ _ hgets _ => exact absurd hgets hnot
  | handled _ _ _ hgets _ _ _ => exact absurd hgets hnot
  | @sent item vcard' before after hitem hpatched hsets hsplit hbefore hafter hall =>
    rw [hqueries] at hsplit
    cases before with
    | cons query before =>
      obtain ⟨rfl, _⟩ := List.cons_eq_cons.mp hsplit
      exact absurd List.mem_cons_self (hbefore i vcard)
    | nil =>
      obtain ⟨hhead, rfl⟩ := List.cons_eq_cons.mp hsplit
      cases hhead
      refine ⟨h.served, h.inStep, h.ids, h.conn, h.seen, ?_, ?_⟩
      · have hnone : ∀ a ∈ ([] : List (Answer β)), a.Carries vcard := fun a ha => by cases ha
        exact .handled hitem hpatched hsets hafter rfl hall hnone
      · obtain ⟨past, hasked, hmade⟩ := h.made
        rw [hpatched] at hmade
        refine ⟨past, hasked, ?_⟩
        change MadeWith net.HadConn past vcard₀ (net.manager.patchedVCard.getD vcard)
        rw [hpatched]
        exact hmade

/-- One step keeps the invariant. -/
theorem NetOk.step {e : NetEvent β} {net' : Net β}
    (hok : ErrorFree net e) (hs : Net.step net e = some net') : NetOk conn vcard₀ net' := by
  cases e with
  | act e =>
    obtain ⟨halone, hlive, hset, hother⟩ := hok
    obtain ⟨s', hs', rfl⟩ := Option.map_eq_some_iff.mp hs
    obtain ⟨hv', hstep', _⟩ := h.inStep.step h.served halone hs'
    exact h.kept hv' hstep' (kept_of_step h.served h.inStep halone hs' hlive hset hother)
  | serveGet result =>
    simp only [Net.step] at hs
    split at hs
    · rename_i g rest hqueries
      obtain ⟨hres, heq⟩ := Option.ite_none_right_eq_some.mp hs
      cases heq
      exact h.serveGet hqueries hres
    · cases hs
  | serveSet =>
    simp only [Net.step] at hs
    split at hs
    · rename_i i vcard rest hqueries
      cases hs
      exact h.serveSet hqueries
    · cases hs
  | deliver now =>
    simp only [Net.step] at hs
    split at hs
    · rename_i g result rest hanswers
      obtain ⟨s', hs', rfl⟩ := Option.map_eq_some_iff.mp hs
      obtain ⟨hpop, vcard, hres, hidle⟩ := h.popGot hanswers
      have halone : SetAlone net.manager (.getReply g result now) := by
        refine ⟨trivial, fun hans => ?_⟩
        cases answer_getReply hans
        cases hres
      obtain ⟨hv', hstep', _⟩ := h.inStep.step h.served halone hs'
      rcases got_step h.served h.inStep hs' hres with hk | ⟨hnone, hp⟩
      · exact hpop.kept hv' hstep' hk
      · obtain ⟨rfl, hqueries, hall, hpatched⟩ := hidle hnone
        have hbase : net.manager.patchedVCard.getD net.vcard = net.vcard := by rw [hpatched]; rfl
        exact h.patched hv' hstep' hbase hqueries hall hp
    · rename_i i rest hanswers
      obtain ⟨s', hs', rfl⟩ := Option.map_eq_some_iff.mp hs
      obtain ⟨hpatched, hqueries, hall⟩ := h.popDone hanswers
      have halone : SetAlone net.manager (.setReply i true) := ⟨trivial, nofun⟩
      obtain ⟨hv', hstep', _⟩ := h.inStep.step h.served halone hs'
      have hbase : net.manager.patchedVCard.getD net.vcard = net.vcard := by rw [hpatched]; rfl
      exact h.patched hv' hstep' hbase hqueries hall (done_step h.served h.inStep hs' hpatched)
    · cases hs

end

/-! ## The main result -/

omit [DecidableEq β] in
/-- When it is quiet no edit is queued. -/
theorem edits_of_quiet {s : State β} (hv : Served s) (hstep : InStep s) (hq : Quiet s) :
    s.editPipelineItem = none ∧ s.patchedVCard = none ∧ s.edits = [] := by
  obtain ⟨hnone, hpatched⟩ := hq.noSet hstep
  refine ⟨hnone, hpatched, by_contra fun hne => ?_⟩
  rcases hv.edits hne with hitem | hwaiting
  · exact hitem hnone
  · exact hq.not_ownWaiting hv hwaiting

theorem netOk_start {s₀ : State β} (h₀ : Reachable step SetAlone (State.new conn) s₀)
    (hq₀ : Quiet s₀) (vcard₀ : VCard β) : NetOk s₀.conn vcard₀ (Net.start s₀ vcard₀) := by
  obtain ⟨hv, hstep, _⟩ := inStep_of_reachable h₀
  obtain ⟨hnone, hpatched, hedits⟩ := edits_of_quiet hv hstep hq₀
  refine ⟨hv, hstep, ?_, ⟨s₀.conn.cachedAlias, rfl⟩, List.mem_singleton_self _, ?_, [], ?_, ?_⟩
  · intro item hitem
    have hmem : item ∈ s₀.sets := hitem
    rw [hq₀.1] at hmem
    cases hmem
  · exact .idle hnone hpatched hq₀.1 (fun _ _ hm => by cases hm) fun _ ha => by cases ha
  · rw [Net.start, hedits]
    rfl
  · rw [Net.start, hpatched]
    rfl

theorem netOk_of_reachable {s₀ : State β} (h₀ : Reachable step SetAlone (State.new conn) s₀)
    (hq₀ : Quiet s₀) (h : Reachable Net.step ErrorFree (Net.start s₀ vcard₀) net) :
    NetOk s₀.conn vcard₀ net := by
  refine h.invariant (I := NetOk s₀.conn vcard₀) (netOk_start h₀ hq₀ vcard₀) ?_
  exact fun _ _ _ hok hfree hs => hok.step hfree hs

/-- While the alias stays the same the connection does. -/
theorem NetOk.hadConn_eq (h : NetOk conn vcard₀ net)
    (hsame : ∀ name ∈ net.aliases, name = conn.cachedAlias) (conn' : Connection β)
    (hhad : net.HadConn conn') : conn' = conn := by
  obtain ⟨name, hname, rfl⟩ := hhad
  obtain ⟨name', hconn⟩ := h.conn
  rw [hconn, hsame name hname]

/-- **No edit is lost.**  The manager starts with nothing on the way, and the server
has the vCard `vcard₀`.  From then on the server alone touches the own vCard and
answers the IQs in their order, without an error; everything else may happen at any
time.  Whenever nothing is outstanding no edit is queued, and the server has
`vcard₀` with all edits that were asked for, made in their order.  A SET has all of
them but those that are still queued.  (An edit may take the alias from the rest of
the connection; when that does not change they are all made with one connection.) -/
theorem server_has_edits {s₀ : State β} (h₀ : Reachable step SetAlone (State.new conn) s₀)
    (hq₀ : Quiet s₀) (h : Reachable Net.step ErrorFree (Net.start s₀ vcard₀) net) :
    (Quiet net.manager → net.manager.edits = [] ∧
      MadeWith net.HadConn net.asked vcard₀ net.vcard ∧
      ((∀ name ∈ net.aliases, name = s₀.conn.cachedAlias) →
        net.vcard = (applyEdits s₀.conn net.asked vcard₀).2)) ∧
    ∀ i vcard, .set i vcard ∈ net.toServer →
      ∃ past, net.asked = past ++ net.manager.edits.map Edit.info ∧
        MadeWith net.HadConn past vcard₀ vcard ∧
        ((∀ name ∈ net.aliases, name = s₀.conn.cachedAlias) →
          vcard = (applyEdits s₀.conn past vcard₀).2) := by
  have hok := netOk_of_reachable h₀ hq₀ h
  obtain ⟨past, hasked, hmade⟩ := hok.made
  constructor
  · intro hq
    obtain ⟨_, hpatched, hedits⟩ := edits_of_quiet hok.served hok.inStep hq
    rw [hedits, List.map_nil, List.append_nil] at hasked
    rw [hpatched, Option.getD_none, ← hasked] at hmade
    exact ⟨hedits, hmade, fun hsame => hmade.eq_applyEdits (hok.hadConn_eq hsame)⟩
  · intro i vcard hset
    refine ⟨past, hasked, ?_⟩
    cases hok.phase with
    | idle _ _ _ hgets _ => exact absurd hset (hgets i vcard)
    | handled _ _ _ hgets _ _ _ => exact absurd hset (hgets i vcard)
    | @sent item vcard' before after _ hpatched _ hsplit hbefore hafter _ =>
      have heq : vcard = vcard' := by
        rw [hsplit, List.mem_append, List.mem_cons] at hset
        rcases hset with hset | hset | hset
        · exact absurd hset (hbefore i vcard)
        · cases hset
          rfl
        · exact absurd hset (hafter i vcard)
      rw [hpatched, Option.getD_some, ← heq] at hmade
      exact ⟨hmade, fun hsame => hmade.eq_applyEdits (hok.hadConn_eq hsame)⟩

/-- The nickname is set while the first GET is on the way.  Before the server handles
the SET the photo is set and the own vCard is requested; that GET is answered after
the next SET was sent. -/
def overlappingRun : List (NetEvent String) :=
  [.act .connected, .act (.edit [.setAlias (some "Robert the Bruce")] false),
    .serveGet (.success none), .deliver 0, .act (.edit [.replace ⟨"PHOTO", "hello"⟩] false),
    .act (.request 1 0 false), .serveSet,
    .serveGet (.success (some [⟨"NICKNAME", "Robert the Bruce"⟩])), .deliver 0, .deliver 0,
    .serveSet, .deliver 0]

theorem server_has_edits_overlappingRun :
    ∃ net, run Net.step (Net.start (State.new plainConnection) []) overlappingRun = some net ∧
      Quiet net.manager ∧ net.vcard = [⟨"NICKNAME", "Robert the Bruce"⟩, ⟨"PHOTO", "hello"⟩] ∧
      net.vcard = (applyEdits plainConnection net.asked []).2 := by
  have hadm : Admits ErrorFree Net.step (Net.start (State.new plainConnection) [])
      overlappingRun := by decide
  have hidle : Quiet (State.new plainConnection) := ⟨rfl, fun e he => by cases he⟩
  have hquiet : Quiet ((run Net.step (Net.start (State.new plainConnection) [])
      overlappingRun).get rfl).manager := by
    refine ⟨rfl, fun e he => ?_⟩
    cases he
    exact ⟨rfl, rfl⟩
  have hlast := (server_has_edits .init hidle (reachable_of_run overlappingRun hadm rfl)).1 hquiet
  exact ⟨_, rfl, hquiet, rfl, hlast.2.2 (by decide)⟩

end

end VCardManager
