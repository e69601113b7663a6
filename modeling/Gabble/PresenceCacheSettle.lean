/-
# The presence cache: the capabilities of a resource settle

Provided that every URI stands for one set, the capabilities of a resource that
stays online are those of its last advertisement as soon as the resource does not
wait any more.  Advertisements that name nothing do not count, and contacts that do
not agree on a URI need not get what they answered themselves.
-/
import Gabble.PresenceCacheBuilding

namespace PresenceCache

open CInt (guintSize)
open Transition

variable {capsHash : Query → Option String} {initial : String → Option Query}
  {capsOf : String → CapabilitySet} {h : Handle} {n : String} {s s' t : State}

/-! ## The next serial -/

section Serial

variable (s : State) (handle : Handle) (resource : Option String)

theorem emitCapabilitiesUpdate_capsSerial (old new : CapabilitySet) :
    (emitCapabilitiesUpdate s handle old new).capsSerial = s.capsSerial := by
  rw [emitCapabilitiesUpdate]
  split <;> rfl

theorem emitClientTypesUpdated_capsSerial (changed : Bool) :
    (emitClientTypesUpdated s handle changed).capsSerial = s.capsSerial := by
  rw [emitClientTypesUpdated]
  split <;> rfl

theorem setCapabilities_capsSerial (capSet : CapabilitySet) (serial : ℕ) :
    (setCapabilities s handle resource capSet serial).capsSerial = s.capsSerial := by
  rw [setCapabilities]
  split <;> rfl

theorem applyStored_capsSerial (uri : String) (serial : ℕ) :
    (applyStored s uri handle resource serial).capsSerial = s.capsSerial := by
  rw [applyStored]
  split
  · rfl
  · exact emitClientTypesUpdated_capsSerial _ handle _

theorem setCapsFor_capsSerial (uri : String) (w : Waiter) (capSet : CapabilitySet)
    (clientTypes : ℕ) (dataForms : List DataForm) (responder : Handle) :
    (setCapsFor s uri w capSet clientTypes dataForms responder).capsSerial = s.capsSerial := by
  rw [setCapsFor]
  split
  · rfl
  · exact (emitClientTypesUpdated_capsSerial _ w.handle _).trans
      (emitCapabilitiesUpdate_capsSerial _ w.handle _ _)

theorem update_capsSerial (status : PresenceId) (statusMessage : Option String)
    (priority now : ℤ) :
    (update s handle resource status statusMessage priority now).capsSerial = s.capsSerial := by
  have hremove : ∀ t : State, (maybeRemove t handle).capsSerial = t.capsSerial := by
    intro t
    rw [maybeRemove]
    split
    · rfl
    · split <;> rfl
  rw [update, hremove, emitClientTypesUpdated_capsSerial]
  split
  · exact emitCapabilitiesUpdate_capsSerial _ handle _ _
  · exact emitCapabilitiesUpdate_capsSerial _ handle _ _

theorem processCapsUri_capsSerial (node : String) (hash ver : Option String) (serial : ℕ)
    (fragment : String) :
    (processCapsUri s handle resource node hash ver serial fragment).capsSerial =
      s.capsSerial := by
  rw [processCapsUri]
  split
  · exact applyStored_capsSerial s handle resource _ serial
  · split
    · exact setCapabilities_capsSerial s handle resource _ serial
    · rcases awaitUri_cases s (uriOf node fragment) handle resource hash ver serial with
        ⟨w, -, heq⟩ | ⟨-, heq | ⟨-, heq⟩⟩
      all_goals
        rw [heq]
        rfl

/-- A presence stanza takes one serial. -/
theorem processCaps_capsSerial (caps : Option CapsNode) :
    (processCaps s handle resource caps).capsSerial = (s.capsSerial + 1) % guintSize := by
  cases caps with
  | none => rfl
  | some c =>
    refine (emitCapabilitiesUpdate_capsSerial _ handle _ _).trans ?_
    refine List.foldlRecOn (motive := fun t => t.capsSerial = (s.capsSerial + 1) % guintSize)
      (parseCapBundles c) _ ?_ fun t ht fragment _ =>
        (processCapsUri_capsSerial t handle resource _ c.hash c.ver _ fragment).trans ht
    rw [parseNode]
    split
    · rfl
    · exact setCapabilities_capsSerial _ handle resource _ _

theorem capsDiscoReply_capsSerial (req : Answer) (q : Query) :
    (capsDiscoReply capsHash s req q).capsSerial = s.capsSerial := by
  rcases capsDiscoReply_cases capsHash s req q with
    ⟨-, heq⟩ | ⟨self, -, ⟨-, heq⟩ | ⟨trustInc, -, ⟨-, heq⟩ | ⟨-, heq⟩⟩⟩
  · rw [heq]
  · rw [heq]
    rfl
  · rw [heq]
    refine List.foldlRecOn (motive := fun t : State => t.capsSerial = s.capsSerial) _ _ rfl
      fun t ht w _ => ?_
    exact (setCapsFor_capsSerial t req.uri w _ _ _ req.handle).trans ht
  · rw [heq]
    exact setCapsFor_capsSerial _ req.uri self _ _ _ req.handle

end Serial

/-! ## Runs -/

/-- The advertisements of the resource `n` of `h`. -/
def adverts (h : Handle) (n : String) : Event → List CapsNode
  | .presence handle resource _ _ _ _ (some c) =>
    if handle = h ∧ resource = some n ∧ Advertises c then [c] else []
  | _ => []

theorem advertises_of_mem {e : Event} {c : CapsNode} (hc : c ∈ adverts h n e) : Advertises c := by
  cases e with
  | presence handle resource status statusMessage priority now caps =>
    cases caps with
    | none => cases hc
    | some c' =>
      rw [adverts] at hc
      split at hc
      · next hself =>
        rw [List.mem_singleton.mp hc]
        exact hself.2.2
      · cases hc
  | _ => cases hc

/-- **The condition.**  The resource `n` of `h` stays online, no URI is given two
meanings, replies are not errors and match their hashes, and the serials do not
wrap around. -/
def Steady (capsHash : Query → Option String) (capsOf : String → CapabilitySet) (h : Handle)
    (n : String) (s : State) : Event → Prop
  | .presence handle resource _ _ _ _ caps =>
    (handle = h → resource ≠ none) ∧ s.capsSerial + 1 < guintSize ∧
      ∀ c ∈ caps, ∀ fragment ∈ parseCapBundles c, ∀ X ∈ googleCap c.hash fragment,
        capsOf (uriOf (c.node.getD "") fragment) = X
  | .unavailable handle resource _ _ _ _ => handle = h → resource ≠ none ∧ resource ≠ some n
  | .reply req q => q.capSet = capsOf req.uri ∧
      ∀ self ∈ findMatchingWaiter (s.discoPending req.uri) req.handle req.resource,
        trustOf capsHash self q ≠ none
  | .error _ => False
  | .addOwnCaps ver capSet _ => capSet = capsOf (uriOf nsGabbleCaps ver)
  | .cacheLost _ | .roomMember .. => True

instance decidableSteady (capsHash : Query → Option String) (capsOf : String → CapabilitySet)
    (h : Handle) (n : String) (s : State) : ∀ e, Decidable (Steady capsHash capsOf h n s e)
  | .presence _ _ _ _ _ _ _ => inferInstanceAs (Decidable (_ ∧ _ ∧ _))
  | .unavailable _ _ _ _ _ _ => inferInstanceAs (Decidable (_ → _))
  | .reply _ _ => inferInstanceAs (Decidable (_ ∧ _))
  | .error _ => inferInstanceAs (Decidable False)
  | .addOwnCaps _ _ _ => inferInstanceAs (Decidable (_ = _))
  | .cacheLost _ | .roomMember .. => inferInstanceAs (Decidable True)

/-- The capabilities are built up for the last of some advertisements. -/
def Settles (capsOf : String → CapabilitySet) (h : Handle) (n : String) (l : List CapsNode)
    (s : State) : Prop :=
  ∃ version < s.capsSerial, Building capsOf h n (l.getLast?.bind fun c => c.node.bind nodeCaps)
    (l.getLast?.elim [] urisOf) version s

theorem settles_new (selfHandle : Handle) (hcache : ∀ uri q, initial uri = some q →
      q.capSet = capsOf uri) (hbundles : ∀ b ∈ bundles, capsOf b.1 = {b.2}) :
    Settles capsOf h n [] (State.new selfHandle initial) := by
  refine ⟨0, Nat.one_pos, faithful_new selfHandle hcache hbundles, fun p hp => (by cases hp), ?_,
    ?_⟩
  · rintro (hne | hne) <;> exact absurd rfl hne
  · exact ⟨fun v hv => (by cases hv), fun v hv => (by cases hv), fun X hX => (by cases hX),
      fun u hu => (by cases hu), fun u k hk => (by cases hk)⟩

section Step

variable {l : List CapsNode}

/-- The resource sends a presence stanza. -/
theorem Settles.presence_self (hs : Settles capsOf h n l s) {status : PresenceId}
    {statusMessage : Option String} {priority now : ℤ} {caps : Option CapsNode}
    (hstatus : status > PresenceId.lastUnavailable)
    (hok : Steady capsHash capsOf h n s
      (.presence h (some n) status statusMessage priority now caps)) :
    Settles capsOf h n
      (l ++ adverts h n (.presence h (some n) status statusMessage priority now caps))
      (processCaps (update s h (some n) status statusMessage priority now) h (some n) caps) := by
  obtain ⟨version, hlt, hb⟩ := hs
  obtain ⟨-, hwrap, hgoogle⟩ := hok
  obtain ⟨hb', honline⟩ := hb.update hstatus statusMessage priority now
  let t := update s h (some n) status statusMessage priority now
  have hserial : t.capsSerial = s.capsSerial :=
    update_capsSerial s h (some n) status statusMessage priority now
  have hnext : (processCaps t h (some n) caps).capsSerial = s.capsSerial + 1 := by
    rw [processCaps_capsSerial, hserial, Nat.mod_eq_of_lt hwrap]
  -- a stanza that names nothing changes nothing
  have hsame : adverts h n (.presence h (some n) status statusMessage priority now caps) = [] →
      Alike h n t (processCaps t h (some n) caps) →
      Settles capsOf h n
        (l ++ adverts h n (.presence h (some n) status statusMessage priority now caps))
        (processCaps t h (some n) caps) := by
    intro hnil halike
    rw [hnil, List.append_nil]
    exact ⟨version, by omega, halike.building hb'⟩
  cases caps with
  | none => exact hsame rfl (.of_presence (quiet_capsSerial t _) rfl)
  | some c =>
    by_cases hc : Advertises c
    · rw [adverts, if_pos ⟨rfl, rfl, hc⟩]
      refine ⟨s.capsSerial, (Nat.lt_succ_self _).trans_eq hnext.symm, ?_⟩
      rw [List.getLast?_append, List.getLast?_singleton, ← hserial]
      exact hb'.processCaps honline (hserial ▸ hlt) c (hgoogle c rfl)
    · refine hsame ?_ (alike_processCaps_of_not_advertises hc t h (some n))
      exact if_neg fun hself => hc hself.2.2

/-- **What one event preserves.** -/
theorem Settles.step (l : List CapsNode) (s : State) (e : Event) (s' : State)
    (hs : Settles capsOf h n l s) (hok : Steady capsHash capsOf h n s e)
    (hstep : step capsHash s e = some s') : Settles capsOf h n (l ++ adverts h n e) s' := by
  cases e with
  | presence handle resource status statusMessage priority now caps =>
    obtain ⟨hstatus, heq⟩ := Option.ite_none_right_eq_some.mp hstep
    cases heq
    by_cases hself : handle = h ∧ resource = some n
    · obtain ⟨rfl, rfl⟩ := hself
      exact hs.presence_self hstatus.1 hok
    · obtain ⟨version, hlt, hb⟩ := hs
      obtain ⟨hbare, hwrap, -⟩ := hok
      have hnil : adverts h n
          (.presence handle resource status statusMessage priority now caps) = [] := by
        cases caps with
        | none => rfl
        | some c => exact if_neg fun hc => hself ⟨hc.1, hc.2.1⟩
      rw [hnil, List.append_nil]
      refine ⟨version, ?_, ?_⟩
      · rw [processCaps_capsSerial, update_capsSerial, Nat.mod_eq_of_lt hwrap]
        omega
      · exact (alike_processCaps hself _ caps).building
          (hb.update_of_ne hself hbare status statusMessage priority now)
  | unavailable handle resource status statusMessage priority now =>
    obtain ⟨-, heq⟩ := Option.ite_none_right_eq_some.mp hstep
    cases heq
    obtain ⟨version, hlt, hb⟩ := hs
    show Settles capsOf h n (l ++ []) _
    rw [List.append_nil]
    refine ⟨version, ?_, ?_⟩
    · rw [update_capsSerial]
      exact hlt
    · exact hb.update_of_ne (fun hself => (hok hself.1).2 hself.2) (fun hh => (hok hh).1) status
        statusMessage priority now
  | reply req q =>
    obtain ⟨-, heq⟩ := Option.ite_none_right_eq_some.mp hstep
    cases heq
    obtain ⟨version, hlt, hb⟩ := hs
    have hanswered : Alike h n s (answered s req) := ⟨rfl, fun _ => rfl, id, rfl, rfl⟩
    show Settles capsOf h n (l ++ []) _
    rw [List.append_nil]
    refine ⟨version, ?_, (hanswered.building hb).capsDiscoReply hok.1 hok.2⟩
    rw [capsDiscoReply_capsSerial]
    exact hlt
  | error req => exact hok.elim
  | addOwnCaps ver capSet dataForms =>
    cases hstep
    obtain ⟨version, hlt, hb⟩ := hs
    show Settles capsOf h n (l ++ []) _
    rw [List.append_nil, PresenceCache.addOwnCaps]
    split
    · exact ⟨version, hlt, hb⟩
    · refine ⟨version, hlt, hb.faithful.setInfo ?_, hb.alive, hb.online, hb.collects⟩
      exact congrArg some hok
  | cacheLost uri =>
    cases hstep
    obtain ⟨version, hlt, hb⟩ := hs
    show Settles capsOf h n (l ++ []) _
    rw [List.append_nil]
    exact ⟨version, hlt, hb.faithful.cacheLost uri, hb.alive, hb.online, hb.collects⟩
  | roomMember room nick =>
    cases hstep
    obtain ⟨version, hlt, hb⟩ := hs
    show Settles capsOf h n (l ++ []) _
    rw [List.append_nil]
    exact ⟨version, hlt, hb.faithful.congr rfl rfl, hb.alive, hb.online, hb.collects⟩

end Step

/-- The capabilities a `c` node stands for. -/
def advertised (capsOf : String → CapabilitySet) (c : CapsNode) : CapabilitySet :=
  (c.node.bind nodeCaps).getD ∅ ∪ (urisOf c).toFinset.biUnion capsOf

theorem mem_advertised {c : CapsNode} {ns : String} :
    ns ∈ advertised capsOf c ↔
      (∃ X ∈ c.node.bind nodeCaps, ns ∈ X) ∨ ∃ uri ∈ urisOf c, ns ∈ capsOf uri := by
  rw [advertised, Finset.mem_union, Finset.mem_biUnion]
  simp only [List.mem_toFinset]
  refine or_congr_left ?_
  cases c.node.bind nodeCaps with
  | none => simp
  | some X => simp

/-- **The capabilities settle.**  Once no waiter of the resource is left, it is
there and has the capabilities of its last advertisement, in whatever order the
replies came and whoever sent them. -/
theorem capabilities_settle (capsHash : Query → Option String) (capsOf : String → CapabilitySet)
    (selfHandle : Handle) (initial : String → Option Query)
    (hcache : ∀ uri q, initial uri = some q → q.capSet = capsOf uri)
    (hbundles : ∀ b ∈ bundles, capsOf b.1 = {b.2}) (h : Handle) (n : String) (es : List Event)
    (hadm : Admits (Steady capsHash capsOf h n) (step capsHash) (State.new selfHandle initial) es)
    {s : State} (hrun : run (step capsHash) (State.new selfHandle initial) es = some s)
    {c : CapsNode} (hlast : (es.flatMap (adverts h n)).getLast? = some c)
    (hnone : ∀ uri, ∀ w ∈ s.discoPending uri, ¬ (w.handle = h ∧ w.resource = some n)) :
    ∃ p, s.presence h = some p ∧ (∃ r ∈ p.resources, r.name = n) ∧
      ∀ r ∈ p.resources, r.name = n → r.capSet = advertised capsOf c := by
  have hsettles := run_collect_invariant (I := Settles capsOf h n) (f := fun _ => adverts h n)
    Settles.step es (settles_new selfHandle hcache hbundles) hadm hrun
  rw [List.nil_append, collect_of_run (adverts h n) es hrun] at hsettles
  obtain ⟨version, -, hb⟩ := hsettles
  rw [hlast] at hb
  -- the last advertisement named something, so the resource was there and is still
  have hc : Advertises c := by
    obtain ⟨e, -, hc⟩ := List.mem_flatMap.mp (List.mem_of_getLast? hlast)
    exact advertises_of_mem hc
  have hidle : ∀ uri, version ∉ pendingOf h n s uri := by
    intro uri hmem
    obtain ⟨w, hw, hmatch, -⟩ := mem_serials.mp hmem
    exact hnone uri w hw (isMatching_self.mp hmatch)
  obtain ⟨p, hp, hversions⟩ := exists_of_versionsOf (hb.online hc)
  refine ⟨p, hp, ?_, fun r hr hname => ?_⟩
  · obtain ⟨v, hv⟩ := List.exists_mem_of_ne_nil _ (hb.online hc)
    obtain ⟨r, hr, hname, -⟩ := Presence.mem_versions.mp (hversions ▸ hv)
    exact ⟨r, hr, hname⟩
  · have hv : (r.capsSerial, r.capSet) ∈ versionsOf h n s := by
      rw [hversions]
      exact Presence.mem_versions.mpr ⟨r, hr, hname, rfl⟩
    ext ns
    rw [mem_advertised]
    exact hb.collects.complete (fun uri _ => hidle uri) hc hv ns

/-- The URIs a stanza names. -/
def named : Event → List String
  | .presence _ _ _ _ _ _ (some c) => urisOf c
  | _ => []

/-- Nobody waits for a URI that no stanza named. -/
theorem discoPending_of_not_named {selfHandle : Handle} {es : List Event} {uri : String}
    (hadm : Admits (CleanRetry capsHash) (step capsHash) (State.new selfHandle initial) es)
    (hrun : run (step capsHash) (State.new selfHandle initial) es = some s)
    (huri : uri ∉ es.flatMap named) : s.discoPending uri = [] := by
  have hnone : (es.map (arrivals uri)).sum = 0 := by
    refine List.sum_eq_zero fun k hk => ?_
    obtain ⟨e, he, rfl⟩ := List.mem_map.mp hk
    have hnot : uri ∉ named e := fun hmem => huri (List.mem_flatMap.mpr ⟨e, he, hmem⟩)
    cases e with
    | presence handle resource status statusMessage priority now caps =>
      cases caps with
      | none => rfl
      | some c => exact List.count_eq_zero.mpr hnot
    | _ => rfl
  have hall := (reachable_of_run es hadm hrun).invariant (allFollowed_new selfHandle initial)
    AllFollowed.step
  by_contra hne
  have hpos := (hall uri).work_pos hne
  have hwork := work_run uri es hrun
  have hstart : work (State.new selfHandle initial) uri = 0 := rfl
  omega

/-- Nobody waits after a run if nobody waits for the URIs it named. -/
theorem idle_of_named {selfHandle : Handle} {es : List Event} {P : State → Prop} [DecidablePred P]
    (hadm : Admits (CleanRetry capsHash) (step capsHash) (State.new selfHandle initial) es)
    (hend : (run (step capsHash) (State.new selfHandle initial) es).any (fun s =>
      (∀ uri ∈ es.flatMap named, s.discoPending uri = []) ∧ P s) = true) :
    ∃ s, run (step capsHash) (State.new selfHandle initial) es = some s ∧
      (∀ uri, s.discoPending uri = []) ∧ P s := by
  obtain ⟨s, hrun, hend⟩ := (Option.any_eq_true _ _).mp hend
  obtain ⟨hidle, hP⟩ := of_decide_eq_true hend
  refine ⟨s, hrun, fun uri => ?_, hP⟩
  by_cases huri : uri ∈ es.flatMap named
  · exact hidle uri huri
  · exact discoPending_of_not_named hadm hrun huri

/-- One feature each for the two URIs of the node "n". -/
def twoUris (uri : String) : CapabilitySet :=
  if uri = "n#v" then {"a"} else if uri = "n#x" then {"b"}
  else (bundles.lookup uri).elim ∅ fun ns => {ns}

/-- The second presence of the contact repeats a URI for which it waits and names
another one; the reply for the new URI comes first. -/
def settlingRun : List Event :=
  [available "b" none "v",
    .presence "b" (some "r") .available none 0 0 (some ⟨none, some "n", some "v", some "x"⟩),
    .reply ⟨"n#x", "b", some "r"⟩ ⟨["b"], [], []⟩, .reply ⟨"n#v", "b", some "r"⟩ ⟨["a"], [], []⟩]

theorem capabilities_settle_settlingRun :
    ∃ s p, run (step emptyHash) (State.new "me" fun _ => none) settlingRun = some s ∧
      s.presence "b" = some p ∧ (∃ r ∈ p.resources, r.name = "r") ∧
      ∀ r ∈ p.resources, r.name = "r" → r.capSet = {"a", "b"} := by
  obtain ⟨s, hrun, hnone, -⟩ := idle_of_named (P := fun _ => True)
    (show Admits (CleanRetry emptyHash) (step emptyHash) (State.new "me" fun _ => none)
        settlingRun by
      decide +kernel) (by decide +kernel)
  obtain ⟨p, hp, hresource, hcaps⟩ := capabilities_settle emptyHash twoUris "me" (fun _ => none)
    (fun uri q hq => (by cases hq)) (by decide) "b" "r" settlingRun (by decide +kernel) hrun
    (c := ⟨none, some "n", some "v", some "x"⟩) (by decide +kernel) (fun uri w hw => by
      rw [hnone uri] at hw
      cases hw)
  refine ⟨s, p, hrun, hp, hresource, fun r hr hname => ?_⟩
  rw [hcaps r hr hname]
  decide +kernel

/-- The last presence of the contact has a `c` element that names no URI. -/
def keepingRun : List Event :=
  [available "b" none "v", .reply ⟨"n#v", "b", some "r"⟩ ⟨["a"], [], []⟩,
    .presence "b" (some "r") .available none 0 0 (some ⟨none, some "n", none, none⟩)]

/-- One contact says what the URI stands for, five others say something else, and the
first one advertises the URI again. -/
def outvotedRun : List Event :=
  [available "g" none "v", .reply ⟨"n#v", "g", some "r"⟩ ⟨["b"], [], []⟩] ++
    ["b", "c", "d", "e", "f"].map (available · none "v") ++
    (["b", "c", "d", "e", "f"].map fun handle =>
      .reply ⟨"n#v", handle, some "r"⟩ ⟨["a"], [], []⟩) ++
    [available "g" none "v"]

/-- What the contacts of `outvotedRun` always answer. -/
def answerOf (handle : Handle) (_ : String) : CapabilitySet := 
  if handle = ("g" : Handle) then {"b"} else {"a"}

/-- Every contact answers, and always the same. -/
def AnswersWith (answer : Handle → String → CapabilitySet) : Event → Prop
  | .reply req q => q.capSet = answer req.handle req.uri
  | .error _ => False
  | _ => True

instance decidableAnswersWith (answer : Handle → String → CapabilitySet) :
    ∀ e, Decidable (AnswersWith answer e)
  | .reply _ _ => inferInstanceAs (Decidable (_ = _))
  | .error _ => inferInstanceAs (Decidable False)
  | .presence .. | .unavailable .. | .addOwnCaps .. | .cacheLost _ | .roomMember .. =>
    inferInstanceAs (Decidable True)

/-- A stanza that names no URI leaves the capabilities of the one before it; and a
contact does not get what it answered itself once five others answered something
else. -/
theorem last_stanza_ignored_or_outvoted :
    (Admits (Steady emptyHash twoUris "b" "r") (step emptyHash) (State.new "me" fun _ => none)
        keepingRun ∧
      ∃ s, run (step emptyHash) (State.new "me" fun _ => none) keepingRun = some s ∧
        (∀ uri, s.discoPending uri = []) ∧
        ∃ p ∈ s.presence "b", ∃ r ∈ p.resources, r.name = "r" ∧
          r.capSet ≠ advertised twoUris ⟨none, some "n", none, none⟩) ∧
    (∀ e ∈ outvotedRun, AnswersWith answerOf e) ∧
      ∃ s, run (step emptyHash) (State.new "me" fun _ => none) outvotedRun = some s ∧
        (∀ uri, s.discoPending uri = []) ∧
        ∃ p ∈ s.presence "g", ∃ r ∈ p.resources, r.name = "r" ∧
          r.capSet ≠ advertised (answerOf "g") ⟨none, some "n", some "v", none⟩ := by
  refine ⟨⟨by decide +kernel, ?_⟩, by decide +kernel, ?_⟩
  · exact idle_of_named (by decide +kernel) (by decide +kernel)
  · exact idle_of_named (by decide +kernel) (by decide +kernel)

end PresenceCache
