/-
# Whom the factory queries

The cursor into the list of potential proxies is kept while replies come in, and a
bad reply takes a link out of the list.  As long as that is not the link the cursor
is at, the cursor stays in the list, a call of `query_proxies` queries nobody twice,
and a proxy that was removed is left alone.
-/
import Mathlib.Data.List.Rotate
import Gabble.Socks5Proxies

namespace Socks5Proxies

open Base64 (Bytes)
open ListCursor Transition

/-! ## The history -/

/-- What an action does to the proxies that are to be left alone. -/
def Action.ban (spared : List Bytes) : Action → List Bytes
  | .removed jid => jid :: spared
  | .listReplaced jids => spared.filter (· ∉ jids)
  | _ => spared

/-- The proxies that were removed as buggy and that no list has named since. -/
def banned (log : List Action) : List Bytes := log.foldl Action.ban []

/-- A proxy that was removed as buggy is not queried before a list names it again. -/
def Spared (log : List Action) : Prop :=
  ∀ before jid between fallback after,
    log = before ++ .removed jid :: (between ++ .queried jid fallback :: after) →
      ∃ jids, .listReplaced jids ∈ between ∧ jid ∈ jids

/-- A call of `query_proxies` on a list without repeated jids queries nobody twice. -/
def RoundsOnce (log : List Action) : Prop :=
  ∀ listed asked, .round listed asked ∈ log → listed.Nodup → asked.Nodup

/-- At each query the proxy is none of those that are to be left alone. -/
def Clean (log : List Action) : Prop :=
  ∀ before jid fallback after, log = before ++ .queried jid fallback :: after → jid ∉ banned before

theorem banned_append_singleton (log : List Action) (a : Action) :
    banned (log ++ [a]) = a.ban (banned log) := by
  rw [banned, List.foldl_append]
  rfl

theorem mem_banned_append {before between : List Action} {jid : Bytes}
    (h : ∀ jids, Action.listReplaced jids ∈ between → jid ∉ jids) :
    jid ∈ banned (before ++ Action.removed jid :: between) := by
  induction between using List.reverseRecOn with
  | nil =>
    rw [banned_append_singleton]
    exact List.mem_cons_self
  | append_singleton between a ih =>
    have hmem : jid ∈ banned (before ++ Action.removed jid :: between) := by
      apply ih
      intro jids hjids
      exact h jids (List.mem_append_left _ hjids)
    rw [← List.cons_append, ← List.append_assoc, banned_append_singleton]
    cases a with
    | removed jid' => exact List.mem_cons_of_mem _ hmem
    | listReplaced jids =>
      apply List.mem_filter.mpr
      exact ⟨hmem, by simpa using h jids (by simp)⟩
    | _ => exact hmem

theorem Clean.spared {log : List Action} (h : Clean log) : Spared log := by
  intro before jid between fallback after hlog
  by_contra hnone
  have hban : jid ∉ banned (before ++ Action.removed jid :: between) := by
    apply h _ jid fallback after
    rw [hlog, List.append_assoc, List.cons_append]
  apply hban
  apply mem_banned_append
  intro jids hjids hjid
  exact hnone ⟨jids, hjids, hjid⟩

theorem clean_append_singleton {log : List Action} {a : Action} (h : Clean log)
    (ha : ∀ jid fallback, a = .queried jid fallback → jid ∉ banned log) : Clean (log ++ [a]) := by
  intro before jid fallback after hlog
  rcases List.eq_nil_or_concat after with rfl | ⟨after, b, rfl⟩
  · obtain ⟨rfl, heq⟩ := List.append_inj' hlog rfl
    exact ha jid fallback (List.singleton_inj.mp heq)
  · rw [List.concat_eq_append, ← List.cons_append, ← List.append_assoc] at hlog
    obtain ⟨hlog, -⟩ := List.append_inj' hlog rfl
    exact h before jid fallback after hlog

theorem roundsOnce_append_singleton {log : List Action} {a : Action} (h : RoundsOnce log)
    (ha : ∀ listed asked, a = .round listed asked → listed.Nodup → asked.Nodup) :
    RoundsOnce (log ++ [a]) := by
  intro listed asked hmem
  rcases List.mem_append.mp hmem with hmem | hmem
  · exact h listed asked hmem
  · exact ha listed asked (List.mem_singleton.mp hmem).symm

/-! ## The invariant -/

/-- The cursor is in the list, nobody in the list is to be left alone, and the history
is in order. -/
structure Inv (s : State) : Prop where
  links : s.socks5PotentialProxies.Nodup
  cursor : Valid s.socks5PotentialProxies s.nextQuery
  listed : ∀ link ∈ s.socks5PotentialProxies, link.jid ∉ banned s.log
  clean : Clean s.log
  rounds : RoundsOnce s.log
  unfreed : s.usedFreed = false
  start : s.connected = false → s.socks5PotentialProxies = [] ∧ s.log = []

variable {s s' : State}

theorem inv_new : Inv .new where
  links := List.nodup_nil
  cursor := valid_none _
  listed := fun _ h => nomatch h
  clean := fun before jid fallback after h => by
    cases before <;> cases h
  rounds := fun _ _ h => nomatch h
  unfreed := rfl
  start := fun _ => ⟨rfl, rfl⟩

/-- Once there is a connection, things that are in order can happen. -/
theorem Inv.record (h : Inv s) (hconnected : s.connected = true) {a : Action}
    (hquery : ∀ jid fallback, a = .queried jid fallback → jid ∉ banned s.log)
    (hround : ∀ listed asked, a = .round listed asked → listed.Nodup → asked.Nodup)
    (hlisted : ∀ link ∈ s.socks5PotentialProxies, link.jid ∉ a.ban (banned s.log)) :
    Inv (record a s) where
  links := h.links
  cursor := h.cursor
  listed := fun link hlink => by
    rw [Socks5Proxies.record, banned_append_singleton]
    exact hlisted link hlink
  clean := clean_append_singleton h.clean hquery
  rounds := roundsOnce_append_singleton h.rounds hround
  unfreed := h.unfreed
  start := fun hnot => by
    rw [show (Socks5Proxies.record a s).connected = s.connected from rfl, hconnected] at hnot
    cases hnot

/-- The parts of the state that the invariant does not mention may be anything. -/
theorem Inv.of_rest (h : Inv s) {proxies fallbacks : List Socks5.Streamhost} {stamp : ℤ}
    {queries : List Query} {requests : ℕ} :
    Inv { s with
      socks5Proxies := proxies, socks5FallbackProxies := fallbacks, proxiesListStamp := stamp
      queries := queries, listRequests := requests } :=
  ⟨h.links, h.cursor, h.listed, h.clean, h.rounds, h.unfreed, h.start⟩

theorem Inv.sendProxyQuery (h : Inv s) (hconnected : s.connected = true) {jid : Bytes}
    (hjid : jid ∉ banned s.log) (fallback : Bool) : Inv (sendProxyQuery jid fallback s) := by
  have hqueries : Inv { s with queries := s.queries ++ [⟨jid, fallback⟩] } := h.of_rest
  apply hqueries.record hconnected
  · rintro _ _ ⟨rfl, rfl⟩
    exact hjid
  · intro _ _ hround
    cases hround
  · exact h.listed

/-! ## A round of queries -/

theorem banned_sendProxyQuery (jid : Bytes) (fallback : Bool) (s : State) :
    banned (sendProxyQuery jid fallback s).log = banned s.log :=
  banned_append_singleton s.log (.queried jid fallback)

theorem Inv.foldl_sendProxyQuery {asked : List Link} (h : Inv s) (hconnected : s.connected = true)
    (hasked : ∀ link ∈ asked, link.jid ∉ banned s.log) :
    Inv (asked.foldl (fun s link => Socks5Proxies.sendProxyQuery link.jid true s) s) := by
  induction asked generalizing s with
  | nil => exact h
  | cons link asked ih =>
    apply ih (h.sendProxyQuery hconnected (hasked link List.mem_cons_self) true) hconnected
    intro link' hlink'
    rw [banned_sendProxyQuery]
    exact hasked link' (List.mem_cons_of_mem _ hlink')

theorem Inv.queryProxies (h : Inv s) (hconnected : s.connected = true) (n : ℕ) :
    Inv (queryProxies n s) := by
  obtain ⟨asked, next, rest, hwalk, hperm, hvalid⟩ :=
    walk_of_valid h.links h.cursor (min_le_right n s.socks5PotentialProxies.length)
  have hmem : ∀ link ∈ asked, link ∈ s.socks5PotentialProxies := by
    intro link hlink
    exact hperm.subset (List.mem_append_left _ hlink)
  have hnext : Inv { s with nextQuery := next } :=
    ⟨h.links, hvalid, h.listed, h.clean, h.rounds, h.unfreed, h.start⟩
  rw [Socks5Proxies.queryProxies, hwalk]
  dsimp only
  have hround : Inv (Socks5Proxies.record
      (.round (s.socks5PotentialProxies.map Link.jid) (asked.map Link.jid))
      { s with nextQuery := next }) := by
    apply hnext.record hconnected
    · intro _ _ hquery
      cases hquery
    · rintro _ _ ⟨rfl, rfl⟩ hnodup
      have hall : ((asked ++ rest).map Link.jid).Nodup := (hperm.map Link.jid).nodup_iff.mpr hnodup
      rw [List.map_append] at hall
      exact hall.of_append_left
    · exact h.listed
  apply hround.foldl_sendProxyQuery hconnected
  intro link hlink
  rw [Socks5Proxies.record, banned_append_singleton]
  exact h.listed link (hmem link hlink)

theorem Inv.getProxiesList (h : Inv s) (hconnected : s.connected = true) :
    Inv (getProxiesList s) := by
  have hrequests : Inv { s with listRequests := s.listRequests + 1 } := h.of_rest
  apply hrequests.record hconnected
  · intro _ _ hquery
    cases hquery
  · intro _ _ hround
    cases hround
  · exact h.listed

theorem Inv.querySocks5Proxies (h : Inv s) (hconnected : s.connected = true) (now : ℤ) :
    Inv (querySocks5Proxies now s) := by
  rw [Socks5Proxies.querySocks5Proxies]
  split
  · exact h.getProxiesList hconnected
  · dsimp only
    split
    · exact (h.getProxiesList hconnected).queryProxies hconnected _
    · exact h.queryProxies hconnected _

/-! ## The list -/

theorem nodup_links (first : ℕ) (jids : List Bytes) : (links first jids).Nodup := by
  apply List.Nodup.of_map Link.id
  rw [links, List.map_map]
  have hids : (jids.zipIdx first).map (Link.id ∘ fun p => ⟨p.2, p.1⟩) =
      List.range' first jids.length := by
    rw [← List.zipIdx_map_snd]
    rfl
  rw [hids]
  exact List.nodup_range'

theorem mem_jids_of_mem_links {first : ℕ} {jids : List Bytes} {link : Link}
    (h : link ∈ links first jids) : link.jid ∈ jids := by
  obtain ⟨p, hp, rfl⟩ := List.mem_map.mp h
  exact List.fst_mem_of_mem_zipIdx hp

theorem Inv.connStatusChangedCb (h : Inv s) (hnot : s.connected = false) (jids : List Bytes)
    (cut : ℕ) : Inv (connStatusChangedCb jids cut s) := by
  obtain ⟨hlist, hlog⟩ := h.start hnot
  rw [Socks5Proxies.connStatusChangedCb, hlist, List.append_nil]
  refine ⟨?_, valid_head _, ?_, h.clean, h.rounds, h.unfreed, fun hnot => nomatch hnot⟩
  · exact List.nodup_rotate.mpr (List.nodup_reverse.mpr (nodup_links _ _))
  · intro link _
    show link.jid ∉ banned s.log
    rw [hlog]
    exact List.not_mem_nil

/-- A list that was fetched replaces the other one. -/
theorem Inv.listReplaced (h : Inv s) (hconnected : s.connected = true) (jids : List Bytes)
    (cut fresh : ℕ) :
    Inv (Socks5Proxies.record (.listReplaced jids)
      (setPotentialProxies (Socks5Proxies.links s.nextLink jids).reverse cut fresh s)) := by
  refine ⟨?_, valid_head _, ?_, ?_, ?_, h.unfreed, fun hnot => ?_⟩
  · exact List.nodup_rotate.mpr (List.nodup_reverse.mpr (nodup_links _ _))
  · intro link hlink
    have hjid : link.jid ∈ jids :=
      mem_jids_of_mem_links (List.mem_reverse.mp (List.mem_rotate.mp hlink))
    show link.jid ∉ banned (s.log ++ [Action.listReplaced jids])
    rw [banned_append_singleton, Action.ban, List.mem_filter]
    simp [hjid]
  · apply clean_append_singleton h.clean
    intro _ _ hquery
    cases hquery
  · apply roundsOnce_append_singleton h.rounds
    intro _ _ hround
    cases hround
  · have hsame : (Socks5Proxies.record (.listReplaced jids)
        (setPotentialProxies (Socks5Proxies.links s.nextLink jids).reverse cut fresh s)).connected =
          s.connected := rfl
    rw [hsame, hconnected] at hnot
    cases hnot

theorem Inv.proxiesDiscoCb (h : Inv s) (hconnected : s.connected = true)
    (items : Option (List (Option Bytes))) (cut : ℕ) (now : ℤ) :
    Inv (proxiesDiscoCb items cut now s) := by
  cases items with
  | none => exact h.of_rest
  | some items =>
    unfold Socks5Proxies.proxiesDiscoCb
    dsimp only
    split
    · exact h.of_rest
    · have hanswered : Inv { s with
          proxiesListStamp := now, listRequests := s.listRequests - 1 } := h.of_rest
      exact (hanswered.listReplaced hconnected _ cut _).querySocks5Proxies hconnected now

/-! ## Replies -/

/-- A bad reply takes out neither the link of the cursor nor one of two links for the
same proxy, and service discovery finds nobody who is to be left alone. -/
def Within (s : State) : Event → Prop
  | .discoItemFound item => item.isProxy = true → item.jid ∉ banned s.log
  | .queryReply q r =>
    r.proxy = none → ∀ link ∈ buggyLink q r s,
      s.nextQuery ≠ some link ∧ link.jid ∉ (s.socks5PotentialProxies.erase link).map Link.jid
  | _ => True

instance (s : State) : (e : Event) → Decidable (Within s e)
  | .discoItemFound item => inferInstanceAs (Decidable (item.isProxy = true → item.jid ∉ _))
  | .queryReply q r => inferInstanceAs (Decidable (r.proxy = none → ∀ link ∈ buggyLink q r s, _ ∧ _))
  | .connected _ _ => .isTrue trivial
  | .proxiesNeeded _ => .isTrue trivial
  | .proxiesDisco _ _ _ => .isTrue trivial

theorem Inv.proxyFailed (h : Inv s) (hconnected : s.connected = true) {q : Query} {r : Reply}
    (hlink : ∀ link ∈ buggyLink q r s,
      s.nextQuery ≠ some link ∧ link.jid ∉ (s.socks5PotentialProxies.erase link).map Link.jid) :
    Inv (proxyFailed q r s) := by
  rw [Socks5Proxies.proxyFailed]
  cases hbuggy : buggyLink q r s with
  | none => exact h.queryProxies hconnected 1
  | some link =>
    obtain ⟨hcursor, honce⟩ := hlink link hbuggy
    have herased : Inv { s with socks5PotentialProxies := s.socks5PotentialProxies.erase link } := by
      refine ⟨h.links.erase link, valid_erase h.cursor hcursor, fun link' hlink' => ?_, h.clean,
        h.rounds, h.unfreed, fun hnot => ?_⟩
      · exact h.listed link' (List.mem_of_mem_erase hlink')
      · rw [hconnected] at hnot
        cases hnot
    have hremoved : Inv (Socks5Proxies.record (.removed link.jid)
        { s with socks5PotentialProxies := s.socks5PotentialProxies.erase link }) := by
      apply herased.record hconnected
      · intro _ _ hquery
        cases hquery
      · intro _ _ hround
        cases hround
      · intro link' hlink' hmem
        rcases List.mem_cons.mp hmem with heq | hmem
        · exact honce (heq ▸ List.mem_map_of_mem hlink')
        · exact herased.listed link' hlink' hmem
    exact hremoved.queryProxies hconnected 1

theorem Inv.proxyQueryReplyCb (h : Inv s) (hconnected : s.connected = true) {q : Query} {r : Reply}
    (hlink : r.proxy = none → ∀ link ∈ buggyLink q r s,
      s.nextQuery ≠ some link ∧ link.jid ∉ (s.socks5PotentialProxies.erase link).map Link.jid) :
    Inv (proxyQueryReplyCb q r s) := by
  rw [Socks5Proxies.proxyQueryReplyCb]
  cases hproxy : r.proxy with
  | none => exact h.proxyFailed hconnected (hlink hproxy)
  | some proxy =>
    have hadded : Inv (addProxyToList proxy q.fallback s) := by
      rw [addProxyToList]
      split
      · exact h.of_rest
      · exact h.of_rest
    have hcon : (addProxyToList proxy q.fallback s).connected = true := by
      rw [addProxyToList]
      split
      · exact hconnected
      · exact hconnected
    apply hadded.record hcon
    · intro _ _ hquery
      cases hquery
    · intro _ _ hround
      cases hround
    · exact hadded.listed

/-! ## Runs -/

theorem Inv.step (h : Inv s) {e : Event} (hw : Within s e) (hstep : step s e = some s') :
    Inv s' := by
  rw [Socks5Proxies.step] at hstep
  obtain ⟨henabled, heq⟩ := Option.ite_none_left_eq_some.mp hstep
  cases heq
  rw [Bool.or_eq_true, not_or, Bool.not_eq_true', Bool.not_eq_false] at henabled
  have henabled := henabled.2
  cases e with
  | connected jids cut => exact h.connStatusChangedCb (by simpa [enabled] using henabled) jids cut
  | discoItemFound item =>
    rw [handle, discoItemFoundCb]
    split
    case isTrue hproxy => exact h.sendProxyQuery henabled (hw hproxy) false
    case isFalse => exact h
  | proxiesNeeded now => exact h.querySocks5Proxies henabled now
  | proxiesDisco items cut now =>
    exact h.proxiesDiscoCb (Bool.and_eq_true_iff.mp henabled).1 items cut now
  | queryReply q r =>
    have hanswered : Inv { s with queries := s.queries.erase q } := h.of_rest
    exact hanswered.proxyQueryReplyCb (Bool.and_eq_true_iff.mp henabled).1 hw

/-- **The cursor stays in the list, a proxy that was removed is left alone, and a call
of `query_proxies` queries nobody twice**, in every run in which no bad reply takes out
the link of the cursor or one of two links for the same proxy, and service discovery
finds no proxy that was removed. -/
theorem queries_of_within (es : List Event) (hrun : run step .new es = some s)
    (hadm : Admits Within step .new es) :
    Valid s.socks5PotentialProxies s.nextQuery ∧ s.usedFreed = false ∧ Spared s.log ∧
      RoundsOnce s.log := by
  have hinv : Inv s := (reachable_of_run es hadm hrun).invariant inv_new
    fun _ _ _ h hw hstep => h.step hw hstep
  exact ⟨hinv.cursor, hinv.unfreed, hinv.clean.spared, hinv.rounds⟩

/-- Four fallback proxies, of which the first three are queried. -/
def fourProxies : List Event := [.connected [[100], [99], [98], [97]] 0, .proxiesNeeded 0]

/-- A proxy replies with an error. -/
def errorFrom (jid : Bytes) : Event := .queryReply ⟨jid, true⟩ ⟨some jid, true, none⟩

/-- The first proxy fails while the cursor is at the last one. -/
theorem queries_of_within_fourProxies :
    ∃ s, run step .new (fourProxies ++ [errorFrom [97]]) = some s ∧
      Valid s.socks5PotentialProxies s.nextQuery ∧ s.usedFreed = false ∧ Spared s.log ∧
        RoundsOnce s.log :=
  ⟨_, rfl, queries_of_within (fourProxies ++ [errorFrom [97]]) rfl (by decide)⟩

/-- The third proxy fails when the cursor has come round to it. -/
theorem cursor_lost :
    ∃ s, run step .new (fourProxies ++ [.proxiesNeeded 0, errorFrom [99]]) = some s ∧
      ¬ Valid s.socks5PotentialProxies s.nextQuery ∧ s.usedFreed = true :=
  ⟨_, rfl, by decide, rfl⟩

end Socks5Proxies
