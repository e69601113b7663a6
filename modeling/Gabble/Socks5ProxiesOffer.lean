/-
# The proxies of an offer

The factory keeps the proxies that have answered in two lists, those found by service
discovery and the fallback proxies, each with the one that has answered last at its
head.  An offer of streamhosts has both lists, one behind the other.  Each list has a
jid once; an offer has it once when the lists have none in common.
-/
import Gabble.Socks5Proxies

namespace Socks5Proxies

open Base64 (Bytes)
open Socks5 (Streamhost)
open RecentList Transition

/-! ## Replies -/

/-- The proxy of a reply to a query of one kind. -/
def Action.confirmation (fallback : Bool) : Action → Option Streamhost
  | .confirmed proxy fallback' => if fallback' = fallback then some proxy else none
  | _ => none

/-- The proxies that have answered, in the order of their replies. -/
def confirmations (fallback : Bool) (log : List Action) : List Streamhost :=
  log.filterMap (Action.confirmation fallback)

/-- The jids of the fallback proxies that have answered, the last one first. -/
def recentFallbacks (log : List Action) : List Bytes :=
  ((confirmations true log).map Streamhost.jid).dedup.reverse

/-- The proxies of an offer: each jid is there once, and the fallback proxies are at
the end, not too many and the one that has answered last first. -/
def ProperOffer (log : List Action) (proxies : List Streamhost) : Prop :=
  (proxies.map Streamhost.jid).Nodup ∧
    ∃ discovered fallbacks, proxies = discovered ++ fallbacks ∧
      (∀ proxy ∈ discovered, proxy ∈ confirmations false log) ∧
      fallbacks.length ≤ fallbackProxyCacheSize ∧
      fallbacks.map Streamhost.jid <+: recentFallbacks log

/-- Every stream that offers streamhosts now makes a proper offer; the proxies come
behind the addresses of our own. -/
def OffersProperly (s : State) : Prop :=
  ∀ (b : Socks5.State) (ips : List Bytes) (port : ℕ) (direct proxies : List Streamhost),
    (Socks5.sendStreamhosts ips port (getSocks5Proxies s) b).out =
      b.out ++ [.offer (direct ++ proxies)] →
    direct.length = (if port ≠ 0 then ips.length else 0) → ProperOffer s.log proxies

/-! ## The two lists -/

/-- The lists have what the history says. -/
structure Kept (s : State) : Prop where
  discovered : s.socks5Proxies = recent Streamhost.jid (confirmations false s.log)
  fallbacks : s.socks5FallbackProxies =
    (recent Streamhost.jid (confirmations true s.log)).take fallbackProxyCacheSize

/-- No reply has come. -/
structure Quiet (s s' : State) : Prop where
  discovered : s'.socks5Proxies = s.socks5Proxies
  fallbacks : s'.socks5FallbackProxies = s.socks5FallbackProxies
  confirmations : ∀ fallback, confirmations fallback s'.log = confirmations fallback s.log

variable {s s' s'' : State}

theorem Quiet.refl (s : State) : Quiet s s := ⟨rfl, rfl, fun _ => rfl⟩

theorem Quiet.trans (h : Quiet s s') (h' : Quiet s' s'') : Quiet s s'' :=
  ⟨h'.discovered.trans h.discovered, h'.fallbacks.trans h.fallbacks,
    fun fallback => (h'.confirmations fallback).trans (h.confirmations fallback)⟩

theorem Kept.quiet (h : Kept s) (hq : Quiet s s') : Kept s' where
  discovered := by rw [hq.discovered, hq.confirmations, h.discovered]
  fallbacks := by rw [hq.fallbacks, hq.confirmations, h.fallbacks]

theorem confirmations_append_singleton (fallback : Bool) (log : List Action) (a : Action) :
    confirmations fallback (log ++ [a]) =
      confirmations fallback log ++ (a.confirmation fallback).toList := by
  rw [confirmations, List.filterMap_append]
  cases h : a.confirmation fallback <;> simp [confirmations, h]

theorem quiet_record {a : Action} (ha : ∀ fallback, a.confirmation fallback = none) (s : State) :
    Quiet s (record a s) := by
  refine ⟨rfl, rfl, fun fallback => ?_⟩
  rw [record, confirmations_append_singleton, ha]
  exact List.append_nil _

theorem quiet_sendProxyQuery (jid : Bytes) (fallback : Bool) (s : State) :
    Quiet s (sendProxyQuery jid fallback s) := by
  have hqueries : Quiet s { s with queries := s.queries ++ [⟨jid, fallback⟩] } :=
    ⟨rfl, rfl, fun _ => rfl⟩
  exact hqueries.trans (quiet_record (fun _ => rfl) _)

theorem quiet_foldl_sendProxyQuery (asked : List Link) (s : State) :
    Quiet s (asked.foldl (fun s link => sendProxyQuery link.jid true s) s) := by
  induction asked generalizing s with
  | nil => exact Quiet.refl s
  | cons link asked ih => exact (quiet_sendProxyQuery _ _ s).trans (ih _)

theorem quiet_queryProxies (n : ℕ) (s : State) : Quiet s (queryProxies n s) := by
  rw [queryProxies]
  split
  · exact ⟨rfl, rfl, fun _ => rfl⟩
  case h_2 asked next _ =>
    have hnext : Quiet s { s with nextQuery := next } := ⟨rfl, rfl, fun _ => rfl⟩
    exact (hnext.trans (quiet_record (fun _ => rfl) _)).trans (quiet_foldl_sendProxyQuery asked _)

theorem quiet_getProxiesList (s : State) : Quiet s (getProxiesList s) := by
  have hrequests : Quiet s { s with listRequests := s.listRequests + 1 } :=
    ⟨rfl, rfl, fun _ => rfl⟩
  exact hrequests.trans (quiet_record (fun _ => rfl) _)

theorem quiet_querySocks5Proxies (now : ℤ) (s : State) : Quiet s (querySocks5Proxies now s) := by
  rw [querySocks5Proxies]
  split
  · exact quiet_getProxiesList s
  · dsimp only
    split
    · exact (quiet_getProxiesList s).trans (quiet_queryProxies _ _)
    · exact quiet_queryProxies _ s

theorem quiet_proxiesDiscoCb (items : Option (List (Option Bytes))) (cut : ℕ) (now : ℤ)
    (s : State) : Quiet s (proxiesDiscoCb items cut now s) := by
  cases items with
  | none => exact ⟨rfl, rfl, fun _ => rfl⟩
  | some items =>
    unfold proxiesDiscoCb
    dsimp only
    split
    · exact ⟨rfl, rfl, fun _ => rfl⟩
    · have hset : Quiet s (setPotentialProxies (links s.nextLink (items.filterMap id)).reverse cut
          (items.filterMap id).length { s with
            listRequests := s.listRequests - 1, proxiesListStamp := now }) :=
        ⟨rfl, rfl, fun _ => rfl⟩
      exact (hset.trans (quiet_record (fun _ => rfl) _)).trans (quiet_querySocks5Proxies now _)

theorem quiet_proxyFailed (q : Query) (r : Reply) (s : State) : Quiet s (proxyFailed q r s) := by
  rw [proxyFailed]
  cases buggyLink q r s with
  | none => exact quiet_queryProxies 1 s
  | some link =>
    have herased : Quiet s { s with
        socks5PotentialProxies := s.socks5PotentialProxies.erase link } :=
      ⟨rfl, rfl, fun _ => rfl⟩
    exact (herased.trans (quiet_record (fun _ => rfl) _)).trans (quiet_queryProxies 1 _)

/-- A proxy that answers comes to the head of its list. -/
theorem Kept.confirmed (h : Kept s) (proxy : Streamhost) (fallback : Bool) :
    Kept (record (.confirmed proxy fallback) (addProxyToList proxy fallback s)) := by
  cases fallback with
  | false =>
    constructor
    · show touch Streamhost.jid proxy s.socks5Proxies = recent Streamhost.jid
        (confirmations false (s.log ++ [Action.confirmed proxy false]))
      rw [confirmations_append_singleton, h.discovered]
      exact (recent_append_singleton _ proxy).symm
    · show s.socks5FallbackProxies = (recent Streamhost.jid
        (confirmations true (s.log ++ [Action.confirmed proxy false]))).take fallbackProxyCacheSize
      rw [confirmations_append_singleton, h.fallbacks]
      exact congrArg (fun l => (recent Streamhost.jid l).take _) (List.append_nil _).symm
  | true =>
    constructor
    · show s.socks5Proxies = recent Streamhost.jid
        (confirmations false (s.log ++ [Action.confirmed proxy true]))
      rw [confirmations_append_singleton, h.discovered]
      exact congrArg (recent Streamhost.jid) (List.append_nil _).symm
    · show touchAtMost Streamhost.jid fallbackProxyCacheSize proxy s.socks5FallbackProxies =
        (recent Streamhost.jid (confirmations true (s.log ++ [Action.confirmed proxy true]))).take
          fallbackProxyCacheSize
      rw [confirmations_append_singleton, h.fallbacks]
      exact (touchAtMost_take 4 proxy _).trans
        (congrArg (List.take _) (recent_append_singleton _ proxy).symm)

theorem Kept.step (h : Kept s) {e : Event} (hstep : step s e = some s') : Kept s' := by
  rw [Socks5Proxies.step] at hstep
  obtain ⟨-, heq⟩ := Option.ite_none_left_eq_some.mp hstep
  cases heq
  cases e with
  | connected jids cut => exact h.quiet ⟨rfl, rfl, fun _ => rfl⟩
  | discoItemFound item =>
    rw [handle, discoItemFoundCb]
    split
    · exact h.quiet (quiet_sendProxyQuery _ _ s)
    · exact h
  | proxiesNeeded now => exact h.quiet (quiet_querySocks5Proxies now s)
  | proxiesDisco items cut now => exact h.quiet (quiet_proxiesDiscoCb items cut now s)
  | queryReply q r =>
    have hanswered : Kept { s with queries := s.queries.erase q } :=
      h.quiet ⟨rfl, rfl, fun _ => rfl⟩
    rw [handle, proxyQueryReplyCb]
    cases r.proxy with
    | none => exact hanswered.quiet (quiet_proxyFailed q r _)
    | some proxy => exact hanswered.confirmed proxy q.fallback

theorem kept_of_run {es : List Event} (hrun : run step .new es = some s) : Kept s :=
  (reachable_of_run es (admits_anyEvent es) hrun).invariant ⟨rfl, rfl⟩
    fun _ _ _ h _ hstep => h.step hstep

theorem Kept.discovered_jids (h : Kept s) :
    s.socks5Proxies.map Streamhost.jid =
      ((confirmations false s.log).map Streamhost.jid).dedup.reverse := by
  rw [h.discovered, keys_recent]

theorem Kept.fallback_jids (h : Kept s) :
    s.socks5FallbackProxies.map Streamhost.jid =
      (recentFallbacks s.log).take fallbackProxyCacheSize := by
  rw [h.fallbacks, List.map_take, keys_recent, recentFallbacks]

/-! ## Offers -/

/-- What `send_streamhosts` puts behind our own addresses. -/
theorem proxies_of_offer {b : Socks5.State} {ips : List Bytes} {port : ℕ}
    {direct proxies known : List Streamhost}
    (hout : (Socks5.sendStreamhosts ips port known b).out =
      b.out ++ [Socks5.Effect.offer (direct ++ proxies)])
    (hlen : direct.length = if port ≠ 0 then ips.length else 0) :
    proxies = if b.mucContact then [] else known := by
  have hoffer := List.append_cancel_left hout
  rw [List.cons.injEq, Socks5.Effect.offer.injEq] at hoffer
  obtain ⟨-, hproxies⟩ := List.append_inj hoffer.1 (by
    rw [hlen]
    split <;> simp)
  exact hproxies.symm

theorem mem_of_mem_recent {α κ : Type*} [DecidableEq κ] {key : α → κ} {as : List α} {a : α}
    (h : a ∈ recent key as) : a ∈ as := by
  induction as using List.reverseRecOn with
  | nil => cases h
  | append_singleton as b ih =>
    rw [recent_append_singleton, touch, List.mem_cons] at h
    rcases h with rfl | h
    · exact List.mem_append_right _ (List.mem_singleton.mpr rfl)
    · exact List.mem_append_left _ (ih (List.mem_of_mem_eraseP h))

/-- **Every offer is proper exactly when no proxy that was found by discovery is among
the fallback proxies that have answered last.** -/
theorem offersProperly_iff (es : List Event) (hrun : run step .new es = some s) :
    OffersProperly s ↔
      ∀ jid ∈ (confirmations false s.log).map Streamhost.jid,
        jid ∉ (recentFallbacks s.log).take fallbackProxyCacheSize := by
  have hkept := kept_of_run hrun
  have hnodup : ((getSocks5Proxies s).map Streamhost.jid).Nodup ↔
      ∀ jid ∈ (confirmations false s.log).map Streamhost.jid,
        jid ∉ (recentFallbacks s.log).take fallbackProxyCacheSize := by
    rw [getSocks5Proxies, List.map_append, hkept.discovered_jids, hkept.fallback_jids,
      List.nodup_append']
    have hdiscovered := List.nodup_reverse.mpr
      ((confirmations false s.log).map Streamhost.jid).nodup_dedup
    have hfallbacks := (List.nodup_reverse.mpr
      ((confirmations true s.log).map Streamhost.jid).nodup_dedup).sublist
        (List.take_sublist fallbackProxyCacheSize _)
    rw [recentFallbacks]
    refine ⟨fun h jid hjid => ?_, fun h => ⟨hdiscovered, hfallbacks, fun jid hjid => ?_⟩⟩
    · exact h.2.2 (List.mem_reverse.mpr (List.mem_dedup.mpr hjid))
    · exact h jid (List.mem_dedup.mp (List.mem_reverse.mp hjid))
  rw [← hnodup]
  constructor
  · intro h
    -- a stream to somebody who is not in a room, without addresses of our own
    have hoffer := h (.new [] [] [] false .initiating []) [] 0 [] (getSocks5Proxies s) rfl rfl
    exact hoffer.1
  · intro h b ips port direct proxies hout hlen
    rw [proxies_of_offer hout hlen]
    split
    · exact ⟨List.nodup_nil, [], [], rfl, List.forall_mem_nil _, Nat.zero_le _, List.nil_prefix⟩
    · refine ⟨h, s.socks5Proxies, s.socks5FallbackProxies, rfl, fun proxy hproxy => ?_, ?_, ?_⟩
      · rw [hkept.discovered] at hproxy
        exact mem_of_mem_recent hproxy
      · rw [hkept.fallbacks, List.length_take]
        exact min_le_left _ _
      · rw [hkept.fallback_jids]
        exact List.take_prefix _ _

/-- A proxy is found by discovery, and it answers. -/
def discovered : List Event :=
  [.connected [[97], [98]] 0, .discoItemFound ⟨[97], "proxy", "bytestreams"⟩,
    .queryReply ⟨[97], false⟩ ⟨some [97], false, some ⟨false, some [97], some [49], some 1⟩⟩]

/-- A fallback proxy answers. -/
def fallbackAnswers (jid : Bytes) : List Event :=
  [.proxiesNeeded 0,
    .queryReply ⟨jid, true⟩ ⟨some jid, false, some ⟨false, some jid, some [49], some 1⟩⟩]

theorem offersProperly_iff_discovered :
    ∃ s, run step .new (discovered ++ fallbackAnswers [98]) = some s ∧
      (OffersProperly s ↔
        ∀ jid ∈ (confirmations false s.log).map Streamhost.jid,
          jid ∉ (recentFallbacks s.log).take fallbackProxyCacheSize) :=
  ⟨_, rfl, offersProperly_iff (discovered ++ fallbackAnswers [98]) rfl⟩

/-- The same proxy is found by discovery and is a fallback proxy, and it is offered
twice. -/
theorem offered_twice :
    ∃ s, run step .new (discovered ++ fallbackAnswers [97]) = some s ∧ ¬ OffersProperly s :=
  ⟨_, rfl, fun h => absurd (h (.new [] [] [] false .initiating []) [] 0 []
    [⟨[97], [49], 1⟩, ⟨[97], [49], 1⟩] rfl rfl).1 (by decide)⟩

end Socks5Proxies
