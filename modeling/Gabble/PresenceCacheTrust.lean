/-
# The presence cache: trust

Whose word is taken for what a URI stands for?  The store counts the contacts that
reported the same set one after the other: it is a poll.  A report whose hash was
checked counts for all five.  The module proves that a contact's capabilities come
from its own report, from a verified one, from five that agree, or from a URI the
program knew itself.
-/
import Gabble.PresenceCacheErrors
import Gabble.Poll

namespace PresenceCache

open Transition

variable {capsHash : Query → Option String} {initial : String → Option Query} {s s' : State}
variable {uri : String} {capSet : CapabilitySet}

/-! ## Reports -/

/-- The hash of the reply was computed and is the one the contact advertised. -/
def Verified (capsHash : Query → Option String) (r : Report) : Prop :=
  r.hash = some "sha-1" ∧ (capsHash r.query).isSome = true ∧ r.ver = capsHash r.query

/-- Who reported which set for a URI. -/
def ballots (s : State) (uri : String) : List (Handle × CapabilitySet) :=
  (s.reports.filter fun r => r.uri = uri).map fun r => (r.handle, r.query.capSet)

/-- At least five contacts reported the set, and no other was reported in between. -/
def Agreed (s : State) (uri : String) (capSet : CapabilitySet) : Prop :=
  ∃ block, block <:+: ballots s uri ∧ (∀ b ∈ block, b.2 = capSet) ∧
    enoughTrust ≤ (block.map Prod.fst).toFinset.card

/-- The program set the URI itself. -/
def Preset (s : State) (uri : String) : Prop :=
  (s.capabilities uri).complete = true ∨ uri ∈ bundles.map Prod.fst

/-- Why a set is believed to be what a URI stands for. -/
def Justified (capsHash : Query → Option String) (initial : String → Option Query) (s : State)
    (uri : String) (capSet : CapabilitySet) : Prop :=
  (∃ r ∈ s.reports, r.uri = uri ∧ r.query.capSet = capSet ∧ Verified capsHash r) ∨
    Agreed s uri capSet ∨ Preset s uri ∨ ∃ q, initial uri = some q ∧ q.capSet = capSet

/-- Why the capabilities of a resource may be set: from the contact's own report;
from a verified report, which is the one of the responder if there is one; because
contacts agreed; because the URI was preset; or from the cache as it was found. -/
def Earned (capsHash : Query → Option String) (initial : String → Option Query) (s : State)
    (x : Setting) : Prop :=
  (∃ r ∈ s.reports, r.uri = x.uri ∧ r.handle = x.handle ∧ r.query.capSet = x.capSet) ∨
  (∃ r ∈ s.reports, r.uri = x.uri ∧ (∀ h ∈ x.responder, r.handle = h) ∧
    r.query.capSet = x.capSet ∧ Verified capsHash r) ∨
  Agreed s x.uri x.capSet ∨ Preset s x.uri ∨
  (x.responder = none ∧ ∃ q, initial x.uri = some q ∧ q.capSet = x.capSet)

theorem preset_setInfo {info : CapabilityInfo} (h : info.complete = true) :
    Preset (setInfo s uri info) uri := by
  refine .inl ?_
  rw [setInfo]
  dsimp only
  rw [Function.update_self]
  exact h

/-! ## Reports are never forgotten -/

/-- Reports are added at the end, and what is preset stays so. -/
structure Extends (s s' : State) : Prop where
  reports : s.reports <+: s'.reports
  preset : ∀ uri, Preset s uri → Preset s' uri

theorem Extends.refl (s : State) : Extends s s := ⟨List.prefix_refl _, fun _ => id⟩

theorem Extends.agreed (h : Extends s s')
    (hagreed : Agreed s uri capSet) : Agreed s' uri capSet := by
  obtain ⟨block, hblock, hrest⟩ := hagreed
  refine ⟨block, hblock.trans ?_, hrest⟩
  exact ((h.reports.filter _).map _).isInfix

theorem Extends.justified (h : Extends s s') (hjust : Justified capsHash initial s uri capSet) :
    Justified capsHash initial s' uri capSet := by
  rcases hjust with ⟨r, hr, hverified⟩ | hagreed | hpreset | hinitial
  · exact .inl ⟨r, h.reports.subset hr, hverified⟩
  · exact .inr (.inl (h.agreed hagreed))
  · exact .inr (.inr (.inl (h.preset uri hpreset)))
  · exact .inr (.inr (.inr hinitial))

theorem Extends.earned (h : Extends s s') {x : Setting}
    (hearned : Earned capsHash initial s x) : Earned capsHash initial s' x := by
  rcases hearned with ⟨r, hr, hown⟩ | ⟨r, hr, hverified⟩ | hagreed | hpreset | hinitial
  · exact .inl ⟨r, h.reports.subset hr, hown⟩
  · exact .inr (.inl ⟨r, h.reports.subset hr, hverified⟩)
  · exact .inr (.inr (.inl (h.agreed hagreed)))
  · exact .inr (.inr (.inr (.inl (h.preset x.uri hpreset))))
  · exact .inr (.inr (.inr (.inr hinitial)))

/-! ## The store is a poll -/

/-- The set of an entry and who reported it. -/
def CapabilityInfo.poll (info : CapabilityInfo) : Poll Handle CapabilitySet :=
  ⟨info.capSet, info.guys⟩

theorem poll_capabilityInfoRecvd (info : CapabilityInfo) (handle : Handle) (capSet : CapabilitySet)
    (trustInc clientTypes : ℕ) (dataForms : List DataForm) :
    (capabilityInfoRecvd info handle capSet trustInc clientTypes dataForms).poll =
      info.poll.vote (handle, capSet) := by
  by_cases h : info.capSet = some capSet
  · rw [Poll.vote, if_pos (show info.poll.value = some (handle, capSet).2 from h)]
    simp only [capabilityInfoRecvd, CapabilityInfo.poll, h, ne_eq, not_true_eq_false, if_false]
    split
    · next hmem => rw [Finset.insert_eq_of_mem hmem, h]
    · rfl
  · rw [Poll.vote, if_neg (show ¬ info.poll.value = some (handle, capSet).2 from h)]
    simp only [capabilityInfoRecvd, CapabilityInfo.poll, ne_eq, h, not_false_eq_true, if_true,
      Finset.notMem_empty, if_false]

/-- Trust of an entry after a report. -/
theorem trust_capabilityInfoRecvd (info : CapabilityInfo) (handle : Handle) (capSet : CapabilitySet)
    (trustInc clientTypes : ℕ) (dataForms : List DataForm) :
    (info.capSet = some capSet ∧ handle ∈ info.guys ∧
      (capabilityInfoRecvd info handle capSet trustInc clientTypes dataForms).trust =
        info.trust) ∨
    (info.capSet = some capSet ∧ handle ∉ info.guys ∧
      (capabilityInfoRecvd info handle capSet trustInc clientTypes dataForms).trust =
        info.trust + trustInc) ∨
    (capabilityInfoRecvd info handle capSet trustInc clientTypes dataForms).trust = trustInc := by
  by_cases h : info.capSet = some capSet
  · by_cases hmem : handle ∈ info.guys
    · exact .inl ⟨h, hmem, by simp [capabilityInfoRecvd, h, hmem]⟩
    · exact .inr (.inl ⟨h, hmem, by simp [capabilityInfoRecvd, h, hmem]⟩)
  · exact .inr (.inr (by simp [capabilityInfoRecvd, h]))

theorem complete_capabilityInfoRecvd (info : CapabilityInfo) (handle : Handle)
    (capSet : CapabilitySet) (trustInc clientTypes : ℕ) (dataForms : List DataForm) :
    (capabilityInfoRecvd info handle capSet trustInc clientTypes dataForms).complete =
      info.complete := by
  simp only [capabilityInfoRecvd]
  split
  · split <;> rfl
  · split <;> rfl

/-! ## The entry of a URI -/

/-- **The invariant of an entry** that is not preset: it is the poll of the
reports; the trust is one for each contact, or else it came from a verified report;
and as long as somebody waits it is not enough. -/
structure Accounted (capsHash : Query → Option String) (s : State) (uri : String) : Prop where
  poll : (s.capabilities uri).poll = Poll.count (ballots s uri)
  trust : (s.capabilities uri).trust ≤ (s.capabilities uri).guys.card ∨
    enoughTrust ≤ (s.capabilities uri).trust ∧ ∃ r ∈ s.reports, r.uri = uri ∧
      (s.capabilities uri).capSet = some r.query.capSet ∧ Verified capsHash r
  waiting : s.discoPending uri ≠ [] → (s.capabilities uri).trust < enoughTrust

section

variable (h : Accounted capsHash s uri)

include h

/-- An entry that stays as it is, about which nothing more was reported. -/
theorem Accounted.transfer (hinfo : s'.capabilities uri = s.capabilities uri)
    (hballots : ballots s' uri = ballots s uri) (hreports : s.reports <+: s'.reports)
    (hwaiting : s'.discoPending uri ≠ [] → (s.capabilities uri).trust < enoughTrust) :
    Accounted capsHash s' uri := by
  refine ⟨?_, ?_, ?_⟩
  · rw [hinfo, hballots]
    exact h.poll
  · rw [hinfo]
    refine h.trust.imp_right fun ⟨henough, r, hr, hverified⟩ => ?_
    exact ⟨henough, r, hreports.subset hr, hverified⟩
  · rw [hinfo]
    exact hwaiting

/-- Enough reporters agree on the set that is stored. -/
theorem Accounted.agreed (hset : (s.capabilities uri).capSet = some capSet)
    (hcard : enoughTrust ≤ (s.capabilities uri).guys.card) : Agreed s uri capSet := by
  obtain ⟨block, hsuffix, hagree, hvoters⟩ := Poll.exists_suffix (ballots s uri)
  rw [← h.poll] at hagree hvoters
  refine ⟨block, hsuffix.isInfix, fun b hb => ?_, ?_⟩
  · exact Option.some_inj.mp ((hagree b hb).symm.trans hset)
  · rw [← hvoters]
    exact hcard

/-- What is stored for a URI with enough trust is justified. -/
theorem Accounted.justified (hset : (s.capabilities uri).capSet = some capSet)
    (htrust : enoughTrust ≤ (s.capabilities uri).trust) :
    Justified capsHash initial s uri capSet := by
  rcases h.trust with hcard | ⟨-, r, hr, huri, hcaps, hverified⟩
  · exact .inr (.inl (h.agreed hset (htrust.trans hcard)))
  · exact .inl ⟨r, hr, huri, Option.some_inj.mp (hcaps.symm.trans hset), hverified⟩

/-- Who is among the reporters reported the set that is stored. -/
theorem Accounted.own {handle : Handle} (hmem : handle ∈ (s.capabilities uri).guys) :
    ∃ r ∈ s.reports, r.uri = uri ∧ r.handle = handle ∧
      (s.capabilities uri).capSet = some r.query.capSet := by
  have hvoted : handle ∈ (Poll.count (ballots s uri)).voters := h.poll ▸ hmem
  obtain ⟨b, hb, rfl, hvalue⟩ := Poll.voted hvoted
  obtain ⟨r, hr, rfl⟩ := List.mem_map.mp hb
  obtain ⟨hr, huri⟩ := List.mem_filter.mp hr
  rw [← h.poll] at hvalue
  exact ⟨r, hr, of_decide_eq_true huri, rfl, hvalue⟩

end

/-- **The invariant.** -/
structure Trustworthy (capsHash : Query → Option String) (initial : String → Option Query)
    (s : State) : Prop where
  entries : ∀ uri, Preset s uri ∨ Accounted capsHash s uri
  cached : ∀ uri q, s.capsCache uri = some q → Justified capsHash initial s uri q.capSet
  settings : ∀ x ∈ s.settings, Earned capsHash initial s x

namespace Trustworthy

section

variable (h : Trustworthy capsHash initial s)

include h

/-- The entries and the cache stay as they are, and so do the reports. -/
theorem transfer (hinfo : s'.capabilities = s.capabilities) (hreports : s'.reports = s.reports)
    (hcache : ∀ uri q, s'.capsCache uri = some q → s.capsCache uri = some q)
    (hwaiting : ∀ uri, s'.discoPending uri ≠ [] → s.discoPending uri ≠ [] ∨
      (s.capabilities uri).trust < enoughTrust)
    (hsettings : ∀ x ∈ s'.settings, Earned capsHash initial s x) :
    Trustworthy capsHash initial s' := by
  have hpreset : ∀ uri, Preset s uri → Preset s' uri := by
    intro uri hp
    rwa [Preset, hinfo]
  have hgrows : s.reports <+: s'.reports := hreports ▸ List.prefix_refl _
  have hext : Extends s s' := ⟨hgrows, hpreset⟩
  refine ⟨fun uri => ?_, fun uri q hcached => ?_, fun x hx => hext.earned (hsettings x hx)⟩
  · refine (h.entries uri).imp (hpreset uri) fun hacc => ?_
    refine hacc.transfer (congrFun hinfo uri) (by rw [ballots, ballots, hreports]) hgrows ?_
    intro hne
    rcases hwaiting uri hne with hne | hlt
    · exact hacc.waiting hne
    · exact hlt
  · exact hext.justified (h.cached uri q (hcache uri q hcached))

theorem sameStore (hs : SameStore s s')
    (hwaiting : ∀ uri, s'.discoPending uri ≠ [] → s.discoPending uri ≠ [] ∨
      (s.capabilities uri).trust < enoughTrust) : Trustworthy capsHash initial s' := by
  refine h.transfer hs.capabilities hs.reports (fun uri q hcached => ?_) hwaiting fun x hx => ?_
  · rwa [← hs.capsCache]
  · rw [hs.settings] at hx
    exact h.settings x hx

theorem quiet (hq : Quiet s s') :
    Trustworthy capsHash initial s' :=
  h.sameStore hq.sameStore fun _ hne => .inl (hq.discoPending ▸ hne)

/-- One more setting. -/
theorem record {x : Setting}
    (hx : Earned capsHash initial s x) : Trustworthy capsHash initial (record s x) := by
  refine h.transfer rfl rfl (fun _ _ => id) (fun _ => .inl) fun y hy => ?_
  rcases List.mem_append.mp hy with hy | hy
  · exact h.settings y hy
  · rw [List.mem_singleton.mp hy]
    exact hx

/-- What is stored may be used. -/
theorem storedSetting {handle : Handle}
    {resource : Option String} (hknown : isKnown s uri handle = true) :
    Earned capsHash initial s (storedSetting s uri handle resource) := by
  have hjust : ∀ capSet, Justified capsHash initial s uri capSet →
      (PresenceCache.storedSetting s uri handle resource).capSet = capSet →
      Earned capsHash initial s (PresenceCache.storedSetting s uri handle resource) := by
    rintro capSet (⟨r, hr, huri, hcaps, hverified⟩ | hagreed | hpreset | hinitial) rfl
    · exact .inr (.inl ⟨r, hr, huri, (fun h hh => by cases hh), hcaps, hverified⟩)
    · exact .inr (.inr (.inl hagreed))
    · exact .inr (.inr (.inr (.inl hpreset)))
    · exact .inr (.inr (.inr (.inr ⟨rfl, hinitial⟩)))
  cases hcached : s.capsCache uri with
  | some q =>
    refine hjust q.capSet (h.cached uri q hcached) ?_
    simp only [PresenceCache.storedSetting, hcached, Option.elim_some]
  | none =>
    have hcaps : (PresenceCache.storedSetting s uri handle resource).capSet =
        (s.capabilities uri).capSet.getD ∅ := by
      simp only [PresenceCache.storedSetting, hcached, Option.elim_none]
    rcases h.entries uri with hpreset | hacc
    · exact .inr (.inr (.inr (.inl hpreset)))
    · rcases of_decide_eq_true hknown with hsome | htrust | hmem
      · rw [hcached] at hsome
        cases hsome
      · -- enough trust: there is a set, since somebody reported
        cases hset : (s.capabilities uri).capSet with
        | some capSet =>
          refine hjust capSet (hacc.justified hset htrust) ?_
          rw [hcaps, hset, Option.getD_some]
        | none =>
          exfalso
          rcases hacc.trust with hcard | ⟨-, r, -, -, hr, -⟩
          · obtain ⟨handle', hmem⟩ := Finset.card_pos.mp
              (Nat.lt_of_lt_of_le (by decide : 0 < enoughTrust) (htrust.trans hcard))
            obtain ⟨r, -, -, -, hr⟩ := hacc.own hmem
            rw [hset] at hr
            cases hr
          · rw [hset] at hr
            cases hr
      · obtain ⟨r, hr, huri, hhandle, hset⟩ := hacc.own hmem
        refine .inl ⟨r, hr, huri, hhandle, ?_⟩
        rw [hcaps, hset, Option.getD_some]

/-- An entry is replaced by another that may be trusted. -/
theorem setInfo {info : CapabilityInfo}
    (hcomplete : (s.capabilities uri).complete = true → Preset (setInfo s uri info) uri)
    (hinfo : Preset (PresenceCache.setInfo s uri info) uri ∨
      Accounted capsHash (PresenceCache.setInfo s uri info) uri) :
    Trustworthy capsHash initial (PresenceCache.setInfo s uri info) := by
  have hother : ∀ u, u ≠ uri →
      (PresenceCache.setInfo s uri info).capabilities u = s.capabilities u :=
    fun u hu => Function.update_of_ne hu _ _
  have hpreset : ∀ u, Preset s u → Preset (PresenceCache.setInfo s uri info) u := by
    intro u hp
    by_cases hu : u = uri
    · subst hu
      exact hp.elim hcomplete .inr
    · rwa [Preset, hother u hu]
  have hext : Extends s (PresenceCache.setInfo s uri info) := ⟨List.prefix_refl _, hpreset⟩
  refine ⟨fun u => ?_, fun u q hcached => hext.justified (h.cached u q hcached),
    fun x hx => hext.earned (h.settings x hx)⟩
  by_cases hu : u = uri
  · subst hu
    exact hinfo
  · refine (h.entries u).imp (hpreset u) fun hacc => ?_
    exact hacc.transfer (hother u hu) rfl (List.prefix_refl _) hacc.waiting

theorem awaitUri {handle : Handle}
    (hunknown : ¬ isKnown s uri handle = true) (resource hash ver : Option String)
    (serial : ℕ) :
    Trustworthy capsHash initial (awaitUri s uri handle resource hash ver serial) := by
  refine h.sameStore (sameStore_awaitUri s uri handle resource hash ver serial) fun u hne => ?_
  refine (awaitUri_waits hne).imp_right ?_
  rintro rfl
  exact trust_of_not_isKnown hunknown

theorem answered (req : Answer) :
    Trustworthy capsHash initial (answered s req) :=
  h.sameStore (sameStore_answered s req) fun _ => .inl

theorem discoFailed (uri : String) :
    Trustworthy capsHash initial (discoFailed s uri) :=
  h.sameStore (sameStore_discoFailed s uri) fun _ hne => .inl (discoFailed_waits hne)

theorem dropWaiter (uri : String) (self : Waiter)
    (trust : ℕ) : Trustworthy capsHash initial (dropWaiter s uri self trust) :=
  h.sameStore (sameStore_dropWaiter s uri self trust) fun _ hne => .inl (dropWaiter_waits hne)

theorem addOwnCaps (ver : String) (capSet : CapabilitySet) (dataForms : List DataForm) :
    Trustworthy capsHash initial (addOwnCaps s ver capSet dataForms) := by
  rw [PresenceCache.addOwnCaps]
  split
  · exact h
  · exact setInfo h (fun _ => preset_setInfo rfl) (.inl (preset_setInfo rfl))

theorem cacheLost (uri : String) :
    Trustworthy capsHash initial
      { s with capsCache := Function.update s.capsCache uri none } := by
  refine h.transfer rfl rfl (fun u q hcached => ?_) (fun _ => .inl) h.settings
  by_cases hu : u = uri
  · subst hu
    simp at hcached
  · simpa [hu] using hcached

end

end Trustworthy

/-! ## Replies -/

theorem verified_of_trustOf (req : Answer) {self : Waiter} {q : Query} {trustInc : ℕ}
    (h : trustOf capsHash self q = some trustInc) :
    trustInc = 1 ∨ trustInc = enoughTrust ∧ Verified capsHash (newReport req self q) := by
  rw [trustOf] at h
  split at h
  · next hhash =>
    obtain ⟨⟨hsome, hver⟩, heq⟩ := Option.ite_none_right_eq_some.mp h
    cases heq
    exact .inr ⟨rfl, hhash, hsome, hver⟩
  · cases h
    exact .inl rfl

/-- A report that counts for one: trust stays below the number of reporters. -/
theorem trust_le_card {info : CapabilityInfo} (h : info.trust ≤ info.guys.card) (handle : Handle)
    (capSet : CapabilitySet) (clientTypes : ℕ) (dataForms : List DataForm) :
    (capabilityInfoRecvd info handle capSet 1 clientTypes dataForms).trust ≤
      (capabilityInfoRecvd info handle capSet 1 clientTypes dataForms).guys.card := by
  have hguys : (capabilityInfoRecvd info handle capSet 1 clientTypes dataForms).guys = _ :=
    congrArg Poll.voters (poll_capabilityInfoRecvd info handle capSet 1 clientTypes dataForms)
  rw [hguys, Poll.vote]
  rcases trust_capabilityInfoRecvd info handle capSet 1 clientTypes dataForms with
    ⟨hset, hmem, htrust⟩ | ⟨hset, hmem, htrust⟩ | htrust
  · rw [htrust, if_pos (show info.poll.value = some (handle, capSet).2 from hset)]
    exact h.trans (Finset.card_le_card (Finset.subset_insert _ _))
  · rw [htrust, if_pos (show info.poll.value = some (handle, capSet).2 from hset)]
    exact (Nat.succ_le_succ h).trans (Finset.card_insert_of_notMem hmem).ge
  · rw [htrust]
    refine Finset.card_pos.mpr ?_
    split
    · exact Finset.insert_nonempty _ _
    · exact Finset.insert_nonempty _ _

/-- Trust after a reply: one for each reporter, or the reply was verified. -/
theorem trust_newInfo {req : Answer} {self : Waiter} {q : Query} {trustInc : ℕ}
    (hacc : Accounted capsHash s req.uri) (hself : self ∈ s.discoPending req.uri)
    (hinc : trustOf capsHash self q = some trustInc) :
    (newInfo s req self q trustInc).trust ≤ (newInfo s req self q trustInc).guys.card ∨
      enoughTrust ≤ (newInfo s req self q trustInc).trust ∧
        Verified capsHash (newReport req self q) := by
  have hlt := hacc.waiting (List.ne_nil_of_mem hself)
  have hcard : (s.capabilities req.uri).trust ≤ (s.capabilities req.uri).guys.card := by
    rcases hacc.trust with hcard | ⟨hge, -⟩
    · exact hcard
    · omega
  rcases verified_of_trustOf req hinc with rfl | ⟨rfl, hverified⟩
  · exact .inl (trust_le_card hcard _ _ _ _)
  · rcases trust_capabilityInfoRecvd (s.capabilities req.uri) req.handle q.capSet enoughTrust
      (q.clientTypes self.resource) q.dataForms with
      ⟨hset, hmem, htrust⟩ | ⟨-, -, htrust⟩ | htrust
    · -- the contact is among the reporters already
      refine .inl ?_
      have hguys : (newInfo s req self q enoughTrust).guys = _ :=
        congrArg Poll.voters (poll_capabilityInfoRecvd (s.capabilities req.uri) req.handle
          q.capSet enoughTrust (q.clientTypes self.resource) q.dataForms)
      rw [hguys, Poll.vote, if_pos (show (s.capabilities req.uri).poll.value = _ from hset)]
      exact htrust.le.trans (hcard.trans (Finset.card_le_card (Finset.subset_insert _ _)))
    · exact .inr ⟨htrust ▸ Nat.le_add_left _ _, hverified⟩
    · exact .inr ⟨htrust.ge, hverified⟩

theorem capSet_newInfo (s : State) (req : Answer) (self : Waiter) (q : Query) (trustInc : ℕ) :
    (newInfo s req self q trustInc).capSet = some q.capSet := by
  have hpoll := congrArg Poll.value (poll_capabilityInfoRecvd (s.capabilities req.uri) req.handle
    q.capSet trustInc (q.clientTypes self.resource) q.dataForms)
  exact hpoll.trans (Poll.value_vote _ _)

section Reported

variable {req : Answer} {self : Waiter} {q : Query} {trustInc : ℕ} {t : State}

theorem ballots_reported (hreports : t.reports = (reported s req self q trustInc).reports) :
    ballots t req.uri = ballots s req.uri ++ [(req.handle, q.capSet)] := by
  rw [ballots, hreports, reported, report, List.filter_append, List.map_append]
  simp [newReport, ballots, setInfo]

theorem ballots_reported_of_ne (hreports : t.reports = (reported s req self q trustInc).reports)
    {u : String} (hu : u ≠ req.uri) : ballots t u = ballots s u := by
  rw [ballots, hreports, reported, report, List.filter_append, List.map_append]
  simp [newReport, ballots, setInfo, Ne.symm hu]

/-- The entry of a URI after a reply about it. -/
theorem Accounted.reported (hacc : Accounted capsHash s req.uri)
    (hself : self ∈ s.discoPending req.uri) (hinc : trustOf capsHash self q = some trustInc)
    (hinfo : t.capabilities req.uri = newInfo s req self q trustInc)
    (hreports : t.reports = (reported s req self q trustInc).reports)
    (hwaiting : t.discoPending req.uri ≠ [] →
      (newInfo s req self q trustInc).trust < enoughTrust) :
    Accounted capsHash t req.uri := by
  refine ⟨?_, ?_, ?_⟩
  · rw [hinfo, ballots_reported hreports, Poll.count_append_singleton, ← hacc.poll]
    exact poll_capabilityInfoRecvd _ _ _ _ _ _
  · rw [hinfo]
    refine (trust_newInfo hacc hself hinc).imp_right fun ⟨hge, hverified⟩ => ?_
    refine ⟨hge, newReport req self q, ?_, rfl, capSet_newInfo s req self q trustInc, hverified⟩
    rw [hreports]
    exact List.mem_append_right _ List.mem_cons_self
  · rw [hinfo]
    exact hwaiting

theorem extends_reported (hinfo : t.capabilities = (reported s req self q trustInc).capabilities)
    (hreports : t.reports = (reported s req self q trustInc).reports) : Extends s t := by
  refine ⟨hreports ▸ List.prefix_append _ _, fun u hp => ?_⟩
  rw [Preset, hinfo]
  refine hp.imp_left fun hcomplete => ?_
  by_cases hu : u = req.uri
  · subst hu
    rw [reported, report, setInfo]
    dsimp only
    rw [Function.update_self]
    exact (complete_capabilityInfoRecvd _ _ _ _ _ _).trans hcomplete
  · rw [reported, report, setInfo]
    dsimp only
    rw [Function.update_of_ne hu]
    exact hcomplete

/-- The state after a reply, if nobody is left to wait in spite of enough trust. -/
theorem Trustworthy.reported (h : Trustworthy capsHash initial s)
    (hself : self ∈ s.discoPending req.uri) (hinc : trustOf capsHash self q = some trustInc)
    (hinfo : t.capabilities = (reported s req self q trustInc).capabilities)
    (hreports : t.reports = (reported s req self q trustInc).reports)
    (hsettings : t.settings = s.settings)
    (hpending : ∀ u, u ≠ req.uri → t.discoPending u = s.discoPending u)
    (hwaiting : t.discoPending req.uri ≠ [] →
      (newInfo s req self q trustInc).trust < enoughTrust)
    (hcache : ∀ u p, t.capsCache u = some p → s.capsCache u = some p ∨
      Justified capsHash initial t u p.capSet) : Trustworthy capsHash initial t := by
  have hext := extends_reported hinfo hreports
  refine ⟨fun u => ?_, fun u p hcached => ?_, fun x hx => ?_⟩
  · refine (h.entries u).imp (hext.preset u) fun hacc => ?_
    by_cases hu : u = req.uri
    · subst hu
      refine hacc.reported hself hinc ?_ hreports hwaiting
      rw [hinfo]
      exact Function.update_self _ _ _
    · refine hacc.transfer ?_ (ballots_reported_of_ne hreports hu) hext.reports ?_
      · rw [hinfo]
        exact Function.update_of_ne hu _ _
      · rw [hpending u hu]
        exact hacc.waiting
  · rcases hcache u p hcached with hold | hnew
    · exact hext.justified (h.cached u p hold)
    · exact hnew
  · rw [hsettings] at hx
    exact hext.earned (h.settings x hx)

/-- A reply that is enough: it was verified, or it completes an agreement, or the
URI was preset. -/
theorem Trustworthy.enough (h : Trustworthy capsHash initial s)
    (hself : self ∈ s.discoPending req.uri) (hinc : trustOf capsHash self q = some trustInc)
    (henough : (newInfo s req self q trustInc).trust ≥ enoughTrust)
    (hinfo : t.capabilities = (PresenceCache.reported s req self q trustInc).capabilities)
    (hreports : t.reports = (PresenceCache.reported s req self q trustInc).reports)
    (hpending : t.discoPending req.uri = []) :
    Verified capsHash (newReport req self q) ∨ Agreed t req.uri q.capSet ∨ Preset t req.uri := by
  rcases h.entries req.uri with hpreset | hacc
  · exact .inr (.inr ((extends_reported hinfo hreports).preset _ hpreset))
  · rcases trust_newInfo hacc hself hinc with hcard | ⟨-, hverified⟩
    · have hinfo' : t.capabilities req.uri = newInfo s req self q trustInc := by
        rw [hinfo]
        exact Function.update_self _ _ _
      have hacc' := hacc.reported hself hinc hinfo' hreports fun hne => absurd hpending hne
      refine .inr (.inl (hacc'.agreed ?_ ?_))
      · rw [hinfo']
        exact capSet_newInfo s req self q trustInc
      · rw [hinfo']
        exact henough.le.trans hcard
    · exact .inl hverified

end Reported

/-- The reply is trusted, and everybody is served. -/
theorem Trustworthy.serveWaiters (h : Trustworthy capsHash initial s) {req : Answer}
    {self : Waiter} {q : Query} {trustInc : ℕ} (hself : self ∈ s.discoPending req.uri)
    (hinc : trustOf capsHash self q = some trustInc)
    (henough : (newInfo s req self q trustInc).trust ≥ enoughTrust) :
    Trustworthy capsHash initial (serveWaiters (PresenceCache.reported s req self q trustInc)
      req.uri q (q.clientTypes self.resource) req.handle) := by
  obtain ⟨t, ht⟩ : ∃ t, taken (PresenceCache.reported s req self q trustInc) req.uri q = t :=
    ⟨_, rfl⟩
  have hinfo : t.capabilities = (PresenceCache.reported s req self q trustInc).capabilities := by
    rw [← ht]
    rfl
  have hreports : t.reports = (PresenceCache.reported s req self q trustInc).reports := by
    rw [← ht]
    rfl
  have hpending : t.discoPending = Function.update s.discoPending req.uri [] := by
    rw [← ht]
    rfl
  have hnil : t.discoPending req.uri = [] := by rw [hpending, Function.update_self]
  have hreport : newReport req self q ∈ t.reports := by
    rw [hreports]
    exact List.mem_append_right _ List.mem_cons_self
  have hwhy := h.enough hself hinc henough hinfo hreports hnil
  have htrusted : Trustworthy capsHash initial t := by
    refine h.reported hself hinc hinfo hreports (by rw [← ht]; rfl) (fun u hu => ?_)
      (fun hne => absurd hnil hne) (fun u p hcached => ?_)
    · rw [hpending, Function.update_of_ne hu]
    · rw [← ht] at hcached
      rcases cacheInsert_some hcached with hold | ⟨rfl, rfl⟩
      · exact .inl hold
      · refine .inr ?_
        rcases hwhy with hverified | hagreed | hpreset
        · exact .inl ⟨_, hreport, rfl, rfl, hverified⟩
        · exact .inr (.inl hagreed)
        · exact .inr (.inr (.inl hpreset))
  -- the reasons stay good while the waiters are served
  refine (serveWaiters_invariant (I := fun t' => Trustworthy capsHash initial t' ∧ Extends t t')
    (fun t₁ t₂ hq ht => ⟨ht.1.quiet hq, ?_⟩) (fun t' w hw ht' => ⟨ht'.1.record ?_, ?_⟩)
    (by rw [ht]; exact ⟨htrusted, .refl t⟩)).1
  · refine ⟨hq.reports ▸ ht.2.reports, fun u hp => ?_⟩
    rw [Preset, hq.capabilities]
    exact ht.2.preset u hp
  · rcases hwhy with hverified | hagreed | hpreset
    · refine .inr (.inl ⟨_, ht'.2.reports.subset hreport, rfl, fun h hh => ?_, rfl, hverified⟩)
      cases hh
      rfl
    · exact .inr (.inr (.inl (ht'.2.agreed hagreed)))
    · exact .inr (.inr (.inr (.inl (ht'.2.preset _ hpreset))))
  · exact ⟨ht'.2.reports, ht'.2.preset⟩

theorem Trustworthy.capsDiscoReply (h : Trustworthy capsHash initial s) (req : Answer)
    (q : Query) : Trustworthy capsHash initial (capsDiscoReply capsHash s req q) := by
  rcases capsDiscoReply_cases capsHash s req q with
    ⟨-, heq⟩ | ⟨self, hself, ⟨-, heq⟩ | ⟨trustInc, hinc, ⟨henough, heq⟩ | ⟨hless, heq⟩⟩⟩
  · rw [heq]
    exact h
  · rw [heq]
    exact h.dropWaiter req.uri self 0
  · rw [heq]
    exact h.serveWaiters (findMatchingWaiter_some hself).1 hinc henough
  · rw [heq]
    obtain ⟨hmem, hhandle, -⟩ := findMatchingWaiter_some hself
    have hreported : Trustworthy capsHash initial
        (PresenceCache.reported s req self q trustInc) :=
      h.reported hmem hinc rfl rfl rfl (fun _ _ => rfl) (fun _ => hless)
        (fun _ _ hcached => .inl hcached)
    refine Trustworthy.dropWaiter ?_ req.uri self _
    refine setCapsFor_invariant (fun _ _ hq ht => ht.quiet hq) (fun ht => ht.record ?_) hreported
    refine .inl ⟨newReport req self q, List.mem_append_right _ List.mem_cons_self, rfl,
      hhandle.symm, rfl⟩

theorem Trustworthy.step (s : State) (e : Event) (s' : State)
    (h : Trustworthy capsHash initial s) (hstep : step capsHash s e = some s') :
    Trustworthy capsHash initial s' :=
  step_invariant anyEvent (fun _ _ hq hs => hs.quiet hq)
    (fun _ _ _ _ hknown hs => hs.record (hs.storedSetting hknown))
    (fun _ _ _ resource hash ver serial hunknown hs =>
      hs.awaitUri hunknown resource hash ver serial)
    (fun _ req q _ _ hs => (hs.answered req).capsDiscoReply req q)
    (fun _ req _ _ hs => (hs.answered req).discoFailed req.uri)
    (fun _ ver capSet dataForms _ hs => hs.addOwnCaps ver capSet dataForms)
    (fun _ uri hs => hs.cacheLost uri)
    (fun _ _ hs => hs.sameStore ⟨rfl, rfl, rfl, rfl⟩ fun _ => .inl) s e s' h trivial hstep

/-! ## The start -/

theorem capabilities_addBundles (l : List (String × String))
    (huri : uri ∉ l.map Prod.fst) (s : State) :
    (l.foldl (fun s bundle => addBundleCaps s bundle.1 bundle.2) s).capabilities uri =
      s.capabilities uri := by
  induction l generalizing s with
  | nil => rfl
  | cons bundle l ih =>
    rw [List.map_cons, List.mem_cons, not_or] at huri
    rw [List.foldl_cons, ih huri.2]
    exact Function.update_of_ne huri.1 _ _

theorem trustworthy_new (selfHandle : Handle) (initial : String → Option Query) :
    Trustworthy capsHash initial (State.new selfHandle initial) := by
  refine ⟨fun uri => ?_, fun uri q hcached => .inr (.inr (.inr ⟨q, hcached, rfl⟩)),
    fun x hx => by cases hx⟩
  by_cases huri : uri ∈ bundles.map Prod.fst
  · exact .inl (.inr huri)
  · refine .inr ⟨?_, .inl ?_, fun hne => absurd rfl hne⟩
    · rw [State.new, capabilities_addBundles bundles huri]
      rfl
    · rw [State.new, capabilities_addBundles bundles huri]
      exact Nat.zero_le _

end PresenceCache
