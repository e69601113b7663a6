/-
# The presence cache: data forms and client types

Contacts that report the same capability set need not send the same data forms or
have the same client types, but only the sets are compared: the forms and types of
the last report are stored and given to everybody.  The module proves that
nobody gets what a single contact made up as long as reports with equal sets are
equal in everything.
-/
import Gabble.PresenceCacheTrust

namespace PresenceCache

open Transition

variable {capsHash : Query → Option String} {initial : String → Option Query} {s s' : State}
variable {handle : Handle}
  {reports more : List Report} {uri : String} {info : CapabilityInfo} {r r' : Report}

/-! ## Answers -/

/-- The last report about a URI. -/
def lastReport (reports : List Report) (uri : String) : Option Report :=
  (reports.filter fun r => r.uri = uri).getLast?

/-- Two reports of the same reply and the same client types. -/
def SameAnswer (r r' : Report) : Prop := r.query = r'.query ∧ r.clientTypes = r'.clientTypes

/-- The answer was also given in a verified report. -/
def Confirmed (capsHash : Query → Option String) (reports : List Report) (r : Report) : Prop :=
  ∃ r' ∈ reports, r'.uri = r.uri ∧ SameAnswer r' r ∧ Verified capsHash r'

/-- A contact gave the answer. -/
def GivenBy (reports : List Report) (r : Report) (handle : Handle) : Prop :=
  ∃ r' ∈ reports, r'.uri = r.uri ∧ r'.handle = handle ∧ SameAnswer r' r

/-- The answer was verified, or at least five contacts gave it. -/
def Backed (capsHash : Query → Option String) (reports : List Report) (r : Report) : Prop :=
  Confirmed capsHash reports r ∨
    ∃ contacts : Finset Handle, enoughTrust ≤ contacts.card ∧ ∀ h ∈ contacts, GivenBy reports r h

/-- The forms of a setting: none, those of an own report, or those of one that is
backed. -/
def FormsBacked (capsHash : Query → Option String) (reports : List Report) (x : Setting) : Prop :=
  x.dataForms = [] ∨ ∃ r ∈ reports, r.uri = x.uri ∧ r.query.dataForms = x.dataForms ∧
    (r.handle = x.handle ∨ Backed capsHash reports r)

/-- A reply in the shared cache: it was there before, or it is backed. -/
def CacheBacked (capsHash : Query → Option String) (initial : String → Option Query)
    (reports : List Report) (uri : String) (q : Query) : Prop :=
  initial uri = some q ∨ ∃ r ∈ reports, r.uri = uri ∧ r.query = q ∧ Backed capsHash reports r

/-- The client types of a setting: none, those of an own report, of one that is
backed, or of a reply in the shared cache. -/
def TypesBacked (capsHash : Query → Option String) (initial : String → Option Query)
    (reports : List Report) (x : Setting) : Prop :=
  x.clientTypes = 0 ∨
  (∃ r ∈ reports, r.uri = x.uri ∧ r.clientTypes = x.clientTypes ∧
    (r.handle = x.handle ∨ Backed capsHash reports r)) ∨
  (x.responder = none ∧ ∃ q, CacheBacked capsHash initial reports x.uri q ∧
    x.clientTypes = q.clientTypes x.resource)

theorem SameAnswer.refl (r : Report) : SameAnswer r r := ⟨rfl, rfl⟩

theorem SameAnswer.trans {r'' : Report} (h : SameAnswer r r') (h' : SameAnswer r' r'') :
    SameAnswer r r'' := ⟨h.1.trans h'.1, h.2.trans h'.2⟩

theorem lastReport_some (h : lastReport reports uri = some r) : r ∈ reports ∧ r.uri = uri := by
  obtain ⟨hmem, huri⟩ := List.mem_filter.mp (List.mem_of_getLast? h)
  exact ⟨hmem, of_decide_eq_true huri⟩

theorem lastReport_append (reports : List Report) (r : Report) :
    lastReport (reports ++ [r]) r.uri = some r := by
  rw [lastReport, List.filter_append]
  simp

theorem lastReport_append_of_ne (reports : List Report) (h : uri ≠ r.uri) :
    lastReport (reports ++ [r]) uri = lastReport reports uri := by
  rw [lastReport, lastReport, List.filter_append]
  simp [Ne.symm h]

section More

variable (hsub : reports ⊆ more)

include hsub

theorem Confirmed.mono (h : Confirmed capsHash reports r) : Confirmed capsHash more r := by
  obtain ⟨r', hr', hrest⟩ := h
  exact ⟨r', hsub hr', hrest⟩

theorem GivenBy.mono (h : GivenBy reports r handle) : GivenBy more r handle := by
  obtain ⟨r', hr', hrest⟩ := h
  exact ⟨r', hsub hr', hrest⟩

theorem Backed.mono (h : Backed capsHash reports r) : Backed capsHash more r := by
  refine h.imp (Confirmed.mono hsub) ?_
  rintro ⟨contacts, hcard, hgiven⟩
  exact ⟨contacts, hcard, fun handle hh => (hgiven handle hh).mono hsub⟩

theorem FormsBacked.mono {x : Setting} (h : FormsBacked capsHash reports x) :
    FormsBacked capsHash more x := by
  refine h.imp_right ?_
  rintro ⟨r, hr, huri, hforms, hwhy⟩
  exact ⟨r, hsub hr, huri, hforms, hwhy.imp_right (Backed.mono hsub)⟩

theorem CacheBacked.mono {q : Query} (h : CacheBacked capsHash initial reports uri q) :
    CacheBacked capsHash initial more uri q := by
  refine h.imp_right ?_
  rintro ⟨r, hr, huri, hquery, hbacked⟩
  exact ⟨r, hsub hr, huri, hquery, hbacked.mono hsub⟩

theorem TypesBacked.mono {x : Setting} (h : TypesBacked capsHash initial reports x) :
    TypesBacked capsHash initial more x := by
  rcases h with hzero | ⟨r, hr, huri, htypes, hwhy⟩ | ⟨hnone, q, hq, htypes⟩
  · exact .inl hzero
  · exact .inr (.inl ⟨r, hsub hr, huri, htypes, hwhy.imp_right (Backed.mono hsub)⟩)
  · exact .inr (.inr ⟨hnone, q, hq.mono hsub, htypes⟩)

end More

/-! ## The entry of a URI -/

/-- **The invariant of an entry.**  Nothing was reported; or the entry has the last
report, whose answer was verified or else given by all the reporters. -/
inductive Entry (capsHash : Query → Option String) (reports : List Report) (uri : String)
    (info : CapabilityInfo) : Prop where
  | silent (hlast : lastReport reports uri = none) (hforms : info.dataForms = [])
      (htypes : info.clientTypes = 0) (hguys : info.guys = ∅)
      (htrust : info.trust = 0 ∨ enoughTrust ≤ info.trust) :
      Entry capsHash reports uri info
  | told (r : Report) (hlast : lastReport reports uri = some r)
      (hforms : info.dataForms = r.query.dataForms) (htypes : info.clientTypes = r.clientTypes)
      (hset : info.capSet = some r.query.capSet)
      (hwhy : Confirmed capsHash reports r ∨
        info.trust ≤ info.guys.card ∧ ∀ h ∈ info.guys, GivenBy reports r h) :
      Entry capsHash reports uri info

/-- A report about another URI. -/
theorem Entry.append_of_ne (h : Entry capsHash reports uri info) (hne : uri ≠ r.uri) :
    Entry capsHash (reports ++ [r]) uri info := by
  have hsub : reports ⊆ reports ++ [r] := List.subset_append_left _ _
  cases h with
  | silent hlast hforms htypes hguys htrust =>
    exact .silent ((lastReport_append_of_ne reports hne).trans hlast) hforms htypes hguys htrust
  | told r' hlast hforms htypes hset hwhy =>
    refine .told r' ((lastReport_append_of_ne reports hne).trans hlast) hforms htypes hset ?_
    refine hwhy.imp (Confirmed.mono hsub) fun ⟨hcard, hgiven⟩ => ⟨hcard, fun h hh => ?_⟩
    exact (hgiven h hh).mono hsub

/-- With enough trust, what was reported last is backed. -/
theorem Entry.backed (h : Entry capsHash reports uri info) (hlast : lastReport reports uri = some r)
    (htrust : enoughTrust ≤ info.trust) : Backed capsHash reports r := by
  cases h with
  | silent hnone => rw [hnone] at hlast; cases hlast
  | told r' hlast' _ _ _ hwhy =>
    rw [hlast'] at hlast
    cases hlast
    refine hwhy.imp_right fun ⟨hcard, hgiven⟩ => ?_
    exact ⟨info.guys, htrust.trans hcard, hgiven⟩

theorem guys_capabilityInfoRecvd (info : CapabilityInfo) (handle : Handle) (capSet : CapabilitySet)
    (trustInc clientTypes : ℕ) (dataForms : List DataForm) :
    (capabilityInfoRecvd info handle capSet trustInc clientTypes dataForms).guys =
      if info.capSet = some capSet then insert handle info.guys else insert handle ∅ := by
  have hpoll := congrArg Poll.voters
    (poll_capabilityInfoRecvd info handle capSet trustInc clientTypes dataForms)
  rw [Poll.vote, apply_ite Poll.voters] at hpoll
  exact hpoll

/-- **A reply.**  The entry after a reply that is verified, or that is the same
answer as the last one if it has the same set. -/
theorem Entry.recvd (h : Entry capsHash reports r.uri info) (hless : info.trust < enoughTrust)
    {trustInc : ℕ} (hinc : trustInc = 1 ∨ Verified capsHash r)
    (hsame : trustInc = 1 → ∀ r', lastReport reports r.uri = some r' →
      r'.query.capSet = r.query.capSet → SameAnswer r' r) :
    Entry capsHash (reports ++ [r]) r.uri (capabilityInfoRecvd info r.handle r.query.capSet
      trustInc r.clientTypes r.query.dataForms) := by
  have hnew : r ∈ reports ++ [r] := List.mem_append_right _ List.mem_cons_self
  have hsub : reports ⊆ reports ++ [r] := List.subset_append_left _ _
  have hself : GivenBy (reports ++ [r]) r r.handle := ⟨r, hnew, rfl, rfl, .refl r⟩
  refine .told r (lastReport_append reports r) rfl rfl ?_ ?_
  · have hpoll := congrArg Poll.value (poll_capabilityInfoRecvd info r.handle r.query.capSet
      trustInc r.clientTypes r.query.dataForms)
    exact hpoll.trans (Poll.value_vote _ _)
  rcases hinc with rfl | hverified
  · have hguys := guys_capabilityInfoRecvd info r.handle r.query.capSet 1 r.clientTypes
      r.query.dataForms
    cases h with
    | silent hlast hforms htypes hempty htrust =>
      have hzero : info.trust ≤ info.guys.card := by
        have hle := Nat.zero_le info.guys.card
        rcases htrust with htrust | htrust <;> omega
      refine .inr ⟨trust_le_card hzero _ _ _ _, fun handle hh => ?_⟩
      rw [hguys, hempty, ite_self, Finset.mem_insert] at hh
      rcases hh with rfl | hh
      · exact hself
      · exact absurd hh (Finset.notMem_empty handle)
    | told r' hlast hforms htypes hset hwhy =>
      by_cases hcaps : r'.query.capSet = r.query.capSet
      · have hanswer := hsame rfl r' hlast hcaps
        have huri := (lastReport_some hlast).2
        refine hwhy.imp ?_ fun ⟨hcard, hgiven⟩ => ⟨trust_le_card hcard _ _ _ _, ?_⟩
        · rintro ⟨r'', hr'', huri'', hanswer'', hverified⟩
          exact ⟨r'', hsub hr'', huri''.trans huri, hanswer''.trans hanswer, hverified⟩
        · intro handle hh
          rw [hguys, if_pos (hset.trans (congrArg some hcaps)), Finset.mem_insert] at hh
          rcases hh with rfl | hh
          · exact hself
          · obtain ⟨r'', hr'', huri'', hhandle, hanswer''⟩ := hgiven handle hh
            exact ⟨r'', hsub hr'', huri''.trans huri, hhandle, hanswer''.trans hanswer⟩
      · -- the report starts the count again
        have hother : ¬ info.capSet = some r.query.capSet :=
          fun heq => hcaps (Option.some_inj.mp (hset.symm.trans heq))
        refine .inr ⟨?_, fun handle hh => ?_⟩
        · rcases trust_capabilityInfoRecvd info r.handle r.query.capSet 1 r.clientTypes
            r.query.dataForms with ⟨heq, -⟩ | ⟨heq, -⟩ | htrust
          · exact absurd heq hother
          · exact absurd heq hother
          · rw [htrust, hguys, if_neg hother]
            exact Finset.card_pos.mpr (Finset.insert_nonempty _ _)
        · rw [hguys, if_neg hother, Finset.mem_insert] at hh
          rcases hh with rfl | hh
          · exact hself
          · exact absurd hh (Finset.notMem_empty handle)
  · exact .inl ⟨r, hnew, rfl, .refl r, hverified⟩

/-! ## Events -/

/-- **The invariant**, for one URI. -/
structure Attested (capsHash : Query → Option String) (initial : String → Option Query)
    (uri : String) (s : State) : Prop where
  entry : Entry capsHash s.reports uri (s.capabilities uri)
  waiting : s.discoPending uri ≠ [] →
    (s.capabilities uri).trust < enoughTrust ∧ s.capsCache uri = none
  known : s.capsCache uri ≠ none →
    lastReport s.reports uri = none ∨ enoughTrust ≤ (s.capabilities uri).trust
  cached : ∀ q, s.capsCache uri = some q → CacheBacked capsHash initial s.reports uri q
  settings : ∀ x ∈ s.settings, x.uri = uri →
    FormsBacked capsHash s.reports x ∧ TypesBacked capsHash initial s.reports x

namespace Attested

section

variable (h : Attested capsHash initial uri s)

include h

/-- Only what is kept for the URI matters, and no reports of others. -/
theorem congr (hinfo : s'.capabilities uri = s.capabilities uri)
    (hcache : s'.capsCache uri = s.capsCache uri)
    (hreports : s'.reports = s.reports ∨ ∃ r, uri ≠ r.uri ∧ s'.reports = s.reports ++ [r])
    (hsettings : s'.settings = s.settings)
    (hwaiting : s'.discoPending uri ≠ [] → s.discoPending uri ≠ [] ∨
      (s.capabilities uri).trust < enoughTrust ∧ s.capsCache uri = none) :
    Attested capsHash initial uri s' := by
  have hlast : lastReport s'.reports uri = lastReport s.reports uri := by
    rcases hreports with heq | ⟨r, hne, heq⟩
    · rw [heq]
    · rw [heq, lastReport_append_of_ne s.reports hne]
  have hsub : s.reports ⊆ s'.reports := by
    rcases hreports with heq | ⟨r, hne, heq⟩
    · exact heq ▸ List.Subset.refl _
    · exact heq ▸ List.subset_append_left _ _
  refine ⟨?_, fun hne => ?_, fun hne => ?_, fun q hcached => ?_, fun x hx huri => ?_⟩
  · rw [hinfo]
    rcases hreports with heq | ⟨r, hne, heq⟩
    · rw [heq]
      exact h.entry
    · rw [heq]
      exact h.entry.append_of_ne hne
  · rw [hinfo, hcache]
    rcases hwaiting hne with hne | hfresh
    · exact h.waiting hne
    · exact hfresh
  · rw [hcache] at hne
    rw [hlast, hinfo]
    exact h.known hne
  · rw [hcache] at hcached
    exact (h.cached q hcached).mono hsub
  · rw [hsettings] at hx
    exact (h.settings x hx huri).imp (FormsBacked.mono hsub) (TypesBacked.mono hsub)

theorem sameStore (hs : SameStore s s')
    (hwaiting : s'.discoPending uri ≠ [] → s.discoPending uri ≠ [] ∨
      (s.capabilities uri).trust < enoughTrust ∧ s.capsCache uri = none) :
    Attested capsHash initial uri s' :=
  h.congr (congrFun hs.capabilities uri) (congrFun hs.capsCache uri) (.inl hs.reports) hs.settings
    hwaiting

theorem quiet (hq : Quiet s s') :
    Attested capsHash initial uri s' :=
  h.sameStore hq.sameStore fun hne => .inl (hq.discoPending ▸ hne)

theorem record {x : Setting} (hx : x.uri = uri →
      FormsBacked capsHash s.reports x ∧ TypesBacked capsHash initial s.reports x) :
    Attested capsHash initial uri (record s x) := by
  refine ⟨h.entry, h.waiting, h.known, h.cached, fun y hy => ?_⟩
  rcases List.mem_append.mp hy with hy | hy
  · exact h.settings y hy
  · rw [List.mem_singleton.mp hy]
    exact hx

theorem awaitUri {u : String}
    (hunknown : ¬ isKnown s u handle = true) (resource hash ver : Option String)
    (serial : ℕ) :
    Attested capsHash initial uri (awaitUri s u handle resource hash ver serial) := by
  refine h.sameStore (sameStore_awaitUri s u handle resource hash ver serial) fun hne => ?_
  refine (awaitUri_waits hne).imp_right ?_
  rintro rfl
  exact ⟨trust_of_not_isKnown hunknown, capsCache_of_not_isKnown hunknown⟩

/-- What is stored and may be used for a contact: nothing, its own report, or one
that is backed. -/
theorem stored (hknown : isKnown s uri handle = true) :
    ((s.capabilities uri).dataForms = [] ∧ (s.capabilities uri).clientTypes = 0) ∨
    ∃ r ∈ s.reports, r.uri = uri ∧ r.query.dataForms = (s.capabilities uri).dataForms ∧
      r.clientTypes = (s.capabilities uri).clientTypes ∧
      (r.handle = handle ∨ Backed capsHash s.reports r) := by
  cases h.entry with
  | silent _ hforms htypes => exact .inl ⟨hforms, htypes⟩
  | told r hlast hforms htypes hset hwhy =>
    right
    obtain ⟨hr, huri⟩ := lastReport_some hlast
    have hbacked : Backed capsHash s.reports r ∨ handle ∈ (s.capabilities uri).guys := by
      rcases of_decide_eq_true hknown with hcached | htrust | hmem
      · rcases h.known (Option.isSome_iff_ne_none.mp hcached) with hnone | htrust
        · rw [hlast] at hnone
          cases hnone
        · exact .inl (h.entry.backed hlast htrust)
      · exact .inl (h.entry.backed hlast htrust)
      · exact .inr hmem
    rcases hbacked with hbacked | hmem
    · exact ⟨r, hr, huri, hforms.symm, htypes.symm, .inr hbacked⟩
    · rcases hwhy with hconfirmed | ⟨-, hgiven⟩
      · exact ⟨r, hr, huri, hforms.symm, htypes.symm, .inr (.inl hconfirmed)⟩
      · -- the contact itself gave the answer that is stored
        obtain ⟨r', hr', huri', hhandle, hquery, hclient⟩ := hgiven handle hmem
        refine ⟨r', hr', huri'.trans huri, ?_, hclient.trans htypes.symm, .inl hhandle⟩
        rw [hquery, hforms]

theorem storedSetting {resource : Option String} (hknown : isKnown s uri handle = true) :
    FormsBacked capsHash s.reports (storedSetting s uri handle resource) ∧
      TypesBacked capsHash initial s.reports (storedSetting s uri handle resource) := by
  constructor
  · rcases h.stored hknown with ⟨hforms, -⟩ | ⟨r, hr, huri, hforms, -, hwhy⟩
    · exact .inl hforms
    · exact .inr ⟨r, hr, huri, hforms, hwhy⟩
  · cases hcached : s.capsCache uri with
    | some q =>
      refine .inr (.inr ⟨rfl, q, h.cached q hcached, ?_⟩)
      simp only [PresenceCache.storedSetting, hcached, Option.elim_some]
    | none =>
      have htypes : (PresenceCache.storedSetting s uri handle resource).clientTypes =
          (s.capabilities uri).clientTypes := by
        simp only [PresenceCache.storedSetting, hcached, Option.elim_none]
      rcases h.stored hknown with ⟨-, hzero⟩ | ⟨r, hr, huri, -, hclient, hwhy⟩
      · exact .inl (htypes.trans hzero)
      · exact .inr (.inl ⟨r, hr, huri, hclient.trans htypes.symm, hwhy⟩)

theorem cacheLost (u : String) :
    Attested capsHash initial uri
      { s with capsCache := Function.update s.capsCache u none } := by
  by_cases hu : uri = u
  · subst hu
    have hnone : Function.update s.capsCache uri none uri = none := Function.update_self _ _ _
    refine ⟨h.entry, fun hne => ⟨(h.waiting hne).1, hnone⟩, fun hne => absurd hnone hne,
      fun q hcached => ?_, h.settings⟩
    cases hnone.symm.trans hcached
  · exact h.congr rfl (Function.update_of_ne hu _ _) (.inl rfl) rfl .inl

end

section Reported

variable {req : Answer} {self : Waiter} {q : Query} {trustInc : ℕ} {t : State}

/-- The state after a reply whose answer is verified or the same as before. -/
theorem reported (h : Attested capsHash initial req.uri s) (hself : self ∈ s.discoPending req.uri)
    (hinc : trustInc = 1 ∨ Verified capsHash (newReport req self q))
    (hsame : trustInc = 1 → ∀ r', lastReport s.reports req.uri = some r' →
      r'.query.capSet = q.capSet → SameAnswer r' (newReport req self q))
    (hinfo : t.capabilities = (PresenceCache.reported s req self q trustInc).capabilities)
    (hreports : t.reports = s.reports ++ [newReport req self q])
    (hsettings : t.settings = s.settings)
    (hwaiting : t.discoPending req.uri ≠ [] →
      (newInfo s req self q trustInc).trust < enoughTrust ∧ t.capsCache req.uri = none)
    (hknown : t.capsCache req.uri ≠ none →
      enoughTrust ≤ (newInfo s req self q trustInc).trust)
    (hcached : ∀ p, t.capsCache req.uri = some p → p = q ∧ Backed capsHash t.reports
      (newReport req self q)) : Attested capsHash initial req.uri t := by
  have hsub : s.reports ⊆ t.reports := hreports ▸ List.subset_append_left _ _
  have hself' : t.capabilities req.uri = newInfo s req self q trustInc := by
    rw [hinfo]
    exact Function.update_self _ _ _
  refine ⟨?_, fun hne => ?_, fun hne => ?_, fun p hp => ?_, fun x hx huri => ?_⟩
  · rw [hself', hreports]
    exact Entry.recvd (r := newReport req self q) h.entry (h.waiting (List.ne_nil_of_mem hself)).1
      hinc hsame
  · rw [hself']
    exact hwaiting hne
  · rw [hself']
    exact .inr (hknown hne)
  · obtain ⟨rfl, hbacked⟩ := hcached p hp
    refine .inr ⟨newReport req self p, ?_, rfl, rfl, hbacked⟩
    rw [hreports]
    exact List.mem_append_right _ List.mem_cons_self
  · rw [hsettings] at hx
    exact (h.settings x hx huri).imp (FormsBacked.mono hsub) (TypesBacked.mono hsub)

/-- The reply is trusted, and everybody is served. -/
theorem serveWaiters (h : Attested capsHash initial req.uri s)
    (hself : self ∈ s.discoPending req.uri)
    (hinc : trustInc = 1 ∨ Verified capsHash (newReport req self q))
    (hsame : trustInc = 1 → ∀ r', lastReport s.reports req.uri = some r' →
      r'.query.capSet = q.capSet → SameAnswer r' (newReport req self q))
    (henough : (newInfo s req self q trustInc).trust ≥ enoughTrust) :
    Attested capsHash initial req.uri (serveWaiters
      (PresenceCache.reported s req self q trustInc) req.uri q (q.clientTypes self.resource)
      req.handle) := by
  obtain ⟨hless, hnone⟩ := h.waiting (List.ne_nil_of_mem hself)
  have hentry : Entry capsHash (s.reports ++ [newReport req self q]) req.uri
      (newInfo s req self q trustInc) :=
    Entry.recvd (r := newReport req self q) h.entry hless hinc hsame
  have hbacked := hentry.backed (lastReport_append _ (newReport req self q)) henough
  have hnew : newReport req self q ∈ s.reports ++ [newReport req self q] :=
    List.mem_append_right _ List.mem_cons_self
  have htaken : Attested capsHash initial req.uri
      (taken (PresenceCache.reported s req self q trustInc) req.uri q) := by
    refine h.reported hself hinc hsame rfl rfl rfl (fun hne => ?_) (fun _ => henough)
      (fun p hp => ⟨?_, hbacked⟩)
    · exact absurd (taken_discoPending _ req.uri q) hne
    · rcases cacheInsert_some hp with hold | ⟨-, rfl⟩
      · cases hnone.symm.trans hold
      · rfl
  refine (serveWaiters_invariant (I := fun t' => Attested capsHash initial req.uri t' ∧
      t'.reports = s.reports ++ [newReport req self q])
    (fun t₁ t₂ hq ht => ⟨ht.1.quiet hq, hq.reports.trans ht.2⟩)
    (fun t' w _ ht' => ⟨ht'.1.record fun _ => ?_, ht'.2⟩) ⟨htaken, rfl⟩).1
  rw [ht'.2]
  exact ⟨.inr ⟨_, hnew, rfl, rfl, .inr hbacked⟩, .inr (.inl ⟨_, hnew, rfl, rfl, .inr hbacked⟩)⟩

end Reported

end Attested

/-- **The condition**, for one URI.  A reply about it that is not verified and has the
same set as the last report is the same reply, and gives the same client types; and
the program stores no capabilities of its own for it. -/
def Agrees (uri : String) (s : State) : Event → Prop
  | .reply req q => req.uri = uri →
      ∀ self ∈ findMatchingWaiter (s.discoPending uri) req.handle req.resource,
        self.hash ≠ some "sha-1" → ∀ r ∈ lastReport s.reports uri,
          r.query.capSet = q.capSet → r.query = q ∧ r.clientTypes = q.clientTypes self.resource
  | .addOwnCaps ver _ _ => uriOf nsGabbleCaps ver ≠ uri
  | _ => True

instance decidableAgrees (uri : String) (s : State) : (e : Event) → Decidable (Agrees uri s e)
  | .reply _ _ => inferInstanceAs (Decidable (_ → _))
  | .addOwnCaps .. => inferInstanceAs (Decidable (_ ≠ _))
  | .presence .. | .unavailable .. | .error _ | .cacheLost _ | .roomMember .. => .isTrue trivial

theorem hash_of_trustOf {self : Waiter} {q : Query} (h : trustOf capsHash self q = some 1) :
    self.hash ≠ some "sha-1" := by
  intro hhash
  rw [trustOf, if_pos hhash] at h
  obtain ⟨-, heq⟩ := Option.ite_none_right_eq_some.mp h
  exact absurd (Option.some_inj.mp heq) (by decide)

/-- A reply about another URI. -/
theorem Attested.reply_of_ne (h : Attested capsHash initial uri s) {req : Answer}
    (hne : uri ≠ req.uri) (q : Query) :
    Attested capsHash initial uri (capsDiscoReply capsHash s req q) := by
  have hset : ∀ {t : State} {x : Setting}, x.uri = req.uri → Attested capsHash initial uri t →
      Attested capsHash initial uri (PresenceCache.record t x) :=
    fun hx ht => ht.record fun huri => absurd (huri.symm.trans hx) hne
  have hreported : ∀ self trustInc, Attested capsHash initial uri
      (PresenceCache.reported s req self q trustInc) := fun self trustInc =>
    h.congr (Function.update_of_ne hne _ _) rfl (.inr ⟨_, hne, rfl⟩) rfl .inl
  rcases capsDiscoReply_cases capsHash s req q with
    ⟨-, heq⟩ | ⟨self, -, ⟨-, heq⟩ | ⟨trustInc, -, ⟨-, heq⟩ | ⟨-, heq⟩⟩⟩
  · rw [heq]
    exact h
  · rw [heq]
    exact h.sameStore (sameStore_dropWaiter s req.uri self 0)
      fun hwaits => .inl (dropWaiter_waits hwaits)
  · rw [heq]
    refine serveWaiters_invariant (fun _ _ hq ht => ht.quiet hq) (fun t w _ ht => hset rfl ht) ?_
    refine (hreported self trustInc).congr rfl (Function.update_of_ne hne _ _) (.inl rfl) rfl
      fun hwaits => .inl fun hnil => hwaits ?_
    exact (Function.update_of_ne hne _ _).trans hnil
  · rw [heq]
    refine Attested.sameStore ?_ (sameStore_dropWaiter _ req.uri self _)
      fun hwaits => .inl (dropWaiter_waits hwaits)
    exact setCapsFor_invariant (fun _ _ hq ht => ht.quiet hq) (hset rfl) (hreported self trustInc)

theorem Attested.capsDiscoReply (h : Attested capsHash initial uri s) {req : Answer} {q : Query}
    (hagrees : Agrees uri s (.reply req q)) :
    Attested capsHash initial uri (capsDiscoReply capsHash s req q) := by
  by_cases huri : uri = req.uri
  · subst huri
    rcases capsDiscoReply_cases capsHash s req q with
      ⟨-, heq⟩ | ⟨self, hself, ⟨-, heq⟩ | ⟨trustInc, htrustOf, hcases⟩⟩
    · rw [heq]
      exact h
    · rw [heq]
      exact h.sameStore (sameStore_dropWaiter s req.uri self 0)
        fun hne => .inl (dropWaiter_waits hne)
    · obtain ⟨hmem, hhandle, -⟩ := findMatchingWaiter_some hself
      have hinc : trustInc = 1 ∨ Verified capsHash (newReport req self q) :=
        (verified_of_trustOf req htrustOf).imp_right And.right
      have hsame : trustInc = 1 → ∀ r', lastReport s.reports req.uri = some r' →
          r'.query.capSet = q.capSet → SameAnswer r' (newReport req self q) := by
        rintro rfl r' hlast hcaps
        exact hagrees rfl self hself (hash_of_trustOf htrustOf) r' hlast hcaps
      rcases hcases with ⟨henough, heq⟩ | ⟨hless, heq⟩
      · rw [heq]
        exact h.serveWaiters hmem hinc hsame henough
      · rw [heq]
        have hnone := (h.waiting (List.ne_nil_of_mem hmem)).2
        have hreported : Attested capsHash initial req.uri
            (PresenceCache.reported s req self q trustInc) := by
          refine h.reported hmem hinc hsame rfl rfl rfl (fun _ => ⟨hless, hnone⟩)
            (fun hne => absurd hnone hne) (fun p hp => ?_)
          cases hnone.symm.trans hp
        refine sameStore ?_ (sameStore_dropWaiter _ req.uri self _)
          fun hne => .inl (dropWaiter_waits hne)
        refine setCapsFor_invariant (fun _ _ hq ht => ht.quiet hq)
          (fun ht => ht.record fun _ => ?_) hreported
        have hnew : newReport req self q ∈ s.reports ++ [newReport req self q] :=
          List.mem_append_right _ List.mem_cons_self
        exact ⟨.inr ⟨_, hnew, rfl, rfl, .inl hhandle.symm⟩,
          .inr (.inl ⟨_, hnew, rfl, rfl, .inl hhandle.symm⟩)⟩
  · exact h.reply_of_ne huri q

theorem Attested.step (s : State) (e : Event) (s' : State) (h : Attested capsHash initial uri s)
    (hok : Agrees uri s e) (hstep : step capsHash s e = some s') :
    Attested capsHash initial uri s' := by
  have hstored : ∀ s u handle resource, isKnown s u handle = true →
      Attested capsHash initial uri s →
      Attested capsHash initial uri
        (PresenceCache.record s (PresenceCache.storedSetting s u handle resource)) := by
    intro s u handle resource hknown hs
    refine hs.record fun huri => ?_
    cases (huri : u = uri)
    exact hs.storedSetting hknown
  refine step_invariant (Agrees uri) (fun _ _ hq hs => hs.quiet hq) hstored
    (fun _ _ _ resource hash ver serial hunknown hs =>
      hs.awaitUri hunknown resource hash ver serial)
    (fun s req _ hagrees _ hs =>
      (hs.sameStore (sameStore_answered s req) .inl).capsDiscoReply hagrees)
    (fun s req _ _ hs => (hs.sameStore (sameStore_answered s req) .inl).sameStore
      (sameStore_discoFailed _ req.uri) fun hne => .inl (discoFailed_waits hne))
    (fun s ver capSet dataForms hother hs => ?_) (fun _ u hs => hs.cacheLost u)
    (fun _ _ hs => hs.congr rfl rfl (.inl rfl) rfl .inl) s e s' h hok hstep
  rw [addOwnCaps]
  split
  · exact hs
  · exact hs.congr (Function.update_of_ne hother.symm _ _) rfl (.inl rfl) rfl .inl

theorem trust_addBundles (uri : String) (l : List (String × String)) (s : State)
    (h : (s.capabilities uri).dataForms = [] ∧ (s.capabilities uri).clientTypes = 0 ∧
      (s.capabilities uri).guys = ∅ ∧
      ((s.capabilities uri).trust = 0 ∨ enoughTrust ≤ (s.capabilities uri).trust)) :
    let info := (l.foldl (fun s bundle => addBundleCaps s bundle.1 bundle.2) s).capabilities uri
    info.dataForms = [] ∧ info.clientTypes = 0 ∧ info.guys = ∅ ∧
      (info.trust = 0 ∨ enoughTrust ≤ info.trust) := by
  refine List.foldlRecOn (motive := fun s : State => (s.capabilities uri).dataForms = [] ∧
    (s.capabilities uri).clientTypes = 0 ∧ (s.capabilities uri).guys = ∅ ∧
    ((s.capabilities uri).trust = 0 ∨ enoughTrust ≤ (s.capabilities uri).trust)) l _ h ?_
  intro t ht bundle _
  by_cases huri : uri = bundle.1
  · subst huri
    rw [addBundleCaps, setInfo]
    dsimp only
    rw [Function.update_self]
    exact ⟨ht.1, ht.2.1, ht.2.2.1, .inr le_rfl⟩
  · rw [addBundleCaps, setInfo]
    dsimp only
    rw [Function.update_of_ne huri]
    exact ht

theorem attested_new (capsHash : Query → Option String) (selfHandle : Handle)
    (initial : String → Option Query) :
    Attested capsHash initial uri (State.new selfHandle initial) := by
  refine ⟨?_, fun hne => absurd rfl hne, fun _ => .inl rfl, fun q hcached => .inl hcached,
    fun x hx => by cases hx⟩
  obtain ⟨hforms, htypes, hguys, htrust⟩ := trust_addBundles uri bundles
    { selfHandle := selfHandle
      members := ∅
      presence := fun _ => none
      capabilities := fun _ => .new
      discoPending := fun _ => []
      capsSerial := 1
      capsCache := initial
      requests := []
      signals := []
      reports := []
      settings := [] } ⟨rfl, rfl, rfl, .inl rfl⟩
  exact .silent rfl hforms htypes hguys htrust

/-- **Forms and client types.**  In every run in which replies about a URI with equal
sets that are not verified are equal, and no own capabilities are stored for it, the
forms and the client types a resource gets because of it, and the reply in the shared
cache, are those of the contact's own report, of a verified one, or of one that at
least five contacts made identically. -/
theorem forms_and_types_backed (capsHash : Query → Option String) (selfHandle : Handle)
    (initial : String → Option Query) (uri : String) (es : List Event) {s : State}
    (hadm : Admits (Agrees uri) (step capsHash) (State.new selfHandle initial) es)
    (hrun : run (step capsHash) (State.new selfHandle initial) es = some s) :
    (∀ x ∈ s.settings, x.uri = uri → FormsBacked capsHash s.reports x ∧
      TypesBacked capsHash initial s.reports x) ∧
    ∀ q, s.capsCache uri = some q → CacheBacked capsHash initial s.reports uri q := by
  have hattested := (reachable_of_run es hadm hrun).invariant
    (attested_new capsHash selfHandle initial) Attested.step
  exact ⟨hattested.settings, hattested.cached⟩

/-- Six contacts without a hash; four of them reply with the same set and the forms
`forms`, the fifth with the same set and the form `form`. -/
def formsRun (form : DataForm) (forms : List DataForm) : List Event :=
  ["b", "c", "d", "e", "f", "g"].map (available · none "v") ++
    (["b", "c", "d", "e"].map fun handle =>
      .reply ⟨"n#v", handle, some "r"⟩ ⟨["feature"], [], forms⟩) ++
    [.reply ⟨"n#v", "f", some "r"⟩ ⟨["feature"], [], [form]⟩]

/-- What the sixth contact gets. -/
def formsSetting (form : DataForm) : Setting :=
  ⟨"g", some "r", "n#v", {"feature"}, [form], 0, some "f"⟩

theorem forms_and_types_backed_formsRun :
    ∃ s, run (step emptyHash) (State.new "me" fun _ => none) (formsRun ⟨"f", []⟩ [⟨"f", []⟩]) =
        some s ∧
      formsSetting ⟨"f", []⟩ ∈ s.settings ∧
      FormsBacked emptyHash s.reports (formsSetting ⟨"f", []⟩) := by
  have hserved : (run (step emptyHash) (State.new "me" fun _ => none)
      (formsRun ⟨"f", []⟩ [⟨"f", []⟩])).any (fun s =>
        formsSetting ⟨"f", []⟩ ∈ s.settings) = true := by
    decide +kernel
  obtain ⟨s, hrun, hmem⟩ := (Option.any_eq_true _ _).mp hserved
  have hmem := of_decide_eq_true hmem
  refine ⟨s, hrun, hmem, ?_⟩
  exact ((forms_and_types_backed emptyHash "me" (fun _ => none) "n#v"
    (formsRun ⟨"f", []⟩ [⟨"f", []⟩]) (by decide +kernel) hrun).1 _ hmem rfl).1

/-- Forms that only one other contact sent, without a hash, are not backed. -/
theorem not_formsBacked {x : Setting} (hforms : x.dataForms ≠ [])
    (hhash : ∀ r ∈ reports, r.hash ≠ some "sha-1")
    (honly : ∀ r ∈ reports, r.query.dataForms = x.dataForms → r.handle = handle)
    (hother : handle ≠ x.handle) : ¬ FormsBacked capsHash reports x := by
  rintro (hnil | ⟨r, hr, -, heq, hown | ⟨r', hr', -, -, hverified⟩ | ⟨contacts, hcard, hgiven⟩⟩)
  · exact hforms hnil
  · exact hother ((honly r hr heq).symm.trans hown)
  · exact hhash r' hr' hverified.1
  · have hsub : contacts ⊆ {handle} := by
      intro h hh
      obtain ⟨r', hr', -, rfl, hanswer⟩ := hgiven h hh
      rw [Finset.mem_singleton]
      exact honly r' hr' ((congrArg Query.dataForms hanswer.1).trans heq)
    have hone := Finset.card_le_card hsub
    rw [Finset.card_singleton] at hone
    exact absurd (hcard.trans hone) (by decide)

/-- The fifth contact alone sends a form, and the sixth gets it. -/
theorem form_of_one_contact :
    ∃ s, run (step emptyHash) (State.new "me" fun _ => none) (formsRun ⟨"f", []⟩ []) = some s ∧
      formsSetting ⟨"f", []⟩ ∈ s.settings ∧
      ¬ FormsBacked emptyHash s.reports (formsSetting ⟨"f", []⟩) := by
  have hserved : (run (step emptyHash) (State.new "me" fun _ => none)
      (formsRun ⟨"f", []⟩ [])).any (fun s => formsSetting ⟨"f", []⟩ ∈ s.settings ∧
        (∀ r ∈ s.reports, r.hash ≠ some "sha-1") ∧
        ∀ r ∈ s.reports, r.query.dataForms = [⟨"f", []⟩] → r.handle = ("f" : Handle)) = true := by
    decide +kernel
  obtain ⟨s, hrun, hmem⟩ := (Option.any_eq_true _ _).mp hserved
  obtain ⟨hmem, hhash, honly⟩ := of_decide_eq_true hmem
  exact ⟨s, hrun, hmem, not_formsBacked (List.cons_ne_nil _ _) hhash honly (by decide)⟩

end PresenceCache
