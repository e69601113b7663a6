/-
# The presence cache: one request for each JID and URI

A contact is not asked again as long as it is among the waiters of the URI.  So the
waiters must not be forgotten while their requests are under way; an error from the
last contact to answer forgets them all.  A contact that becomes a room member is not
recognised among the waiters; and a room member that is asked again is asked at
another JID, where somebody else may wait.
-/
import Gabble.PresenceCacheWaiters

namespace PresenceCache

open Transition

variable {capsHash : Query → Option String} {s s' : State}

/-! ## JIDs -/

theorem jid_of_key {w w' : Waiter} (h : key w = key w') : w.jid = w'.jid := by
  obtain ⟨hhandle, hresource⟩ := Prod.mk.inj h
  rw [Waiter.jid, Waiter.jid, hhandle, hresource]

theorem fullJid_of_key {w w' : Waiter} (h : key w = key w') : w.fullJid = w'.fullJid := by
  obtain ⟨hhandle, hresource⟩ := Prod.mk.inj h
  rw [Waiter.fullJid, Waiter.fullJid, hhandle, hresource]

/-- A nick that is written twice is known. -/
theorem append_slash_inj {r r' : String} (h : r ++ "/" ++ r = r' ++ "/" ++ r') : r = r' := by
  have hlist := congrArg String.toList h
  simp only [String.toList_append] at hlist
  have hlength := congrArg List.length hlist
  simp only [List.length_append] at hlength
  exact String.toList_inj.mp (List.append_inj_right' hlist (by omega))

/-- Whoever is in a room with the handle of its full JID. -/
def Waiter.InRoom (w : Waiter) : Prop := w.handle.resource.isSome = true

instance (w : Waiter) : Decidable w.InRoom := inferInstanceAs (Decidable (_ = _))

/-- Room members that are asked again at the same JID are the same. -/
theorem jid_eq_of_fullJid {w w' : Waiter} (hroom : w.InRoom)
    (hresource : w.resource = w.handle.resource) (hroom' : w'.InRoom)
    (hresource' : w'.resource = w'.handle.resource) (h : w.fullJid = w'.fullJid) :
    w.jid = w'.jid := by
  obtain ⟨r, hr⟩ := Option.isSome_iff_exists.mp hroom
  obtain ⟨r', hr'⟩ := Option.isSome_iff_exists.mp hroom'
  rw [Waiter.fullJid, Waiter.fullJid, hresource, hresource', hr, hr'] at h
  obtain ⟨hbare, htwice⟩ := Jid.mk.inj h
  have hnick := append_slash_inj (Option.some_inj.mp htwice)
  have hhandle : w.handle = w'.handle := Jid.ext hbare (by rw [hr, hr', hnick])
  rw [Waiter.jid, Waiter.jid, hresource, hresource', hhandle]

theorem fullJid_of_not_inRoom {w : Waiter} (h : ¬ w.InRoom) : w.fullJid = w.jid :=
  fullJid_of_none (Option.not_isSome_iff_eq_none.mp h)

/-! ## Requests and who waits for them -/

/-- The URI is trusted, and nobody waits for it any more. -/
def Settled (s : State) (uri : String) : Prop :=
  s.discoPending uri = [] ∧ (s.capabilities uri).trust ≥ enoughTrust

/-- Who has the JID waits, marked as asked. -/
def Waits (ws : List Waiter) (jid : Jid) : Prop :=
  ∃ w ∈ ws, w.jid = jid ∧ w.discoRequested = true

/-- Nobody who waits has the JID; a room member was asked there, and has no request to
its own JID. -/
def Astray (requests : List Request) (uri : String) (ws : List Waiter) (jid : Jid) : Prop :=
  (∀ w ∈ ws, w.jid ≠ jid) ∧
    ∃ w ∈ ws, w.InRoom ∧ w.discoRequested = true ∧ w.fullJid = jid ∧ requestTo uri w ∉ requests

/-- The waiters of a URI against the requests under way: no JID waits twice, and
nobody who was asked was forgotten. -/
structure Kept (requests : List Request) (uri : String) (ws : List Waiter) : Prop where
  jids : (ws.map Waiter.jid).Nodup
  inRoom : ∀ w ∈ ws, w.InRoom → w.resource = w.handle.resource
  covered : ∀ jid, (⟨uri, jid⟩ : Request) ∈ requests → Waits ws jid ∨ Astray requests uri ws jid

theorem Asks.sublist {ws ws' asked : List Waiter} (h : Asks ws ws' asked) : asked.Sublist ws := by
  induction h with
  | nil => exact .slnil
  | keep x _ ih => exact ih.cons x
  | mark x _ _ ih => exact ih.cons_cons x

/-- Who was asked stays asked. -/
theorem Asks.mem_of_asked {ws ws' asked : List Waiter} (h : Asks ws ws' asked) {w : Waiter}
    (hw : w ∈ ws) (hasked : w.discoRequested = true) : w ∈ ws' := by
  induction h with
  | nil => cases hw
  | keep x _ ih =>
    rcases List.mem_cons.mp hw with rfl | hw
    · exact List.mem_cons_self
    · exact List.mem_cons_of_mem x (ih hw)
  | mark x hx _ ih =>
    rcases List.mem_cons.mp hw with rfl | hw
    · rw [hx] at hasked
      cases hasked
    · exact List.mem_cons_of_mem _ (ih hw)

theorem Asks.jids {ws ws' asked : List Waiter} (h : Asks ws ws' asked) :
    ws'.map Waiter.jid = ws.map Waiter.jid := by
  have hkeys := congrArg (List.map fun k : Handle × Option String => fromJid k.1 k.2) h.keys
  rwa [List.map_map, List.map_map] at hkeys

namespace Kept

variable {requests more : List Request} {uri : String} {ws ws' asked : List Waiter}
  {w self : Waiter}

theorem clear (h : ∀ jid, (⟨uri, jid⟩ : Request) ∉ requests) : Kept requests uri [] where
  jids := List.nodup_nil
  inRoom := fun w hw => by cases hw
  covered := fun jid hjid => absurd hjid (h jid)

section

variable (h : Kept requests uri ws)

include h

/-- An answer takes a request away. -/
theorem erase (req : Request) : Kept (requests.erase req) uri ws where
  jids := h.jids
  inRoom := h.inRoom
  covered := by
    intro jid hjid
    refine (h.covered jid (List.mem_of_mem_erase hjid)).imp_right ?_
    rintro ⟨hnobody, w, hw, hroom, hasked, hfull, hnot⟩
    exact ⟨hnobody, w, hw, hroom, hasked, hfull, fun hmem => hnot (List.mem_of_mem_erase hmem)⟩

/-- Requests about other URIs. -/
theorem append (hmore : ∀ req ∈ more, req.uri ≠ uri) :
    Kept (requests ++ more) uri ws where
  jids := h.jids
  inRoom := h.inRoom
  covered := by
    intro jid hjid
    rcases List.mem_append.mp hjid with hjid | hjid
    · refine (h.covered jid hjid).imp_right ?_
      rintro ⟨hnobody, w, hw, hroom, hasked, hfull, hnot⟩
      refine ⟨hnobody, w, hw, hroom, hasked, hfull, fun hmem => ?_⟩
      exact (List.mem_append.mp hmem).elim hnot fun hmem => hmore _ hmem rfl
    · exact absurd rfl (hmore _ hjid)

/-- Serials do not matter. -/
theorem congr (heq : ws'.map (fun w => (key w, w.discoRequested)) =
      ws.map fun w => (key w, w.discoRequested)) : Kept requests uri ws' := by
  have hjids : ws'.map Waiter.jid = ws.map Waiter.jid := by
    have := congrArg (List.map fun k : (Handle × Option String) × Bool => fromJid k.1.1 k.1.2) heq
    rwa [List.map_map, List.map_map] at this
  have hold : ∀ w' ∈ ws', ∃ w ∈ ws, key w = key w' := by
    intro w' hw'
    obtain ⟨w, hw, heq⟩ := List.mem_map.mp (heq ▸ List.mem_map_of_mem hw')
    exact ⟨w, hw, (Prod.mk.inj heq).1⟩
  have hnew : ∀ w ∈ ws, ∃ w' ∈ ws', key w' = key w ∧ w'.discoRequested = w.discoRequested := by
    intro w hw
    obtain ⟨w', hw', heq⟩ := List.mem_map.mp (heq.symm ▸ List.mem_map_of_mem hw)
    exact ⟨w', hw', Prod.mk.inj heq⟩
  refine ⟨hjids ▸ h.jids, fun w' hw' hroom => ?_, fun jid hjid => (h.covered jid hjid).imp ?_ ?_⟩
  · obtain ⟨w, hw, hkey⟩ := hold w' hw'
    obtain ⟨hhandle, hresource⟩ := Prod.mk.inj hkey
    rw [Waiter.InRoom, ← hhandle] at hroom
    rw [← hhandle, ← hresource]
    exact h.inRoom w hw hroom
  · rintro ⟨w, hw, hjid, hasked⟩
    obtain ⟨w', hw', hkey, hflag⟩ := hnew w hw
    exact ⟨w', hw', (jid_of_key hkey).trans hjid, hflag.trans hasked⟩
  · rintro ⟨hnobody, w, hw, hroom, hasked, hfull, hnot⟩
    refine ⟨fun w' hw' heq => ?_, ?_⟩
    · obtain ⟨w, hw, hkey⟩ := hold w' hw'
      exact hnobody w hw ((jid_of_key hkey).trans heq)
    · obtain ⟨w', hw', hkey, hflag⟩ := hnew w hw
      refine ⟨w', hw', ?_, hflag.trans hasked, (fullJid_of_key hkey).trans hfull, ?_⟩
      · rwa [Waiter.InRoom, (Prod.mk.inj hkey).1]
      · rwa [requestTo, jid_of_key hkey]

/-- No request to somebody who was not asked is under way. -/
theorem not_mem_of_unasked (hw : w ∈ ws)
    (hunasked : w.discoRequested = false) : requestTo uri w ∉ requests := by
  intro hmem
  rcases h.covered w.jid hmem with ⟨w', hw', hjid, hasked⟩ | ⟨hnobody, -⟩
  · obtain rfl := List.inj_on_of_nodup_map h.jids hw' hw hjid
    rw [hunasked] at hasked
    cases hasked
  · exact hnobody w hw rfl

end

section Cons

variable (hroom : w.InRoom → w.resource = w.handle.resource) (hfresh : ∀ w' ∈ ws, w'.jid ≠ w.jid)
  (hclear : ∀ w' ∈ ws, w'.fullJid = w.jid → requestTo uri w ∉ requests)

include hfresh hclear

/-- No request to somebody new is under way. -/
theorem not_mem_of_fresh (h : Kept requests uri ws) : requestTo uri w ∉ requests := by
  intro hmem
  rcases h.covered w.jid hmem with ⟨w', hw', hjid, -⟩ | ⟨-, w', hw', -, -, hfull, -⟩
  · exact hfresh w' hw' hjid
  · exact hclear w' hw' hfull hmem

include hroom

/-- Somebody new waits. -/
theorem cons (h : Kept requests uri ws) : Kept requests uri (w :: ws) where
  jids := by
    refine List.nodup_cons.mpr ⟨fun hmem => ?_, h.jids⟩
    obtain ⟨w', hw', hjid⟩ := List.mem_map.mp hmem
    exact hfresh w' hw' hjid
  inRoom := List.forall_mem_cons.mpr ⟨hroom, h.inRoom⟩
  covered := by
    intro jid hjid
    rcases h.covered jid hjid with ⟨w', hw', hrest⟩ | ⟨hnobody, w', hw', hrest⟩
    · exact .inl ⟨w', List.mem_cons_of_mem w hw', hrest⟩
    · refine .inr ⟨List.forall_mem_cons.mpr ⟨?_, hnobody⟩, w', List.mem_cons_of_mem w hw', hrest⟩
      rintro rfl
      exact h.not_mem_of_fresh hfresh hclear hjid

/-- Somebody new waits, and is asked. -/
theorem cons_asked (h : Kept requests uri ws) :
    Kept (requests ++ [requestTo uri w]) uri (ask w :: ws) where
  jids := (h.cons hroom hfresh hclear).jids
  inRoom := List.forall_mem_cons.mpr ⟨hroom, h.inRoom⟩
  covered := by
    intro jid hjid
    rcases List.mem_append.mp hjid with hjid | hjid
    · rcases h.covered jid hjid with
        ⟨w', hw', hrest⟩ | ⟨hnobody, w', hw', hroom', hasked, hfull, hnot⟩
      · exact .inl ⟨w', List.mem_cons_of_mem _ hw', hrest⟩
      · refine .inr ⟨List.forall_mem_cons.mpr ⟨?_, hnobody⟩, w', List.mem_cons_of_mem _ hw', hroom',
          hasked, hfull, fun hmem => ?_⟩
        · rintro rfl
          exact h.not_mem_of_fresh hfresh hclear hjid
        · rcases List.mem_append.mp hmem with hmem | hmem
          · exact hnot hmem
          · exact hfresh w' hw' (Request.mk.inj (List.mem_singleton.mp hmem)).2
    · cases List.mem_singleton.mp hjid
      exact .inl ⟨ask w, List.mem_cons_self, rfl, rfl⟩

end Cons

section Asked

variable (hasks : Asks ws ws' asked)
  (hapart : ∀ w ∈ asked, w.InRoom → ∀ w' ∈ ws, w'.jid ≠ w.fullJid)

include hasks hapart

section

variable (h : Kept requests uri ws)

include h

/-- Whoever has the JID at which somebody is asked again was asked again itself. -/
theorem eq_of_jid_eq_fullJid {w w' : Waiter} (hw : w ∈ asked)
    (hw' : w' ∈ ws) (hjid : w'.jid = w.fullJid) : w' = w := by
  by_cases hroom : w.InRoom
  · exact absurd hjid (hapart w hw hroom w' hw')
  · rw [fullJid_of_not_inRoom hroom] at hjid
    exact List.inj_on_of_nodup_map h.jids hw' (hasks.of_mem_asked hw).1 hjid

/-- No request to somebody who was asked before is sent. -/
theorem not_mem_redisco {w : Waiter} (hw : w ∈ ws) (hnew : w.discoRequested = true ∨ w.InRoom) :
    requestTo uri w ∉ asked.map (redisco uri) := by
  intro hmem
  obtain ⟨w', hw', heq⟩ := List.mem_map.mp hmem
  have hjid := (Request.mk.inj heq).2.symm
  obtain rfl := h.eq_of_jid_eq_fullJid hasks hapart hw' hw hjid
  rcases hnew with hasked | hroom
  · rw [(hasks.of_mem_asked hw').2] at hasked
    cases hasked
  · exact hapart w hw' hroom w hw hjid

/-- Some waiters are asked again. -/
theorem asks :
    Kept (requests ++ asked.map (redisco uri)) uri ws' where
  jids := hasks.jids ▸ h.jids
  inRoom := by
    intro w hw hroom
    rcases hasks.mem hw with hold | ⟨w₀, hw₀, rfl⟩
    · exact h.inRoom w hold hroom
    · exact h.inRoom w₀ (hasks.of_mem_asked hw₀).1 hroom
  covered := by
    have hnobody' : ∀ {jid}, (∀ w ∈ ws, w.jid ≠ jid) → ∀ w ∈ ws', w.jid ≠ jid := by
      intro jid hnobody w hw hjid
      obtain ⟨w₀, hw₀, heq⟩ := List.mem_map.mp (hasks.jids ▸ List.mem_map_of_mem hw)
      exact hnobody w₀ hw₀ (heq.trans hjid)
    intro jid hjid
    rcases List.mem_append.mp hjid with hjid | hjid
    · rcases h.covered jid hjid with
        ⟨w, hw, heq, hasked⟩ | ⟨hnobody, w, hw, hroom, hasked, hfull, hnot⟩
      · exact .inl ⟨w, hasks.mem_of_asked hw hasked, heq, hasked⟩
      · refine .inr ⟨hnobody' hnobody, w, hasks.mem_of_asked hw hasked, hroom, hasked, hfull, ?_⟩
        rw [List.mem_append, not_or]
        exact ⟨hnot, h.not_mem_redisco hasks hapart hw (.inl hasked)⟩
    · obtain ⟨w, hw, heq⟩ := List.mem_map.mp hjid
      cases heq
      obtain ⟨hmem, hunasked⟩ := hasks.of_mem_asked hw
      by_cases hroom : w.InRoom
      · refine .inr ⟨hnobody' (hapart w hw hroom), PresenceCache.ask w, hasks.mem_asked hw, hroom,
          rfl, rfl, ?_⟩
        show requestTo uri w ∉ _
        rw [List.mem_append, not_or]
        exact ⟨h.not_mem_of_unasked hmem hunasked, h.not_mem_redisco hasks hapart hmem (.inr hroom)⟩
      · refine .inl ⟨PresenceCache.ask w, hasks.mem_asked hw, ?_, rfl⟩
        exact (fullJid_of_not_inRoom hroom).symm

/-- No request is sent twice. -/
theorem nodup_asks (hrequests : requests.Nodup) :
    (requests ++ asked.map (redisco uri)).Nodup := by
  have hsame : ∀ {w w' : Waiter}, w ∈ asked → w' ∈ ws → w'.InRoom → w'.fullJid = w.fullJid →
      w' = w ∨ ¬ w.InRoom := by
    intro w w' hw hw' hroom' hfull
    refine (em w.InRoom).imp_left fun hroom => ?_
    have hmem := (hasks.of_mem_asked hw).1
    refine List.inj_on_of_nodup_map h.jids hw' hmem ?_
    exact jid_eq_of_fullJid hroom' (h.inRoom w' hw' hroom') hroom (h.inRoom w hmem hroom) hfull
  refine List.nodup_append'.mpr ⟨hrequests, ?_, fun req hold hnew => ?_⟩
  · have hasked : asked.Nodup := (List.Nodup.of_map _ h.jids).sublist hasks.sublist
    refine hasked.map_on fun w hw w' hw' heq => ?_
    have hfull := (Request.mk.inj heq).2
    by_cases hroom : w.InRoom
    · rcases hsame hw' (hasks.of_mem_asked hw).1 hroom hfull with heq | hroom'
      · exact heq
      · rw [fullJid_of_not_inRoom hroom'] at hfull
        exact absurd hfull.symm (hapart w hw hroom w' (hasks.of_mem_asked hw').1)
    · rw [fullJid_of_not_inRoom hroom] at hfull
      exact h.eq_of_jid_eq_fullJid hasks hapart hw' (hasks.of_mem_asked hw).1 hfull
  · obtain ⟨w, hw, rfl⟩ := List.mem_map.mp hnew
    obtain ⟨hmem, hunasked⟩ := hasks.of_mem_asked hw
    rcases h.covered w.fullJid hold with
      ⟨w', hw', hjid, hasked⟩ | ⟨hnobody, w', hw', hroom', hasked, hfull, -⟩
    · obtain rfl := h.eq_of_jid_eq_fullJid hasks hapart hw hw' hjid
      rw [hunasked] at hasked
      cases hasked
    · rcases hsame hw hw' hroom' hfull with rfl | hroom
      · rw [hunasked] at hasked
        cases hasked
      · exact hnobody w hmem (fullJid_of_not_inRoom hroom).symm

end

end Asked

/-- Whoever answers a request leaves. -/
theorem leave (h : Kept requests uri ws) (hrequests : requests.Nodup)
    (hmem : requestTo uri self ∈ requests) :
    Kept (requests.erase (requestTo uri self)) uri
      (ws.eraseP (isMatching self.handle self.resource)) := by
  have hsub : (ws.eraseP (isMatching self.handle self.resource)).Sublist ws := List.eraseP_sublist
  have hstays : ∀ {w}, w ∈ ws → w.jid ≠ self.jid →
      w ∈ ws.eraseP (isMatching self.handle self.resource) := by
    intro w hw hjid
    refine (List.mem_eraseP_of_neg fun hmatch => hjid ?_).mpr hw
    obtain ⟨hhandle, hresource⟩ := of_decide_eq_true hmatch
    exact jid_of_key (Prod.ext hhandle hresource)
  refine ⟨h.jids.sublist (hsub.map _), fun w hw => h.inRoom w (hsub.subset hw), fun jid hjid => ?_⟩
  obtain ⟨hother, hjid⟩ := hrequests.mem_erase_iff.mp hjid
  rcases h.covered jid hjid with
    ⟨w, hw, rfl, hasked⟩ | ⟨hnobody, w, hw, hroom, hasked, hfull, hnot⟩
  · refine .inl ⟨w, hstays hw fun heq => hother ?_, rfl, hasked⟩
    rw [heq, requestTo]
  · refine .inr ⟨fun w' hw' => hnobody w' (hsub.subset hw'), w, hstays hw fun heq => hnot ?_,
      hroom, hasked, hfull, fun hmem => hnot (List.mem_of_mem_erase hmem)⟩
    rwa [requestTo, heq]

end Kept

/-! ## Events -/

/-- No request is under way twice, and nobody who was asked was forgotten. -/
structure AskedOnce (s : State) : Prop where
  requests : s.requests.Nodup
  kept : ∀ uri, Kept s.requests uri (s.discoPending uri) ∨ Settled s uri

/-- Somebody who would be asked about the URI is new there: no waiter has the JID, and
no room member was asked at it. -/
def Fresh (s : State) (uri : String) (handle : Handle) (resource : Option String) : Prop :=
  ¬ isKnown s uri handle = true →
    findMatchingWaiter (s.discoPending uri) handle resource = none →
    ∀ w ∈ s.discoPending uri, w.jid ≠ fromJid handle resource ∧
      (w.fullJid = fromJid handle resource → ⟨uri, fromJid handle resource⟩ ∉ s.requests)

instance (s : State) (uri : String) (handle : Handle) (resource : Option String) :
    Decidable (Fresh s uri handle resource) :=
  inferInstanceAs (Decidable (_ → _ → _))

/-- Nobody who was asked is forgotten: an error is not the last answer of somebody who
was asked about a URI, while somebody else has not answered yet; and a stanza comes from
a waiter or from somebody new. -/
def Remembers (s : State) : Event → Prop
  | .error req =>
    s.discoPending req.uri = [] ∨ (∃ w ∈ s.discoPending req.uri, w.discoRequested = false) ∨
      ∀ req' ∈ s.requests.erase req.request, req'.uri ≠ req.uri
  | .presence handle resource _ _ _ _ caps =>
    ∀ c ∈ caps, ∀ fragment ∈ parseCapBundles c, googleCap c.hash fragment = none →
      Fresh s (uriOf (c.node.getD "") fragment) handle resource
  | _ => True

instance decidableRemembers (s : State) : (e : Event) → Decidable (Remembers s e)
  | .error _ => inferInstanceAs (Decidable (_ ∨ _ ∨ _))
  | .presence .. => inferInstanceAs (Decidable (∀ _ ∈ _, _))
  | .unavailable .. | .reply .. | .addOwnCaps .. | .cacheLost _ | .roomMember .. => .isTrue trivial

/-- A room member that is asked again is not asked at the JID of another waiter. -/
def Apart (ws : List Waiter) (w : Waiter) : Prop := w.InRoom → ∀ w' ∈ ws, w'.jid ≠ w.fullJid

instance (ws : List Waiter) (w : Waiter) : Decidable (Apart ws w) :=
  inferInstanceAs (Decidable (_ → _))

/-- The condition on one event. -/
def KeepsWaiting (capsHash : Query → Option String) (s : State) (e : Event) : Prop :=
  Remembers s e ∧ AsksOnly Apart capsHash s e

instance decidableKeepsWaiting (capsHash : Query → Option String) (s : State) (e : Event) :
    Decidable (KeepsWaiting capsHash s e) :=
  inferInstanceAs (Decidable (_ ∧ _))

theorem reported_self (s : State) (req : Answer) (self : Waiter) (q : Query) (trustInc : ℕ) :
    (reported s req self q trustInc).capabilities req.uri = newInfo s req self q trustInc :=
  Function.update_self _ _ _

theorem reported_of_ne (s : State) (req : Answer) (self : Waiter) (q : Query) (trustInc : ℕ)
    {u : String} (hu : u ≠ req.uri) :
    (reported s req self q trustInc).capabilities u = s.capabilities u :=
  Function.update_of_ne hu _ _

namespace AskedOnce

section

variable (h : AskedOnce s)

include h

theorem quiet (hq : Quiet s s') : AskedOnce s' where
  requests := hq.requests ▸ h.requests
  kept uri := by
    rw [Settled, hq.requests, hq.discoPending, hq.capabilities]
    exact h.kept uri

/-- An answer takes its request away. -/
theorem answered (req : Answer) : AskedOnce (answered s req) where
  requests := h.requests.erase _
  kept uri := (h.kept uri).imp_left fun hkept => hkept.erase _

/-- The waiters of one URI and the requests about it changed. -/
theorem update {uri : String} {ws : List Waiter} {more : List Request}
    (hmore : ∀ req ∈ more, req.uri = uri) (hrequests : (s.requests ++ more).Nodup)
    (hkept : Kept (s.requests ++ more) uri ws) : AskedOnce (send (setWaiters s uri ws) more) where
  requests := hrequests
  kept u := by
    by_cases hu : u = uri
    · subst hu
      refine .inl ?_
      show Kept (s.requests ++ more) u (Function.update s.discoPending u ws u)
      rwa [Function.update_self]
    · have hpending : (send (setWaiters s uri ws) more).discoPending u = s.discoPending u :=
        Function.update_of_ne hu _ _
      rw [Settled, hpending]
      refine (h.kept u).imp_left fun hkept => hkept.append fun req hreq huri => ?_
      exact hu (huri.symm.trans (hmore req hreq))

/-- The waiters of one URI changed, and nobody was asked. -/
theorem setWaiters {uri : String} {ws : List Waiter}
    (hkept : Kept s.requests uri ws) : AskedOnce (setWaiters s uri ws) := by
  have hrequests := h.requests
  rw [← List.append_nil s.requests] at hkept hrequests
  have hupdate := h.update (fun req hreq => by cases hreq) hrequests hkept
  rwa [send, List.append_nil] at hupdate

/-- Whoever is not trusted and has waiters remembers them. -/
theorem kept_of_trust {uri : String} (htrust : (s.capabilities uri).trust < enoughTrust) :
    Kept s.requests uri (s.discoPending uri) :=
  (h.kept uri).resolve_right fun hsettled => Nat.not_le.mpr htrust hsettled.2

theorem kept_of_ne {uri : String} (hne : s.discoPending uri ≠ []) :
    Kept s.requests uri (s.discoPending uri) :=
  (h.kept uri).resolve_right fun hsettled => hne hsettled.1

theorem awaitUri {uri : String} {handle : Handle} {resource : Option String}
    (hunknown : ¬ isKnown s uri handle = true)
    (hroom : handle.resource.isSome = true → resource = handle.resource)
    (hfresh : Fresh s uri handle resource) (hash ver : Option String) (serial : ℕ) :
    AskedOnce (awaitUri s uri handle resource hash ver serial) := by
  have hkept := h.kept_of_trust (trust_of_not_isKnown hunknown)
  rcases awaitUri_cases s uri handle resource hash ver serial with ⟨w, -, heq⟩ | ⟨hnone, hnew⟩
  · rw [heq]
    exact h.setWaiters (hkept.congr (map_setSerial (fun _ _ => rfl) handle resource serial _))
  · have hclear := hfresh hunknown hnone
    have hjid : ∀ w ∈ s.discoPending uri, w.jid ≠ (newWaiter handle resource hash ver serial).jid :=
      fun w hw => (hclear w hw).1
    have hfull : ∀ w ∈ s.discoPending uri,
        w.fullJid = (newWaiter handle resource hash ver serial).jid →
        requestTo uri (newWaiter handle resource hash ver serial) ∉ s.requests :=
      fun w hw => (hclear w hw).2
    rcases hnew with heq | ⟨-, heq⟩
    · rw [heq]
      refine h.update (fun req hreq => ?_) ?_ (hkept.cons_asked hroom hjid hfull)
      · cases List.mem_singleton.mp hreq
        rfl
      · refine List.nodup_append'.mpr ⟨h.requests, List.nodup_singleton _, ?_⟩
        rw [List.disjoint_singleton]
        exact hkept.not_mem_of_fresh hjid hfull
    · rw [heq]
      exact h.setWaiters (hkept.cons hroom hjid hfull)

/-- Some waiters are asked again. -/
theorem redisco {uri : String} {ws ws' asked : List Waiter}
    (hkept : Kept s.requests uri ws) (hasks : Asks ws ws' asked)
    (hapart : ∀ w ∈ asked, Apart ws w) :
    AskedOnce (send (PresenceCache.setWaiters s uri ws') (asked.map (redisco uri))) := by
  refine h.update (fun req hreq => ?_) (hkept.nodup_asks hasks hapart h.requests)
    (hkept.asks hasks hapart)
  obtain ⟨w, -, rfl⟩ := List.mem_map.mp hreq
  rfl

/-- The waiter that answered goes, and others are asked. -/
theorem dropWaiter {t : State} {req : Answer} {q : Query} {self : Waiter}
    (hreq : req.request ∈ s.requests) (honly : AsksOnly Apart capsHash s (.reply req q))
    (hself : findMatchingWaiter (s.discoPending req.uri) req.handle req.resource = some self)
    (htrust : trustAfter capsHash s req self q < enoughTrust) (ht : AskedOnce t)
    (hpending : t.discoPending = s.discoPending)
    (hrequests : t.requests = s.requests.erase req.request) :
    AskedOnce (dropWaiter t req.uri self (trustAfter capsHash s req self q)) := by
  obtain ⟨hmem, hhandle, hresource⟩ := findMatchingWaiter_some hself
  have hanswer : req.request = requestTo req.uri self := by
    rw [Answer.request, requestTo, Waiter.jid, hhandle, hresource]
  obtain ⟨ws', heq, hasks⟩ := asks_of_askEnough (trustAfter capsHash s req self q) []
    (othersOf s req)
  rw [List.nil_append] at heq
  have hothers : (t.discoPending req.uri).eraseP (isMatching self.handle self.resource) =
      othersOf s req := by
    rw [hpending, hhandle, hresource, othersOf]
  have hleave : Kept t.requests req.uri (othersOf s req) := by
    rw [← hothers, hpending, hrequests, hanswer]
    exact (h.kept_of_ne (List.ne_nil_of_mem hmem)).leave h.requests (hanswer ▸ hreq)
  rw [PresenceCache.dropWaiter, hothers, heq]
  have hemit : AskedOnce (emit t (.capabilitiesDiscovered self.handle)) := ht.quiet (quiet_emit t _)
  exact hemit.redisco hleave hasks fun w hw => honly.dropWaiter hself htrust hw

/-- A reply was taken into account, by itself or for somebody. -/
theorem reported {req : Answer} {self : Waiter}
    (hself : self ∈ s.discoPending req.uri) (q : Query) (trustInc : ℕ) :
    AskedOnce (reported s req self q trustInc) where
  requests := h.requests
  kept u := by
    by_cases hu : u = req.uri
    · subst hu
      exact .inl (h.kept_of_ne (List.ne_nil_of_mem hself))
    · rw [Settled, reported_of_ne s req self q trustInc hu]
      exact h.kept u

theorem capsDiscoReply {req : Answer} (hreq : req.request ∈ s.requests)
    (q : Query) (honly : AsksOnly Apart capsHash s (.reply req q)) :
    AskedOnce (capsDiscoReply capsHash (PresenceCache.answered s req) req q) := by
  have hanswered := h.answered req
  rcases capsDiscoReply_cases capsHash (PresenceCache.answered s req) req q with
    ⟨-, heq⟩ | ⟨self, hself, hcases⟩
  · rw [heq]
    exact hanswered
  obtain ⟨hmem, -⟩ := findMatchingWaiter_some hself
  rcases hcases with ⟨hbad, heq⟩ | ⟨trustInc, hinc, hcases⟩
  · have hafter : trustAfter capsHash s req self q = 0 := by rw [trustAfter, hbad, Option.elim]
    rw [heq, ← hafter]
    exact h.dropWaiter hreq honly hself (hafter ▸ by decide) hanswered rfl rfl
  have hreported := hanswered.reported hmem q trustInc
  rcases hcases with ⟨htrust, heq⟩ | ⟨htrust, heq⟩
  · rw [heq]
    refine serveWaiters_invariant (fun s s' hq hs => hs.quiet hq)
      (fun t w _ ht => ⟨ht.requests, ht.kept⟩) ⟨hreported.requests, fun u => ?_⟩
    by_cases hu : u = req.uri
    · subst hu
      refine .inr ⟨taken_discoPending _ _ q, ?_⟩
      exact (reported_self _ req self q trustInc).symm ▸ htrust
    · have hpending : (taken (PresenceCache.reported (PresenceCache.answered s req) req self q
          trustInc) req.uri q).discoPending u = s.discoPending u := Function.update_of_ne hu _ _
      rw [Settled, hpending]
      exact hreported.kept u
  · have hafter : trustAfter capsHash s req self q =
        (newInfo (PresenceCache.answered s req) req self q trustInc).trust := by
      rw [trustAfter, hinc, Option.elim]
      rfl
    rw [← hafter] at htrust heq
    rw [heq]
    refine h.dropWaiter hreq honly hself htrust ?_ (setCapsFor_discoPending ..)
      (setCapsFor_requests ..)
    exact setCapsFor_invariant (fun s s' hq hs => hs.quiet hq)
      (fun hs => ⟨hs.requests, hs.kept⟩) hreported

theorem discoFailed {req : Answer} (hkeeps : KeepsWaiting capsHash s (.error req)) :
    AskedOnce (discoFailed (PresenceCache.answered s req) req.uri) := by
  obtain ⟨hremembers, honly⟩ := hkeeps
  have hanswered := h.answered req
  rw [PresenceCache.discoFailed]
  split
  · next w ws' hfirst =>
    have hasks := asks_of_askFirst hfirst
    have hne : s.discoPending req.uri ≠ [] :=
      List.ne_nil_of_mem (hasks.of_mem_asked List.mem_cons_self).1
    refine hanswered.redisco (hanswered.kept_of_ne hne) hasks fun x hx => ?_
    cases List.mem_singleton.mp hx
    exact honly w (find?_of_askFirst hfirst)
  · next hnone =>
    rcases hremembers with hnil | ⟨w, hw, hunasked⟩ | hlast
    · -- nobody waits, so that nobody is forgotten
      have heq : PresenceCache.setWaiters (PresenceCache.answered s req) req.uri [] =
          PresenceCache.answered s req :=
        congrArg (fun d => { PresenceCache.answered s req with discoPending := d })
          (Function.update_eq_self_iff.mpr hnil.symm)
      rw [heq]
      exact hanswered
    · rw [asked_of_askFirst_none hnone w hw] at hunasked
      cases hunasked
    · exact hanswered.setWaiters (.clear fun jid hjid => hlast _ hjid rfl)

end

end AskedOnce

/-! ## Presence stanzas -/

section Presence

variable {uri u : String} {handle : Handle} {resource : Option String}

/-- What a stanza names stays new as long as only others are asked about. -/
theorem Fresh.congr (h : Fresh s uri handle resource)
    (hknown : isKnown s' uri handle = isKnown s uri handle)
    (hpending : s'.discoPending uri = s.discoPending uri)
    (hrequests : ∀ jid, (⟨uri, jid⟩ : Request) ∈ s'.requests → ⟨uri, jid⟩ ∈ s.requests) :
    Fresh s' uri handle resource := by
  intro hunknown hnone w hw
  rw [hknown] at hunknown
  rw [hpending] at hnone hw
  obtain ⟨hjid, hfull⟩ := h hunknown hnone w hw
  exact ⟨hjid, fun heq hmem => hfull heq (hrequests _ hmem)⟩

theorem Fresh.quiet (h : Fresh s uri handle resource) (hq : Quiet s s') :
    Fresh s' uri handle resource := by
  refine h.congr ?_ (congrFun hq.discoPending uri) fun jid hjid => hq.requests ▸ hjid
  rw [isKnown, isKnown, hq.capsCache, hq.capabilities]

/-- Whoever waits needs not be new. -/
theorem fresh_of_mem {w : Waiter} (hw : w ∈ s.discoPending uri)
    (hmatch : isMatching handle resource w = true) : Fresh s uri handle resource := by
  intro _ hnone
  exact absurd hmatch (List.find?_eq_none.mp hnone w hw)

theorem Fresh.awaitUri (h : Fresh s u handle resource) (uri : String) (hash ver : Option String)
    (serial : ℕ) : Fresh (awaitUri s uri handle resource hash ver serial) u handle resource := by
  by_cases hu : u = uri
  · subst hu
    rcases awaitUri_cases s u handle resource hash ver serial with ⟨w, hfind, heq⟩ | ⟨-, hnew⟩
    · obtain ⟨hmem, hhandle, hresource⟩ := findMatchingWaiter_some hfind
      have hkeys := map_setSerial (f := key) (fun _ _ => rfl) handle resource serial
        (s.discoPending u)
      obtain ⟨w', hw', hkey⟩ := List.mem_map.mp (hkeys.symm ▸ List.mem_map_of_mem hmem)
      obtain ⟨hhandle', hresource'⟩ := Prod.mk.inj hkey
      refine fresh_of_mem (w := w') ?_ (decide_eq_true ⟨hhandle'.trans hhandle,
        hresource'.trans hresource⟩)
      rw [heq]
      show w' ∈ Function.update s.discoPending u _ u
      rwa [Function.update_self]
    · have hhead : ∀ {t : State} {w : Waiter} {ws : List Waiter}, t.discoPending u = w :: ws →
          isMatching handle resource w = true → Fresh t u handle resource :=
        fun hpending hmatch => fresh_of_mem (hpending ▸ List.mem_cons_self) hmatch
      rcases hnew with heq | ⟨-, heq⟩
      all_goals
        rw [heq]
        exact hhead (Function.update_self _ _ _) (decide_eq_true ⟨rfl, rfl⟩)
  · rcases awaitUri_cases s uri handle resource hash ver serial with
      ⟨w, -, heq⟩ | ⟨-, heq | ⟨-, heq⟩⟩
    · rw [heq]
      exact h.congr rfl (Function.update_of_ne hu _ _) fun _ => id
    · rw [heq]
      refine h.congr rfl (Function.update_of_ne hu _ _) fun jid hjid => ?_
      rcases List.mem_append.mp hjid with hjid | hjid
      · exact hjid
      · cases List.mem_singleton.mp hjid
        exact absurd rfl hu
    · rw [heq]
      exact h.congr rfl (Function.update_of_ne hu _ _) fun _ => id

/-- The resource of a room member is the end of its handle. -/
theorem IsContact.resource_eq (h : IsContact s handle resource)
    (hroom : handle.resource.isSome = true) : resource = handle.resource := by
  rw [IsContact, fromJid, if_pos hroom] at h
  exact (Prod.mk.inj h).2.symm

theorem AskedOnce.processCaps (h : AskedOnce s) {caps : Option CapsNode}
    (hroom : handle.resource.isSome = true → resource = handle.resource)
    (hfresh : ∀ c ∈ caps, ∀ fragment ∈ parseCapBundles c, googleCap c.hash fragment = none →
      Fresh s (uriOf (c.node.getD "") fragment) handle resource) :
    AskedOnce (processCaps s handle resource caps) := by
  let I (t : State) : Prop := AskedOnce t ∧
    ∀ c ∈ caps, ∀ fragment ∈ parseCapBundles c, googleCap c.hash fragment = none →
      Fresh t (uriOf (c.node.getD "") fragment) handle resource
  have hquiet : ∀ t t', Quiet t t' → I t → I t' := fun t t' hq ht =>
    ⟨ht.1.quiet hq, fun c hc fragment hmem hnone => (ht.2 c hc fragment hmem hnone).quiet hq⟩
  refine (processCaps_invariant (I := I) hquiet (fun c hc fragment hmem t serial ht => ?_)
    ⟨h, hfresh⟩).1
  refine processCapsUri_invariant (I := I) hquiet fragment
    (fun t _ ht => ⟨⟨ht.1.requests, ht.1.kept⟩, ht.2⟩) (fun t hunknown hnone ht => ?_) ht
  refine ⟨ht.1.awaitUri hunknown hroom (ht.2 c hc fragment hmem hnone) c.hash c.ver serial, ?_⟩
  intro c' hc' fragment' hmem' hnone'
  exact (ht.2 c' hc' fragment' hmem' hnone').awaitUri _ c.hash c.ver serial

end Presence

/-! ## Whole runs -/

/-- What is trusted stays so when something trusted is stored. -/
theorem trust_setInfo (uri : String) {info : CapabilityInfo} (hinfo : info.trust ≥ enoughTrust)
    {u : String} (hu : (s.capabilities u).trust ≥ enoughTrust) :
    ((setInfo s uri info).capabilities u).trust ≥ enoughTrust := by
  change (Function.update s.capabilities uri info u).trust ≥ enoughTrust
  rw [Function.update_apply]
  split
  · exact hinfo
  · exact hu

theorem AskedOnce.step (s : State) (e : Event) (s' : State) (h : AskedOnce s)
    (hok : KeepsWaiting capsHash s e) (hstep : step capsHash s e = some s') : AskedOnce s' := by
  cases e with
  | presence handle resource status statusMessage priority now caps =>
    obtain ⟨⟨-, hcontact⟩, heq⟩ := Option.ite_none_right_eq_some.mp hstep
    cases heq
    have hq := quiet_update s handle resource status statusMessage priority now
    refine (h.quiet hq).processCaps hcontact.resource_eq fun c hc fragment hmem hnone => ?_
    exact (hok.1 c hc fragment hmem hnone).quiet hq
  | unavailable handle resource status statusMessage priority now =>
    obtain ⟨-, heq⟩ := Option.ite_none_right_eq_some.mp hstep
    cases heq
    exact h.quiet (quiet_update s handle resource status statusMessage priority now)
  | reply req q =>
    obtain ⟨hreq, heq⟩ := Option.ite_none_right_eq_some.mp hstep
    cases heq
    exact h.capsDiscoReply hreq.1 q hok.2
  | error req =>
    obtain ⟨-, heq⟩ := Option.ite_none_right_eq_some.mp hstep
    cases heq
    exact h.discoFailed hok
  | addOwnCaps ver capSet dataForms =>
    cases hstep
    rw [addOwnCaps]
    split
    · exact h
    · refine ⟨h.requests, fun uri => (h.kept uri).imp_right fun hsettled => ?_⟩
      exact ⟨hsettled.1, trust_setInfo _ le_rfl hsettled.2⟩
  | cacheLost uri =>
    cases hstep
    exact ⟨h.requests, h.kept⟩
  | roomMember room nick =>
    cases hstep
    exact ⟨h.requests, h.kept⟩

theorem askedOnce_new (selfHandle : Handle) (capsCache : String → Option Query) :
    AskedOnce (State.new selfHandle capsCache) :=
  ⟨List.nodup_nil, fun _ => .inl (.clear fun _ => List.not_mem_nil)⟩

/-- **One request at a time.**  As long as nobody who was asked is forgotten, and no room
member is asked again at the JID of somebody else, no JID has two requests about one URI
under way. -/
theorem requests_nodup_of_keepsWaiting (capsHash : Query → Option String) (selfHandle : Handle)
    (capsCache : String → Option Query) (es : List Event) {s : State}
    (hadm : Admits (KeepsWaiting capsHash) (step capsHash) (State.new selfHandle capsCache) es)
    (hrun : run (step capsHash) (State.new selfHandle capsCache) es = some s) :
    s.requests.Nodup :=
  ((reachable_of_run es hadm hrun).invariant (askedOnce_new selfHandle capsCache)
    AskedOnce.step).requests

/-- Two contacts with one version; the first one fails after the other one answered,
and repeats its presence. -/
def repeatedRun : List Event :=
  [available "b" none "v", available "c" none "v", available "b" none "v",
    .reply ⟨"n#v", "c", some "r"⟩ ⟨[], [], []⟩, .error ⟨"n#v", "b", some "r"⟩,
    available "b" none "v", available "b" none "v"]

theorem requests_nodup_of_keepsWaiting_repeatedRun :
    ∃ s, run (step emptyHash) (State.new "me" fun _ => none) repeatedRun = some s ∧
      s.requests = [⟨"n#v", ⟨"b", some "r"⟩⟩] ∧ s.requests.Nodup :=
  ⟨_, rfl, by decide +kernel,
    requests_nodup_of_keepsWaiting emptyHash "me" (fun _ => none) repeatedRun
      (by decide +kernel) rfl⟩

/-- Two contacts are asked about a version.  One answers with an error, which forgets
the other one, and that is asked again when it repeats its presence. -/
theorem asked_twice :
    ¬ ∀ capsHash selfHandle capsCache es s,
        run (step capsHash) (State.new selfHandle capsCache) es = some s → s.requests.Nodup := by
  intro hall
  have hnodup := hall emptyHash "me" (fun _ => none)
    [available "b" none "v", available "c" none "v", .error ⟨"n#v", "b", some "r"⟩,
      available "c" none "v"] _ rfl
  revert hnodup
  decide +kernel

/-- Five in a room are asked, and the one who was not is asked at the JID of the fifth when
the first one fails. -/
example : (run (step emptyHash) (State.new "me" fun _ => none)
    (["c", "d", "e", "f", "b/b", "b"].map (Event.roomMember "room") ++
      ["c", "d", "e", "f", "b/b", "b"].map (occupant · none "v") ++
      [.error ⟨"n#v", ⟨"room", some "c"⟩, some "c"⟩])).any
    (fun s => ¬ s.requests.Nodup) = true := by
  decide +kernel

end PresenceCache
