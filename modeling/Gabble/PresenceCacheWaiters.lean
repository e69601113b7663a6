/-
# The presence cache: waiters and requests

Whether another contact is asked about a URI is decided by counting the waiters
that were asked.  The count is right as long as every waiter marked as asked has
a request under way.  The module follows waiters and requests through every
event, and shows that somebody who waits can always hope for an answer unless a
request failed and the next waiter was asked in its place, or a room member was
asked again, which goes to another JID.
-/
import Mathlib.Algebra.GroupWithZero.Nat
import Gabble.PresenceCacheMoves

namespace PresenceCache

open CInt (guintSize)
open Transition

variable {w : Waiter}

/-! ## Counting requests -/

/-- Where nobody was asked there is nothing to count. -/
theorem requestCount_of_unasked {ws : List Waiter} (h : ∀ w ∈ ws, w.discoRequested = false) :
    requestCount ws = 0 := by
  suffices hacc : ∀ c, ws.foldl (fun c w =>
      if w.discoRequested then
        if w.hash = some "sha-1" then (c + enoughTrust) % guintSize else (c + 1) % guintSize
      else c) c = c from hacc 0
  induction ws with
  | nil => exact fun c => rfl
  | cons w ws ih =>
    intro c
    have hw : ¬ w.discoRequested = true := by simp [h w List.mem_cons_self]
    rw [List.foldl_cons, if_neg hw]
    exact ih (fun w' hw' => h w' (List.mem_cons_of_mem w hw')) c

theorem exists_asked_of_requestCount {ws : List Waiter} (h : requestCount ws ≠ 0) :
    ∃ w ∈ ws, w.discoRequested = true := by
  by_contra hnone
  apply h
  apply requestCount_of_unasked
  intro w hw
  by_contra hw'
  exact hnone ⟨w, hw, by simpa using hw'⟩

/-- If the count and too little trust together are enough, somebody was asked. -/
theorem exists_asked_of_enough {trust : ℕ} {ws : List Waiter} (htrust : trust < enoughTrust)
    (h : (trust + requestCount ws) % guintSize ≥ enoughTrust) :
    ∃ w ∈ ws, w.discoRequested = true := by
  apply exists_asked_of_requestCount
  intro hzero
  rw [hzero, Nat.add_zero] at h
  have := Nat.mod_le trust guintSize
  omega

/-! ## Asking -/

/-- Whom a waiter stands for. -/
def key (w : Waiter) : Handle × Option String := (w.handle, w.resource)

/-- `ws'` is `ws` after the waiters `asked`, none of which had been asked, were
asked. -/
inductive Asks : List Waiter → List Waiter → List Waiter → Prop where
  | nil : Asks [] [] []
  | keep (w : Waiter) {ws ws' asked : List Waiter} (h : Asks ws ws' asked) :
      Asks (w :: ws) (w :: ws') asked
  | mark (w : Waiter) {ws ws' asked : List Waiter} (hw : w.discoRequested = false)
      (h : Asks ws ws' asked) : Asks (w :: ws) (ask w :: ws') (w :: asked)

theorem Asks.refl (ws : List Waiter) : Asks ws ws [] := by
  induction ws with
  | nil => exact .nil
  | cons w ws ih => exact .keep w ih

theorem asks_of_askFirst {ws ws' : List Waiter} (h : askFirst ws = some (w, ws')) :
    Asks ws ws' [w] := by
  induction ws generalizing ws' with
  | nil => cases h
  | cons x ws ih =>
    rw [askFirst] at h
    split at h
    · obtain ⟨⟨y, ys⟩, hy, heq⟩ := Option.map_eq_some_iff.mp h
      cases heq
      exact .keep x (ih hy)
    · next hx =>
      cases h
      exact .mark w (by simpa using hx) (.refl ws)

theorem asked_of_askFirst_none {ws : List Waiter} (h : askFirst ws = none) :
    ∀ w ∈ ws, w.discoRequested = true := by
  induction ws with
  | nil => exact fun w hw => by cases hw
  | cons x ws ih =>
    rw [askFirst] at h
    split at h
    · next hx =>
      intro w hw
      rcases List.mem_cons.mp hw with rfl | hw
      · exact hx
      · exact ih (Option.map_eq_none_iff.mp h) w hw
    · cases h

theorem asks_of_askEnough (trust : ℕ) (done ws : List Waiter) :
    ∃ ws', (askEnough trust done ws).1 = done ++ ws' ∧
      Asks ws ws' (askEnough trust done ws).2 := by
  induction ws generalizing done with
  | nil => exact ⟨[], (List.append_nil done).symm, .nil⟩
  | cons w ws ih =>
    rw [askEnough]
    split
    · exact ⟨w :: ws, rfl, .refl _⟩
    · split
      · obtain ⟨ws', heq, hasks⟩ := ih (done ++ [w])
        refine ⟨w :: ws', ?_, .keep w hasks⟩
        rw [heq, List.append_assoc, List.singleton_append]
      · next hw =>
        obtain ⟨ws', heq, hasks⟩ := ih (done ++ [ask w])
        refine ⟨ask w :: ws', ?_, .mark w (by simpa using hw) hasks⟩
        rw [heq, List.append_assoc, List.singleton_append]

/-- The loop does not end before somebody was asked, if there is anybody. -/
theorem askEnough_started {trust : ℕ} (htrust : trust < enoughTrust) (done ws : List Waiter)
    (hdone : done ≠ [] → ∃ w ∈ done, w.discoRequested = true) :
    (askEnough trust done ws).1 ≠ [] →
      ∃ w ∈ (askEnough trust done ws).1, w.discoRequested = true := by
  induction ws generalizing done with
  | nil => exact hdone
  | cons w ws ih =>
    rw [askEnough]
    split
    · next henough => exact fun _ => exists_asked_of_enough htrust henough
    · split
      · next hw =>
        refine ih _ fun _ => ⟨w, ?_, hw⟩
        exact List.mem_append_right done List.mem_cons_self
      · refine ih _ fun _ => ⟨ask w, ?_, rfl⟩
        exact List.mem_append_right done List.mem_cons_self

theorem ask_of_asked (hw : w.discoRequested = true) : ask w = w := by
  cases w
  cases hw
  rfl

/-- With the first `n` waiters asked as well, the answers are still not enough. -/
def Short (trust : ℕ) (ws : List Waiter) (n : ℕ) : Prop :=
  (trust + requestCount ((ws.take n).map ask ++ ws.drop n)) % guintSize < enoughTrust

instance (trust : ℕ) (ws : List Waiter) (n : ℕ) : Decidable (Short trust ws n) :=
  inferInstanceAs (Decidable (_ < _))

/-- Whoever the loop asks comes before the answers are enough. -/
theorem short_of_mem_askEnough {trust : ℕ} {all : List Waiter} (ws : List Waiter)
    (n : ℕ) (hdrop : all.drop n = ws)
    (hw : w ∈ (askEnough trust ((all.take n).map ask) ws).2) :
    ∃ i, all[i]? = some w ∧ w.discoRequested = false ∧
      ∀ k, n ≤ k → k ≤ i → Short trust all k := by
  induction ws generalizing n with
  | nil => cases hw
  | cons x ws ih =>
    have hx : all[n]? = some x := by
      rw [← List.head?_drop, hdrop, List.head?_cons]
    have hrest : all.drop (n + 1) = ws := by
      rw [← List.tail_drop, hdrop, List.tail_cons]
    have hdone : (all.take n).map ask ++ [ask x] = (all.take (n + 1)).map ask := by
      rw [List.take_add_one, hx, List.map_append]
      rfl
    rw [askEnough] at hw
    split at hw
    · cases hw
    · next hshort =>
      have hn : Short trust all n := by
        rw [Short, hdrop]
        exact Nat.lt_of_not_ge hshort
      -- the loop goes on behind `x`
      have hlater (hw : w ∈ (askEnough trust ((all.take n).map ask ++ [ask x]) ws).2) :
          ∃ i, all[i]? = some w ∧ w.discoRequested = false ∧
            ∀ k, n ≤ k → k ≤ i → Short trust all k := by
        rw [hdone] at hw
        obtain ⟨i, hi, hunasked, hall⟩ := ih (n + 1) hrest hw
        refine ⟨i, hi, hunasked, fun k hk hki => ?_⟩
        rcases Nat.eq_or_lt_of_le hk with rfl | hlt
        · exact hn
        · exact hall k hlt hki
      split at hw
      · next hasked =>
        rw [← ask_of_asked hasked] at hw
        exact hlater hw
      · next hunasked =>
        rcases List.mem_cons.mp hw with rfl | hw
        · refine ⟨n, hx, by simpa using hunasked, fun k hk hkn => ?_⟩
          rwa [Nat.le_antisymm hkn hk]
        · exact hlater hw

theorem find?_of_askFirst {ws ws' : List Waiter} (h : askFirst ws = some (w, ws')) :
    ws.find? (fun w => !w.discoRequested) = some w := by
  induction ws generalizing ws' with
  | nil => cases h
  | cons x ws ih =>
    rw [askFirst] at h
    split at h
    · next hx =>
      obtain ⟨⟨y, ys⟩, hy, heq⟩ := Option.map_eq_some_iff.mp h
      cases heq
      rw [List.find?_cons_of_neg (by simp [hx])]
      exact ih hy
    · next hx =>
      cases h
      exact List.find?_cons_of_pos (by simpa using hx)

/-- A waiter of the new list: it is an old one, or one that was asked. -/
theorem Asks.mem {ws ws' asked : List Waiter} (h : Asks ws ws' asked)
    (hw : w ∈ ws') : w ∈ ws ∨ ∃ w₀ ∈ asked, w = ask w₀ := by
  induction h with
  | nil => cases hw
  | keep x _ ih =>
    rcases List.mem_cons.mp hw with rfl | hw
    · exact .inl List.mem_cons_self
    · rcases ih hw with hmem | hasked
      · exact .inl (List.mem_cons_of_mem x hmem)
      · exact .inr hasked
  | mark x _ _ ih =>
    rcases List.mem_cons.mp hw with rfl | hw
    · exact .inr ⟨x, List.mem_cons_self, rfl⟩
    · rcases ih hw with hmem | ⟨w₀, hmem, heq⟩
      · exact .inl (List.mem_cons_of_mem x hmem)
      · exact .inr ⟨w₀, List.mem_cons_of_mem x hmem, heq⟩

/-- Only waiters that were not asked are asked. -/
theorem Asks.of_mem_asked {ws ws' asked : List Waiter} (h : Asks ws ws' asked)
    (hw : w ∈ asked) : w ∈ ws ∧ w.discoRequested = false := by
  induction h with
  | nil => cases hw
  | keep x _ ih => exact ⟨List.mem_cons_of_mem x (ih hw).1, (ih hw).2⟩
  | mark x hx _ ih =>
    rcases List.mem_cons.mp hw with rfl | hw
    · exact ⟨List.mem_cons_self, hx⟩
    · exact ⟨List.mem_cons_of_mem x (ih hw).1, (ih hw).2⟩

theorem Asks.mem_asked {ws ws' asked : List Waiter} (h : Asks ws ws' asked)
    (hw : w ∈ asked) : PresenceCache.ask w ∈ ws' := by
  induction h with
  | nil => cases hw
  | keep x _ ih => exact List.mem_cons_of_mem x (ih hw)
  | mark x _ _ ih =>
    rcases List.mem_cons.mp hw with rfl | hw
    · exact List.mem_cons_self
    · exact List.mem_cons_of_mem _ (ih hw)

/-- Asking changes no key. -/
theorem Asks.keys {ws ws' asked : List Waiter} (h : Asks ws ws' asked) :
    ws'.map key = ws.map key := by
  induction h with
  | nil => rfl
  | keep x _ ih => rw [List.map_cons, List.map_cons, ih]
  | mark x _ _ ih =>
    rw [List.map_cons, List.map_cons, ih]
    rfl

/-- How many waiters were not asked yet. -/
def unasked (ws : List Waiter) : ℕ := ws.countP fun w => !w.discoRequested

theorem Asks.unasked {ws ws' asked : List Waiter} (h : Asks ws ws' asked) :
    unasked ws' + asked.length = unasked ws := by
  induction h with
  | nil => rfl
  | keep x _ ih =>
    rw [PresenceCache.unasked, PresenceCache.unasked, List.countP_cons, List.countP_cons]
    rw [PresenceCache.unasked, PresenceCache.unasked] at ih
    omega
  | mark x hx _ ih =>
    rw [PresenceCache.unasked, PresenceCache.unasked, List.countP_cons, List.countP_cons]
    rw [PresenceCache.unasked, PresenceCache.unasked] at ih
    simp only [PresenceCache.ask, hx, List.length_cons, Bool.not_false, Bool.not_true,
      if_true]
    simp only [Bool.false_eq_true, if_false]
    omega

/-! ## Requests under way -/

/-- The waiters of a URI against the requests under way: no resource waits twice,
whoever was asked may still answer, and if somebody waits then somebody was
asked. -/
structure Followed (requests : List Request) (uri : String) (ws : List Waiter) : Prop where
  keys : (ws.map key).Nodup
  asked : ∀ w ∈ ws, w.discoRequested = true → requestTo uri w ∈ requests
  started : ws ≠ [] → ∃ w ∈ ws, w.discoRequested = true

namespace Followed

variable {requests more : List Request} {uri : String} {ws ws' asked : List Waiter}

theorem nil (requests : List Request) (uri : String) : Followed requests uri [] where
  keys := List.nodup_nil
  asked := fun w hw => by cases hw
  started := fun h => absurd rfl h

theorem mono (h : Followed requests uri ws) (hsub : ∀ r ∈ requests, r.uri = uri → r ∈ more) :
    Followed more uri ws where
  keys := h.keys
  asked := fun w hw hasked => hsub _ (h.asked w hw hasked) rfl
  started := h.started

/-- An answer about another URI takes nothing away. -/
theorem erase_of_ne (h : Followed requests uri ws) {req : Request} (hne : uri ≠ req.uri) :
    Followed (requests.erase req) uri ws := by
  refine h.mono fun r hr huri => ?_
  refine (List.mem_erase_of_ne ?_).mpr hr
  rintro rfl
  exact hne huri.symm

/-- Some waiters are asked, and their requests sent. -/
theorem asks (h : Asks ws ws' asked) (hkeys : (ws.map key).Nodup)
    (hasked : ∀ w ∈ ws, w.discoRequested = true → requestTo uri w ∈ requests)
    (hstarted : ws' ≠ [] → ∃ w ∈ ws', w.discoRequested = true) :
    Followed (requests ++ asked.map (requestTo uri)) uri ws' where
  keys := by
    rw [h.keys]
    exact hkeys
  asked := by
    intro w hw hw'
    rcases h.mem hw with hold | ⟨w₀, hmem, rfl⟩
    · exact List.mem_append_left _ (hasked w hold hw')
    · exact List.mem_append_right _ (List.mem_map.mpr ⟨w₀, hmem, rfl⟩)
  started := hstarted

/-- Serials do not matter. -/
theorem congr (h : Followed requests uri ws)
    (heq : ws'.map (fun w => (key w, w.discoRequested)) =
      ws.map fun w => (key w, w.discoRequested)) : Followed requests uri ws' where
  keys := by
    have hfst := congrArg (List.map Prod.fst) heq
    rw [List.map_map, List.map_map] at hfst
    exact hfst ▸ h.keys
  asked := by
    intro w hw hasked
    obtain ⟨w₀, hw₀, heq₀⟩ := List.mem_map.mp (heq ▸ List.mem_map_of_mem hw)
    obtain ⟨hkey, hflag⟩ := Prod.mk.inj heq₀
    obtain ⟨hhandle, hresource⟩ := Prod.mk.inj hkey
    have := h.asked w₀ hw₀ (hflag.trans hasked)
    rwa [requestTo, Waiter.jid, hhandle, hresource] at this
  started := by
    intro hne
    have hne₀ : ws ≠ [] := by
      rintro rfl
      exact hne (List.map_eq_nil_iff.mp heq)
    obtain ⟨w, hw, hasked⟩ := h.started hne₀
    obtain ⟨w', hw', heq'⟩ := List.mem_map.mp (heq.symm ▸ List.mem_map_of_mem hw)
    exact ⟨w', hw', (Prod.mk.inj heq').2.trans hasked⟩

end Followed

/-- A new serial for a waiter is all `setSerial` does. -/
theorem map_setSerial {α : Type*} {f : Waiter → α} (hf : ∀ w n, f { w with serial := n } = f w)
    (handle : Handle) (resource : Option String) (serial : ℕ) (ws : List Waiter) :
    (setSerial handle resource serial ws).map f = ws.map f := by
  induction ws with
  | nil => rfl
  | cons w ws ih =>
    rw [setSerial]
    split
    · rw [List.map_cons, List.map_cons, hf]
    · rw [List.map_cons, List.map_cons, ih]

/-! ## Events -/

/-- Whoever was asked may still answer, for every URI. -/
def AllFollowed (s : State) : Prop := ∀ uri, Followed s.requests uri (s.discoPending uri)

theorem AllFollowed.quiet {s s' : State} (h : AllFollowed s) (hq : Quiet s s') :
    AllFollowed s' := by
  intro uri
  rw [hq.requests, hq.discoPending]
  exact h uri

theorem AllFollowed.awaitUri {s : State} (h : AllFollowed s) {uri : String} {handle : Handle}
    (hunknown : ¬ isKnown s uri handle = true) (resource hash ver : Option String)
    (serial : ℕ) : AllFollowed (awaitUri s uri handle resource hash ver serial) := by
  rcases awaitUri_cases s uri handle resource hash ver serial with ⟨w, -, heq⟩ | ⟨hnone, hnew⟩
  · rw [heq]
    refine (Function.forall_update_iff _ _).mpr ⟨?_, fun u _ => h u⟩
    exact (h uri).congr (map_setSerial (fun _ _ => rfl) handle resource serial _)
  · have hkeys : ((newWaiter handle resource hash ver serial :: s.discoPending uri).map
        key).Nodup := by
      refine List.nodup_cons.mpr ⟨fun hmem => ?_, (h uri).keys⟩
      obtain ⟨w, hw, heq⟩ := List.mem_map.mp hmem
      exact findMatchingWaiter_none hnone hw (Prod.mk.inj heq)
    have hasked : ∀ w ∈ newWaiter handle resource hash ver serial :: s.discoPending uri,
        w.discoRequested = true → requestTo uri w ∈ s.requests := by
      intro w hw hw'
      rcases List.mem_cons.mp hw with rfl | hw
      · cases hw'
      · exact (h uri).asked w hw hw'
    rcases hnew with heq | ⟨henough, heq⟩
    · -- the new waiter is asked
      rw [heq]
      refine (Function.forall_update_iff _ _).mpr ⟨?_, fun u _ => ?_⟩
      · refine Followed.asks (.mark _ rfl (.refl _)) hkeys hasked fun _ => ?_
        exact ⟨_, List.mem_cons_self, rfl⟩
      · exact (h u).mono fun r hr _ => List.mem_append_left _ hr
    · rw [heq]
      refine (Function.forall_update_iff _ _).mpr ⟨?_, fun u _ => h u⟩
      refine ⟨hkeys, hasked, fun _ => ?_⟩
      exact exists_asked_of_enough (trust_of_not_isKnown hunknown) henough

/-! ## Answers -/

/-- The trust in the URI of a reply once the reply was taken into account. -/
def trustAfter (capsHash : Query → Option String) (s : State) (req : Answer) (self : Waiter)
    (q : Query) : ℕ :=
  (trustOf capsHash self q).elim 0 fun trustInc => (newInfo s req self q trustInc).trust

/-- The waiters of the URI but the one the answer comes from. -/
def othersOf (s : State) (req : Answer) : List Waiter :=
  (s.discoPending req.uri).eraseP (isMatching req.handle req.resource)

/-- `P` holds of everybody who is asked because of the event, among the waiters of
the URI: the first who was not asked, after an error; after a reply that is not
trusted, whoever was not asked and comes before the answers are enough. -/
def AsksOnly (P : List Waiter → Waiter → Prop) (capsHash : Query → Option String) (s : State) :
    Event → Prop
  | .error req =>
    ∀ w ∈ (s.discoPending req.uri).find? fun w => !w.discoRequested, P (s.discoPending req.uri) w
  | .reply req q =>
    ∀ self ∈ findMatchingWaiter (s.discoPending req.uri) req.handle req.resource,
      trustAfter capsHash s req self q < enoughTrust →
      ∀ i < (othersOf s req).length, ∀ w ∈ (othersOf s req)[i]?, w.discoRequested = false →
        (∀ n ≤ i, Short (trustAfter capsHash s req self q) (othersOf s req) n) →
        P (othersOf s req) w
  | _ => True

instance decidableAsksOnly (P : List Waiter → Waiter → Prop) [∀ ws w, Decidable (P ws w)]
    (capsHash : Query → Option String) (s : State) :
    (e : Event) → Decidable (AsksOnly P capsHash s e)
  | .error _ | .reply _ _ => inferInstanceAs (Decidable (∀ _ ∈ _, _))
  | .presence .. | .unavailable .. | .addOwnCaps .. | .cacheLost _ | .roomMember .. =>
    .isTrue trivial

theorem AsksOnly.dropWaiter {P : List Waiter → Waiter → Prop} {capsHash : Query → Option String}
    {s : State} {req : Answer} {q : Query} {self : Waiter}
    (h : AsksOnly P capsHash s (.reply req q))
    (hself : findMatchingWaiter (s.discoPending req.uri) req.handle req.resource = some self)
    (htrust : trustAfter capsHash s req self q < enoughTrust)
    (hw : w ∈ (askEnough (trustAfter capsHash s req self q) [] (othersOf s req)).2) :
    P (othersOf s req) w := by
  obtain ⟨i, hi, hunasked, hshort⟩ := short_of_mem_askEnough (othersOf s req) 0 rfl hw
  obtain ⟨hlt, -⟩ := List.getElem?_eq_some_iff.mp hi
  exact h self hself htrust i hlt w hi hunasked fun n hn => hshort n (Nat.zero_le n) hn

/-- Nobody who was asked loses its request to the answer of somebody else; unless
everybody is served, or the waiters are forgotten. -/
def SparesAsked (capsHash : Query → Option String) (s : State) : Event → Prop
  | .error req =>
    (∃ w ∈ s.discoPending req.uri, w.discoRequested = false) →
      (∃ w ∈ s.discoPending req.uri, w.discoRequested = true ∧
        requestTo req.uri w = req.request) →
      req.request ∈ s.requests.erase req.request
  | .reply req q =>
    (∀ self ∈ findMatchingWaiter (s.discoPending req.uri) req.handle req.resource,
        trustAfter capsHash s req self q < enoughTrust) →
      (∃ w ∈ othersOf s req, w.discoRequested = true ∧ requestTo req.uri w = req.request) →
      req.request ∈ s.requests.erase req.request
  | _ => True

instance decidableSparesAsked (capsHash : Query → Option String) (s : State) :
    (e : Event) → Decidable (SparesAsked capsHash s e)
  | .error _ | .reply _ _ => inferInstanceAs (Decidable (_ → _ → _))
  | .presence .. | .unavailable .. | .addOwnCaps .. | .cacheLost _ | .roomMember .. =>
    .isTrue trivial

/-- **The condition.**  When a contact that was asked answers with an error and
another one is asked in its place, or it was asked under another handle than it
answers under, a second request to it is still under way; and no room member is
asked again. -/
def CleanRetry (capsHash : Query → Option String) (s : State) (e : Event) : Prop :=
  SparesAsked capsHash s e ∧ AsksOnly (fun _ w => w.handle.resource = none) capsHash s e

instance decidableCleanRetry (capsHash : Query → Option String) (s : State) (e : Event) :
    Decidable (CleanRetry capsHash s e) :=
  inferInstanceAs (Decidable (_ ∧ _))

/-- A handle that is no room member's is asked again at the JID its stanza came from. -/
theorem fullJid_of_none (h : w.handle.resource = none) : w.fullJid = w.jid := by
  obtain ⟨⟨bare, inRoom⟩, resource, _, _, _, _⟩ := w
  cases (h : inRoom = none)
  cases resource with
  | none => rfl
  | some resource => rfl

/-- An answer takes its request away; only a waiter that was asked with it notices. -/
theorem Followed.asked_erase {requests : List Request} {uri : String} {ws : List Waiter}
    (h : Followed requests uri ws) {req : Request} (hw : w ∈ ws) (hasked : w.discoRequested = true)
    (hagain : requestTo uri w = req → req ∈ requests.erase req) :
    requestTo uri w ∈ requests.erase req := by
  by_cases hreq : requestTo uri w = req
  · exact hreq ▸ hagain hreq
  · exact (List.mem_erase_of_ne hreq).mpr (h.asked w hw hasked)

section Answers

variable {capsHash : Query → Option String} {s : State} {req : Answer}

/-- The waiter that answered goes, and others are asked. -/
theorem AllFollowed.dropWaiter {t : State} {q : Query} {self : Waiter} (h : AllFollowed s)
    (hclean : CleanRetry capsHash s (.reply req q))
    (hself : findMatchingWaiter (s.discoPending req.uri) req.handle req.resource = some self)
    (htrust : trustAfter capsHash s req self q < enoughTrust)
    (hpending : t.discoPending = s.discoPending)
    (hrequests : t.requests = s.requests.erase req.request) :
    AllFollowed (dropWaiter t req.uri self (trustAfter capsHash s req self q)) := by
  obtain ⟨hspares, honly⟩ := hclean
  obtain ⟨-, hhandle, hresource⟩ := findMatchingWaiter_some hself
  have hothers : (t.discoPending req.uri).eraseP (isMatching self.handle self.resource) =
      othersOf s req := by
    rw [hpending, hhandle, hresource, othersOf]
  have hsub : (othersOf s req).Sublist (s.discoPending req.uri) := List.eraseP_sublist
  refine (Function.forall_update_iff _ _).mpr ⟨?_, fun u hu => ?_⟩
  · rw [hothers]
    obtain ⟨ws', heq, hasks⟩ := asks_of_askEnough (trustAfter capsHash s req self q) []
      (othersOf s req)
    rw [List.nil_append] at heq
    have hstarted := askEnough_started htrust [] (othersOf s req) (fun hne => absurd rfl hne)
    rw [heq] at hstarted ⊢
    have hsent : (askEnough (trustAfter capsHash s req self q) [] (othersOf s req)).2.map
          (redisco req.uri) =
        (askEnough (trustAfter capsHash s req self q) [] (othersOf s req)).2.map
          (requestTo req.uri) := by
      refine List.map_congr_left fun w hw => ?_
      rw [redisco, requestTo, fullJid_of_none (honly.dropWaiter hself htrust hw)]
    show Followed (t.requests ++ _) req.uri ws'
    rw [hothers, hsent, hrequests]
    refine Followed.asks hasks ((h req.uri).keys.sublist (hsub.map key)) ?_ hstarted
    intro w hw hasked
    refine (h req.uri).asked_erase (hsub.subset hw) hasked fun hreq => ?_
    refine hspares (fun self' hself' => ?_) ⟨w, hw, hasked, hreq⟩
    cases hself.symm.trans hself'
    exact htrust
  · show Followed (t.requests ++ _) u (t.discoPending u)
    rw [hpending]
    refine ((h u).erase_of_ne (show u ≠ req.request.uri from hu)).mono fun r hr _ => ?_
    exact List.mem_append_left _ (hrequests ▸ hr)

theorem AllFollowed.capsDiscoReply (h : AllFollowed s) (q : Query)
    (hclean : CleanRetry capsHash s (.reply req q)) :
    AllFollowed (capsDiscoReply capsHash (answered s req) req q) := by
  rcases capsDiscoReply_cases capsHash (answered s req) req q with
    ⟨hnone, heq⟩ | ⟨self, hself, hcases⟩
  · rw [heq]
    intro uri
    by_cases huri : uri = req.uri
    · subst huri
      have hothers : othersOf s req = s.discoPending req.uri :=
        List.eraseP_of_forall_not (List.find?_eq_none.mp hnone)
      refine ⟨(h req.uri).keys, fun w hw hasked => ?_, (h req.uri).started⟩
      refine (h req.uri).asked_erase hw hasked fun hreq => ?_
      refine hclean.1 (fun self hself => ?_) ⟨w, hothers ▸ hw, hasked, hreq⟩
      cases hnone.symm.trans hself
    · exact (h uri).erase_of_ne huri
  rcases hcases with ⟨hbad, heq⟩ | ⟨trustInc, hinc, ⟨-, heq⟩ | ⟨htrust, heq⟩⟩
  · have hafter : trustAfter capsHash s req self q = 0 := by rw [trustAfter, hbad, Option.elim]
    rw [heq, ← hafter]
    exact h.dropWaiter hclean hself (hafter ▸ by decide) rfl rfl
  · rw [heq]
    refine serveWaiters_invariant (fun s s' hq hs => hs.quiet hq) (fun t w _ ht => ht) ?_
    refine (Function.forall_update_iff _ _).mpr ⟨.nil _ _, fun u hu => ?_⟩
    exact (h u).erase_of_ne hu
  · have hafter : trustAfter capsHash s req self q =
        (newInfo (answered s req) req self q trustInc).trust := by
      rw [trustAfter, hinc, Option.elim]
      rfl
    rw [← hafter] at htrust heq
    rw [heq]
    exact h.dropWaiter hclean hself htrust (setCapsFor_discoPending ..) (setCapsFor_requests ..)

theorem AllFollowed.discoFailed (h : AllFollowed s) (hclean : CleanRetry capsHash s (.error req)) :
    AllFollowed (discoFailed (answered s req) req.uri) := by
  obtain ⟨hspares, honly⟩ := hclean
  rw [PresenceCache.discoFailed]
  split
  · next w ws' hfirst =>
    have hasks := asks_of_askFirst hfirst
    have hnone := honly w (find?_of_askFirst hfirst)
    have hsent : [redisco req.uri w] = [w].map (requestTo req.uri) := by
      rw [redisco, fullJid_of_none hnone]
      rfl
    rw [hsent]
    refine (Function.forall_update_iff _ _).mpr ⟨?_, fun u hu => ?_⟩
    · refine Followed.asks hasks (h req.uri).keys (fun x hx hasked => ?_) fun _ => ?_
      · refine (h req.uri).asked_erase hx hasked fun hreq => ?_
        exact hspares ⟨w, hasks.of_mem_asked List.mem_cons_self⟩ ⟨x, hx, hasked, hreq⟩
      · exact ⟨PresenceCache.ask w, hasks.mem_asked List.mem_cons_self, rfl⟩
    · exact ((h u).erase_of_ne hu).mono fun r hr _ => List.mem_append_left _ hr
  · refine (Function.forall_update_iff _ _).mpr ⟨.nil _ _, fun u hu => ?_⟩
    exact (h u).erase_of_ne hu

end Answers

theorem AllFollowed.step {capsHash : Query → Option String} (s : State) (e : Event) (s' : State)
    (h : AllFollowed s) (hok : CleanRetry capsHash s e) (hstep : step capsHash s e = some s') :
    AllFollowed s' := by
  refine step_invariant (CleanRetry capsHash) (fun s s' hq hs => hs.quiet hq)
    (fun s _ _ _ _ hs => hs)
    (fun s uri handle resource hash ver serial hunknown hs =>
      hs.awaitUri hunknown resource hash ver serial)
    (fun s req q hclean _ hs => hs.capsDiscoReply q hclean)
    (fun s req hclean _ hs => hs.discoFailed hclean) (fun s ver capSet dataForms _ hs => ?_)
    (fun s uri hs => hs) (fun s jid hs => hs) s e s' h hok hstep
  rw [addOwnCaps]
  split
  · exact hs
  · exact hs

/-! ## Counting answers -/

/-- What may still be heard about a URI: requests under way, and waiters that may
be asked. -/
def work (s : State) (uri : String) : ℕ :=
  unasked (s.discoPending uri) + s.requests.countP fun req => req.uri = uri

/-- Answers about a URI. -/
def answers (uri : String) : Event → ℕ
  | .reply req _ => if req.uri = uri then 1 else 0
  | .error req => if req.uri = uri then 1 else 0
  | _ => 0

/-- How often a presence stanza names a URI. -/
def arrivals (uri : String) : Event → ℕ
  | .presence _ _ _ _ _ _ (some c) =>
    ((parseCapBundles c).map (uriOf (c.node.getD ""))).count uri
  | _ => 0

theorem work_quiet {s s' : State} (h : Quiet s s') (uri : String) : work s' uri = work s uri := by
  rw [work, work, h.discoPending, h.requests]

theorem work_answered {s : State} {req : Answer} (h : req.request ∈ s.requests) (uri : String) :
    work (answered s req) uri + (if req.uri = uri then 1 else 0) = work s uri := by
  have hcount : (s.requests.erase req.request).countP (fun r => r.uri = uri) +
      (if req.uri = uri then 1 else 0) = s.requests.countP fun r => r.uri = uri := by
    rw [(List.perm_cons_erase h).countP_eq, List.countP_cons]
    simp only [decide_eq_true_eq]
    rfl
  rw [work, work, answered, ← hcount, Nat.add_assoc]

/-- The waiters of a URI were replaced and some of them asked. -/
theorem work_asks {s : State} {uri : String} {ws ws' asked : List Waiter}
    (h : Asks ws ws' asked) (hws : unasked ws ≤ unasked (s.discoPending uri)) (u : String) :
    work (send (setWaiters s uri ws') (asked.map (redisco uri))) u ≤ work s u := by
  have hasks := h.unasked
  rw [work, work, send, setWaiters, List.countP_append]
  by_cases hu : u = uri
  · subst hu
    have hall : (asked.map (redisco u)).countP (fun r => r.uri = u) = asked.length := by
      rw [List.countP_map]
      exact List.countP_eq_length.mpr fun w _ => decide_eq_true rfl
    rw [hall]
    dsimp only
    rw [Function.update_self]
    omega
  · have hnone : (asked.map (redisco uri)).countP (fun r => r.uri = u) = 0 := by
      rw [List.countP_map]
      refine List.countP_eq_zero.mpr fun w _ heq => hu ?_
      exact (of_decide_eq_true heq).symm
    rw [hnone]
    dsimp only
    rw [Function.update_of_ne hu, Nat.add_zero]

theorem work_clear (s : State) (uri u : String) : work (setWaiters s uri []) u ≤ work s u := by
  have h : work (send (setWaiters s uri []) ([].map (redisco uri))) u ≤ work s u :=
    work_asks .nil (Nat.zero_le _) u
  rw [send, List.map_nil, List.append_nil] at h
  exact h

theorem work_discoFailed (s : State) (uri u : String) :
    work (discoFailed s uri) u ≤ work s u := by
  rw [discoFailed]
  split
  · next w ws' hfirst => exact work_asks (asks_of_askFirst hfirst) le_rfl u
  · exact work_clear s uri u

theorem work_dropWaiter (s : State) (uri : String) (self : Waiter) (trust : ℕ) (u : String) :
    work (dropWaiter s uri self trust) u ≤ work s u := by
  obtain ⟨ws', heq, hasks⟩ := asks_of_askEnough trust []
    ((s.discoPending uri).eraseP (isMatching self.handle self.resource))
  rw [dropWaiter, heq]
  refine (work_asks hasks ?_ u).trans (work_quiet (quiet_emit s _) u).le
  exact List.eraseP_sublist.countP_le

theorem work_capsDiscoReply (capsHash : Query → Option String) (s : State) (req : Answer)
    (q : Query) (u : String) : work (capsDiscoReply capsHash s req q) u ≤ work s u := by
  rcases capsDiscoReply_cases capsHash s req q with
    ⟨-, heq⟩ | ⟨self, -, ⟨-, heq⟩ | ⟨trustInc, -, ⟨-, heq⟩ | ⟨-, heq⟩⟩⟩
  · rw [heq]
  · rw [heq]
    exact work_dropWaiter s req.uri self 0 u
  · rw [heq]
    refine serveWaiters_invariant (I := fun t => work t u ≤ work s u)
      (fun t t' hq ht => (work_quiet hq u).le.trans ht) (fun t w _ ht => ht) ?_
    exact work_clear s req.uri u
  · rw [heq]
    refine (work_dropWaiter _ req.uri self _ u).trans ?_
    rw [work, setCapsFor_discoPending, setCapsFor_requests]
    exact le_rfl

theorem work_awaitUri (s : State) (uri : String) (handle : Handle)
    (resource hash ver : Option String) (serial : ℕ) (u : String) :
    work (awaitUri s uri handle resource hash ver serial) u ≤
      work s u + if uri = u then 1 else 0 := by
  rcases awaitUri_cases s uri handle resource hash ver serial with
    ⟨w, -, heq⟩ | ⟨-, heq | ⟨-, heq⟩⟩
  · rw [heq]
    by_cases hu : u = uri
    · subst hu
      have hmap := map_setSerial (f := fun w => !w.discoRequested) (fun _ _ => rfl) handle resource
        serial (s.discoPending u)
      have hcount := congrArg (List.countP id) hmap
      rw [List.countP_map, List.countP_map] at hcount
      simp only [work, setWaiters, Function.update_self, unasked]
      exact (congrArg (· + _) hcount).le.trans (Nat.le_add_right _ _)
    · simp only [work, setWaiters, Function.update_of_ne hu]
      exact Nat.le_add_right _ _
  all_goals
    rw [heq]
    by_cases hu : u = uri
    · subst hu
      simp only [work, setWaiters, send, Function.update_self, unasked, List.countP_cons,
        List.countP_append, List.countP_nil, newWaiter, ask, requestTo]
      simp only [decide_true, if_true, Bool.not_true, Bool.not_false, Bool.false_eq_true, if_false]
      omega
    · simp only [work, setWaiters, send, Function.update_of_ne hu, List.countP_append,
        List.countP_cons, List.countP_nil, requestTo, decide_eq_true_eq, if_neg (Ne.symm hu)]
      omega

theorem work_processCapsUri (s : State) (handle : Handle) (resource : Option String) (node : String)
    (hash ver : Option String) (serial : ℕ) (fragment : String) (u : String) :
    work (processCapsUri s handle resource node hash ver serial fragment) u ≤
      work s u + if uriOf node fragment = u then 1 else 0 := by
  rw [processCapsUri]
  split
  · rcases applyStored_cases s (uriOf node fragment) handle resource serial with heq | hq
    · rw [heq]
      exact Nat.le_add_right _ _
    · exact (work_quiet hq u).le.trans (Nat.le_add_right _ _)
  · split
    · refine (work_quiet (quiet_setCapabilities s handle resource _ serial) u).le.trans ?_
      exact Nat.le_add_right _ _
    · exact work_awaitUri s _ handle resource hash ver serial u

theorem work_processUris (handle : Handle) (resource hash ver : Option String) (node : String)
    (serial : ℕ) (u : String) (fragments : List String) (s : State) :
    work (fragments.foldl (fun s fragment =>
        processCapsUri s handle resource node hash ver serial fragment) s) u ≤
      work s u + (fragments.map (uriOf node)).count u := by
  induction fragments generalizing s with
  | nil => exact le_rfl
  | cons fragment fragments ih =>
    rw [List.foldl_cons, List.map_cons, List.count_cons]
    have hone := work_processCapsUri s handle resource node hash ver serial fragment u
    have hrest := ih (processCapsUri s handle resource node hash ver serial fragment)
    simp only [beq_iff_eq]
    omega

/-- Every answer uses up work, and only presence stanzas bring new work. -/
theorem work_step {capsHash : Query → Option String} {s s' : State} {e : Event}
    (hstep : step capsHash s e = some s') (u : String) :
    work s' u + answers u e ≤ work s u + arrivals u e := by
  cases e with
  | presence handle resource status statusMessage priority now caps =>
    obtain ⟨-, heq⟩ := Option.ite_none_right_eq_some.mp hstep
    cases heq
    have hupdate := work_quiet (quiet_update s handle resource status statusMessage priority
      now) u
    have hserial := work_quiet (quiet_capsSerial
      (update s handle resource status statusMessage priority now)
      (((update s handle resource status statusMessage priority now).capsSerial + 1) %
        guintSize)) u
    cases caps with
    | none => exact (hserial.trans hupdate).le
    | some c =>
      refine (work_quiet (quiet_emitCapabilitiesUpdate _ handle _ _) u).le.trans ?_
      refine (work_processUris handle resource c.hash c.ver _ _ u _ _).trans ?_
      rw [work_quiet (quiet_parseNode _ handle resource c _) u, hserial, hupdate]
      exact le_rfl
  | unavailable handle resource status statusMessage priority now =>
    obtain ⟨-, heq⟩ := Option.ite_none_right_eq_some.mp hstep
    cases heq
    exact (work_quiet (quiet_update s handle resource status statusMessage priority now) u).le
  | reply req q =>
    obtain ⟨hreq, heq⟩ := Option.ite_none_right_eq_some.mp hstep
    cases heq
    have hanswered := work_answered hreq.1 u
    have hreply := work_capsDiscoReply capsHash (answered s req) req q u
    simp only [answers, arrivals]
    omega
  | error req =>
    obtain ⟨hreq, heq⟩ := Option.ite_none_right_eq_some.mp hstep
    cases heq
    have hanswered := work_answered hreq.1 u
    have hfailed := work_discoFailed (answered s req) req.uri u
    simp only [answers, arrivals]
    omega
  | addOwnCaps ver capSet dataForms =>
    cases hstep
    rw [addOwnCaps]
    split
    · exact le_rfl
    · exact le_rfl
  | cacheLost uri =>
    cases hstep
    exact le_rfl
  | roomMember room nick =>
    cases hstep
    exact le_rfl

theorem work_run {capsHash : Query → Option String} (u : String) (es : List Event) {s s' : State}
    (hrun : run (step capsHash) s es = some s') :
    work s' u + (es.map (answers u)).sum ≤ work s u + (es.map (arrivals u)).sum := by
  induction es generalizing s with
  | nil =>
    cases hrun
    exact le_rfl
  | cons e es ih =>
    obtain ⟨s₁, hs₁, hrun'⟩ := Option.bind_eq_some_iff.mp hrun
    have hone := work_step hs₁ u
    have hrest := ih hrun'
    rw [List.map_cons, List.map_cons, List.sum_cons, List.sum_cons]
    omega

/-- As long as somebody waits there is something left to hear. -/
theorem Followed.work_pos {s : State} {uri : String}
    (h : Followed s.requests uri (s.discoPending uri)) (hne : s.discoPending uri ≠ []) :
    0 < work s uri := by
  obtain ⟨w, hw, hasked⟩ := h.started hne
  refine Nat.lt_of_lt_of_le ?_ (Nat.le_add_left _ _)
  exact List.countP_pos_iff.mpr ⟨requestTo uri w, h.asked w hw hasked, decide_eq_true rfl⟩

theorem allFollowed_new (selfHandle : Handle) (capsCache : String → Option Query) :
    AllFollowed (State.new selfHandle capsCache) := fun uri => .nil _ uri

/-- **Nobody waits in vain.**  In every run in which a contact that fails is not
counted on any more, and no room member is asked again, somebody who waits for a URI
was asked and can still answer; and as soon as there were as many answers about the
URI as there was work at some moment and new stanzas with it since, nobody waits for
it. -/
theorem waiters_have_request (capsHash : Query → Option String) (selfHandle : Handle)
    (capsCache : String → Option Query) (es : List Event) {s : State}
    (hadm : Admits (CleanRetry capsHash) (step capsHash) (State.new selfHandle capsCache) es)
    (hrun : run (step capsHash) (State.new selfHandle capsCache) es = some s) (uri : String) :
    (s.discoPending uri ≠ [] → ∃ w ∈ s.discoPending uri, requestTo uri w ∈ s.requests) ∧
      ∀ es' s', Admits (CleanRetry capsHash) (step capsHash) s es' →
        run (step capsHash) s es' = some s' →
        work s uri + (es'.map (arrivals uri)).sum ≤ (es'.map (answers uri)).sum →
        s'.discoPending uri = [] := by
  have hall := (reachable_of_run es hadm hrun).invariant (allFollowed_new selfHandle capsCache)
    AllFollowed.step
  refine ⟨fun hne => ?_, fun es' s' hadm' hrun' hanswers => ?_⟩
  · obtain ⟨w, hw, hasked⟩ := (hall uri).started hne
    exact ⟨w, hw, (hall uri).asked w hw hasked⟩
  · have hall' := (reachable_of_run es' hadm' hrun').invariant hall AllFollowed.step
    by_contra hne
    have hpos := (hall' uri).work_pos hne
    have hwork := work_run uri es' hrun'
    omega

/-- The hash of a reply without identities, features and forms. -/
def emptyHash (_ : Query) : Option String := some "2jmj7l5rSw0yVb/vlWAYkK/YBwk="

/-- A contact becomes available and advertises the version `ver` of the node "n". -/
def available (handle : Handle) (hash : Option String) (ver : String) : Event :=
  .presence handle (some "r") .available none 0 0 (some ⟨hash, some "n", some ver, none⟩)

theorem waiters_have_request_badHash :
    ∃ s s', run (step emptyHash) (State.new "me" fun _ => none)
        [available "b" (some "sha-1") "v"] = some s ∧
      run (step emptyHash) s [.reply ⟨"n#v", "b", some "r"⟩ ⟨[], [], []⟩] = some s' ∧
      (∃ w ∈ s.discoPending "n#v", requestTo "n#v" w ∈ s.requests) ∧
      s'.discoPending "n#v" = [] := by
  refine ⟨_, _, rfl, rfl, ?_⟩
  have h := waiters_have_request emptyHash "me" (fun _ => none) [available "b" (some "sha-1") "v"]
    (by decide +kernel) rfl "n#v"
  refine ⟨h.1 (by decide +kernel), h.2 [.reply ⟨"n#v", "b", some "r"⟩ ⟨[], [], []⟩] _ ?_ rfl ?_⟩
  · decide +kernel
  · decide +kernel

/-- Somebody in the room "room" becomes available. -/
def occupant (nick : String) (hash : Option String) (ver : String) : Event :=
  .presence ⟨"room", some nick⟩ (some nick) .available none 0 0
    (some ⟨hash, some "n", some ver, none⟩)

/-- A contact that answered with an error is still marked as asked.  The contact
asked in its place answers with a bad hash, and the first one is left waiting with
no request under way.  A room member that is asked after a bad hash is left so at
once: the request goes to another JID. -/
theorem waiter_left_without_request :
    (∃ s, run (step emptyHash) (State.new "me" fun _ => none)
        [available "b" (some "sha-1") "v", available "c" (some "sha-1") "v",
          .error ⟨"n#v", "b", some "r"⟩, .reply ⟨"n#v", "c", some "r"⟩ ⟨[], [], []⟩] = some s ∧
      s.discoPending "n#v" ≠ [] ∧
      ¬ ∃ w ∈ s.discoPending "n#v", requestTo "n#v" w ∈ s.requests) ∧
    ∃ s, run (step emptyHash) (State.new "me" fun _ => none)
        [.roomMember "room" "b", available "c" (some "sha-1") "v", occupant "b" (some "sha-1") "v",
          .reply ⟨"n#v", "c", some "r"⟩ ⟨[], [], []⟩] = some s ∧
      s.discoPending "n#v" ≠ [] ∧
      ¬ ∃ w ∈ s.discoPending "n#v", requestTo "n#v" w ∈ s.requests :=
  ⟨⟨_, rfl, by decide +kernel, by decide +kernel⟩, _, rfl, by decide +kernel, by decide +kernel⟩

end PresenceCache
