/-
# Every stream initiation is answered once

A bytestream of one method, or one with fallback methods, is in one of two phases.  Until
its owner decides it waits with the answer, and has created nothing but the bytestream for
its first method; then the request is answered, and none of its bytestreams is pending.
What remains are the requests that get no bytestream, those whose bytestream has no
method, and those without an `id`: they are not answered at all.
-/
import Gabble.BytestreamMultiplePending
import Gabble.BytestreamSi

namespace Si

open Base64 (Bytes)
open CText (ascii)
open Ibb (BytestreamState GError)
open Answered Transition

variable {sha1Hex : Bytes → Bytes}
variable {method : Option String}

/-! ## Streams of one method -/

/-- Nothing has come of the stream yet. -/
def Stream.Fresh : Stream → Prop
  | .ibb s => Ibb.Unaccepted s
  | .socks5 s => Socks5.Before s

/-- The stream waits with the answer. -/
structure Stream.Held (st : Stream) : Prop where
  state : st.state = .localPending
  fresh : st.Fresh
  answers : st.answers = 0

/-- The stream has answered. -/
structure Stream.Done (st : Stream) : Prop where
  state : st.state ≠ .localPending
  answers : st.answers = 1

section

variable {st st' : Stream} {e : StreamEvent}

/-- What happens to a stream that waits: it goes on waiting, or answers. -/
theorem Stream.Held.step (h : st.Held) (hok : st.Patient e)
    (hstep : st.step sha1Hex e = some st') : st'.Held ∨ st'.Done := by
  obtain ⟨hstate, hfresh, hanswers⟩ := h
  cases st with
  | ibb s =>
    cases e with
    | ibb e =>
      obtain ⟨s', hs', rfl⟩ := Option.map_eq_some_iff.mp hstep
      have hun : Ibb.Unaccepted s := hfresh
      have hturn := Ibb.turn_openStep (fun _ => hun.inits) hs'
      rcases hturn.asked hstate with ⟨hpending, heq⟩ | ⟨hleft, heq⟩ | hlost
      · refine .inl ⟨hpending, ?_, heq.trans hanswers⟩
        refine (hun.openStep hs').resolve_left fun haccepted => ?_
        exact Ibb.BytestreamState.noConfusion (haccepted.symm.trans hpending)
      · exact .inr ⟨hleft, heq.trans (congrArg (· + 1) hanswers)⟩
      · exact hlost.elim
    | socks5 e => cases hstep
  | socks5 s =>
    cases e with
    | ibb e => cases hstep
    | socks5 e =>
      obtain ⟨s', hs', rfl⟩ := Option.map_eq_some_iff.mp hstep
      have hbefore : Socks5.Before s := hfresh
      have hnever : ¬ Socks5.completes s e = true := by
        rw [hok hstate]
        exact Bool.false_ne_true
      have hafter : s'.bytestreamState = .accepted ∨ Socks5.Before s' := by
        rcases hbefore.step hs' with h | h | h
        · exact .inl h.1
        · exact .inr h.1
        · exact absurd h.2.2 hnever
      have hturn := Socks5.turn_step (fun _ =>
        ⟨hbefore.unaccepted.passive.inits, hbefore.unaccepted.passive.activations⟩) hs'
      rcases hturn.asked hstate with ⟨hpending, heq⟩ | ⟨hleft, heq⟩ | hlost
      · refine .inl ⟨hpending, ?_, heq.trans hanswers⟩
        refine hafter.resolve_left fun haccepted => ?_
        exact Ibb.BytestreamState.noConfusion (haccepted.symm.trans hpending)
      · exact .inr ⟨hleft, heq.trans (congrArg (· + 1) hanswers)⟩
      · rcases hafter with haccepted | hs'
        · exact absurd haccepted hlost.state.2
        · exact absurd hlost.used hs'.not_used.1

/-- A stream that is not pending gives no answer. -/
theorem Stream.settled_step (h : st.state ≠ .localPending)
    (hstep : st.step sha1Hex e = some st') :
    st'.state ≠ .localPending ∧ st'.answers = st.answers := by
  cases st with
  | ibb s =>
    cases e with
    | ibb e =>
      obtain ⟨s', hs', rfl⟩ := Option.map_eq_some_iff.mp hstep
      exact (Ibb.turn_openStep (fun hpending => absurd hpending h) hs').settled h
    | socks5 e => cases hstep
  | socks5 s =>
    cases e with
    | ibb e => cases hstep
    | socks5 e =>
      obtain ⟨s', hs', rfl⟩ := Option.map_eq_some_iff.mp hstep
      exact (Socks5.turn_step (fun hpending => absurd hpending h) hs').settled h

theorem Stream.Done.step (h : st.Done) (hstep : st.step sha1Hex e = some st') : st'.Done := by
  obtain ⟨hstate, heq⟩ := settled_step h.state hstep
  exact ⟨hstate, heq.trans h.answers⟩

/-- A call is not something that a streamhost does. -/
theorem Stream.patient_called (st : Stream) (call : Call) : st.Patient (st.called call) := by
  cases st with
  | ibb s => trivial
  | socks5 s =>
    cases call with
    | close error => exact fun _ => rfl
    | send str => exact fun _ => rfl
    | blockReading block => exact fun _ => rfl

/-! ### New streams -/

variable {offer : Offer} {sub : Multiple.Sub}

/-- A bytestream of either kind. -/
theorem created_cases {n : ℕ} {state : BytestreamState}
    (h : createFromMethod offer n method state = .created st) :
    st = .ibb (Ibb.State.new 4096 state) ∨
      ∃ selfJid, st = .socks5 (Socks5.State.new offer.streamId offer.peerJid selfJid
        offer.mucContact state (offer.writes n)) := by
  rw [createFromMethod] at h
  split at h
  · cases h
    exact .inl rfl
  split at h
  · split at h
    · cases h
    case h_2 selfJid _ =>
      cases h
      exact .inr ⟨selfJid, rfl⟩
  · cases h

theorem held_created {n : ℕ}
    (h : createFromMethod offer n method .localPending = .created st) : st.Held := by
  rcases created_cases h with rfl | ⟨selfJid, rfl⟩
  · exact ⟨rfl, Ibb.unaccepted_new 4096, rfl⟩
  · exact ⟨rfl, Socks5.before_new, rfl⟩

/-- With our own jid there is a bytestream for each method that we know. -/
theorem exists_created (hself : offer.selfJid ≠ none) {n : ℕ} {method : String}
    {state : BytestreamState} (hmethod : Multiple.streamMethodSupported method = true) :
    ∃ st, createFromMethod offer n (some method) state = .created st := by
  obtain ⟨selfJid, hself⟩ := Option.ne_none_iff_exists'.mp hself
  rw [createFromMethod]
  split
  · exact ⟨_, rfl⟩
  case isFalse hibb =>
    have hsocks5 : some method = some Multiple.nsBytestreams := by
      simp only [Multiple.streamMethodSupported, Bool.or_eq_true, decide_eq_true_eq] at hmethod
      rw [hmethod.resolve_left fun h => hibb (congrArg some h)]
    rw [if_pos hsocks5, hself]
    exact ⟨_, rfl⟩

theorem blockReading_created {n : ℕ} {state : BytestreamState}
    (h : createFromMethod offer n method state = .created st) (block : Bool) :
    (st.blockReading block).state = state ∧ (st.blockReading block).answers = 0 ∧
      (block = false → st.blockReading block = st) := by
  rcases created_cases h with rfl | ⟨selfJid, rfl⟩
  · cases block with
    | true => exact ⟨rfl, rfl, nofun⟩
    | false => exact ⟨rfl, rfl, fun _ => rfl⟩
  · cases block with
    | true => exact ⟨rfl, rfl, nofun⟩
    | false => exact ⟨rfl, rfl, fun _ => rfl⟩

end

/-! ## Streams with fallback methods -/

namespace Bundle

/-- The multiple bytestream is pending, with the bytestream for its first method. -/
structure Waiting (b : Bundle) (sub : Multiple.Sub) (st : Stream) : Prop where
  ready : Multiple.Ready sub b.multiple
  streams : b.streams = [st]
  accepts : b.accepts = 0

/-- The request is answered, and no bytestream is pending. -/
structure Settled (b : Bundle) : Prop where
  state : b.multiple.state ≠ .localPending
  streams : ∀ st ∈ b.streams, st.state ≠ .localPending
  answers : b.answers = 1

/-- It waits with the answer, or has given it. -/
def Held (b : Bundle) : Prop := (∃ sub st, b.Waiting sub st ∧ st.Held) ∨ b.Settled

section

variable {b b' : Bundle} {sub sub' : Multiple.Sub} {st st' : Stream} {id : ℕ}
  {f : Multiple.State → Multiple.State}

theorem newStream_some {offer : Offer} (h : newStream offer sub = some st) :
    st.state = sub.state ∧ st.answers = 0 := by
  rw [newStream] at h
  split at h
  case h_1 stream hcreated =>
    cases h
    obtain ⟨hstate, hanswers, -⟩ := blockReading_created hcreated sub.readBlocked
    exact ⟨hstate, hanswers⟩
  case h_2 => cases h

theorem Waiting.change (h : b.Waiting sub st) (hf : Multiple.Ready sub' (f b.multiple)) :
    (b.change f).Waiting sub' st := by
  refine ⟨hf, ?_, h.accepts⟩
  rw [Bundle.change, h.streams, hf.subs, h.ready.subs]
  rfl

/-- Its bytestream has answered. -/
theorem Waiting.settled (h : b.Waiting sub st) (hst : st.Done)
    (hstate : (f b.multiple).state ≠ .localPending) (hlength : (f b.multiple).subs.length = 1) :
    (b.change f).Settled := by
  have hstreams : (b.change f).streams = [st] := by
    rw [Bundle.change, h.streams, h.ready.subs, List.length_singleton, ← hlength, List.drop_length]
    rfl
  refine ⟨hstate, ?_, ?_⟩
  · rw [hstreams]
    exact List.forall_mem_singleton.mpr hst.state
  · rw [Bundle.answers, hstreams, show (b.change f).accepts = b.accepts from rfl, h.accepts,
      List.map_singleton, List.sum_singleton, hst.answers]

theorem Settled.change (h : b.Settled) (hf : Multiple.Onward b.multiple (f b.multiple)) :
    (b.change f).Settled := by
  have hnew : ∀ st ∈ ((f b.multiple).subs.drop b.multiple.subs.length).filterMap
      (newStream b.offer), st.state ≠ .localPending ∧ st.answers = 0 := by
    intro st hst
    obtain ⟨sub, hsub, hst⟩ := List.mem_filterMap.mp hst
    obtain ⟨hstate, hanswers⟩ := newStream_some hst
    exact ⟨by rw [hstate]; exact hf.subs sub hsub, hanswers⟩
  refine ⟨hf.state, ?_, ?_⟩
  · exact List.forall_mem_append.mpr ⟨h.streams, fun st hst => (hnew st hst).1⟩
  · have hzero : ((((f b.multiple).subs.drop b.multiple.subs.length).filterMap
        (newStream b.offer)).map Stream.answers).sum = 0 := by
      refine List.sum_eq_zero_iff_forall_eq_nat.mpr fun n hn => ?_
      obtain ⟨st, hst, rfl⟩ := List.mem_map.mp hn
      exact (hnew st hst).2
    have hbefore : b.accepts + (b.streams.map Stream.answers).sum = 1 := h.answers
    rw [Bundle.answers, Bundle.change, List.map_append, List.sum_append, hzero, Nat.add_zero]
    exact hbefore

theorem Settled.signal (h : b.Settled) {f : Multiple.Sub → Multiple.State → Multiple.State}
    (hf : ∀ sub s, s.state ≠ .localPending → Multiple.Onward s (f sub s)) :
    (b.signal id f).Settled := by
  rw [Bundle.signal]
  split
  · exact h
  · exact h.change (hf _ _ h.state)

/-! ### A bytestream of the bundle -/

theorem map_answers_set {streams : List Stream} (hst : streams[id]? = some st)
    (heq : st'.answers = st.answers) :
    (streams.set id st').map Stream.answers = streams.map Stream.answers := by
  obtain ⟨hlt, rfl⟩ := List.getElem?_eq_some_iff.mp hst
  rw [List.map_set, heq, ← List.getElem_map Stream.answers (h := by simpa using hlt),
    List.set_getElem_self]

theorem Settled.heard (h : b.Settled) (hst : b.streams[id]? = some st)
    (hstate : st'.state ≠ .localPending) (heq : st'.answers = st.answers) :
    (b.heard id st st').Settled := by
  have hset : ({ b with streams := b.streams.set id st' } : Bundle).Settled := by
    refine ⟨h.state, fun st₀ hst₀ => ?_, ?_⟩
    · rcases List.mem_or_eq_of_mem_set hst₀ with hmem | rfl
      · exact h.streams st₀ hmem
      · exact hstate
    · rw [Bundle.answers, map_answers_set hst heq]
      exact h.answers
  have htold := @Settled.signal _ id hset (fun sub => Multiple.connectionError sub false)
    fun sub s hs => Multiple.onward_connectionError hs sub
  rw [Bundle.heard]
  split
  · exact htold.signal fun sub s hs => Multiple.onward_subSetState hs sub hstate
  · exact hset.signal fun sub s hs => Multiple.onward_subSetState hs sub hstate

theorem Waiting.signal (h : b.Waiting sub st) (f : Multiple.Sub → Multiple.State → Multiple.State) :
    b.signal 0 f = b.change (f sub) := by
  have hfind : (b.multiple.subs.find? fun sub => sub.id = 0) = some sub := by
    rw [h.ready.subs, List.find?_cons_of_pos (by rw [h.ready.id]; rfl)]
  rw [Bundle.signal, hfind]

/-- The first bytestream goes on waiting, or it answers and the multiple bytestream follows
it. -/
theorem Waiting.heard (h : b.Waiting sub st) (hst' : st'.Held ∨ st'.Done) :
    (b.heard 0 st st').Held := by
  have hset : ({ b with streams := b.streams.set 0 st' } : Bundle).Waiting sub st' := by
    refine ⟨h.ready, ?_, h.accepts⟩
    rw [h.streams]
    rfl
  have hheard : ∀ b₁ : Bundle, b₁.Waiting sub st' →
      (b₁.signal 0 fun sub => Multiple.subSetState sub st'.state).Held := by
    intro b₁ h₁
    rw [h₁.signal]
    rcases h₁.ready.subSetState st'.state with ⟨hpending, hsame⟩ | ⟨hleft, hstate, hlength⟩
    · have hheld : st'.Held := hst'.resolve_right fun hdone => hdone.state hpending
      refine .inl ⟨sub, st', h₁.change ?_, hheld⟩
      rw [hsame]
      exact h₁.ready
    · have hdone : st'.Done := hst'.resolve_left fun hheld => hleft hheld.state
      refine .inr (h₁.settled hdone ?_ hlength)
      rw [hstate]
      exact hleft
  rw [Bundle.heard]
  split
  · refine hheard _ ?_
    rw [hset.signal]
    exact hset.change hset.ready.connectionError
  · exact hheard _ hset

/-- Once its bytestream has answered, so has the multiple bytestream. -/
theorem Waiting.heard_done (h : b.Waiting sub st) (hdone : st'.Done) :
    (b.heard 0 st st').Settled := by
  rcases h.heard (.inr hdone) with ⟨sub', st₁, h₁, hheld⟩ | hsettled
  · have hkept : ∀ (f : Multiple.Sub → Multiple.State → Multiple.State) (b₁ : Bundle),
        b₁.streams[0]? = some st' → (b₁.signal 0 f).streams[0]? = some st' := by
      intro f b₁ hfirst
      rw [Bundle.signal]
      split
      · exact hfirst
      · obtain ⟨hlt, heq⟩ := List.getElem?_eq_some_iff.mp hfirst
        rw [Bundle.change, List.getElem?_append_left hlt, hfirst]
    have hset : ({ b with streams := b.streams.set 0 st' } : Bundle).streams[0]? = some st' := by
      rw [h.streams]
      rfl
    have hfirst : (b.heard 0 st st').streams[0]? = some st' := by
      rw [Bundle.heard]
      split
      · exact hkept _ _ (hkept _ _ hset)
      · exact hkept _ _ hset
    rw [h₁.streams] at hfirst
    obtain rfl : st₁ = st' := Option.some.inj hfirst
    exact absurd hheld.state hdone.state
  · exact hsettled

theorem Held.happens (h : b.Held) {e : StreamEvent} (hok : ∀ st ∈ b.streams[id]?, st.Patient e)
    (hs : b.happens sha1Hex id e = some b') : b'.Held := by
  obtain ⟨st, hst, hstep⟩ := Option.bind_eq_some_iff.mp hs
  obtain ⟨st', hst', rfl⟩ := Option.map_eq_some_iff.mp hstep
  rcases h with ⟨sub, st₀, h, hheld⟩ | h
  · have hfirst : [st₀][id]? = some st := by
      rw [← h.streams]
      exact hst
    cases id with
    | zero =>
      obtain rfl : st₀ = st := Option.some.inj hfirst
      exact h.heard (hheld.step (hok st₀ hst) hst')
    | succ id => cases hfirst
  · obtain ⟨hstate, heq⟩ := Stream.settled_step (h.streams st (List.mem_of_getElem? hst)) hst'
    exact .inr (h.heard hst hstate heq)

/-! ### Calls -/

theorem Held.tell (h : b.Held) (id : ℕ) (call : Call) : (b.tell sha1Hex id call).Held := by
  rw [Bundle.tell]
  cases hs : b.streams[id]?.bind fun st => b.happens sha1Hex id (st.called call) with
  | none => exact h
  | some b' =>
    obtain ⟨st, hst, hs⟩ := Option.bind_eq_some_iff.mp hs
    refine h.happens (fun st' hst' => ?_) hs
    obtain rfl : st = st' := Option.some.inj (hst.symm.trans hst')
    exact st.patient_called call

theorem Held.perform (h : b.Held) (effect : Multiple.Effect) : (b.perform sha1Hex effect).Held := by
  cases effect with
  | close id error => exact h.tell id (.close error)
  | send id str => exact h.tell id (.send str)
  | blockReading id block => exact h.tell id (.blockReading block)
  | _ => exact h

theorem Held.performAll (h : b.Held) (effects : List Multiple.Effect) :
    (effects.foldl (Bundle.perform sha1Hex) b).Held := by
  induction effects generalizing b with
  | nil => exact h
  | cons effect effects ih => exact ih (h.perform effect)

/-- A call of the owner: what it does to the multiple bytestream itself is known. -/
theorem Held.call (h : b.Held) (hready : ∀ sub, Multiple.Ready sub b.multiple →
      ∃ sub', Multiple.Ready sub' (f b.multiple))
    (honward : b.multiple.state ≠ .localPending → Multiple.Onward b.multiple (f b.multiple)) :
    (b.call sha1Hex f).Held := by
  have hchanged : (b.change f).Held := by
    rcases h with ⟨sub, st, h, hheld⟩ | h
    · obtain ⟨sub', hready'⟩ := hready sub h.ready
      exact .inl ⟨sub', st, h.change hready', hheld⟩
    · exact .inr (h.change (honward h.state))
  exact hchanged.performAll _

theorem Held.close (h : b.Held) (error : Option GError) :
    (b.call sha1Hex (Multiple.close error)).Held :=
  h.call (fun sub hready => ⟨sub, hready.close error⟩) fun hstate =>
    Multiple.onward_close hstate error

theorem Held.send (h : b.Held) (str : Bytes) : (b.call sha1Hex (Multiple.send str)).Held := by
  refine h.call (fun sub hready => ⟨sub, ?_⟩) fun hstate => Multiple.onward_send hstate str
  rw [hready.send]
  exact hready

theorem Held.blockReading (h : b.Held) (block : Bool) :
    (b.call sha1Hex (Multiple.blockReading block)).Held :=
  h.call (fun _ hready => hready.blockReading block) fun hstate =>
    Multiple.onward_blockReading hstate block

theorem setState_accepted (h : st.Held) :
    (st.setState .accepted).state = .accepted ∧ (st.setState .accepted).answers = 0 := by
  obtain ⟨hstate, -, hanswers⟩ := h
  cases st with
  | ibb s =>
    have hne : s.state ≠ .accepted := fun h =>
      Ibb.BytestreamState.noConfusion (h.symm.trans hstate)
    rw [Stream.setState, Ibb.setState, if_neg hne]
    exact ⟨rfl, (@Ibb.siAnswers_of_out s _ [.stateChanged .accepted] rfl).trans hanswers⟩
  | socks5 s =>
    have hne : s.bytestreamState ≠ .accepted := fun h =>
      Ibb.BytestreamState.noConfusion (h.symm.trans hstate)
    rw [Stream.setState, Socks5.setState, if_neg hne]
    exact ⟨rfl, (@Socks5.siAnswers_of_out s _ [.stateChanged .accepted] rfl).trans hanswers⟩

/-- The multiple bytestream answers in place of its own. -/
theorem Held.accept (h : b.Held) (sent : Bool) : (b.accept sent).Held := by
  rcases h with ⟨sub, st, h, hheld⟩ | h
  · rw [Bundle.accept, h.ready.active, h.ready.state]
    rcases h.ready.accept sent with ⟨rfl, hready⟩ | ⟨rfl, hstate, hlength⟩
    · exact .inl ⟨sub, st, h.change hready, hheld⟩
    · right
      obtain ⟨haccepted, hanswers⟩ := setState_accepted hheld
      have hstreams : ((b.change (Multiple.accept true)).streams.modify 0
          (Stream.setState .accepted)) = [st.setState .accepted] := by
        rw [Bundle.change, h.streams, h.ready.subs, List.length_singleton, ← hlength,
          List.drop_length]
        rfl
      dsimp only
      rw [hstreams, h.accepts]
      refine ⟨?_, List.forall_mem_singleton.mpr ?_, ?_⟩
      · change (Multiple.accept true b.multiple).state ≠ .localPending
        rw [hstate]
        exact Ibb.BytestreamState.noConfusion
      · rw [haccepted]
        exact Ibb.BytestreamState.noConfusion
      · change 0 + 1 + ([st.setState .accepted].map Stream.answers).sum = 1
        rw [List.map_singleton, List.sum_singleton, hanswers]
  · have hsame : Multiple.accept sent b.multiple = b.multiple := by
      rw [Multiple.accept, if_pos h.state]
    have hchanged : (b.change (Multiple.accept sent)).Settled := by
      refine h.change ?_
      rw [hsame]
      exact Multiple.onward_of_length h.state rfl
    rw [Bundle.accept]
    split
    · exact .inr hchanged
    · rw [decide_eq_false h.state, Bool.and_false]
      exact .inr hchanged

theorem Held.step (h : b.Held) {e : BundleEvent} (hok : b.Patient e)
    (hs : b.step sha1Hex e = some b') : b'.Held := by
  obtain ⟨-, hs⟩ := Option.ite_none_left_eq_some.mp hs
  cases e with
  | accept sent =>
    obtain ⟨-, hs⟩ := Option.ite_none_left_eq_some.mp hs
    cases hs
    exact h.accept sent
  | close error =>
    obtain ⟨-, hs⟩ := Option.ite_none_left_eq_some.mp hs
    cases hs
    exact h.close error
  | send str =>
    obtain ⟨-, hs⟩ := Option.ite_none_left_eq_some.mp hs
    cases hs
    exact h.send str
  | blockReading block =>
    obtain ⟨-, hs⟩ := Option.ite_none_left_eq_some.mp hs
    cases hs
    exact h.blockReading block
  | dispose =>
    obtain ⟨-, hs⟩ := Option.ite_none_left_eq_some.mp hs
    cases hs
    have hdropped : ({ b with disposed := true } : Bundle).Held := by
      rcases h with ⟨sub, st, h, hheld⟩ | h
      · exact .inl ⟨sub, st, ⟨h.ready, h.streams, h.accepts⟩, hheld⟩
      · exact .inr ⟨h.state, h.streams, h.answers⟩
    rw [Bundle.dispose]
    dsimp only
    split
    · exact hdropped.close none
    · exact hdropped
  | stream id e =>
    obtain ⟨-, hs⟩ := Option.ite_none_left_eq_some.mp hs
    exact h.happens hok hs

/-! ### Methods -/

/-- Methods that we do not know are skipped. -/
theorem addMethods_of_not_usable {methods : List (Option String)}
    (h : ∀ method ∈ methods, ¬ Usable method) (b : Bundle) : b.addMethods methods = b := by
  induction methods with
  | nil => rfl
  | cons method methods ih =>
    have hrest := ih fun method hmem => h method (List.mem_cons_of_mem _ hmem)
    cases method with
    | none => exact hrest
    | some method =>
      have hno : ¬ Multiple.streamMethodSupported method = true :=
        h (some method) List.mem_cons_self
      rw [Bundle.addMethods, if_neg hno]
      exact hrest

/-- The multiple bytestream has got its methods, and nothing has happened to it. -/
structure Fresh (b : Bundle) (sub : Multiple.Sub) (st : Stream) : Prop where
  waiting : b.Waiting sub st
  created : ∃ method, createFromMethod b.offer 0 method .localPending = .created st
  disposed : b.disposed = false
  calm : b.multiple.aborted = false

theorem Fresh.held (h : b.Fresh sub st) : b.Held := by
  obtain ⟨method, hcreated⟩ := h.created
  exact .inl ⟨sub, st, h.waiting, held_created hcreated⟩

theorem Fresh.addMethods (h : b.Fresh sub st) (methods : List (Option String)) :
    (b.addMethods methods).Fresh sub st := by
  induction methods generalizing b with
  | nil => exact h
  | cons method methods ih =>
    cases method with
    | none => exact ih h
    | some method =>
      refine ih ?_
      split
      · refine ⟨h.waiting.change (h.waiting.ready.addStreamMethod method), h.created,
          h.disposed, ?_⟩
        have hactive : b.multiple.activeBytestream ≠ none := by
          rw [h.waiting.ready.active]
          exact Option.some_ne_none 0
        change (Multiple.addStreamMethod method b.multiple).aborted = false
        rw [Multiple.addStreamMethod]
        dsimp only
        rw [if_neg hactive]
        exact h.calm
      · exact h

/-- With a method that we know, there is a bytestream that waits with the answer. -/
theorem addMethods_new {offer : Offer} (hself : offer.selfJid ≠ none)
    {methods : List (Option String)} (h : ∃ method ∈ methods, Usable method) :
    ∃ sub st, ((new offer).addMethods methods).Fresh sub st := by
  induction methods with
  | nil =>
    obtain ⟨method, hmem, -⟩ := h
    cases hmem
  | cons method methods ih =>
    by_cases husable : Usable method
    · cases method with
      | none => cases husable
      | some method =>
        have hmethod : Multiple.streamMethodSupported method = true := husable
        obtain ⟨st, hst⟩ := @exists_created offer hself 0 method .localPending hmethod
        have hadded : Multiple.addStreamMethod method (Multiple.new true) =
            { Multiple.new true with
              activeBytestream := some 0
              subs := [⟨0, method, .localPending, false, true, true⟩]
              offered := [method]
              out := [.blockReading 0 false] } := by
          simp [Multiple.addStreamMethod, Multiple.activateNext, Multiple.createFromMethod,
            Multiple.unregister, Multiple.emit, Multiple.new, hmethod]
        have hfirst : ((new offer).change (Multiple.addStreamMethod method)).Fresh
            ⟨0, method, .localPending, false, true, true⟩ st := by
          refine ⟨⟨?_, ?_, rfl⟩, ⟨some method, hst⟩, rfl, ?_⟩
          · change Multiple.Ready _ (Multiple.addStreamMethod method (Multiple.new true))
            rw [hadded]
            exact ⟨rfl, rfl, rfl, rfl, rfl, rfl⟩
          · have hstream : newStream offer ⟨0, method, .localPending, false, true, true⟩ =
                some st := by
              rw [newStream, hst]
              exact congrArg some ((blockReading_created hst false).2.2 rfl)
            change [] ++ ((Multiple.addStreamMethod method (Multiple.new true)).subs.drop
              0).filterMap (newStream offer) = [st]
            rw [hadded]
            simp [hstream]
          · change (Multiple.addStreamMethod method (Multiple.new true)).aborted = false
            rw [hadded]
            rfl
        refine ⟨⟨0, method, .localPending, false, true, true⟩, st, ?_⟩
        rw [Bundle.addMethods, if_pos hmethod]
        exact hfirst.addMethods methods
    · obtain ⟨method', hmem, husable'⟩ := h
      have hrest := ih ⟨method', (List.mem_cons.mp hmem).resolve_left fun heq =>
        husable (heq ▸ husable'), husable'⟩
      cases method with
      | none => exact hrest
      | some method =>
        have hno : ¬ Multiple.streamMethodSupported method = true := husable
        rw [Bundle.addMethods, if_neg hno]
        exact hrest

end

end Bundle

/-! ## The request -/

/-- An error was sent, or there is a bytestream that waits with the answer or has given
it. -/
def Outcome.Held : Outcome → Prop
  | .replied _ => True
  | .single st => st.Held ∨ st.Done
  | .multiple b => b.Held
  | _ => False

section

variable {env : Env} {msg : Request} {outcome outcome' : Outcome}

/-- With an `id`, whatever answer is built can be sent. -/
theorem Outcome.built_of_id {id : Option Bytes} (hid : id ≠ none) (accepts : Bool) :
    Outcome.built id accepts outcome outcome' = outcome' := if_neg fun h => hid h.1

theorem Outcome.Held.once (h : outcome.Held) : view.Once outcome := by
  cases outcome with
  | replied error => exact ⟨fun hwaits => hwaits.elim, fun _ => rfl⟩
  | single st =>
    rcases h with h | h
    · exact ⟨fun _ => h.answers, fun hdone => absurd h.state hdone⟩
    · exact ⟨fun hwaits => absurd hwaits h.state, fun _ => h.answers⟩
  | multiple b =>
    rcases h with ⟨sub, st, h, hheld⟩ | h
    · refine ⟨fun _ => ?_, fun hdone => absurd h.ready.state hdone⟩
      change b.accepts + (b.streams.map Stream.answers).sum = 0
      rw [h.accepts, h.streams, List.map_singleton, List.sum_singleton, hheld.answers]
    · exact ⟨fun hwaits => absurd hwaits h.state, fun _ => h.answers⟩
  | ignored => exact h.elim
  | aborted => exact h.elim

/-- **Whatever happens later, the request is answered once.** -/
theorem Outcome.Held.step (h : outcome.Held) {id : Option Bytes} (hid : id ≠ none) {e : Event}
    (hok : Patient outcome e) (hstep : outcome.step sha1Hex id e = some outcome') :
    outcome'.Held := by
  cases outcome with
  | single st =>
    cases e with
    | single e =>
      obtain ⟨st', hst', rfl⟩ := Option.map_eq_some_iff.mp hstep
      rw [built_of_id hid]
      rcases h with h | h
      · exact h.step hok hst'
      · exact .inr (h.step hst')
    | multiple e => cases hstep
  | multiple b =>
    cases e with
    | single e => cases hstep
    | multiple e =>
      obtain ⟨b', hb', rfl⟩ := Option.map_eq_some_iff.mp hstep
      rw [built_of_id hid]
      have hheld : b.Held := h
      exact hheld.step hok hb'
  | replied error => cases hstep
  | ignored => cases hstep
  | aborted => cases hstep

theorem Outcome.Held.close (h : outcome.Held) {id : Option Bytes} (hid : id ≠ none)
    (error : Option GError) : (outcome.close sha1Hex id error).Held := by
  cases outcome with
  | single st =>
    rw [Outcome.close, built_of_id hid]
    change Stream.Held _ ∨ Stream.Done _
    cases hs : st.step sha1Hex (st.called (.close error)) with
    | none => exact h
    | some st' =>
      rcases h with h | h
      · exact h.step (st.patient_called _) hs
      · exact .inr (h.step hs)
  | multiple b =>
    rw [Outcome.close, built_of_id hid]
    have hheld : b.Held := h
    exact hheld.close error
  | replied error => trivial
  | ignored => exact h.elim
  | aborted => exact h.elim

/-- The handlers of the profiles do nothing at once but close the bytestream. -/
theorem Outcome.Held.inform (h : outcome.Held) (hid : msg.id ≠ none) (p : Parsed) (peer : Peer) :
    (inform sha1Hex env msg p peer outcome).Held := by
  rw [Si.inform]
  split
  · rw [siTubeReceived]
    split
    · exact h
    split
    · exact h
    split
    · split
      · exact h.close hid _
      · exact h
    · exact h.close hid _
  split
  · exact h
  · exact h.close hid _

/-- An error is sent, if the request has an `id`. -/
theorem sendIqError_of_id (hid : msg.id ≠ none) (error : GError) :
    sendIqError msg error = .replied error := if_neg hid

theorem held_sendIqError (hid : msg.id ≠ none) (error : GError) :
    (sendIqError msg error).Held := by
  rw [sendIqError_of_id hid]
  trivial

/-! ### Without fallback -/

theorem usable_iff :
    Usable method ↔ method = some Multiple.nsIbb ∨ method = some Multiple.nsBytestreams := by
  cases method with
  | none => simp [Usable]
  | some method => simp [Usable, Multiple.streamMethodSupported]

theorem createFromMethod_null (offer : Offer) (n : ℕ)
    (h : ¬ Usable method) (state : BytestreamState) :
    createFromMethod offer n method state = .null := by
  rw [usable_iff, not_or] at h
  rw [createFromMethod, if_neg h.1, if_neg h.2]

theorem createFromMethod_usable (offer : Offer) (n : ℕ)
    (h : Usable method) (state : BytestreamState) :
    createFromMethod offer n method state ≠ .null := by
  rw [createFromMethod]
  split
  · exact Creation.noConfusion
  case isFalse hibb =>
    rw [if_pos ((usable_iff.mp h).resolve_left hibb)]
    split
    · exact Creation.noConfusion
    · exact Creation.noConfusion

/-- The first method that we know decides. -/
theorem createSingle_eq (msg : Request) (offer : Offer) (methods : List (Option String)) :
    createSingle msg offer methods =
      match methods.find? fun method => method.any Multiple.streamMethodSupported with
      | none => sendIqError msg ⟨.noValidStreams, some ""⟩
      | some method =>
        match createFromMethod offer 0 method .localPending with
        | .created st => .single st
        | _ => .aborted := by
  induction methods with
  | nil => rfl
  | cons method methods ih =>
    rw [createSingle]
    by_cases husable : Usable method
    · have hcreated := createFromMethod_usable offer 0 husable .localPending
      rw [List.find?_cons_of_pos husable]
      cases hcreation : createFromMethod offer 0 method .localPending with
      | null => exact absurd hcreation hcreated
      | failed =>
        dsimp only
        rw [hcreation]
      | created st =>
        dsimp only
        rw [hcreation]
    · rw [List.find?_cons_of_neg husable, createFromMethod_null offer 0 husable .localPending]
      exact ih

theorem createSingle_of_not_usable {methods : List (Option String)}
    (h : ∀ method ∈ methods, ¬ Usable method) (offer : Offer) :
    createSingle msg offer methods = sendIqError msg ⟨.noValidStreams, some ""⟩ := by
  rw [createSingle_eq, List.find?_eq_none.mpr h]

/-- There is our own jid, or the first method that we know does without. -/
theorem held_createSingle (hid : msg.id ≠ none) {offer : Offer} {methods : List (Option String)}
    (h : offer.selfJid ≠ none ∨
      methods.find? (fun method => method.any Multiple.streamMethodSupported) ≠
        some (some Multiple.nsBytestreams)) :
    (createSingle msg offer methods).Held := by
  rw [createSingle_eq]
  cases hfind : methods.find? fun method => method.any Multiple.streamMethodSupported with
  | none => exact held_sendIqError hid _
  | some method =>
    have husable : Usable method := List.find?_some hfind
    have hcreated : ∃ st, createFromMethod offer 0 method .localPending = .created st := by
      rcases usable_iff.mp husable with rfl | rfl
      · exact ⟨_, rfl⟩
      · exact exists_created (h.resolve_right (not_not.mpr hfind)) (by decide +kernel)
    obtain ⟨st, hst⟩ := hcreated
    dsimp only
    rw [hst]
    exact .inl (held_created hst)

/-- The constructor of the SOCKS5 bytestream fails. -/
theorem createSingle_aborted {offer : Offer} {methods : List (Option String)}
    (hself : offer.selfJid = none)
    (hfind : methods.find? (fun method => method.any Multiple.streamMethodSupported) =
      some (some Multiple.nsBytestreams)) :
    createSingle msg offer methods = .aborted := by
  have hfailed :
      createFromMethod offer 0 (some Multiple.nsBytestreams) .localPending = .failed := by
    rw [createFromMethod, if_neg (by decide +kernel), if_pos rfl, hself]
  rw [createSingle_eq, hfind]
  dsimp only
  rw [hfailed]

/-! ### The handler -/

/-- A bytestream without methods is closed, and nobody is told. -/
theorem close_new (offer : Offer) (id : Option Bytes) (error : Option GError) :
    ∃ b, (Outcome.multiple (Bundle.new offer)).close sha1Hex id error = .multiple b ∧
      b.multiple.state = .closed ∧ b.streams = [] ∧ b.accepts = 0 :=
  ⟨_, if_neg fun h => h.2.elim Bool.false_ne_true (Nat.lt_irrefl 0), rfl, rfl, rfl⟩

/-- A request that is heard gets an answer, or a bytestream that waits with it. -/
theorem held_iqSiCb (h : Heard env msg) : (iqSiCb sha1Hex env msg).Held := by
  obtain ⟨hid, h⟩ := h
  rw [iqSiCb]
  cases hparsed : streaminitParseRequest msg with
  | none => exact held_sendIqError hid _
  | some p =>
    obtain ⟨peer, hpeer, hanswers⟩ := h p hparsed
    rw [Option.mem_def] at hpeer
    dsimp only
    rw [hpeer]
    dsimp only
    split
    · exact held_sendIqError hid _
    case isFalse hhandle =>
      replace hanswers := hanswers.resolve_left hhandle
      split
      case isTrue hmultiple =>
        rw [if_pos hmultiple] at hanswers
        obtain ⟨hself, husable⟩ := hanswers
        obtain ⟨sub, st, hfresh⟩ := @Bundle.addMethods_new (peer.offer env p) hself
          p.streamMethods husable
        have hmethod : Multiple.hasStreamMethod
            ((Bundle.new (peer.offer env p)).addMethods p.streamMethods).multiple = true := by
          rw [Multiple.hasStreamMethod, hfresh.waiting.ready.active]
          rfl
        rw [if_neg hself, if_pos hmethod]
        have hbundle : (Outcome.multiple
            ((Bundle.new (peer.offer env p)).addMethods p.streamMethods)).Held := hfresh.held
        exact hbundle.inform hid p peer
      case isFalse hsingle =>
        rw [if_neg hsingle] at hanswers
        have hheld := @held_createSingle msg hid (peer.offer env p) p.streamMethods hanswers
        split
        case h_1 st hst =>
          rw [hst] at hheld
          exact hheld.inform hid p peer
        case h_2 => exact hheld

/-! ### Requests that are not answered -/

/-- Nothing is waited for, and nothing was sent. -/
structure Outcome.Silent (outcome : Outcome) : Prop where
  idle : ¬ outcome.Waits
  answers : outcome.answers = 0

theorem Outcome.Silent.not_once (h : outcome.Silent) : ¬ view.Once outcome := by
  intro honce
  have hone : outcome.answers = 1 := honce.2 h.idle
  rw [h.answers] at hone
  cases hone

theorem silent_ignored : Outcome.ignored.Silent := ⟨id, rfl⟩

theorem silent_aborted : Outcome.aborted.Silent := ⟨id, rfl⟩

theorem silent_close_new (offer : Offer) (id : Option Bytes) (error : Option GError) :
    ((Outcome.multiple (Bundle.new offer)).close sha1Hex id error).Silent := by
  obtain ⟨b, hb, hclosed, hstreams, haccepts⟩ := @close_new sha1Hex offer id error
  rw [hb]
  constructor
  · change ¬ b.multiple.state = .localPending
    rw [hclosed]
    exact Ibb.BytestreamState.noConfusion
  · change b.accepts + (b.streams.map Stream.answers).sum = 0
    rw [hstreams, haccepts]
    rfl

/-- A bytestream that was created for the request, and has not been called yet. -/
inductive Outcome.Fresh : Outcome → Prop where
  | single {offer : Offer} {method : Option String} {st : Stream}
      (h : createFromMethod offer 0 method .localPending = .created st) : Fresh (.single st)
  | multiple {b : Bundle} {sub : Multiple.Sub} {st : Stream} (h : b.Fresh sub st) :
      Fresh (.multiple b)

/-- Closing a bytestream that was just created declines it. -/
theorem step_close_created (sha1Hex : Bytes → Bytes) {offer : Offer}
    {st : Stream} (h : createFromMethod offer 0 method .localPending = .created st)
    (error : Option GError) :
    ∃ st', st.step sha1Hex (st.called (.close error)) = some st' ∧ st.answers = 0 ∧ st'.Done := by
  rcases created_cases h with rfl | ⟨selfJid, rfl⟩
  · exact ⟨_, rfl, rfl, Ibb.BytestreamState.noConfusion, rfl⟩
  · exact ⟨_, rfl, rfl, Ibb.BytestreamState.noConfusion, rfl⟩

theorem Bundle.Fresh.answers_lt {b : Bundle} {sub : Multiple.Sub} {st : Stream}
    (h : b.Fresh sub st) (error : Option GError) :
    b.answers < (b.call sha1Hex (Multiple.close error)).answers := by
  obtain ⟨method, hcreated⟩ := h.created
  obtain ⟨st', hst', hzero, hdone⟩ := step_close_created sha1Hex hcreated error
  have hwaiting := h.waiting
  have hclose : Multiple.close error b.multiple =
      Multiple.emit (.close 0 error) b.multiple := by
    rw [Multiple.close, hwaiting.ready.state, if_neg Ibb.BytestreamState.noConfusion,
      hwaiting.ready.active]
  have hchanged : (b.change (Multiple.close error)).Waiting sub st :=
    hwaiting.change (hwaiting.ready.close error)
  have hcall : b.call sha1Hex (Multiple.close error) =
      (b.change (Multiple.close error)).heard 0 st st' := by
    have heffects : (Multiple.emit (.close 0 error) b.multiple).out.drop b.multiple.out.length =
        [.close 0 error] := List.drop_left
    rw [Bundle.call, hclose, heffects]
    change (b.change (Multiple.close error)).tell sha1Hex 0 (.close error) = _
    rw [Bundle.tell, hchanged.streams]
    change ((b.change (Multiple.close error)).happens sha1Hex 0 (st.called (.close error))).getD
      _ = _
    rw [Bundle.happens, hchanged.streams]
    change (((st.step sha1Hex (st.called (.close error))).map _).getD _) = _
    rw [hst']
    rfl
  have hbefore : b.answers = 0 := by
    rw [Bundle.answers, hwaiting.accepts, hwaiting.streams, List.map_singleton,
      List.sum_singleton, hzero]
  rw [hcall, hbefore, (hchanged.heard_done hdone).answers]
  exact Nat.zero_lt_one

/-- Without an `id` the refusal cannot be built. -/
theorem Outcome.Fresh.close (h : outcome.Fresh) (error : Option GError) :
    outcome.close sha1Hex none error = .aborted := by
  cases h with
  | single h =>
    rename_i st
    obtain ⟨st', hst', hzero, hdone⟩ := step_close_created sha1Hex h error
    refine if_pos ⟨rfl, .inr ?_⟩
    change st.answers < ((st.step sha1Hex (st.called (.close error))).getD st).answers
    rw [hst', hzero, Option.getD_some, hdone.answers]
    exact Nat.zero_lt_one
  | multiple h => exact if_pos ⟨rfl, .inr (h.answers_lt error)⟩

/-- The owner of the bytestream closes it. -/
theorem Outcome.Fresh.exists_aborted (h : outcome.Fresh) (sha1Hex : Bytes → Bytes) :
    ∃ e, Patient outcome e ∧ outcome.step sha1Hex none e = some .aborted := by
  cases h with
  | single h =>
    rename_i st
    obtain ⟨st', hst', hzero, hdone⟩ := step_close_created sha1Hex h none
    refine ⟨.single (st.called (.close none)), st.patient_called _, ?_⟩
    rw [Outcome.step, hst', Option.map_some]
    refine congrArg some (if_pos ⟨rfl, .inr ?_⟩)
    change st.answers < st'.answers
    rw [hzero, hdone.answers]
    exact Nat.zero_lt_one
  | multiple h =>
    rename_i b sub st
    obtain ⟨method, hcreated⟩ := h.created
    have hcalm : st.aborted = false := by
      rcases created_cases hcreated with rfl | ⟨selfJid, rfl⟩ <;> rfl
    have haborted : b.aborted = false := by
      rw [Bundle.aborted, h.calm, h.waiting.streams]
      simp [hcalm]
    refine ⟨.multiple (.close none), trivial, ?_⟩
    rw [Outcome.step, Bundle.step, if_neg (by rw [haborted]; exact Bool.false_ne_true),
      if_neg (by rw [h.disposed]; exact Bool.false_ne_true), Option.map_some]
    exact congrArg some (if_pos ⟨rfl, .inr (h.answers_lt none)⟩)

/-- The bytestream is closed at once, or is left to its owner. -/
theorem Outcome.Fresh.inform (h : outcome.Fresh) (hid : msg.id = none) (p : Parsed) (peer : Peer) :
    inform sha1Hex env msg p peer outcome = .aborted ∨
      inform sha1Hex env msg p peer outcome = outcome := by
  have hclose : ∀ error, outcome.close sha1Hex msg.id error = .aborted ∨
      outcome.close sha1Hex msg.id error = outcome := by
    intro error
    rw [hid]
    exact .inl (h.close error)
  rw [Si.inform]
  split
  · rw [siTubeReceived]
    split
    · exact .inr rfl
    split
    · exact .inr rfl
    split
    · split
      · exact hclose _
      · exact .inr rfl
    · exact hclose _
  split
  · exact .inr rfl
  · exact hclose _

/-- Without an `id` nothing is answered, and a bytestream that is created cannot
answer. -/
theorem iqSiCb_of_no_id (hid : msg.id = none) :
    (iqSiCb sha1Hex env msg).Silent ∨ (iqSiCb sha1Hex env msg).Fresh := by
  have herror : ∀ error, sendIqError msg error = .ignored := fun error => if_pos hid
  have hinform : ∀ {outcome : Outcome} (p : Parsed) (peer : Peer), outcome.Fresh →
      (inform sha1Hex env msg p peer outcome).Silent ∨
        (inform sha1Hex env msg p peer outcome).Fresh := by
    intro outcome p peer hfresh
    have hsame : inform sha1Hex env msg p peer outcome = .aborted ∨
        inform sha1Hex env msg p peer outcome = outcome := hfresh.inform hid p peer
    rcases hsame with heq | heq
    · exact .inl (heq ▸ silent_aborted)
    · exact .inr (heq.symm ▸ hfresh)
  rw [iqSiCb]
  split
  · exact .inl (herror _ ▸ silent_ignored)
  case h_2 p hparsed =>
    split
    · exact .inl silent_ignored
    case h_2 peer hpeer =>
      split
      · exact .inl (herror _ ▸ silent_ignored)
      split
      · split
        · exact .inl silent_aborted
        case isFalse hself =>
          by_cases husable : ∃ method ∈ p.streamMethods, Usable method
          · obtain ⟨sub, st, hfresh⟩ := @Bundle.addMethods_new (peer.offer env p) hself
              p.streamMethods husable
            have hmethod : Multiple.hasStreamMethod
                ((Bundle.new (peer.offer env p)).addMethods p.streamMethods).multiple = true := by
              rw [Multiple.hasStreamMethod, hfresh.waiting.ready.active]
              rfl
            rw [if_pos hmethod]
            exact hinform p peer (.multiple hfresh)
          · have hnone : ∀ method ∈ p.streamMethods, ¬ Usable method :=
              fun method hmem h => husable ⟨method, hmem, h⟩
            rw [Bundle.addMethods_of_not_usable hnone,
              if_neg (by exact Bool.false_ne_true)]
            exact .inl (silent_close_new _ _ _)
      · rw [createSingle_eq]
        cases hfind : p.streamMethods.find? fun method =>
            method.any Multiple.streamMethodSupported with
        | none => exact .inl (herror _ ▸ silent_ignored)
        | some method =>
          dsimp only
          cases hcreated : createFromMethod (peer.offer env p) 0 method .localPending with
          | null => exact .inl silent_aborted
          | failed => exact .inl silent_aborted
          | created st => exact hinform p peer (.single hcreated)

/-- A request that is not heard is not answered at all. -/
theorem silent_iqSiCb (hid : msg.id ≠ none) (h : ¬ Heard env msg) :
    (iqSiCb sha1Hex env msg).Silent := by
  rw [Heard, not_and] at h
  replace h := h hid
  push Not at h
  obtain ⟨p, hparsed, hpeers⟩ := h
  rw [Option.mem_def] at hparsed
  rw [iqSiCb, hparsed]
  dsimp only
  cases hpeer : findPeer env msg p with
  | none => exact silent_ignored
  | some peer =>
    obtain ⟨hhandle, hno⟩ := hpeers peer hpeer
    dsimp only
    rw [if_neg hhandle]
    split
    case isTrue hmultiple =>
      rw [if_pos hmultiple] at hno
      split
      · exact silent_aborted
      case isFalse hself =>
        have hmethods : ∀ method ∈ p.streamMethods, ¬ Usable method := fun method hmem husable =>
          hno ⟨hself, method, hmem, husable⟩
        have hnone : ¬ Multiple.hasStreamMethod (Bundle.new (peer.offer env p)).multiple = true :=
          Bool.false_ne_true
        rw [Bundle.addMethods_of_not_usable hmethods, if_neg hnone]
        exact silent_close_new _ _ _
    case isFalse hsingle =>
      rw [if_neg hsingle] at hno
      push Not at hno
      obtain ⟨hself, hfind⟩ := hno
      rw [@createSingle_aborted msg (peer.offer env p) p.streamMethods hself hfind]
      exact silent_aborted

theorem not_answeredOnce_of_not_heard (h : ¬ Heard env msg) : ¬ AnsweredOnce sha1Hex env msg := by
  intro honce
  by_cases hid : msg.id = none
  · have hmute : (iqSiCb sha1Hex env msg).Silent ∨ (iqSiCb sha1Hex env msg).Fresh :=
      iqSiCb_of_no_id hid
    rcases hmute with hsilent | hfresh
    · exact hsilent.not_once (honce.1 _ .init)
    · obtain ⟨e, hok, hstep⟩ := hfresh.exists_aborted sha1Hex
      rw [← hid] at hstep
      exact silent_aborted.not_once (honce.1 _ (Reachable.init.step e hok hstep))
  · exact (silent_iqSiCb hid h).not_once (honce.1 _ .init)

/-- Without a method that we know, there is an error. -/
theorem replied_iqSiCb (h : Heard env msg) {p : Parsed}
    (hparsed : streaminitParseRequest msg = some p)
    (hmethods : ∀ method ∈ p.streamMethods, ¬ Usable method) :
    ∃ error, iqSiCb sha1Hex env msg = .replied error := by
  obtain ⟨peer, hpeer, hanswers⟩ := h.2 p hparsed
  rw [Option.mem_def] at hpeer
  rw [iqSiCb, hparsed]
  dsimp only
  rw [hpeer]
  dsimp only
  split
  · exact ⟨_, sendIqError_of_id h.1 _⟩
  case isFalse hhandle =>
    replace hanswers := hanswers.resolve_left hhandle
    have hsingle : ¬ p.multiple = true := by
      intro hmultiple
      rw [if_pos hmultiple] at hanswers
      obtain ⟨-, method, hmem, husable⟩ := hanswers
      exact hmethods method hmem husable
    rw [if_neg hsingle, createSingle_of_not_usable hmethods, sendIqError_of_id h.1]
    exact ⟨_, rfl⟩

end

/-! ### A request with unknown methods -/

/-- There are no rooms, and one peer. -/
def sampleEnv : Env where
  roomHandle _ := 0
  decodeJid jid :=
    match jid.dropWhile (· ≠ 47) with
    | [] => some none
    | _ :: resource => some (some resource)
  ensureHandle _ _ := 1
  inspect _ := ascii "d@e"
  textChannel _ := none
  fileTransfer := true
  writes _ := []

/-- A file is offered with a method that we do not know, and with fallback. -/
def unknownMethods : Request where
  id := some (ascii "1")
  fromJid := some (ascii "d@e/f")
  toJid := some (ascii "a@b/c")
  siId := some (ascii "s5")
  mimeType := none
  profile := some nsFileTransfer
  feature := some (some
    [⟨some "stream-method", some "list-single", [⟨some (some "jabber:iq:oob")⟩]⟩])
  siMultiple := true
  tube := false
  stream := false
  mucStream := false

end Si
