/-
# The answer to a query with streamhosts

Which events keep a target on its way from the query to its one answer.  The exceptions
are a close while it negotiates, a write that breaks the connection, a second query, and a
reply that is overlooked.
-/
import Gabble.BytestreamSocks5Heard

namespace Socks5

open Base64 Transition
open CText (ascii)

/-! ## One event of a negotiation -/

/-- What keeps the target on its way: the stream is not closed while the target
negotiates, the CONNECT command is not lost while there are other streamhosts, no
streamhost is connected when the authorization request is taken for sent, and there is one
query. -/
def Orderly (s : State) : Event → Prop
  | .close _ | .dispose => s.socks5State.isTarget = false
  | .received data => ¬ Retries s (s.readBuffer.getD [] ++ data)
  | .transportConnected => s.socks5State ≠ .targetAuthRequestSent
  | .query _ _ => False
  | _ => True

instance (s : State) : (e : Event) → Decidable (Orderly s e)
  | .close _ | .dispose => inferInstanceAs (Decidable (_ = _))
  | .received _ => inferInstanceAs (Decidable (¬ _))
  | .transportConnected => inferInstanceAs (Decidable (_ ≠ _))
  | .query _ _ => .isFalse id
  | .initiate _ _ _ | .accept _ | .send _ | .blockReading _ | .initReply _ _ | .activationReply _
  | .newConnection | .transportDisconnected | .transportBufferEmpty | .timeout => .isTrue trivial

/-- No reply is overlooked. -/
def Heedful (s : State) : Event → Prop
  | .received data => ¬ Overlooks s (s.readBuffer.getD [] ++ data)
  | _ => True

instance (s : State) : (e : Event) → Decidable (Heedful s e)
  | .received _ => inferInstanceAs (Decidable (¬ _))
  | .close _ | .dispose | .transportConnected | .query _ _ | .initiate _ _ _ | .accept _ | .send _
  | .blockReading _ | .initReply _ _ | .activationReply _ | .newConnection
  | .transportDisconnected | .transportBufferEmpty | .timeout => .isTrue trivial

/-- The condition on one event. -/
def Unhindered (t : Transcript) (e : Event) : Prop := Orderly t.state e ∧ Heedful t.state e

instance (t : Transcript) (e : Event) : Decidable (Unhindered t e) :=
  inferInstanceAs (Decidable (_ ∧ _))

/-- The query is answered once, and rightly. -/
structure AnswersRightly (iq : ℕ) (hosts : List Streamhost) (t : Transcript) : Prop where
  answers : Answers iq hosts t.state
  justified : Justified t

section

variable {sha1Hex : Bytes → Bytes} {iq : ℕ} {hosts done rest : List Streamhost} {h : Streamhost}
  {s s' : State} {e : Event} {t t' : Transcript}

section

variable (hs : Negotiates iq hosts s)

include hs

/-- A streamhost that connects was connected to, unless its request was missed. -/
theorem Negotiates.connecting (henabled : enabled s .transportConnected = true)
    (hne : s.socks5State ≠ .targetAuthRequestSent) : s.socks5State = .targetTryingConnect := by
  obtain ⟨t, ht, hstage⟩ := hs.stage
  have hphase : t.phase = .connecting := by
    rw [enabled, ht] at henabled
    exact of_decide_eq_true henabled
  rw [hphase] at hstage
  generalize s.socks5State = state, s.timer = timer, asked s = asked at hstage hne
  cases hstage with
  | connecting => rfl
  | missed => exact absurd rfl hne

theorem Negotiates.reading (hreceives : receives s = true) :
    s.socks5State = .targetAuthRequestSent ∨ s.socks5State = .targetConnectRequested := by
  obtain ⟨t, ht, hphase, -⟩ := receives_iff.mp hreceives
  obtain ⟨t', ht', hstage⟩ := hs.stage
  rw [ht, Option.some_inj] at ht'
  subst ht'
  rw [hphase] at hstage
  generalize s.socks5State = state, s.timer = timer, asked s = asked at hstage
  cases hstage with
  | asking => exact .inl rfl
  | requesting => exact .inr rfl

/-- The bytes of a streamhost that is connected. -/
theorem Negotiates.received {data : Bytes}
    (hreceives : receives s = true) (hno : ¬ Retries s (s.readBuffer.getD [] ++ data)) :
    Held iq hosts (transportHandler sha1Hex data s) := by
  obtain ⟨done, h, rest, hsplit, htries⟩ := hs.tries
  obtain ⟨t, ht, hstage⟩ := hs.stage
  obtain ⟨t', ht', hphase, -⟩ := receives_iff.mp hreceives
  obtain ⟨buffer, hbuffer⟩ := Option.ne_none_iff_exists'.mp hs.buffer
  have hconnected : ∀ t, s.transport = some t → t.phase = .connected := fun t ht => by
    rw [ht] at ht'
    exact Option.some.inj ht' ▸ hphase
  rw [hbuffer, Option.getD_some] at hno
  rw [transportHandler, hbuffer]
  dsimp only
  set s₁ : State := { s with readBuffer := some (buffer ++ data) }
  have hs₁ : Negotiates iq hosts s₁ :=
    ⟨⟨done, h, rest, hsplit, htries.set _ _ _ (some (buffer ++ data))⟩, hs.stage,
      Option.some_ne_none _⟩
  rcases hs.reading hreceives with hstate | hstate
  · exact hs₁.readLoop_asking hstate hconnected rfl hno _
  · exact hs₁.readLoop_requesting hstate _

theorem Negotiates.transportBufferEmptyCb :
    Negotiates iq hosts (transportBufferEmptyCb s) := by
  obtain ⟨done, h, rest, hsplit, htries⟩ := hs.tries
  have hopen : s.bytestreamState ≠ .closing := by
    rcases htries.state with hstate | hstate <;> rw [hstate] <;> decide
  have hcalm := calm_changeWriteBlockedState false s
  have hsilent := silent_changeWriteBlockedState false s
  rw [Socks5.transportBufferEmptyCb, if_neg hopen]
  split
  case isFalse => exact hs
  case isTrue hblocked =>
    rw [changeWriteBlockedState, if_neg (by simp [hblocked])] at hcalm hsilent ⊢
    exact hs.keep hcalm hsilent rfl rfl (asked_append rfl rfl) htries.state rfl rfl

end

/-- Accepting the stream initiation does not touch the negotiation. -/
theorem accepted_quietly (s : State) : Calm s (setState .accepted (emit .siAccept s)) ∧
    Silent s (setState .accepted (emit .siAccept s)) := by
  have hcalm : Calm s (emit .siAccept s) := ⟨rfl, rfl, rfl, rfl, rfl, rfl, id⟩
  have hsilent : Silent s (emit .siAccept s) := silent_emit rfl s
  exact ⟨hcalm.trans (calm_setState .accepted _), hsilent.trans (silent_setState (by decide) _)⟩

/-- **One event of a negotiation** that meets the condition. -/
theorem Negotiates.step (hs : Negotiates iq hosts s) (hstep : step sha1Hex s e = some s')
    (hok : Orderly s e) : Held iq hosts s' := by
  obtain ⟨-, -, henabled, rfl⟩ := step_live hstep
  obtain ⟨done, h, rest, hsplit, htries⟩ := hs.tries
  obtain ⟨t, ht, hstage⟩ := hs.stage
  have htarget := hs.isTarget
  cases e with
  | initiate ips port proxies =>
    dsimp only [handle, initiate]
    rw [if_pos htries.passive.state]
    exact .inl hs
  | accept sent =>
    left
    dsimp only [handle, accept]
    split
    · exact hs
    split
    · obtain ⟨hcalm, hsilent⟩ := accepted_quietly s
      rw [setState_eq] at hcalm hsilent ⊢
      refine hs.keep hcalm hsilent rfl rfl ?_ (.inr rfl) rfl rfl
      have hsame : asked (emit .siAccept s) = asked s := asked_append rfl rfl
      rw [← hsame]
      refine asked_append rfl ?_
      split <;> rfl
    · exact hs
  | send str =>
    dsimp only [handle, send]
    rw [if_pos]
    · exact .inl hs
    · rcases htries.state with hstate | hstate <;> rw [hstate] <;> decide
  | close error =>
    rw [show s.socks5State.isTarget = false from hok] at htarget
    cases htarget
  | dispose =>
    rw [show s.socks5State.isTarget = false from hok] at htarget
    cases htarget
  | blockReading block =>
    left
    dsimp only [handle, blockReading]
    split
    · exact hs
    · rw [ht, if_pos (by rfl), blockReceiving]
      dsimp only
      refine ⟨⟨done, h, rest, hsplit, ?_⟩, ⟨_, rfl, ?_⟩, hs.buffer⟩
      · have hmarks : marks (emit (.transportBlockReceiving block) s) = marks s :=
          (marks_append rfl).trans (List.append_nil _)
        exact ⟨htries.streamhosts, htries.acknowledge, hmarks.trans htries.marks,
          ⟨htries.passive.listening, htries.passive.inits, htries.passive.activations,
            htries.passive.state⟩, htries.state, htries.running, htries.alive⟩
      · have hasked : asked (emit (.transportBlockReceiving block) s) = asked s :=
          asked_append rfl rfl
        rw [← hasked] at hstage
        exact hstage
  | query iq' nodes => exact absurd hok id
  | initReply | activationReply | newConnection => cases htries.passive.not_initiator henabled
  | transportConnected =>
    have hstate := hs.connecting henabled hok
    exact Tries.held_transportConnectedCb (htries.set _ _ _ _) hsplit hstate
      (show s.transport.map _ = some { t with phase := .connected } by rw [ht]; rfl) rfl hs.buffer
  | transportDisconnected =>
    exact Tries.held_socks5Error (s := stopTimer _) (htries.set _ _ _ _) hsplit htarget
  | transportBufferEmpty =>
    left
    refine Negotiates.transportBufferEmptyCb
      ⟨⟨done, h, rest, hsplit, htries.set _ _ _ _⟩, ⟨{ t with bufferEmpty := true }, ?_, hstage⟩,
        hs.buffer⟩
    rw [ht]
    rfl
  | received data =>
    rw [enabled, Bool.and_eq_true] at henabled
    exact hs.received henabled.1 hok
  | timeout => exact htries.held_socks5Error hsplit htarget

/-! ## Events that do not meet the condition -/

/-- A target negotiates exactly as long as it has not answered. -/
theorem Told.isTarget_iff {state : Socks5State} {shown : List Mark}
    (hshown : Told iq hosts state shown) :
    state.isTarget = true ↔ ∀ m ∈ shown, m.isTried = true := by
  cases hshown with
  | trying _ htarget => exact iff_of_true htarget (isTried_of_mem_map _)
  | used _ hstate =>
    refine iff_of_false ?_ fun hall => ?_
    · rcases hstate with rfl | rfl <;> decide
    · cases hall _ (List.mem_append_right _ (List.mem_singleton.mpr rfl))
  | failed htarget _ =>
    refine iff_of_false (by simp [htarget]) fun hall => ?_
    cases hall _ (List.mem_append_right _ (List.mem_singleton.mpr rfl))

/-- Only the last thing that is shown is an answer. -/
theorem Told.tried_before {state : Socks5State} {shown : List Mark} {m : Mark}
    (hshown : Told iq hosts state (shown ++ [m])) : ∀ m ∈ shown, m.isTried = true := by
  generalize hall : shown ++ [m] = all at hshown
  cases hshown with
  | trying _ _ =>
    rw [List.map_append] at hall
    exact (List.append_inj_left' hall rfl) ▸ isTried_of_mem_map _
  | used _ _ => exact (List.append_inj_left' hall rfl) ▸ isTried_of_mem_map _
  | failed _ _ => exact (List.append_inj_left' hall rfl) ▸ isTried_of_mem_map _

theorem Held.told (hs : Held iq hosts s) : Told iq hosts s.socks5State (marks s) :=
  hs.answers.1

theorem Held.negotiates (hs : Held iq hosts s) (htarget : s.socks5State.isTarget = true) :
    Negotiates iq hosts s := by
  refine hs.resolve_right fun hover => ?_
  rw [hover.target] at htarget
  cases htarget

/-- The query is not answered when the stream is closed. -/
theorem close_not_underway (error : Option Ibb.GError) (s : State) :
    ¬ Underway (close error s) := by
  intro h
  have hclosed : (close error s).bytestreamState = .closing ∨
      (close error s).bytestreamState = .closed := by
    simp only [close, decline, bytestreamClosed, setState_eq]
    split
    case isTrue hclosed => exact .inr hclosed
    split
    · exact .inr rfl
    split
    · exact .inl rfl
    · exact .inr rfl
  rcases hclosed with hclosed | hclosed
  · exact h.notClosed.1 hclosed
  · exact h.notClosed.2 hclosed

theorem dispose_socks5State (s : State) : (dispose s).socks5State = s.socks5State := by
  rw [dispose]
  dsimp only
  split
  · exact (calm_close none (stopTimer { s with disposeHasRun := true })).socks5State
  · rfl

/-- The write of the CONNECT command breaks the connection, and the next streamhost is
tried while the command is taken for sent. -/
theorem Tries.sendConnectCommand_broken {h' : Streamhost} (hs : Tries iq done h (h' :: rest) s)
    (hstate : s.socks5State = .targetAuthRequestSent) {t : Transport}
    (ht : s.transport = some t) (hphase : t.phase = .connected) (hbreaks : breaks s = true) :
    ∃ data, Socks5.sendConnectCommand sha1Hex s =
      abort { retried h' rest (stopTimer (Socks5.broke data t s)) with
        socks5State := .initiatorConnectRequested } := by
  refine ⟨connectMessage 1 (domain sha1Hex (s.socks5State = .targetAuthRequestSent) s), ?_⟩
  rw [Socks5.sendConnectCommand]
  generalize hdata : connectMessage 1 (domain sha1Hex (s.socks5State = .targetAuthRequestSent) s) =
    data
  have hne : data ≠ [] := by
    rw [← hdata]
    exact List.cons_ne_nil _ _
  rcases hs.write ht hphase hne with ⟨hkept, -⟩ | ⟨-, hwrite⟩
  · rw [hbreaks] at hkept
    cases hkept
  · have hbroke := hs.broke data t
    have htarget : (stopTimer (Socks5.broke data t s)).socks5State.isTarget = true := by
      change s.socks5State.isTarget = true
      rw [hstate]
      rfl
    rw [hwrite, socks5Error_target htarget hbroke.acknowledge, hbroke.streamhosts, List.tail_cons]
    rfl

/-- The CONNECT command is lost, and the start of the timer is one too many. -/
theorem Negotiates.not_answers_received (hs : Negotiates iq hosts s) {data : Bytes}
    (hretries : Retries s (s.readBuffer.getD [] ++ data)) (hreceives : receives s = true) :
    ¬ Answers iq hosts (transportHandler sha1Hex data s) := by
  obtain ⟨done, h, rest, hsplit, htries⟩ := hs.tries
  obtain ⟨t, ht, hphase, -⟩ := receives_iff.mp hreceives
  obtain ⟨buffer, hbuffer⟩ := Option.ne_none_iff_exists'.mp hs.buffer
  obtain ⟨hstate, haccepted, hbreaks, htail⟩ := hretries
  rw [htries.streamhosts] at htail
  obtain ⟨h', rest, rfl⟩ := List.exists_cons_of_ne_nil htail
  rw [hbuffer, Option.getD_some] at haccepted
  have hlength : (buffer ++ data).length ≠ 0 := fun hzero => by
    rw [List.length_eq_zero_iff.mp hzero] at haccepted
    cases haccepted
  obtain ⟨fuel, hfuel⟩ := Nat.exists_eq_succ_of_ne_zero hlength
  set s₁ : State := { s with readBuffer := some (buffer ++ data) }
  have hs₁ : Tries iq done h (h' :: rest) s₁ := htries.set _ _ _ _
  have hstate₁ : s₁.socks5State = .targetAuthRequestSent := hstate
  obtain ⟨data', hcommand⟩ : ∃ data', Socks5.sendConnectCommand sha1Hex s₁ = _ :=
    hs₁.sendConnectCommand_broken hstate₁ ht hphase hbreaks
  have hround : handleReceivedData sha1Hex s₁ (buffer ++ data) =
      (Socks5.sendConnectCommand sha1Hex s₁, 2) := by
    rw [handleReceivedData, hstate₁, haccepted]
    rfl
  have hhandle : transportHandler sha1Hex data s = Socks5.sendConnectCommand sha1Hex s₁ := by
    rw [transportHandler, hbuffer]
    change readLoop sha1Hex (buffer ++ data).length s₁ = _
    rw [hfuel, Nat.succ_eq_add_one, readLoop_next fuel rfl, hround]
    exact next_aborted sha1Hex fuel ((congrArg State.aborted hcommand).trans rfl)
  have hmarks := (congrArg marks hcommand).trans (hs₁.broke data' t).next.marks
  have hstate' := (congrArg State.socks5State hcommand).trans
    (show _ = Socks5State.initiatorConnectRequested from rfl)
  rintro ⟨htold, -⟩
  rw [hhandle, hmarks, hstate'] at htold
  have htarget : Socks5State.initiatorConnectRequested.isTarget = true := by
    refine htold.isTarget_iff.mpr fun m hm => ?_
    obtain ⟨h₁, -, rfl⟩ := List.mem_map.mp hm
    rfl
  cases htarget

theorem tryStreamhost_shows (h : Streamhost) (s : State) :
    (tryStreamhost h s).socks5State = .targetTryingConnect ∧
      marks (tryStreamhost h s) = marks s ++ [h.mark] ∧
      (s.readBuffer ≠ none → (tryStreamhost h s).aborted = true) := by
  have hset : ∀ s₁, s₁ = setTransport ⟨.connecting, false, true⟩
      { s with socks5State := .targetTryingConnect } →
      s₁.socks5State = .targetTryingConnect ∧ s₁.out = s.out := by
    rintro _ rfl
    rw [setTransport]
    split <;> exact ⟨rfl, rfl⟩
  have hstart : ∀ s₁, (startTimer s₁).socks5State = s₁.socks5State ∧
      (startTimer s₁).out = s₁.out := fun s₁ => by
    rw [startTimer]
    split <;> exact ⟨rfl, rfl⟩
  obtain ⟨hstate, hout⟩ := hset _ rfl
  obtain ⟨hstate', hout'⟩ := hstart (setTransport ⟨.connecting, false, true⟩
    { s with socks5State := .targetTryingConnect })
  refine ⟨hstate'.trans hstate, ?_, fun hbuffer => ?_⟩
  · have hshown : (tryStreamhost h s).out = s.out ++ [Effect.transportConnect h.host h.port] :=
      congrArg (· ++ [Effect.transportConnect h.host h.port]) (hout'.trans hout)
    exact marks_append hshown
  · exact aborted_startTimer (setTransport_aborted _ hbuffer)

/-- A second query makes the target answer twice, or try a streamhost twice. -/
theorem Held.not_answers_query (hs : Held iq hosts s) (iq' : ℕ) (nodes : List StreamhostNode) :
    ¬ Answers iq hosts (queryReceived iq' nodes s) := by
  rintro ⟨htold, hunderway⟩
  rw [queryReceived, addStreamhosts_eq, socks5Connect] at htold hunderway
  dsimp only at htold hunderway
  cases hall : s.streamhosts ++ offered s.peerJid s.mucContact nodes with
  | nil =>
    rw [hall] at htold
    dsimp only at htold
    -- there is no streamhost, so that the first query was answered
    have hover : s.socks5State.isTarget = false := by
      rw [← Bool.not_eq_true]
      intro htarget
      obtain ⟨done, h, rest, -, htries⟩ := (hs.negotiates htarget).tries
      rw [htries.streamhosts] at hall
      cases hall
    have hanswered := mt hs.told.isTarget_iff.mpr (by simp [hover])
    set s₁ : State := { s with
      streamhosts := [], msgForAcknowledgeConnection := some iq',
      socks5State := .targetTryingConnect }
    rw [show socks5Error s₁ = exhausted iq' s₁ from socks5Error_exhausted rfl rfl rfl,
      marks_exhausted] at htold
    exact hanswered htold.tried_before
  | cons h rest =>
    rw [hall] at htold hunderway
    dsimp only at htold hunderway
    obtain ⟨hstate, hmarks, haborted⟩ := tryStreamhost_shows h
      { s with
        streamhosts := h :: rest, msgForAcknowledgeConnection := some iq' }
    have htarget : s.socks5State.isTarget = true := by
      refine hs.told.isTarget_iff.mpr fun m hm => ?_
      refine htold.isTarget_iff.mp (by rw [hstate]; rfl) m ?_
      rw [hmarks]
      exact List.mem_append_left _ hm
    have hrunning := (hunderway (by rw [hstate]; rfl)).running
    rw [haborted (hs.negotiates htarget).buffer] at hrunning
    cases hrunning

/-- One event that does not meet the condition. -/
theorem Held.not_answers (hs : Held iq hosts s) (hstep : Socks5.step sha1Hex s e = some s')
    (hnot : ¬ Orderly s e) : ¬ Answers iq hosts s' := by
  obtain ⟨-, -, henabled, rfl⟩ := step_live hstep
  cases e with
  | close error =>
    rintro ⟨-, hunderway⟩
    have htarget : s.socks5State.isTarget = true := by simpa [Orderly] using hnot
    have hstate : (close error s).socks5State = s.socks5State := (calm_close error s).socks5State
    exact close_not_underway error s (hunderway ((congrArg _ hstate).trans htarget))
  | dispose =>
    rintro ⟨-, hunderway⟩
    have htarget : s.socks5State.isTarget = true := by simpa [Orderly] using hnot
    have halive := (hunderway ((congrArg _ (dispose_socks5State s)).trans htarget)).alive
    rw [show handle sha1Hex s .dispose = dispose s from rfl, dispose_disposeHasRun] at halive
    cases halive
  | query iq' nodes => exact hs.not_answers_query iq' nodes
  | transportConnected =>
    have hstate : s.socks5State = .targetAuthRequestSent := not_not.mp hnot
    have hnegotiates := hs.negotiates (by rw [hstate]; rfl)
    obtain ⟨t, ht, hstage⟩ := hnegotiates.stage
    have hphase : t.phase = .connecting := by
      rw [enabled, ht] at henabled
      exact of_decide_eq_true henabled
    have hasked : asked s = false := by
      rw [hstate, hphase] at hstage
      generalize s.timer = timer, asked s = asked at hstage
      cases hstage
      rfl
    rintro ⟨-, hunderway⟩
    dsimp only [handle, transportConnectedCb] at hunderway
    rw [if_neg (by simp [stopTimer, hstate])] at hunderway
    -- nothing is awaited: the timer was stopped, and the request is not sent
    rcases (hunderway (by simp [stopTimer, hstate, Socks5State.isTarget])).awaits with
      htimer | hwritten
    · cases htimer
    · cases hasked.symm.trans hwritten
  | received data =>
    have hretries := not_not.mp hnot
    have hnegotiates := hs.negotiates (by rw [hretries.1]; rfl)
    rw [enabled, Bool.and_eq_true] at henabled
    exact hnegotiates.not_answers_received hretries henabled.1
  | initiate | accept | send | blockReading | initReply | activationReply | newConnection
  | transportDisconnected | transportBufferEmpty | timeout => exact absurd trivial hnot

/-- What an event shows. -/
theorem Held.step_iff (hs : Held iq hosts s) (hstep : Socks5.step sha1Hex s e = some s') :
    (Answers iq hosts s' ↔ Orderly s e) ∧ (Orderly s e → Held iq hosts s') := by
  have hkeep : Orderly s e → Held iq hosts s' := fun hok => by
    rcases hs with hs | hs
    · exact hs.step hstep hok
    · refine .inr (hs.step hstep ?_)
      rintro iq' nodes rfl
      exact hok
  exact ⟨⟨fun hanswers => not_not.mp fun hnot => hs.not_answers hstep hnot hanswers,
    fun hok => (hkeep hok).answers⟩, hkeep⟩

/-! ## What the streamhosts have sent -/

/-- An event that brings nothing from the streamhost, and leaves the target where it is. -/
structure Idle (s s' : State) : Prop where
  marks : marks s' = marks s
  readBuffer : s'.readBuffer = s.readBuffer
  requested : s'.socks5State = .targetConnectRequested ↔ s.socks5State = .targetConnectRequested

theorem Idle.of_silent (hsilent : Silent s s') (hcalm : Calm s s')
    (hbuffer : s'.readBuffer = s.readBuffer) : Idle s s' :=
  ⟨hsilent.marks, hbuffer, by rw [hcalm.socks5State]⟩

theorem Idle.refl (s : State) : Idle s s := ⟨rfl, rfl, Iff.rfl⟩

/-- The streamhost is given up, or nothing comes of the event. -/
theorem Negotiates.idle_step (hs : Negotiates iq hosts s)
    (hstep : Socks5.step sha1Hex s e = some s') (hok : Orderly s e)
    (hother : ∀ data, e ≠ .received data) : GivenUp s s' ∨ Idle s s' := by
  obtain ⟨-, -, henabled, rfl⟩ := step_live hstep
  obtain ⟨done, h, rest, hsplit, htries⟩ := hs.tries
  obtain ⟨t, ht, hstage⟩ := hs.stage
  have htarget := hs.isTarget
  cases e with
  | initiate ips port proxies =>
    dsimp only [handle, initiate]
    rw [if_pos htries.passive.state]
    exact .inr (Idle.refl s)
  | accept sent =>
    right
    dsimp only [handle, accept]
    split
    · exact Idle.refl s
    split
    · obtain ⟨hcalm, hsilent⟩ := accepted_quietly s
      exact Idle.of_silent hsilent hcalm (by rw [setState_eq]; rfl)
    · exact Idle.refl s
  | send str =>
    dsimp only [handle, send]
    rw [if_pos]
    · exact .inr (Idle.refl s)
    · rcases htries.state with hstate | hstate <;> rw [hstate] <;> decide
  | close error =>
    -- no stream is closed or disposed of while its target negotiates
    rw [show s.socks5State.isTarget = false from hok] at htarget
    cases htarget
  | dispose =>
    rw [show s.socks5State.isTarget = false from hok] at htarget
    cases htarget
  | blockReading block =>
    right
    dsimp only [handle, blockReading]
    split
    · exact Idle.refl s
    · rw [ht, if_pos (by rfl), blockReceiving]
      exact ⟨(marks_append rfl).trans (List.append_nil _), rfl, Iff.rfl⟩
  | query iq' nodes => exact absurd hok id
  | initReply | activationReply | newConnection => cases htries.passive.not_initiator henabled
  | transportConnected =>
    have hstate := hs.connecting henabled hok
    set s₁ : State := { s with transport := s.transport.map fun t =>
      { t with phase := .connected } }
    have hstopped : Tries iq done h rest (stopTimer s₁) := htries.set _ _ _ _
    have hwrite := hstopped.write (t := { t with phase := .connected })
      (show s.transport.map _ = _ by rw [ht]; rfl) rfl (List.cons_ne_nil 5 [1, 0])
    change GivenUp s (transportConnectedCb s₁) ∨ Idle s (transportConnectedCb s₁)
    rw [transportConnectedCb]
    dsimp only
    rw [if_pos (by simp [stopTimer, s₁, hstate])]
    rcases hwrite with ⟨-, hwrite⟩ | ⟨-, hwrite⟩
    · right
      rw [hwrite, if_pos (show (wrote [5, 1, 0] _ (stopTimer s₁)).socks5State = _ from hstate)]
      refine ⟨(hstopped.wrote [5, 1, 0] _).marks.trans htries.marks.symm, rfl, ?_⟩
      rw [hstate]
      exact iff_of_false (show Socks5State.targetAuthRequestSent ≠ _ by decide) (by decide)
    · -- the next streamhost is connected to, but is not asked
      left
      have hbroke := hstopped.broke [5, 1, 0] { t with phase := .connected }
      have hgiven := hbroke.givenUp_socks5Error
        (show s.socks5State.isTarget = true by rw [hstate]; rfl)
      rw [hwrite]
      refine (hgiven.of_marks (hbroke.marks.trans htries.marks.symm)).missed ?_ ?_
      · split <;> decide
      · intro hlast
        rw [if_neg fun htrying => ?_]
        · rfl
        · rw [htrying] at hlast
          cases hlast
  | transportDisconnected =>
    left
    set s₁ : State := { s with transport := s.transport.map fun t =>
      { t with phase := .disconnected, bufferEmpty := true } }
    have hstopped : Tries iq done h rest (stopTimer s₁) := htries.set _ _ _ _
    have hgiven : GivenUp (stopTimer s₁) (socks5Error (stopTimer s₁)) :=
      hstopped.givenUp_socks5Error htarget
    exact hgiven.of_marks (s := s) rfl
  | transportBufferEmpty =>
    right
    have hopen : s.bytestreamState ≠ .closing := by
      rcases htries.state with hstate | hstate <;> rw [hstate] <;> decide
    change Idle s (Socks5.transportBufferEmptyCb
      { s with transport := s.transport.map fun t => { t with bufferEmpty := true } })
    rw [Socks5.transportBufferEmptyCb, if_neg hopen]
    split
    · rw [changeWriteBlockedState]
      split
      · exact ⟨rfl, rfl, Iff.rfl⟩
      · exact ⟨(marks_append rfl).trans (List.append_nil _), rfl, Iff.rfl⟩
    · exact ⟨rfl, rfl, Iff.rfl⟩
  | received data => exact absurd rfl (hother data)
  | timeout => exact .inl (htries.givenUp_socks5Error htarget)

/-- One event of a negotiation, for a transcript. -/
theorem Negotiates.hears_step (hs : Negotiates iq hosts t.state) (hh : Hears t)
    (hstep : Socks5.step sha1Hex t.state e = some s') (hok : Orderly t.state e) :
    (Justified (t.next e s') ↔ Heedful t.state e) ∧
      (Heedful t.state e → Hears (t.next e s')) := by
  by_cases hreads : ∃ data, e = .received data
  · obtain ⟨data, rfl⟩ := hreads
    obtain ⟨-, -, henabled, rfl⟩ := step_live hstep
    rw [enabled, Bool.and_eq_true] at henabled
    obtain ⟨hreceives, hread⟩ := henabled
    obtain ⟨transport, htransport, hphase, -⟩ := receives_iff.mp hreceives
    obtain ⟨buffer, hbuffer⟩ := Option.ne_none_iff_exists'.mp hs.buffer
    have hstate := hs.reading hreceives
    have hreceived : Received iq t.state (buffer ++ data)
        (transportHandler sha1Hex data t.state) := by
      have hno : ¬ Retries t.state (t.state.readBuffer.getD [] ++ data) := hok
      rw [hbuffer, Option.getD_some] at hno
      exact hs.received_cases hreceives hread hbuffer hno hstate
    change (_ ↔ ¬ Overlooks t.state (t.state.readBuffer.getD [] ++ data)) ∧
      (¬ Overlooks t.state (t.state.readBuffer.getD [] ++ data) → _)
    rw [hbuffer, Option.getD_some]
    exact hh.received hs hbuffer hstate hreceived
  · have hother : ∀ data, e ≠ .received data := fun data heq => hreads ⟨data, heq⟩
    have hbytes : e.bytes = [] := by
      cases e with
      | received data => exact absurd rfl (hother data)
      | _ => rfl
    have hheed : Heedful t.state e := by
      cases e with
      | received data => exact absurd rfl (hother data)
      | _ => trivial
    have hno : ¬ Succeeds (t.current ++ e.bytes) := by
      rw [hbytes, List.append_nil, hh.current]
      rintro ⟨m, hm, hused⟩
      exact (Mark.not_answer (hs.isTried m hm)).1 hused
    have hheard : Hears (t.next e s') := by
      rcases hs.idle_step hstep hok hother with hg | hidle
      · exact (hh.givenUp hs hg).2 hno
      · refine (hh.kept hs hidle.marks).2 hno (fun hstate => ?_) fun hstate => ?_
        · rw [hbytes, List.append_nil, hidle.readBuffer]
          exact hh.asking hs.isTarget fun hrequested => hstate (hidle.requested.mpr hrequested)
        · rw [hbytes, List.append_nil, hidle.readBuffer]
          exact hh.requesting (hidle.requested.mp hstate)
    exact ⟨iff_of_true hheard.toJustified hheed, fun _ => hheard⟩

/-- **The step lemma.** -/
theorem Held.hears_step_iff (hs : Held iq hosts t.state) (hh : Hears t)
    (hstep : t.step sha1Hex e = some t') :
    (AnswersRightly iq hosts t' ↔ Unhindered t e) ∧
      (Unhindered t e → Held iq hosts t'.state ∧ Hears t') := by
  obtain ⟨s', hs', rfl⟩ := Option.map_eq_some_iff.mp hstep
  obtain ⟨hanswers, hheld⟩ := hs.step_iff hs'
  have hstate : (t.next e s').state = s' := by
    rw [Transcript.next]
    split <;> rfl
  have hheard : Orderly t.state e → (Justified (t.next e s') ↔ Heedful t.state e) ∧
      (Heedful t.state e → Hears (t.next e s')) := by
    intro hok
    rcases hs with hs | hs
    · exact hs.hears_step hh hs' hok
    · have hquery : ∀ iq nodes, e ≠ .query iq nodes := by
        rintro iq' nodes rfl
        exact hok
      have hheed : Heedful t.state e := by
        cases e with
        | received data =>
          rintro (⟨hrequested, -⟩ | ⟨hasked, -⟩)
          · exact Bool.false_ne_true
              (hs.target.symm.trans (congrArg Socks5State.isTarget hrequested))
          · exact Bool.false_ne_true
              (hs.target.symm.trans (congrArg Socks5State.isTarget hasked))
        | _ => trivial
      have hover := hh.over hs hs' hquery
      exact ⟨iff_of_true hover.toJustified hheed, fun _ => hover⟩
  rw [← hstate] at hanswers hheld
  constructor
  · constructor
    · rintro ⟨hshown, hjustified⟩
      have hok := hanswers.mp hshown
      exact ⟨hok, (hheard hok).1.mp hjustified⟩
    · rintro ⟨hok, hheed⟩
      exact ⟨hanswers.mpr hok, (hheard hok).1.mpr hheed⟩
  · rintro ⟨hok, hheed⟩
    exact ⟨hheld hok, (hheard hok).2 hheed⟩

/-! ## Every run -/

/-- A target that has not got a query yet. -/
structure Fresh (peerJid : Bytes) (mucContact : Bool) (s : State) : Prop where
  peerJid : s.peerJid = peerJid
  mucContact : s.mucContact = mucContact
  socks5State : s.socks5State = .invalid
  streamhosts : s.streamhosts = []
  marks : marks s = []
  transport : s.transport = none
  readBuffer : s.readBuffer = none
  timer : s.timer = false
  running : s.aborted = false
  passive : Passive s
  state : s.bytestreamState = .localPending ∨ s.bytestreamState = .accepted ∨
    s.bytestreamState = .closed ∧ s.registered = false

/-- The events before the query. -/
def NoQuery (_ : State) : Event → Prop
  | .query _ _ => False
  | _ => True

instance (s : State) : (e : Event) → Decidable (NoQuery s e)
  | .query _ _ => .isFalse id
  | .initiate _ _ _ | .accept _ | .send _ | .close _ | .blockReading _ | .initReply _ _
  | .activationReply _ | .newConnection | .transportConnected | .transportDisconnected
  | .transportBufferEmpty | .received _ | .timeout | .dispose => .isTrue trivial

variable {streamId peerJid selfFullJid : Bytes} {mucContact : Bool} {writes : List Written}
  {nodes : List StreamhostNode} {es : List Event}

theorem fresh_new :
    Fresh peerJid mucContact
      (State.new streamId peerJid selfFullJid mucContact .localPending writes) :=
  ⟨rfl, rfl, rfl, rfl, rfl, rfl, rfl, rfl, rfl, ⟨rfl, rfl, rfl, nofun⟩, .inl rfl⟩

theorem Fresh.keep (hs : Fresh peerJid mucContact s) (hcalm : Calm s s') (hsilent : Silent s s')
    (hpeerJid : s'.peerJid = s.peerJid) (hmucContact : s'.mucContact = s.mucContact)
    (hrunning : s'.aborted = s.aborted)
    (hstate : s'.bytestreamState = .localPending ∨ s'.bytestreamState = .accepted ∨
      s'.bytestreamState = .closed ∧ s'.registered = false) : Fresh peerJid mucContact s' where
  peerJid := hpeerJid.trans hs.peerJid
  mucContact := hmucContact.trans hs.mucContact
  socks5State := hcalm.socks5State.trans hs.socks5State
  streamhosts := hcalm.streamhosts.trans hs.streamhosts
  marks := hsilent.marks.trans hs.marks
  transport := (hsilent.gone ⟨hs.transport, hs.readBuffer⟩).1
  readBuffer := (hsilent.gone ⟨hs.transport, hs.readBuffer⟩).2
  timer := hcalm.timer.trans hs.timer
  running := hrunning.trans hs.running
  passive := hsilent.passive hs.passive
  state := hstate

theorem Fresh.step (hs : Fresh peerJid mucContact s) (hstep : Socks5.step sha1Hex s e = some s')
    (hok : NoQuery s e) (halive : s'.disposeHasRun = false) : Fresh peerJid mucContact s' := by
  obtain ⟨-, -, henabled, rfl⟩ := step_live hstep
  cases e with
  | initiate ips port proxies =>
    dsimp only [handle, initiate]
    rw [if_pos hs.passive.state]
    exact hs
  | accept sent =>
    dsimp only [handle, accept]
    split
    · exact hs
    split
    · obtain ⟨hcalm, hsilent⟩ := accepted_quietly s
      rw [setState_eq] at hcalm hsilent ⊢
      exact hs.keep hcalm hsilent rfl rfl rfl (.inr (.inl rfl))
    · exact hs
  | send str =>
    dsimp only [handle, send]
    rw [if_pos]
    · exact hs
    · rcases hs.state with hstate | hstate | hstate <;> simp [hstate]
  | close error =>
    have hframe : (close error s).peerJid = s.peerJid ∧
        (close error s).mucContact = s.mucContact ∧ (close error s).aborted = s.aborted := by
      rcases close_cases error s with ⟨-, _, _, _, heq⟩ | ⟨-, _, _, heq⟩
      · rw [heq]
        exact ⟨rfl, rfl, rfl⟩
      · rw [heq]
        exact ⟨rfl, rfl, rfl⟩
    have hclosed : (close error s).bytestreamState = .closed ∧
        (close error s).registered = false := by
      simp only [close, decline, bytestreamClosed, closeTransport, setState_eq, emit,
        hs.transport]
      rcases hs.state with hstate | hstate | ⟨hstate, hregistered⟩
      · simp [hstate]
      · simp [hstate]
      · simp [hstate, hregistered]
    exact hs.keep (calm_close error s) (silent_close error s) hframe.1 hframe.2.1 hframe.2.2
      (.inr (.inr hclosed))
  | blockReading block =>
    dsimp only [handle, blockReading]
    split
    · exact hs
    · rw [if_neg (by simp [hs.transport])]
      exact ⟨hs.peerJid, hs.mucContact, hs.socks5State, hs.streamhosts, hs.marks,
        hs.transport, hs.readBuffer, hs.timer, hs.running, ⟨hs.passive.listening,
          hs.passive.inits, hs.passive.activations, hs.passive.state⟩, hs.state⟩
  | query iq nodes => exact absurd hok id
  | dispose =>
    rw [show handle sha1Hex s .dispose = dispose s from rfl, dispose_disposeHasRun] at halive
    cases halive
  | initReply | activationReply | newConnection => cases hs.passive.not_initiator henabled
  | transportConnected | transportDisconnected | transportBufferEmpty =>
    rw [enabled, hs.transport] at henabled
    cases henabled
  | received data =>
    rw [enabled, receives, hs.transport] at henabled
    cases henabled
  | timeout =>
    rw [enabled, hs.timer] at henabled
    cases henabled

/-- Nothing has been read of a streamhost. -/
theorem hears_new (hused : ∀ m ∈ marks s, ¬ m.isUsed = true)
    (hgone : (∃ m ∈ marks s, m.isFailed = true) → s.transport = none ∧ s.readBuffer = none)
    (hbuffer : s.socks5State.isTarget = true → s.readBuffer = some [])
    (hstate : s.socks5State ≠ .targetConnectRequested) : Hears (.new s) where
  earlier _ hmem := absurd hmem List.not_mem_nil
  current := iff_of_false (show ¬ Succeeds [] by decide) fun h =>
    Exists.elim h fun m hm => hused m hm.1 hm.2
  gone := hgone
  asking htarget _ := hbuffer htarget
  requesting hrequested := absurd hrequested hstate

/-- The first streamhost of a query is tried, or there is none. -/
theorem Fresh.query (hs : Fresh peerJid mucContact s)
    (hstep : Socks5.step sha1Hex s (.query iq nodes) = some s') :
    Held iq (offered peerJid mucContact nodes) s' ∧ Hears (.new s') := by
  obtain ⟨halive, -, henabled, rfl⟩ := step_live hstep
  have hstate : s.bytestreamState = .localPending ∨ s.bytestreamState = .accepted := by
    rcases hs.state with hstate | hstate | ⟨-, hgone⟩
    · exact .inl hstate
    · exact .inr hstate
    · rw [show s.registered = true from henabled] at hgone
      cases hgone
  obtain rfl := hs.peerJid
  obtain rfl := hs.mucContact
  change Held iq _ (queryReceived iq nodes s) ∧ Hears (.new (queryReceived iq nodes s))
  rw [queryReceived, addStreamhosts_eq, hs.streamhosts, List.nil_append, socks5Connect]
  dsimp only
  generalize offered s.peerJid s.mucContact nodes = hosts
  have hpassive : ∀ {s₁ : State}, s₁.listening = s.listening → s₁.initsPending = s.initsPending →
      s₁.activationsPending = s.activationsPending → s₁.bytestreamState = s.bytestreamState →
      Passive s₁ := fun hl hi ha hb =>
    ⟨hl.trans hs.passive.listening, hi.trans hs.passive.inits,
      ha.trans hs.passive.activations, hb ▸ hs.passive.state⟩
  cases hosts with
  | nil =>
    dsimp only
    set s₁ : State := { s with
      streamhosts := [], msgForAcknowledgeConnection := some iq,
      socks5State := .targetTryingConnect }
    have hmarks : Socks5.marks (exhausted iq s₁) = [.failed iq] := by
      rw [marks_exhausted, show Socks5.marks s₁ = [] from hs.marks]
      rfl
    rw [show socks5Error s₁ = exhausted iq s₁ from socks5Error_exhausted rfl rfl rfl]
    constructor
    · refine .inr ⟨?_, rfl, .inr (.inl rfl), hpassive rfl rfl rfl rfl⟩
      rw [hmarks]
      exact .failed rfl (show Socks5State.error ≠ .connected by decide)
    · exact hears_new (by rw [hmarks]; exact List.forall_mem_singleton.mpr Bool.false_ne_true)
        (fun _ => ⟨rfl, rfl⟩) (fun htarget => Bool.noConfusion htarget)
        (show Socks5State.error ≠ _ by decide)
  | cons h rest =>
    dsimp only
    set s₁ : State := { s with
      streamhosts := h :: rest, msgForAcknowledgeConnection := some iq }
    have hretried : tryStreamhost h s₁ = retried h rest s₁ :=
      tryStreamhost_retried rfl hs.readBuffer hs.timer
    have hmarks : Socks5.marks (retried h rest s₁) = [h.mark] := by
      rw [marks_retried, show Socks5.marks s₁ = [] from hs.marks]
      rfl
    rw [hretried]
    constructor
    · refine .inl ⟨⟨[], h, rest, rfl, ?_⟩, ⟨_, rfl, ?_⟩, Option.some_ne_none _⟩
      · exact ⟨rfl, rfl, hmarks, hpassive rfl rfl rfl rfl, hstate, hs.running, halive⟩
      · have hasked : asked (retried h rest s₁) = false := asked_of_last rfl rfl
        rw [hasked]
        exact .connecting
    · refine hears_new (by rw [hmarks]; exact List.forall_mem_singleton.mpr Bool.false_ne_true)
        (fun hfailed => ?_) (fun _ => rfl) (show Socks5State.targetTryingConnect ≠ _ by decide)
      rw [hmarks] at hfailed
      obtain ⟨m, hm, hfailed⟩ := hfailed
      rw [List.mem_singleton.mp hm] at hfailed
      cases hfailed

end

/-- A query with two streamhosts. -/
def twoNodes : List StreamhostNode :=
  [⟨false, some (ascii "d@e/f"), some (ascii "192.0.2.2"), some 7778⟩,
    ⟨false, some (ascii "proxy"), some (ascii "192.0.2.1"), some 7777⟩]

/-- The target has accepted the stream. -/
def accepted : State := (step sampleSha1Hex sampleTarget (.accept true)).getD sampleTarget

/-- The target tries the first streamhost. -/
def afterQuery : State := (step sampleSha1Hex accepted (.query 1 twoNodes)).getD accepted

/-- The first streamhost does not answer in time; the second one does. -/
def secondUsed : List Event :=
  [.timeout, .transportConnected, .received [5, 0], .received streamhostReply]

/-- Both streamhosts are tried. -/
def bothTried : List Mark :=
  [.tried (ascii "192.0.2.2") 7778, .tried (ascii "192.0.2.1") 7777]

end Socks5
