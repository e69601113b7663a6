/-
# The negotiation of a SOCKS5 target

What each event does while the target tries its streamhosts.  Four things make it try
the next one: the connection is not made or it is lost, a write breaks it, the streamhost
refuses, and the timer.  All of them end in `socks5_error`, and so do the lemmas.
-/
import Gabble.BytestreamSocks5Target

namespace Socks5

open Base64 Transition
open CText (ascii)

variable {t : Transport} {state : Socks5State}

/-! ## The invariant -/

/-- The target tries a streamhost, after those that have failed and before the rest. -/
structure Tries (iq : ℕ) (done : List Streamhost) (h : Streamhost) (rest : List Streamhost)
    (s : State) : Prop where
  streamhosts : s.streamhosts = h :: rest
  acknowledge : s.msgForAcknowledgeConnection = some iq
  marks : marks s = (done ++ [h]).map Streamhost.mark
  passive : Passive s
  state : s.bytestreamState = .localPending ∨ s.bytestreamState = .accepted
  running : s.aborted = false
  alive : s.disposeHasRun = false

/-- How far it is with the streamhost, by the state, the connection, whether the timer
runs and whether something was written. -/
inductive Stage : Socks5State → Phase → Bool → Bool → Prop where
  | connecting : Stage .targetTryingConnect .connecting true false
  /-- the authorization request broke the connection before -/
  | missed : Stage .targetAuthRequestSent .connecting true false
  | asking : Stage .targetAuthRequestSent .connected false true
  | requesting : Stage .targetConnectRequested .connected true true

structure Negotiates (iq : ℕ) (hosts : List Streamhost) (s : State) : Prop where
  tries : ∃ done h rest, hosts = done ++ h :: rest ∧ Tries iq done h rest s
  stage : ∃ t, s.transport = some t ∧ Stage s.socks5State t.phase s.timer (asked s)
  buffer : s.readBuffer ≠ none

theorem Stage.isTarget {phase : Phase} {timer asked : Bool}
    (h : Stage state phase timer asked) : state.isTarget = true := by
  cases h <;> rfl

theorem Stage.live {phase : Phase} {timer asked : Bool}
    (h : Stage state phase timer asked) : phase ≠ .disconnected := by
  cases h <;> decide

theorem Stage.awaits {phase : Phase} {timer asked : Bool}
    (h : Stage state phase timer asked) : timer = true ∨ asked = true := by
  cases h <;> decide

theorem asked_append {s s' : State} {effects : List Effect} (h : s'.out = s.out ++ effects)
    (hquiet : effects.filterMap Effect.exchange = []) : asked s' = asked s := by
  rw [asked, asked, h, List.filterMap_append, hquiet, List.append_nil]

theorem asked_of_last {s s' : State} {effects : List Effect} (h : s'.out = s.out ++ effects)
    {b : Bool} (hlast : effects.filterMap Effect.exchange = [b]) : asked s' = b := by
  rw [asked, h, List.filterMap_append, hlast, List.getLast?_append]
  cases b <;> rfl

section

variable {iq : ℕ} {hosts done rest : List Streamhost} {h : Streamhost} {s s' : State}

theorem Tries.underway (hs : Tries iq done h rest s) (ht : s.transport = some t)
    (hphase : t.phase ≠ .disconnected) (hawaits : s.timer = true ∨ asked s = true) :
    Underway s := by
  refine ⟨hs.running, hs.alive, ?_, ⟨t, ht, hphase⟩, hawaits⟩
  rcases hs.state with hstate | hstate <;> rw [hstate] <;> decide

theorem Negotiates.isTarget (hs : Negotiates iq hosts s) : s.socks5State.isTarget = true := by
  obtain ⟨t, -, hstage⟩ := hs.stage
  exact hstage.isTarget

theorem Negotiates.answers (hs : Negotiates iq hosts s) : Answers iq hosts s := by
  obtain ⟨done, h, rest, hsplit, htries⟩ := hs.tries
  obtain ⟨t, ht, hstage⟩ := hs.stage
  refine ⟨?_, fun _ => htries.underway ht ?_ ?_⟩
  · rw [htries.marks]
    exact .trying hsplit hstage.isTarget
  · exact hstage.live
  · exact hstage.awaits

/-- The negotiation goes on, or the query is answered. -/
def Held (iq : ℕ) (hosts : List Streamhost) (s : State) : Prop :=
  Negotiates iq hosts s ∨ Over iq hosts s

theorem Held.answers (hs : Held iq hosts s) : Answers iq hosts s := by
  rcases hs with hs | hs
  · exact hs.answers
  · exact hs.answers

/-- An event that is not part of the negotiation. -/
theorem Negotiates.keep (hs : Negotiates iq hosts s) (hcalm : Calm s s') (hsilent : Silent s s')
    (htransport : s'.transport.map Transport.phase = s.transport.map Transport.phase)
    (hbuffer : s'.readBuffer = s.readBuffer) (hasked : asked s' = asked s)
    (hstate : s'.bytestreamState = .localPending ∨ s'.bytestreamState = .accepted)
    (hrunning : s'.aborted = s.aborted) (halive : s'.disposeHasRun = s.disposeHasRun) :
    Negotiates iq hosts s' := by
  obtain ⟨done, h, rest, hsplit, htries⟩ := hs.tries
  obtain ⟨t, ht, hstage⟩ := hs.stage
  refine ⟨⟨done, h, rest, hsplit, ?_⟩, ?_, hbuffer ▸ hs.buffer⟩
  · exact ⟨hcalm.streamhosts.trans htries.streamhosts, hcalm.acknowledge.trans htries.acknowledge,
      hsilent.marks.trans htries.marks, hsilent.passive htries.passive, hstate,
      hrunning.trans htries.running, halive.trans htries.alive⟩
  · rw [ht, Option.map_some, Option.map_eq_some_iff] at htransport
    obtain ⟨t', ht', hphase⟩ := htransport
    refine ⟨t', ht', ?_⟩
    rw [hcalm.socks5State, hphase, hcalm.timer, hasked]
    exact hstage

/-- The streamhosts do not depend on how far the target is with one of them. -/
theorem Tries.set (hs : Tries iq done h rest s) (state : Socks5State) (timer : Bool)
    (transport : Option Transport) (readBuffer : Option Bytes) :
    Tries iq done h rest
      { s with
        socks5State := state, timer := timer, transport := transport, readBuffer := readBuffer } :=
  ⟨hs.streamhosts, hs.acknowledge, hs.marks,
    ⟨hs.passive.listening, hs.passive.inits, hs.passive.activations, hs.passive.state⟩, hs.state,
    hs.running, hs.alive⟩

/-! ## The next streamhost -/

/-- The next streamhost is tried. -/
def retried (h : Streamhost) (rest : List Streamhost) (s : State) : State :=
  { s with
    socks5State := .targetTryingConnect
    timer := true
    transport := some ⟨.connecting, false, true⟩
    readBuffer := some []
    streamhosts := h :: rest
    out := s.out ++ [.transportConnect h.host h.port] }

/-- No streamhost is left. -/
def exhausted (iq : ℕ) (s : State) : State :=
  { s with
    socks5State := .error
    timer := false
    transport := none
    readBuffer := none
    streamhosts := []
    msgForAcknowledgeConnection := none
    out := s.out ++
      [.connectionError,
        .iqError iq ⟨.itemNotFound, some "impossible to connect to any streamhost"⟩] }

theorem marks_retried (h : Streamhost) (rest : List Streamhost) (s : State) :
    marks (retried h rest s) = marks s ++ [h.mark] := by
  rw [marks_append rfl]
  rfl

theorem marks_exhausted (iq : ℕ) (s : State) :
    marks (exhausted iq s) = marks s ++ [Mark.failed iq] := by
  rw [marks_append rfl]
  rfl

/-- **The next streamhost.**  `socks5_error` in a state of the target. -/
theorem socks5Error_target (htarget : s.socks5State.isTarget = true)
    (hacknowledge : s.msgForAcknowledgeConnection = some iq) :
    socks5Error s =
      match s.streamhosts.tail with
      | h :: rest => retried h rest s
      | [] => exhausted iq s := by
  have hfailed : streamhostFailed { stopTimer s with socks5State := .error } =
      match s.streamhosts.tail with
      | h :: rest => retried h rest s
      | [] => exhausted iq s := by
    dsimp only [streamhostFailed, closeTransport, stopTimer]
    cases s.streamhosts.tail with
    | nil => simp [noMoreStreamhosts, emit, hacknowledge, exhausted]
    | cons h rest => rfl
  rw [socks5Error]
  cases hstate : s.socks5State with
  | targetTryingConnect | targetAuthRequestSent | targetConnectRequested => exact hfailed
  | _ =>
    rw [hstate] at htarget
    cases htarget

theorem socks5Error_exhausted (htarget : s.socks5State.isTarget = true)
    (hacknowledge : s.msgForAcknowledgeConnection = some iq) (hnil : s.streamhosts.tail = []) :
    socks5Error s = exhausted iq s := by
  rw [socks5Error_target htarget hacknowledge, hnil]

theorem tryStreamhost_retried (hstreamhosts : s.streamhosts = h :: rest)
    (hbuffer : s.readBuffer = none) (htimer : s.timer = false) :
    tryStreamhost h s = retried h rest s := by
  simp [tryStreamhost, setTransport, startTimer, emit, retried, hbuffer, htimer, hstreamhosts]

theorem Tries.next {h' : Streamhost} (hs : Tries iq done h (h' :: rest) s) :
    Tries iq (done ++ [h]) h' rest (retried h' rest s) where
  streamhosts := rfl
  acknowledge := hs.acknowledge
  marks := by
    rw [marks_retried, hs.marks]
    change _ ++ [h'].map Streamhost.mark = _
    exact List.map_append.symm
  passive := ⟨hs.passive.listening, hs.passive.inits, hs.passive.activations, hs.passive.state⟩
  state := hs.state
  running := hs.running
  alive := hs.alive

theorem Tries.negotiates_retried {h' : Streamhost} (hs : Tries iq done h (h' :: rest) s)
    (hsplit : hosts = done ++ h :: h' :: rest) : Negotiates iq hosts (retried h' rest s) where
  tries := ⟨done ++ [h], h', rest, by rw [hsplit, List.append_assoc]; rfl, hs.next⟩
  stage := by
    refine ⟨_, rfl, ?_⟩
    have hasked : asked (retried h' rest s) = false := asked_of_last rfl rfl
    rw [hasked]
    exact .connecting
  buffer := Option.some_ne_none _

/-- The error that the query is answered with is the last thing the target shows. -/
theorem Tries.over_exhausted (hs : Tries iq done h [] s) (hsplit : hosts = done ++ [h])
    (htarget : state.isTarget = false) (hstate : state ≠ .connected) :
    Over iq hosts { exhausted iq s with socks5State := state } where
  told := by
    have hmarks : Socks5.marks (exhausted iq s) = hosts.map Streamhost.mark ++ [.failed iq] := by
      rw [marks_exhausted, hs.marks, hsplit]
    exact hmarks ▸ .failed htarget hstate
  target := htarget
  ended := .inr (.inr ⟨rfl, rfl⟩)
  passive := ⟨hs.passive.listening, hs.passive.inits, hs.passive.activations, hs.passive.state⟩

/-- A failure of the streamhost that is tried. -/
theorem Tries.held_socks5Error (hs : Tries iq done h rest s) (hsplit : hosts = done ++ h :: rest)
    (htarget : s.socks5State.isTarget = true) : Held iq hosts (socks5Error s) := by
  rw [socks5Error_target htarget hs.acknowledge, hs.streamhosts, List.tail_cons]
  cases rest with
  | nil => exact .inr (hs.over_exhausted hsplit rfl (show Socks5State.error ≠ _ by decide))
  | cons h' rest => exact .inl (hs.negotiates_retried hsplit)

/-! ## Writes -/

theorem breaks_iff_broken (ht : s.transport = some t)
    (hphase : t.phase = .connected) : breaks s = true ↔ fate s = .broken := by
  rw [breaks, fate, ht]
  dsimp only [Option.any_some]
  rw [decide_eq_true hphase, Bool.true_and]
  cases t.bufferEmpty with
  | false => simp
  | true =>
    cases s.writes.headD .whole with
    | failed => simp
    | whole => by_cases hclosing : s.bytestreamState = .closing <;> simp [hclosing]
    | partly => simp

/-- A write of the target goes through, or it breaks the connection. -/
theorem Tries.write (hs : Tries iq done h rest s) (ht : s.transport = some t)
    (hphase : t.phase = .connected) {data : Bytes} (hdata : data ≠ []) :
    breaks s = false ∧ (writeToTransport data s).1 = wrote data t s ∨
    breaks s = true ∧ (writeToTransport data s).1 = socks5Error (stopTimer (broke data t s)) := by
  cases hfate : fate s with
  | kept =>
    left
    rw [write_kept ht hphase hfate hdata, ← Bool.not_eq_true, breaks_iff_broken ht hphase, hfate]
    exact ⟨Fate.noConfusion, rfl⟩
  | broken =>
    right
    rw [write_broken ht hphase hfate, breaks_iff_broken ht hphase]
    exact ⟨hfate, rfl⟩
  | closed =>
    -- a stream that is about to be closed does not negotiate
    rw [fate, ht] at hfate
    dsimp only at hfate
    split at hfate
    · split at hfate
      · cases hfate
      · split at hfate
        case isTrue hclosing =>
          rcases hs.state with hstate | hstate <;> rw [hclosing] at hstate <;> cases hstate
        · cases hfate
      · cases hfate
    · cases hfate

theorem Tries.wrote (hs : Tries iq done h rest s) (data : Bytes) (t : Transport) :
    Tries iq done h rest (wrote data t s) where
  streamhosts := hs.streamhosts
  acknowledge := hs.acknowledge
  marks := by
    refine (marks_append rfl).trans ?_
    rw [hs.marks]
    split <;> exact List.append_nil _
  passive := ⟨hs.passive.listening, hs.passive.inits, hs.passive.activations, hs.passive.state⟩
  state := hs.state
  running := hs.running
  alive := hs.alive

theorem asked_wrote (data : Bytes) (t : Transport) : asked (Socks5.wrote data t s) = true := by
  refine asked_of_last rfl ?_
  split <;> rfl

theorem Tries.broke (hs : Tries iq done h rest s) (data : Bytes) (t : Transport) :
    Tries iq done h rest (stopTimer (broke data t s)) where
  streamhosts := hs.streamhosts
  acknowledge := hs.acknowledge
  marks := (marks_append rfl).trans ((List.append_nil _).trans hs.marks)
  passive := ⟨hs.passive.listening, hs.passive.inits, hs.passive.activations, hs.passive.state⟩
  state := hs.state
  running := hs.running
  alive := hs.alive

/-! ## Connecting -/

/-- The streamhost is connected, and is asked for an authorization. -/
theorem Tries.held_transportConnectedCb (hs : Tries iq done h rest s)
    (hsplit : hosts = done ++ h :: rest) (hstate : s.socks5State = .targetTryingConnect)
    (ht : s.transport = some t) (hphase : t.phase = .connected)
    (hbuffer : s.readBuffer ≠ none) : Held iq hosts (transportConnectedCb s) := by
  have hstopped : Tries iq done h rest (stopTimer s) := hs.set _ _ _ _
  have hwrite := hstopped.write (t := t) ht hphase (List.cons_ne_nil 5 [1, 0])
  rw [transportConnectedCb]
  dsimp only
  rw [if_pos (by simp [stopTimer, hstate])]
  rcases hwrite with ⟨-, hwrite⟩ | ⟨-, hwrite⟩
  · rw [hwrite, if_pos (show (Socks5.wrote [5, 1, 0] t (stopTimer s)).socks5State = _ from hstate)]
    refine .inl ⟨⟨done, h, rest, hsplit, ?_⟩, ⟨_, rfl, ?_⟩, hbuffer⟩
    · exact (hstopped.wrote [5, 1, 0] t).set _ _ _ _
    · have hasked : asked (Socks5.wrote [5, 1, 0] t (stopTimer s)) = true := asked_wrote _ _
      change Stage .targetAuthRequestSent t.phase false (asked (Socks5.wrote [5, 1, 0] t _))
      rw [hphase, hasked]
      exact .asking
  · have hbroke := hstopped.broke [5, 1, 0] t
    have htarget : (stopTimer (Socks5.broke [5, 1, 0] t (stopTimer s))).socks5State.isTarget =
        true := by
      change s.socks5State.isTarget = true
      rw [hstate]
      rfl
    rw [hwrite, socks5Error_target htarget hbroke.acknowledge, hbroke.streamhosts, List.tail_cons]
    cases rest with
    | nil =>
      exact .inr (hbroke.over_exhausted hsplit rfl
        (show Socks5State.initiatorAuthRequestSent ≠ .connected by decide))
    | cons h' rest =>
      -- the request was not sent, and is not sent to the next one either
      have hnext := hbroke.negotiates_retried hsplit
      obtain ⟨done', h'', rest', hsplit', htries⟩ := hnext.tries
      refine .inl ⟨⟨done', h'', rest', hsplit', ?_⟩, ⟨_, rfl, ?_⟩, Option.some_ne_none _⟩
      · exact htries.set _ _ _ _
      · have hasked : asked (retried h' rest
            (stopTimer (Socks5.broke [5, 1, 0] t (stopTimer s)))) = false := asked_of_last rfl rfl
        change Stage .targetAuthRequestSent .connecting true (asked (retried h' rest _))
        rw [hasked]
        exact .missed

/-! ## Receiving -/

/-- The streamhost that is tried is used. -/
theorem Tries.over_targetGotConnectReply (hs : Tries iq done h rest s)
    (hsplit : hosts = done ++ h :: rest) : Over iq hosts (targetGotConnectReply s) := by
  have hopened : ∀ s₁, s₁ = setState .opened { s with socks5State := .connected } →
      s₁.socks5State = .connected ∧ s₁.streamhosts = h :: rest ∧
        s₁.msgForAcknowledgeConnection = some iq ∧ Socks5.marks s₁ = Socks5.marks s ∧ Passive s₁ := by
    rintro _ rfl
    have hcalm := calm_setState .opened { s with socks5State := .connected }
    have hsilent := silent_setState (show Ibb.BytestreamState.opened ≠ .initiating by decide)
      { s with socks5State := .connected }
    exact ⟨hcalm.socks5State, hcalm.streamhosts.trans hs.streamhosts,
      hcalm.acknowledge.trans hs.acknowledge, hsilent.marks, hsilent.passive
        ⟨hs.passive.listening, hs.passive.inits, hs.passive.activations, hs.passive.state⟩⟩
  obtain ⟨hstate, hstreamhosts, hacknowledge, hmarks, hpassive⟩ := hopened _ rfl
  rw [targetGotConnectReply]
  dsimp only
  generalize setState .opened { s with socks5State := .connected } = s₁ at *
  rw [hstreamhosts, hacknowledge]
  dsimp only
  have hused : Over iq hosts (emit (.streamhostUsed (some iq) h.jid) s₁) := by
    refine ⟨?_, ?_, .inl hstate, ?_⟩
    · rw [marks_append rfl, hmarks, hs.marks]
      exact .used hsplit (.inl hstate)
    · change s₁.socks5State.isTarget = false
      rw [hstate]
      rfl
    · exact ⟨hpassive.listening, hpassive.inits, hpassive.activations, hpassive.state⟩
  split
  · exact hused.silent (silent_blockReceiving true _)
  · exact hused

section

variable {sha1Hex : Bytes → Bytes} {buffer : Bytes}

/-- A round with the reply to the CONNECT command. -/
theorem Negotiates.round_requesting (hs : Negotiates iq hosts s)
    (hstate : s.socks5State = .targetConnectRequested) :
    Held iq hosts (handleReceivedData sha1Hex s buffer).1 ∧
      (0 < (handleReceivedData sha1Hex s buffer).2 →
        Over iq hosts (handleReceivedData sha1Hex s buffer).1) := by
  obtain ⟨done, h, rest, hsplit, htries⟩ := hs.tries
  rw [handleReceivedData, hstate]
  dsimp only
  cases connectReply buffer with
  | wait => exact ⟨.inl hs, fun hused => absurd hused (lt_irrefl 0)⟩
  | refused => exact ⟨htries.held_socks5Error hsplit hs.isTarget, fun hused => by cases hused⟩
  | accepted used =>
    have hover : Over iq hosts (targetGotConnectReply (stopTimer s)) :=
      (htries.set _ _ _ _).over_targetGotConnectReply hsplit
    exact ⟨.inr hover, fun _ => hover⟩

/-- The CONNECT command is written, and the timer runs. -/
def requested (data : Bytes) (t : Transport) (s : State) : State :=
  { Socks5.wrote data t s with timer := true, socks5State := .targetConnectRequested }

/-- The CONNECT command has broken the connection to the last streamhost. -/
def lost (iq : ℕ) (data : Bytes) (t : Transport) (s : State) : State :=
  { exhausted iq (stopTimer (Socks5.broke data t s)) with
    timer := true, socks5State := .initiatorConnectRequested }

/-- The CONNECT command that follows the reply to the authorization request. -/
theorem Tries.sendConnectCommand_eq (hs : Tries iq done h rest s)
    (hstate : s.socks5State = .targetAuthRequestSent) (htimer : s.timer = false)
    (ht : s.transport = some t) (hphase : t.phase = .connected)
    (hrest : breaks s = true → rest = []) :
    ∃ data, breaks s = false ∧ sendConnectCommand sha1Hex s = requested data t s ∨
      breaks s = true ∧ sendConnectCommand sha1Hex s = lost iq data t s := by
  rw [Socks5.sendConnectCommand]
  generalize hdata : connectMessage 1 (domain sha1Hex (s.socks5State = .targetAuthRequestSent) s) =
    data
  have hne : data ≠ [] := by
    rw [← hdata]
    exact List.cons_ne_nil _ _
  refine ⟨data, ?_⟩
  rcases hs.write ht hphase hne with ⟨hkept, hwrite⟩ | ⟨hbreaks, hwrite⟩
  · refine .inl ⟨hkept, ?_⟩
    rw [hwrite, if_pos (show (Socks5.wrote data t s).socks5State = _ from hstate), startTimer,
      if_neg (show ¬ (Socks5.wrote data t s).timer = true by
        rw [show (Socks5.wrote data t s).timer = false from htimer]
        exact Bool.false_ne_true)]
    rfl
  · refine .inr ⟨hbreaks, ?_⟩
    have hbroke := hs.broke data t
    have htarget : (stopTimer (Socks5.broke data t s)).socks5State.isTarget = true := by
      change s.socks5State.isTarget = true
      rw [hstate]
      rfl
    obtain rfl := hrest hbreaks
    rw [hwrite, socks5Error_target htarget hbroke.acknowledge, hbroke.streamhosts, List.tail_cons]
    rfl

theorem Tries.negotiates_requested (hs : Tries iq done h rest s)
    (hsplit : hosts = done ++ h :: rest)
    (data : Bytes) (hphase : t.phase = .connected) (hbuffer : s.readBuffer ≠ none) :
    Negotiates iq hosts (requested data t s) := by
  refine ⟨⟨done, h, rest, hsplit, (hs.wrote data t).set _ _ _ _⟩, ⟨_, rfl, ?_⟩, hbuffer⟩
  have hasked : asked (Socks5.wrote data t s) = true := asked_wrote data t
  change Stage .targetConnectRequested t.phase true (asked (Socks5.wrote data t s))
  rw [hphase, hasked]
  exact .requesting

theorem Tries.over_lost (hs : Tries iq done h [] s) (hsplit : hosts = done ++ [h]) (data : Bytes)
    (t : Transport) : Over iq hosts (lost iq data t s) :=
  ((hs.broke data t).over_exhausted hsplit rfl
    (show Socks5State.initiatorConnectRequested ≠ .connected by decide)).silent
      (silent_of_eq rfl rfl rfl rfl rfl rfl rfl rfl)

/-- A round with the reply to the authorization request. -/
theorem Negotiates.round_asking (hs : Negotiates iq hosts s)
    (hstate : s.socks5State = .targetAuthRequestSent)
    (hconnected : ∀ t, s.transport = some t → t.phase = .connected) (hno : ¬ Retries s buffer) :
    Held iq hosts (handleReceivedData sha1Hex s buffer).1 ∧
      (0 < (handleReceivedData sha1Hex s buffer).2 →
        Over iq hosts (handleReceivedData sha1Hex s buffer).1 ∨
          Negotiates iq hosts (handleReceivedData sha1Hex s buffer).1 ∧
            (handleReceivedData sha1Hex s buffer).1.socks5State = .targetConnectRequested) := by
  obtain ⟨done, h, rest, hsplit, htries⟩ := hs.tries
  obtain ⟨t, ht, hstage⟩ := hs.stage
  have hphase := hconnected t ht
  have htimer : s.timer = false := by
    rw [hstate, hphase] at hstage
    generalize s.timer = timer, asked s = asked at hstage
    cases hstage
    rfl
  rw [handleReceivedData, hstate]
  dsimp only
  cases hverdict : authReply buffer with
  | wait => exact ⟨.inl hs, fun hused => absurd hused (lt_irrefl 0)⟩
  | refused => exact ⟨htries.held_socks5Error hsplit hs.isTarget, fun hused => by cases hused⟩
  | accepted used =>
    have hrest : breaks s = true → rest = [] := fun hbreaks => by
      by_contra hne
      refine hno ⟨hstate, authReply_accepted hverdict ▸ hverdict, hbreaks, ?_⟩
      rw [htries.streamhosts]
      exact hne
    have hcommand : Over iq hosts (Socks5.sendConnectCommand sha1Hex s) ∨
        Negotiates iq hosts (Socks5.sendConnectCommand sha1Hex s) ∧
          (Socks5.sendConnectCommand sha1Hex s).socks5State = .targetConnectRequested := by
      obtain ⟨data, ⟨-, heq⟩ | ⟨hbreaks, heq⟩⟩ : ∃ data, _ :=
        htries.sendConnectCommand_eq hstate htimer ht hphase hrest
      · rw [heq]
        exact .inr ⟨htries.negotiates_requested hsplit data hphase hs.buffer, rfl⟩
      · rw [heq]
        obtain rfl := hrest hbreaks
        exact .inl (htries.over_lost hsplit data t)
    exact ⟨hcommand.symm.imp_left And.left, fun _ => hcommand⟩

/-! ## The loop -/

theorem Held.rebuffer (hs : Held iq hosts s) (hbuffer : s.readBuffer ≠ none) (buffer : Bytes) :
    Held iq hosts { s with readBuffer := some buffer } := by
  rcases hs with hs | hs
  · obtain ⟨done, h, rest, hsplit, htries⟩ := hs.tries
    exact .inl ⟨⟨done, h, rest, hsplit, htries.set _ _ _ _⟩, hs.stage, Option.some_ne_none _⟩
  · exact .inr (hs.silent (silent_readBuffer hbuffer buffer))

theorem readLoop_next (fuel : ℕ) (hbuffer : s.readBuffer = some buffer) :
    readLoop sha1Hex (fuel + 1) s = next sha1Hex fuel (handleReceivedData sha1Hex s buffer) := by
  rw [readLoop, hbuffer]
  rfl

/-- The end of a round, from the next rounds. -/
theorem held_next {fuel : ℕ} {r : State × ℤ} (hr : Held iq hosts r.1)
    (hgo : 0 < r.2 → r.1.readBuffer ≠ none → ∀ rest,
      Held iq hosts (readLoop sha1Hex fuel { r.1 with readBuffer := some rest })) :
    Held iq hosts (next sha1Hex fuel r) := by
  rw [next]
  split
  · exact hr
  split
  · exact hr
  case h_2 buffer hbuffer =>
    have hne : r.1.readBuffer ≠ none := by simp [hbuffer]
    dsimp only
    generalize (if r.2 < 0 then [] else buffer.drop r.2.toNat) = rest
    split
    case isTrue hused =>
      exact hgo (of_decide_eq_true (Bool.and_eq_true_iff.mp hused).1) hne _
    case isFalse => exact hr.rebuffer hne _

theorem Over.readLoop (hs : Over iq hosts s) (fuel : ℕ) :
    Over iq hosts (readLoop sha1Hex fuel s) := by
  rcases hs.ended with hstate | hstate | ⟨-, hgone⟩
  · exact hs.silent (silent_readLoop fuel (.inl hstate))
  · exact hs.silent (silent_readLoop fuel (.inr hstate))
  · cases fuel with
    | zero => exact hs
    | succ fuel =>
      rw [Socks5.readLoop, hgone]
      exact hs

theorem Negotiates.readLoop_requesting (hs : Negotiates iq hosts s)
    (hstate : s.socks5State = .targetConnectRequested) (fuel : ℕ) :
    Held iq hosts (readLoop sha1Hex fuel s) := by
  cases fuel with
  | zero => exact .inl hs
  | succ fuel =>
    obtain ⟨buffer, hbuffer⟩ := Option.ne_none_iff_exists'.mp hs.buffer
    obtain ⟨hheld, hover⟩ : Held iq hosts (handleReceivedData sha1Hex s buffer).1 ∧ _ :=
      hs.round_requesting hstate
    rw [readLoop_next fuel hbuffer]
    refine held_next hheld fun hused hne rest => .inr (Over.readLoop ?_ fuel)
    exact (hover hused).silent (silent_readBuffer hne rest)

theorem Negotiates.readLoop_asking (hs : Negotiates iq hosts s)
    (hstate : s.socks5State = .targetAuthRequestSent)
    (hconnected : ∀ t, s.transport = some t → t.phase = .connected)
    (hbuffer : s.readBuffer = some buffer) (hno : ¬ Retries s buffer) (fuel : ℕ) :
    Held iq hosts (readLoop sha1Hex fuel s) := by
  cases fuel with
  | zero => exact .inl hs
  | succ fuel =>
    obtain ⟨hheld, hgo⟩ : Held iq hosts (handleReceivedData sha1Hex s buffer).1 ∧ _ :=
      hs.round_asking hstate hconnected hno
    rw [readLoop_next fuel hbuffer]
    refine held_next hheld fun hused hne rest => ?_
    rcases hgo hused with hover | ⟨hnegotiates, hrequested⟩
    · refine .inr (Over.readLoop ?_ fuel)
      exact hover.silent (silent_readBuffer hne rest)
    · obtain ⟨done, h, rest', hsplit, htries⟩ := hnegotiates.tries
      exact Negotiates.readLoop_requesting ⟨⟨done, h, rest', hsplit, htries.set _ _ _ (some rest)⟩,
        hnegotiates.stage, Option.some_ne_none _⟩ hrequested fuel

end

end

end Socks5
