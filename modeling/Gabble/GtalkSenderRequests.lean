/-
# Requests for the files of a share

The invariant `Sharing` of the sending side, and why it is kept by the callbacks of
the collection, by what happens to the channels, and by the requests of the peer.
-/
import Gabble.GtalkSenderChannels

namespace Gtalk

open Base64 CText
open FtChannel (GTalkFileCollectionState Answers)

variable {f f' : FtChannel.State} {current : Prop} {c c' : State} {s : Sender} {id : ℕ}

/-! ## The collection while files are sent -/

/-- The invariant of a share that goes on. -/
structure Sharing (s : Sender) : Prop where
  server : s.collection.httpStatus = .serverIdle ∨ s.collection.httpStatus = .serverHeaders ∨
    s.collection.httpStatus = .serverSend
  headers : s.collection.httpStatus = .serverHeaders → s.collection.currentChannel = none
  send : s.collection.httpStatus = .serverSend →
    s.collection.currentChannel ≠ none ∧ s.collection.status = .transferring
  files : ∀ id, (s.files id).gtalkFileCollection = true →
    Sends (s.collection.currentChannel = some id) (s.files id)
  /-- a tail belongs to the current channel, which is blocked -/
  tail : s.collection.writeBuffer ≠ none → s.collection.httpStatus = .serverSend ∧
    ∀ id, s.collection.currentChannel = some id → (s.files id).gtalkFileCollection = true →
      Blocked (s.files id)

/-- Nothing is passed to the agent, and the tail stays. -/
def Silent (c c' : State) : Prop :=
  (∃ new, c'.out = c.out ++ new ∧ wire new = []) ∧ c'.writeBuffer = c.writeBuffer

theorem wire_append (out out' : List Effect) : wire (out ++ out') = wire out ++ wire out' :=
  List.flatMap_append

theorem Silent.refl (c : State) : Silent c c := ⟨⟨[], (List.append_nil _).symm, rfl⟩, rfl⟩

theorem Silent.trans {c c' c'' : State} (h : Silent c c') (h' : Silent c' c'') : Silent c c'' := by
  obtain ⟨⟨new, hout, hwire⟩, hbuffer⟩ := h
  obtain ⟨⟨new', hout', hwire'⟩, hbuffer'⟩ := h'
  refine ⟨⟨new ++ new', ?_, ?_⟩, hbuffer'.trans hbuffer⟩
  · rw [hout', hout, List.append_assoc]
  · rw [wire_append, hwire, hwire', List.append_nil]

theorem Silent.sent {c c' : State} (h : Silent c c') :
    wire c'.out ++ tail c' = wire c.out ++ tail c := by
  obtain ⟨⟨new, hout, hwire⟩, hbuffer⟩ := h
  rw [hout, wire_append, hwire, List.append_nil, tail, tail, hbuffer]

theorem wire_tells (channels : List Channel) (state : GTalkFileCollectionState)
    (localTerminator : Bool) :
    wire (channels.map fun c => .stateChanged c.id state localTerminator) = [] := by
  refine List.flatMap_eq_nil_iff.mpr fun e he => ?_
  obtain ⟨c, -, rfl⟩ := List.mem_map.mp he
  rfl

theorem silent_tellAll (state : GTalkFileCollectionState) (localTerminator : Bool) (c : State) :
    Silent c (tellAll state localTerminator c) :=
  ⟨⟨_, rfl, wire_tells c.channels state localTerminator⟩, rfl⟩

/-- A channel has closed its session and the share goes on without it. -/
structure LeftBy (id : ℕ) (c c' : State) : Prop where
  httpStatus : c'.httpStatus = c.httpStatus
  status : c'.status = c.status
  writeBuffer : c'.writeBuffer = c.writeBuffer
  current : c'.currentChannel = c.currentChannel ∨
    c.currentChannel = some id ∧ c.status ≠ .transferring ∧ c'.currentChannel = none
  tells : c'.out = c.out ∨ c'.out = c.out ++ [.stateChanged id .terminated true]

theorem silent_terminate (id : ℕ) (c : State) : Silent c (terminate id c) := by
  rw [terminate]
  split
  · exact .refl c
  split
  · dsimp only
    split
    · have hover : Silent c (emit .sessionTerminate { delChannel id c with status := .terminated }) :=
        ⟨⟨_, rfl, rfl⟩, rfl⟩
      exact hover.trans (silent_tellAll .terminated true _)
    · exact .refl c
  · exact ⟨⟨_, rfl, rfl⟩, rfl⟩

theorem silent_closeSession (id : ℕ) (c : State) : Silent c (closeSession id c) := by
  rw [closeSession]
  split
  · exact .refl c
  · exact silent_terminate id c

theorem leftBy_terminate (id : ℕ) (c : State) (h : (terminate id c).sessionOver = false) :
    LeftBy id c (terminate id c) := by
  rw [terminate] at h ⊢
  split
  · exact ⟨rfl, rfl, rfl, .inl rfl, .inl rfl⟩
  case isFalse hexists =>
    rw [if_neg hexists] at h
    split
    case isTrue hcurrent =>
      rw [if_pos hcurrent] at h
      dsimp only at h ⊢
      split
      case isTrue htransferring =>
        rw [if_pos htransferring] at h
        cases h
      case isFalse htransferring =>
        exact ⟨rfl, rfl, rfl, .inr ⟨hcurrent, htransferring, if_pos hcurrent⟩, .inl rfl⟩
    case isFalse hcurrent =>
      exact ⟨rfl, rfl, rfl, .inl (if_neg hcurrent), .inr rfl⟩

/-! ## Callbacks -/

theorem tell_agentTook (s : Sender) (data : Bytes) : tell s (.agentTook data) = s := rfl

theorem tell_writeBlocked (s : Sender) (id : ℕ) (blocked : Bool) :
    tell s (.writeBlocked id blocked) =
      setFile id (FtChannel.blockReceiving blocked (s.files id)) s := rfl

theorem tell_silent (s : Sender) (e : Effect) : Silent s.collection (tell s e).collection := by
  rw [tell.eq_def]
  split
  case h_1 id state localTerminator =>
    dsimp only
    split
    · rw [setFile]
      dsimp only
      split
      · exact .refl _
      · exact silent_closeSession id s.collection
    · exact .refl _
  · exact .refl _
  · exact .refl _

theorem foldl_tell_silent (es : List Effect) (s : Sender) :
    Silent s.collection (es.foldl tell s).collection := by
  induction es generalizing s with
  | nil => exact .refl _
  | cons e es ih => exact (tell_silent s e).trans (ih (tell s e))

theorem route_eq {c : State} {s : Sender} {new : List Effect}
    (h : c.out = s.collection.out ++ new) :
    route c s = new.foldl tell { s with collection := c } := by
  rw [route, h, List.drop_left]

/-- The callbacks pass nothing to the agent. -/
theorem route_silent (c : State) (s : Sender) : Silent c (route c s).collection :=
  foldl_tell_silent _ { s with collection := c }

/-- The invariant, but for one channel. -/
structure SharingBut (id : ℕ) (s : Sender) : Prop where
  server : s.collection.httpStatus = .serverIdle ∨ s.collection.httpStatus = .serverHeaders ∨
    s.collection.httpStatus = .serverSend
  headers : s.collection.httpStatus = .serverHeaders → s.collection.currentChannel = none
  send : s.collection.httpStatus = .serverSend →
    s.collection.currentChannel ≠ none ∧ s.collection.status = .transferring
  files : ∀ id', id' ≠ id → (s.files id').gtalkFileCollection = true →
    Sends (s.collection.currentChannel = some id') (s.files id')
  tail : s.collection.writeBuffer ≠ none → s.collection.httpStatus = .serverSend ∧
    ∀ id', id' ≠ id → s.collection.currentChannel = some id' →
      (s.files id').gtalkFileCollection = true → Blocked (s.files id')

theorem Sharing.but {s : Sender} (h : Sharing s) (id : ℕ) : SharingBut id s :=
  ⟨h.server, h.headers, h.send, fun id' _ => h.files id',
    fun hw => ⟨(h.tail hw).1, fun id' _ => (h.tail hw).2 id'⟩⟩

/-- The channel that was left out goes on. -/
theorem SharingBut.setFile {s : Sender} {id : ℕ} (h : SharingBut id s)
    (hf : f.gtalkFileCollection = true → Sends (s.collection.currentChannel = some id) f ∧
      (s.collection.writeBuffer ≠ none → s.collection.currentChannel = some id → Blocked f)) :
    Sharing (setFile id f s) := by
  have hself : (Gtalk.setFile id f s).files id = f := Function.update_self ..
  have hother : ∀ id', id' ≠ id → (Gtalk.setFile id f s).files id' = s.files id' :=
    fun id' hne => Function.update_of_ne hne ..
  refine ⟨h.server, h.headers, h.send, fun id' => ?_, fun hw => ⟨(h.tail hw).1, fun id' => ?_⟩⟩
  · by_cases hid : id' = id
    · subst hid
      rw [hself]
      exact fun hg => (hf hg).1
    · rw [hother id' hid]
      exact h.files id' hid
  · by_cases hid : id' = id
    · subst hid
      rw [hself]
      exact fun hc hg => (hf hg).2 hw hc
    · rw [hother id' hid]
      exact (h.tail hw).2 id' hid

/-- The channel that was left out leaves. -/
theorem SharingBut.leave (h : SharingBut id s) (hleft : LeftBy id s.collection c) :
    SharingBut id { s with collection := c } := by
  constructor
  · rw [hleft.httpStatus]
    exact h.server
  · intro hh
    rw [hleft.httpStatus] at hh
    rcases hleft.current with hsame | ⟨-, -, hnone⟩
    · exact hsame.trans (h.headers hh)
    · exact hnone
  · intro hs
    rw [hleft.httpStatus] at hs
    obtain ⟨hne, htransferring⟩ := h.send hs
    rcases hleft.current with hsame | ⟨-, hnot, -⟩
    · exact ⟨hsame ▸ hne, hleft.status.trans htransferring⟩
    · exact absurd htransferring hnot
  · intro id' hne hg
    have hsends := h.files id' hne hg
    rcases hleft.current with hsame | ⟨hid, -, hnone⟩
    · rw [hsame]
      exact hsends
    · -- the channel was not the current one, which has left
      have hnot : s.collection.currentChannel ≠ some id' := by
        rw [hid]
        exact fun heq => hne (Option.some.inj heq).symm
      exact ⟨hsends.requested, hsends.bytestream, hsends.address, hsends.connected,
        hsends.bufferEmpty, fun _ => hsends.asleep hnot⟩
  · intro hw
    rw [hleft.writeBuffer] at hw
    rw [hleft.httpStatus]
    refine ⟨(h.tail hw).1, fun id' hne hc => ?_⟩
    rcases hleft.current with hsame | ⟨-, -, hnone⟩
    · exact (h.tail hw).2 id' hne (hsame.symm.trans hc)
    · rw [hnone] at hc
      cases hc

/-- A channel has let go of the collection. -/
theorem SharingBut.release (h : SharingBut id s) (hgone : f.gtalkFileCollection = false)
    (hlive : Live (closeSession id s.collection)) :
    Sharing (Gtalk.setFile id f { s with collection := closeSession id s.collection }) := by
  have hleft : LeftBy id s.collection (closeSession id s.collection) := by
    rw [closeSession] at hlive ⊢
    split
    case isTrue hover =>
      rw [if_pos hover] at hlive
      exact absurd (hover.symm.trans hlive.1) (Bool.false_ne_true ∘ Eq.symm)
    case isFalse hover =>
      rw [if_neg hover] at hlive
      exact leftBy_terminate id _ hlive.1
  refine (h.leave hleft).setFile fun hg => ?_
  rw [hgone] at hg
  cases hg

/-- A callback to the channel that was left out, after which it goes on or has let
go of the collection. -/
theorem SharingBut.tell (h : SharingBut id s) {state : GTalkFileCollectionState}
    {localTerminator : Bool}
    (hf : (s.files id).gtalkFileCollection = true →
      ∀ f', f' = FtChannel.gtalkFileCollectionStateChanged state localTerminator
          (answers id s.collection) (s.files id) → f'.gtalkFileCollection = true →
        Sends (s.collection.currentChannel = some id) f' ∧
          (s.collection.writeBuffer ≠ none → s.collection.currentChannel = some id → Blocked f'))
    (hlive : Live (tell s (.stateChanged id state localTerminator)).collection) :
    Sharing (tell s (.stateChanged id state localTerminator)) := by
  rw [Gtalk.tell] at hlive ⊢
  split
  case isTrue huses =>
    rw [if_pos huses] at hlive
    have hgoes := hf huses _ rfl
    dsimp only at hlive ⊢
    split
    case isTrue => exact h.setFile hgoes
    case isFalse hgone =>
      rw [if_neg hgone] at hlive
      exact h.release (Bool.not_eq_true _ ▸ hgone) hlive
  case isFalse hreleased =>
    have hsame : Gtalk.setFile id (s.files id) s = s := by
      rw [Gtalk.setFile, Function.update_eq_self]
    rw [← hsame]
    exact h.setFile fun hg => absurd hg hreleased

/-- A callback after which the channel goes on keeps the invariant. -/
theorem Sharing.tell {state : GTalkFileCollectionState} {localTerminator : Bool} (h : Sharing s)
    (hf : (s.files id).gtalkFileCollection = true →
      GoesOn (s.collection.currentChannel = some id) (s.files id)
        (FtChannel.gtalkFileCollectionStateChanged state localTerminator
          (answers id s.collection) (s.files id)))
    (hlive : Live (tell s (.stateChanged id state localTerminator)).collection) :
    Sharing (tell s (.stateChanged id state localTerminator)) := by
  refine (h.but id).tell (fun huses f' hf' hg => ?_) hlive
  subst hf'
  obtain ⟨hsends, hkeeps⟩ := hf huses hg
  exact ⟨hsends, fun hw hc => hkeeps ((h.tail hw).2 id hc huses)⟩

theorem GoesOn.mono {current' : Prop} (h : GoesOn False f f') : GoesOn current' f f' := by
  intro hg
  obtain ⟨hsends, hkeeps⟩ := h hg
  exact ⟨⟨hsends.requested, hsends.bytestream, hsends.address, hsends.connected,
    hsends.bufferEmpty, fun _ => hsends.asleep (fun hf => hf)⟩, hkeeps⟩

/-- The session is accepted. -/
theorem goesOn_accepted (localTerminator : Bool) (a : Answers) (hf : Sends current f) :
    GoesOn current f (FtChannel.gtalkFileCollectionStateChanged .accepted localTerminator a f) := by
  rw [FtChannel.gtalkFileCollectionStateChanged]
  split
  case isTrue hpending =>
    refine fun _ => goesOn_setState .none hf (by rintro ⟨⟩) fun hended => ?_
    rw [hpending] at hended
    cases hended
  case isFalse => exact fun _ => ⟨hf, fun hb => hb⟩

theorem terminate_aborted (id : ℕ) (c : State) : (terminate id c).aborted = c.aborted := by
  rw [terminate]
  split
  · rfl
  split
  · dsimp only
    split <;> rfl
  · rfl

/-- The callbacks do not bring a share back that is over. -/
theorem live_of_tell {e : Effect} (hlive : Live (tell s e).collection) : Live s.collection := by
  rw [tell.eq_def] at hlive
  split at hlive
  case h_1 id state localTerminator =>
    dsimp only at hlive
    split at hlive
    · rw [setFile] at hlive
      dsimp only at hlive
      split at hlive
      · exact hlive
      · rw [closeSession] at hlive
        dsimp only at hlive
        split at hlive
        case isTrue => exact hlive
        case isFalse hover =>
          exact ⟨Bool.not_eq_true _ ▸ hover, (terminate_aborted ..).symm.trans hlive.2⟩
    · exact hlive
  · exact hlive
  · exact hlive

/-- Callbacks to any channels that keep the invariant. -/
theorem sharing_foldl_tell {es : List Effect}
    (hes : ∀ e ∈ es, ∀ s, Sharing s → Live (tell s e).collection → Sharing (tell s e))
    (h : Live s.collection → Sharing s) (hlive : Live (es.foldl tell s).collection) :
    Sharing (es.foldl tell s) := by
  induction es generalizing s with
  | nil => exact h hlive
  | cons e es ih =>
    refine ih (fun e' he' => hes e' (List.mem_cons_of_mem _ he')) (fun hnext => ?_) hlive
    exact hes e List.mem_cons_self s (h (live_of_tell hnext)) hnext

/-- The session is accepted, or the peer says that it has everything. -/
theorem sharing_tellAll {channels : List Channel} {state : GTalkFileCollectionState}
    (hstate : state = .accepted ∨ state = .completed) (h : Sharing s)
    (hlive : Live ((channels.map fun ch => .stateChanged ch.id state false).foldl tell s).collection) :
    Sharing ((channels.map fun ch => .stateChanged ch.id state false).foldl tell s) := by
  refine sharing_foldl_tell (fun e he s' h' hl => ?_) (fun _ => h) hlive
  obtain ⟨ch, -, rfl⟩ := List.mem_map.mp he
  rcases hstate with rfl | rfl
  · exact h'.tell (fun huses => goesOn_accepted false _ (h'.files _ huses)) hl
  · exact h'.tell (fun huses => (goesOn_completed false _ (h'.files _ huses)).mono) hl

theorem live_of_foldl_tell {es : List Effect} (hlive : Live (es.foldl tell s).collection) :
    Live s.collection := by
  induction es generalizing s with
  | nil => exact hlive
  | cons e es ih => exact live_of_tell (ih hlive)

/-- The end of a session is told to the other channels; the one that has closed it
has let go of the collection. -/
theorem route_terminate (hgone : (s.files id).gtalkFileCollection = false)
    (hlive : Live (route (terminate id s.collection) s).collection) :
    route (terminate id s.collection) s = { s with collection := terminate id s.collection } := by
  have hleft := leftBy_terminate id s.collection (live_of_foldl_tell hlive).1
  rcases hleft.tells with hnone | htold
  · exact route_eq (hnone.trans (List.append_nil _).symm)
  · rw [route_eq htold, List.foldl_cons, List.foldl_nil, tell, if_neg]
    rw [hgone]
    exact Bool.false_ne_true

/-- What happens to a channel without the collection keeps the invariant. -/
theorem sharing_clientEvent {e : FtChannel.Event} {a : Answers} (h : Sharing s)
    (hclient : ofClient a e = true) (henabled : FtChannel.enabled (s.files id) e = true)
    (hlive : Live (clientEvent id e s).collection) : Sharing (clientEvent id e s) := by
  have hself : (setFile id (FtChannel.handle (s.files id) e) s).files id =
      FtChannel.handle (s.files id) e := Function.update_self ..
  rw [clientEvent] at hlive ⊢
  split
  case isTrue hcloses =>
    rw [if_pos hcloses] at hlive
    simp only [Bool.and_eq_true, Bool.not_eq_true'] at hcloses
    have hterminated := live_of_foldl_tell hlive
    rw [route_terminate (hself.symm ▸ hcloses.2) hlive]
    have hleft := (h.but id).leave (leftBy_terminate id s.collection hterminated.1)
    refine hleft.setFile fun hg => ?_
    rw [hcloses.2] at hg
    cases hg
  case isFalse hstays =>
    refine (h.but id).setFile fun hg => ?_
    have huses : (s.files id).gtalkFileCollection = true := by
      by_contra hreleased
      rw [released_handle hclient (Bool.not_eq_true _ ▸ hreleased)] at hg
      cases hg
    obtain ⟨hsends, hkeeps⟩ := goesOn_handle hclient henabled (h.files id huses) hg
    exact ⟨hsends, fun hw hc => hkeeps ((h.tail hw).2 id hc huses)⟩

/-! ## Requests -/

/-- The first line of a request: the current file has ended. -/
def nextRequest (line : Bytes) (c : State) : State :=
  let c := { c with httpStatus := .serverHeaders, statusLine := line }
  match c.currentChannel with
  | none => c
  | some id => setCurrentChannel none (emit (.stateChanged id .completed false) c)

/-- What one round makes of a request. -/
theorem readAgent_server (h : Sharing s) (buffer : Bytes) :
    (readAgent s.collection buffer).1 = s.collection ∨
      (s.collection.httpStatus = .serverIdle ∧
        ∃ line, (readAgent s.collection buffer).1 = nextRequest line s.collection) ∨
      (s.collection.httpStatus = .serverHeaders ∧
        (readAgent s.collection buffer).1 = respond s.collection) := by
  rw [readAgent]
  split
  · exact .inl rfl
  rcases h.server with hs | hs | hs
  · rw [httpDataReceived, hs]
    dsimp only
    rw [withLine]
    split
    · exact .inl rfl
    · exact .inr (.inl ⟨rfl, _, rfl⟩)
  · rw [httpDataReceived, hs]
    dsimp only
    rw [withLine]
    split
    · exact .inl rfl
    · dsimp only
      split
      · exact .inr (.inr ⟨rfl, rfl⟩)
      · exact .inl rfl
  · rw [httpDataReceived, hs]
    exact .inl rfl

/-- There is no tail while a request is read. -/
theorem Sharing.writeBuffer_eq_none (h : Sharing s) (hs : s.collection.httpStatus ≠ .serverSend) :
    s.collection.writeBuffer = none := by
  by_contra hw
  exact hs (h.tail hw).1

/-- Channels that are not the current one do not care which one is. -/
theorem Sends.other {current' : Prop} (hf : Sends current f) (hnot : ¬ current) :
    Sends current' f :=
  ⟨hf.requested, hf.bytestream, hf.address, hf.connected, hf.bufferEmpty,
    fun _ => hf.asleep hnot⟩

/-- The next request keeps the invariant. -/
theorem sharing_nextRequest (h : Sharing s) (hidle : s.collection.httpStatus = .serverIdle)
    (line : Bytes) (hlive : Live (route (nextRequest line s.collection) s).collection) :
    Sharing (route (nextRequest line s.collection) s) := by
  have hnotail := h.writeBuffer_eq_none (by rw [hidle]; rintro ⟨⟩)
  cases hcurrent : s.collection.currentChannel with
  | none =>
    have heq : nextRequest line s.collection =
        { s.collection with httpStatus := .serverHeaders, statusLine := line } := by
      simp only [nextRequest, hcurrent]
    have hout : (nextRequest line s.collection).out = s.collection.out ++ [] := by
      rw [heq, List.append_nil]
    rw [route_eq hout, List.foldl_nil, heq]
    exact ⟨.inr (.inl rfl), fun _ => hcurrent, by rintro ⟨⟩, h.files,
      fun hw => absurd hnotail hw⟩
  | some id =>
    have heq : nextRequest line s.collection =
        { s.collection with
          httpStatus := .serverHeaders
          statusLine := line
          currentChannel := none
          out := s.collection.out ++ [Effect.stateChanged id .completed false] } := by
      simp only [nextRequest, hcurrent, setCurrentChannel, emit]
    have hout : (nextRequest line s.collection).out =
        s.collection.out ++ [Effect.stateChanged id .completed false] := by rw [heq]
    have hstill : (nextRequest line s.collection).writeBuffer = none := by rw [heq, hnotail]
    have hbut : SharingBut id { s with collection := nextRequest line s.collection } := by
      rw [heq]
      refine ⟨.inr (.inl rfl), fun _ => rfl, by rintro ⟨⟩, fun id' hne hg => ?_,
        fun hw => absurd hnotail hw⟩
      refine (h.files id' hg).other fun heq' => hne ?_
      exact (Option.some.inj (hcurrent.symm.trans heq')).symm
    rw [route_eq hout, List.foldl_cons, List.foldl_nil] at hlive ⊢
    refine hbut.tell (fun huses f' hf' hg => ?_) hlive
    subst hf'
    obtain ⟨hsends, -⟩ := (goesOn_completed false _ (h.files id huses)).mono hg
    exact ⟨hsends, fun hw => absurd hstill hw⟩

/-- What `set_current_channel` changes and tells. -/
theorem setCurrentChannel_tells {c : State} (hexists : channelExists id c = true) :
    (setCurrentChannel (some id) c).httpStatus = c.httpStatus ∧
      (setCurrentChannel (some id) c).status = c.status ∧
      (setCurrentChannel (some id) c).writeBuffer = c.writeBuffer ∧
      (setCurrentChannel (some id) c).currentChannel = some id ∧
      ∃ last, (setCurrentChannel (some id) c).out =
          c.out ++ Effect.stateChanged id .opened false :: last ∧
        (last = [] ∨ ∃ attach, last = [.attachRecv attach]) := by
  rw [setCurrentChannel, blockReading, if_neg (by simpa [channelExists, emit] using hexists)]
  dsimp only
  split
  · exact ⟨rfl, rfl, rfl, rfl, _, List.append_assoc .., .inr ⟨_, rfl⟩⟩
  · exact ⟨rfl, rfl, rfl, rfl, [], rfl, .inl rfl⟩

/-- The response for a file that is there: its channel becomes the current one and
may read. -/
theorem sharing_serve (hasleep : ∀ current' id', (s.files id').gtalkFileCollection = true →
      Sends current' (s.files id'))
    (hnotail : s.collection.writeBuffer = none) (hexists : channelExists id s.collection = true)
    (head : Bytes) {c : State}
    (hc : c = { emit (.agentSend head) s.collection with
                httpStatus := .serverSend, status := .transferring })
    (hlive : Live (route (setCurrentChannel (some id) c) s).collection) :
    Sharing (route (setCurrentChannel (some id) c) s) := by
  have hexists' : channelExists id c = true := by rw [hc]; exact hexists
  obtain ⟨hsend, htransferring, hbuffer, hcurrent, last, hout, hlast⟩ :=
    setCurrentChannel_tells hexists'
  have hnotail' : (setCurrentChannel (some id) c).writeBuffer = none := by
    rw [hbuffer, hc]
    exact hnotail
  have hbut : SharingBut id { s with collection := setCurrentChannel (some id) c } := by
    refine ⟨.inr (.inr ?_), fun hh => ?_, fun _ => ⟨?_, ?_⟩, fun id' _ hg => hasleep _ id' hg,
      fun hw => absurd hnotail' hw⟩
    · rw [hsend, hc]
    · rw [hsend, hc] at hh
      cases hh
    · rw [hcurrent]
      exact Option.some_ne_none _
    · rw [htransferring, hc]
  have hout' : (setCurrentChannel (some id) c).out =
      s.collection.out ++ Effect.agentSend head :: .stateChanged id .opened false :: last := by
    rw [hout, hc]
    exact List.append_assoc ..
  have hlast' : ∀ s' : Sender, last.foldl tell s' = s' := by
    intro s'
    rcases hlast with rfl | ⟨attach, rfl⟩ <;> rfl
  rw [route_eq hout', List.foldl_cons, List.foldl_cons, hlast'] at hlive ⊢
  refine hbut.tell (fun huses f' hf' hg => ?_) hlive
  subst hf'
  refine ⟨?_, fun hw => absurd hnotail' hw⟩
  rw [hcurrent, eq_self]
  exact sends_channelOpen (hasleep True id huses)

/-- The response to a request keeps the invariant. -/
theorem sharing_respond (h : Sharing s) (hheaders : s.collection.httpStatus = .serverHeaders)
    (hlive : Live (route (respond s.collection) s).collection) :
    Sharing (route (respond s.collection) s) := by
  have hnotail := h.writeBuffer_eq_none (by rw [hheaders]; nofun)
  have hnone := h.headers hheaders
  have hasleep : ∀ (current' : Prop) id', (s.files id').gtalkFileCollection = true →
      Sends current' (s.files id') := by
    intro current' id' hg
    refine (h.files id' hg).other ?_
    rw [hnone]
    nofun
  have hnotFound : Sharing (route (respond.notFound s.collection) s) := by
    rw [route_eq rfl]
    exact ⟨.inl rfl, nofun, nofun, fun id' => hasleep _ id', fun hw => absurd hnotail hw⟩
  have haborts : ¬ Live (route (abort s.collection) s).collection := by
    intro hl
    cases (live_of_foldl_tell hl).2
  rw [respond, hnone] at hlive ⊢
  dsimp only [Option.isSome_none] at hlive ⊢
  rw [if_neg Bool.false_ne_true] at hlive ⊢
  split
  case h_1 hbad =>
    rw [hbad] at hlive
    dsimp only at hlive
    split
    case isTrue => exact hnotFound
    case isFalse hsome =>
      rw [if_neg hsome] at hlive
      exact absurd hlive haborts
  case h_2 filename hfilename =>
    rw [hfilename] at hlive
    dsimp only at hlive
    split
    case h_1 ch hch =>
      rw [hch] at hlive
      dsimp only at hlive
      have hexists : channelExists ch.id s.collection = true :=
        List.any_eq_true.mpr ⟨ch, List.mem_of_find?_eq_some hch, by simp⟩
      exact sharing_serve hasleep hnotail hexists _ rfl hlive
    case h_2 => exact hnotFound
  case h_3 => exact hnotFound

/-- What a round of reading keeps, from the state the reading has begun in: the
invariant, the tail, and the order of what is told; while there is a tail nothing
is passed to the agent. -/
structure Reads (s₀ s : Sender) : Prop where
  sharing : Live s.collection → Sharing s
  writeBuffer : s.collection.writeBuffer = s₀.collection.writeBuffer
  grows : ∃ new, s.collection.out = s₀.collection.out ++ new ∧
    (s₀.collection.writeBuffer ≠ none → wire new = [])

theorem Silent.reads {s₀ s s' : Sender} (h : Reads s₀ s)
    (hsilent : Silent s.collection s'.collection)
    (hsharing : Live s'.collection → Sharing s') : Reads s₀ s' := by
  obtain ⟨new, hnew, hquiet⟩ := h.grows
  obtain ⟨⟨new', hnew', hwire⟩, hbuffer⟩ := hsilent
  refine ⟨hsharing, hbuffer.trans h.writeBuffer, new ++ new', ?_, fun hw => ?_⟩
  · rw [hnew', hnew, List.append_assoc]
  · rw [wire_append, hquiet hw, hwire, List.nil_append]

/-- The tail stays, and what was told stays told. -/
def Grows (c c' : State) : Prop :=
  c'.writeBuffer = c.writeBuffer ∧ ∃ new, c'.out = c.out ++ new

theorem Grows.trans {c c' c'' : State} (h : Grows c c') (h' : Grows c' c'') : Grows c c'' := by
  obtain ⟨hbuffer, new, hnew⟩ := h
  obtain ⟨hbuffer', new', hnew'⟩ := h'
  refine ⟨hbuffer'.trans hbuffer, new ++ new', ?_⟩
  rw [hnew', hnew, List.append_assoc]

theorem Silent.grows (h : Silent c c') : Grows c c' := by
  obtain ⟨⟨new, hnew, -⟩, hbuffer⟩ := h
  exact ⟨hbuffer, new, hnew⟩

theorem grows_setCurrentChannel (id : ℕ) (c : State) : Grows c (setCurrentChannel (some id) c) := by
  have htold : Grows c (emit (.stateChanged id .opened false) { c with currentChannel := some id }) :=
    ⟨rfl, _, rfl⟩
  refine htold.trans ?_
  rw [setCurrentChannel, blockReading]
  dsimp only
  split
  · exact ⟨rfl, [], (List.append_nil _).symm⟩
  · split
    · exact ⟨rfl, _, rfl⟩
    · exact ⟨rfl, [], (List.append_nil _).symm⟩

theorem grows_respond (c : State) : Grows c (respond c) := by
  have habort : Grows c (abort c) := ⟨rfl, [], (List.append_nil _).symm⟩
  rw [respond]
  split
  · exact habort
  dsimp only
  split
  · split
    · exact ⟨rfl, _, rfl⟩
    · exact habort
  · split
    · refine Grows.trans ?_ (grows_setCurrentChannel _ _)
      exact ⟨rfl, _, rfl⟩
    · exact ⟨rfl, _, rfl⟩
  · exact ⟨rfl, _, rfl⟩

theorem silent_nextRequest (line : Bytes) (c : State) : Silent c (nextRequest line c) := by
  rw [nextRequest]
  dsimp only
  split
  · exact .refl c
  · exact ⟨⟨_, rfl, rfl⟩, rfl⟩

/-- One round keeps what reading keeps. -/
theorem reads_readShare {s₀ s : Sender} (buffer : Bytes) (h : Reads s₀ s) :
    Reads s₀ (readShare s buffer).1 := by
  have hsame : Reads s₀ (route s.collection s) := by
    rw [route_eq (List.append_nil _).symm, List.foldl_nil]
    exact h
  rw [readShare]
  dsimp only
  by_cases hlive : Live s.collection
  case neg =>
    -- nobody reads after the end
    have hend : (readAgent s.collection buffer).1 = s.collection := by
      rw [readAgent, if_pos]
      simp only [Live, not_and_or, Bool.not_eq_false] at hlive
      simp [hlive]
    rw [hend]
    exact hsame
  case pos =>
    have hs := h.sharing hlive
    rcases readAgent_server hs buffer with heq | ⟨hidle, line, hline⟩ | ⟨hheaders, hrespond⟩
    · rw [heq]
      exact hsame
    · rw [hline]
      exact ((silent_nextRequest line s.collection).trans (route_silent _ s)).reads h
        (sharing_nextRequest hs hidle line)
    · -- there is no tail while a request is read
      have hnotail := hs.writeBuffer_eq_none (by rw [hheaders]; rintro ⟨⟩)
      rw [hrespond]
      obtain ⟨hbuffer, new', hnew'⟩ :=
        (grows_respond s.collection).trans (route_silent (respond s.collection) s).grows
      obtain ⟨new, hnew, -⟩ := h.grows
      refine ⟨sharing_respond hs hheaders, hbuffer.trans h.writeBuffer, new ++ new', ?_,
        fun hw => ?_⟩
      · rw [hnew', hnew, List.append_assoc]
      · rw [← h.writeBuffer] at hw
        exact absurd hnotail hw

theorem reads_receive (h : Sharing s) (data : Bytes) : Reads s (receive data s) := by
  have hstart : Reads s s := ⟨fun _ => h, rfl, [], (List.append_nil _).symm, fun _ => rfl⟩
  have hread := Segments.drainAll_invariant (fun _ buffer => reads_readShare buffer) hstart
    (s.unread ++ data)
  exact ⟨fun hlive => ⟨(hread.sharing hlive).server, (hread.sharing hlive).headers,
    (hread.sharing hlive).send, (hread.sharing hlive).files, (hread.sharing hlive).tail⟩,
    hread.writeBuffer, hread.grows⟩

end Gtalk
