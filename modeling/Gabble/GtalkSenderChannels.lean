/-
# The channels of a share

What happens to a file transfer channel while its file is sent, as far as the
collection is concerned.  A channel reads from its local socket only while it is
the current one of the collection (`Sends`), and nothing but the collection lets a
client that is blocked go on (`GoesOn`).
-/
import Gabble.GtalkSender

namespace Gtalk

open Base64
open FtChannel (Answers GTimeVal)

/-! ## The channels of a share -/

/-- The channel reads from its local socket. -/
def talks (f : FtChannel.State) : Bool :=
  f.transport.any fun t => t.connected && t.handlerSet && !t.receivingBlocked

/-- The channel reads, or would if a client connected. -/
def awake (f : FtChannel.State) : Bool :=
  f.state = .opened || (f.channelOpened && !f.state.ended) || talks f

/-- What holds of a channel whose file is sent, and whether it is the current
channel of the collection. -/
structure Sends (current : Prop) (f : FtChannel.State) : Prop where
  requested : f.requested = true
  bytestream : f.bytestream = false
  address : f.listener = true → f.socketAddress = true
  connected : f.transport ≠ none → f.listener = false ∧ f.socketAddress = true
  bufferEmpty : ∀ t, f.transport = some t → t.bufferEmpty = true
  asleep : ¬ current → awake f = false

/-- A client is connected, and nothing is read from it. -/
def Blocked (f : FtChannel.State) : Prop :=
  ∃ t, f.transport = some t ∧ t.receivingBlocked = true

/-- Something happens to a channel: it lets go of the collection, or it goes on
and a client that is blocked stays so. -/
def GoesOn (current : Prop) (f f' : FtChannel.State) : Prop :=
  f'.gtalkFileCollection = true → Sends current f' ∧ (Blocked f → Blocked f')

/-- Nothing that matters for the collection changes. -/
structure SameShape (f f' : FtChannel.State) : Prop where
  requested : f'.requested = f.requested
  bytestream : f'.bytestream = f.bytestream
  gtalkFileCollection : f'.gtalkFileCollection = f.gtalkFileCollection
  listener : f'.listener = f.listener
  socketAddress : f'.socketAddress = f.socketAddress
  channelOpened : f'.channelOpened = f.channelOpened
  transport : f'.transport = f.transport
  state : f'.state = f.state

variable {f f' : FtChannel.State} {current : Prop}

theorem SameShape.sends (h : SameShape f f') (hf : Sends current f) : Sends current f' := by
  constructor
  · rw [h.requested]; exact hf.requested
  · rw [h.bytestream]; exact hf.bytestream
  · rw [h.listener, h.socketAddress]; exact hf.address
  · rw [h.transport, h.listener, h.socketAddress]; exact hf.connected
  · rw [h.transport]; exact hf.bufferEmpty
  · rw [awake, talks, h.transport, h.channelOpened, h.state]
    exact hf.asleep

theorem SameShape.goesOn (h : SameShape f f') (hf : Sends current f) : GoesOn current f f' := by
  intro _
  refine ⟨h.sends hf, fun hb => ?_⟩
  rw [Blocked, h.transport]
  exact hb

/-- A transfer ends; the client stays as it is. -/
theorem goesOn_setState {state : FtChannel.FileTransferState}
    (reason : FtChannel.StateChangeReason) (hf : Sends current f) (hopened : state ≠ .opened)
    (hended : f.state.ended = true → state.ended = true) :
    Sends current (FtChannel.setState state reason f) ∧
      (Blocked f → Blocked (FtChannel.setState state reason f)) := by
  rw [FtChannel.setState]
  split
  · exact ⟨hf, fun hb => hb⟩
  · refine ⟨⟨hf.requested, hf.bytestream, hf.address, hf.connected, hf.bufferEmpty, fun hc => ?_⟩,
      fun hb => hb⟩
    have hasleep := hf.asleep hc
    simp only [awake, Bool.or_eq_false_iff, Bool.and_eq_false_iff, Bool.not_eq_false',
      decide_eq_false_iff_not] at hasleep ⊢
    refine ⟨⟨hopened, hasleep.1.2.imp_right hended⟩, hasleep.2⟩

theorem released_closeSession (a : Answers) (f : FtChannel.State) :
    (FtChannel.closeSessionAndTransport a f).gtalkFileCollection = false := rfl

/-- The local socket goes: the transfer is cancelled, or nothing happens. -/
theorem goesOn_transportDisconnectedCb (a : Answers)
    (hf : Sends current f) : GoesOn current f (FtChannel.transportDisconnectedCb a f) := by
  rw [FtChannel.transportDisconnectedCb]
  split
  · exact fun hgone => absurd hgone (by rw [released_closeSession]; exact Bool.false_ne_true)
  · exact fun _ => ⟨hf, fun hb => hb⟩

/-- A channel whose transfer has ended and that reads nothing need not be the
current one. -/
theorem Sends.sleep (hf : Sends current f) (current' : Prop) (hended : f.state.ended = true)
    (htalks : talks f = false) : Sends current' f := by
  refine ⟨hf.requested, hf.bytestream, hf.address, hf.connected, hf.bufferEmpty, fun _ => ?_⟩
  have hopened : f.state ≠ .opened := fun h => by rw [h] at hended; cases hended
  simp [awake, hopened, hended, htalks]

/-- The client of a channel is gone. -/
theorem sends_transportGone {t : FtChannel.Transport} (hf : Sends current f)
    (ht : f.transport = some t) :
    Sends current (FtChannel.transportGone t f) ∧ talks (FtChannel.transportGone t f) = false ∧
      (Blocked f → Blocked (FtChannel.transportGone t f)) := by
  have htalks : talks (FtChannel.transportGone t f) = false := by
    simp [talks, FtChannel.transportGone]
  refine ⟨⟨hf.requested, hf.bytestream, hf.address, fun _ => hf.connected (by simp [ht]), ?_, ?_⟩,
    htalks, ?_⟩
  · rintro t' ht'
    obtain rfl := Option.some.inj ht'
    rfl
  · intro hc
    have hasleep := hf.asleep hc
    rw [awake, Bool.or_eq_false_iff] at hasleep ⊢
    exact ⟨hasleep.1, htalks⟩
  · rintro ⟨t', ht', hb⟩
    obtain rfl := Option.some.inj (ht.symm.trans ht')
    exact ⟨_, rfl, hb⟩

/-- **The end of a file.**  The channel reads nothing any more. -/
theorem goesOn_completed (localTerminator : Bool) (a : Answers) (hf : Sends current f) :
    GoesOn False f
      (FtChannel.gtalkFileCollectionStateChanged .completed localTerminator a f) := by
  obtain ⟨hset, hblocked⟩ := goesOn_setState .none hf
    (show FtChannel.FileTransferState.completed ≠ .opened from nofun) (fun _ => rfl)
  have hended : (FtChannel.setState .completed .none f).state.ended = true := by
    rw [FtChannel.setState]
    split
    case isTrue h => rw [h]; rfl
    case isFalse => rfl
  rw [FtChannel.gtalkFileCollectionStateChanged, FtChannel.disconnectIfEmpty]
  generalize FtChannel.setState .completed .none f = g at hset hblocked hended ⊢
  cases ht : g.transport with
  | none => exact fun _ => ⟨hset.sleep False hended (by simp [talks, ht]), hblocked⟩
  | some t =>
    dsimp only
    rw [if_pos (hset.bufferEmpty t ht), FtChannel.transportDisconnect, ht]
    dsimp only
    have hsame : SameShape g (FtChannel.emit .transportDisconnect g) :=
      ⟨rfl, rfl, rfl, rfl, rfl, rfl, rfl, rfl⟩
    split
    case isTrue =>
      obtain ⟨hgone, htalks, hkeeps⟩ := sends_transportGone (hsame.sends hset) ht
      intro hg
      obtain ⟨hsends, hkeeps'⟩ := goesOn_transportDisconnectedCb a
        (hgone.sleep False hended htalks) hg
      exact ⟨hsends, fun hb => hkeeps' (hkeeps (hblocked hb))⟩
    case isFalse hconnected =>
      have htalks : talks g = false := by simp [talks, ht, hconnected]
      intro _
      exact ⟨(hsame.sends hset).sleep False hended htalks, fun hb => hblocked hb⟩

/-- Reading from the local socket is blocked or not; that the current channel does
it is all that is asked. -/
theorem sends_blockReceiving (block : Bool) (hf : Sends current f) (hc : current) :
    Sends current (FtChannel.blockReceiving block f) := by
  rw [FtChannel.blockReceiving]
  cases ht : f.transport with
  | none => exact hf
  | some t =>
    refine ⟨hf.requested, hf.bytestream, hf.address, fun _ => hf.connected (by simp [ht]), ?_,
      fun hnot => absurd hc hnot⟩
    rintro t' ht'
    obtain rfl := Option.some.inj ht'
    exact hf.bufferEmpty t ht

/-- A client that is connected is blocked. -/
theorem blocked_blockReceiving (ht : f.transport ≠ none) :
    Blocked (FtChannel.blockReceiving true f) := by
  obtain ⟨t, ht⟩ := Option.ne_none_iff_exists'.mp ht
  rw [FtChannel.blockReceiving, ht]
  exact ⟨_, rfl, rfl⟩

/-- The channel becomes the current one. -/
theorem sends_channelOpen (hf : Sends current f) : Sends True (FtChannel.channelOpen f) := by
  have hcurrent : ∀ {g : FtChannel.State}, SameShape { f with channelOpened := true } g →
      Sends True g := by
    intro g hg
    refine hg.sends ⟨hf.requested, hf.bytestream, hf.address, hf.connected, hf.bufferEmpty, ?_⟩
    exact fun hnot => absurd trivial hnot
  have hset : ∀ (state) {g : FtChannel.State}, Sends True g →
      Sends True (FtChannel.setState state .none g) := by
    intro state g hg
    rw [FtChannel.setState]
    split
    · exact hg
    · exact ⟨hg.requested, hg.bytestream, hg.address, hg.connected, hg.bufferEmpty,
        fun hnot => absurd trivial hnot⟩
  rw [FtChannel.channelOpen]
  dsimp only
  split
  · refine sends_blockReceiving false (hset _ (hcurrent ?_)) trivial
    exact ⟨rfl, rfl, rfl, rfl, rfl, rfl, rfl, rfl⟩
  · refine hset _ (hcurrent ?_)
    exact ⟨rfl, rfl, rfl, rfl, rfl, rfl, rfl, rfl⟩

theorem sameShape_emitProgressUpdate (now : GTimeVal) (f : FtChannel.State) :
    SameShape f (FtChannel.emitProgressUpdate now f) := ⟨rfl, rfl, rfl, rfl, rfl, rfl, rfl, rfl⟩

/-- The channel counts what it has passed on. -/
theorem transportHandler_counts (data : Bytes) (now : GTimeVal) (a : Answers)
    (hf : Sends current f) (huses : f.gtalkFileCollection = true) :
    SameShape f (FtChannel.transportHandler data true now a f) ∧
      FtChannel.short (FtChannel.transportHandler data true now a f) =
        FtChannel.short (counted data f) := by
  have hcount : SameShape f (FtChannel.transferredChunk (UInt64.ofNat data.length) now
        (FtChannel.emit (.collectionSendData data) f)) ∧
      FtChannel.short (FtChannel.transferredChunk (UInt64.ofNat data.length) now
        (FtChannel.emit (.collectionSendData data) f)) = FtChannel.short (counted data f) := by
    rw [FtChannel.transferredChunk]
    dsimp only
    split
    · exact ⟨⟨rfl, rfl, rfl, rfl, rfl, rfl, rfl, rfl⟩, rfl⟩
    · split
      · exact ⟨⟨rfl, rfl, rfl, rfl, rfl, rfl, rfl, rfl⟩, rfl⟩
      · split <;> exact ⟨⟨rfl, rfl, rfl, rfl, rfl, rfl, rfl, rfl⟩, rfl⟩
  rw [FtChannel.transportHandler, hf.bytestream, huses]
  rw [if_neg Bool.false_ne_true, if_pos rfl]
  rw [if_pos rfl, FtChannel.dataForwarded]
  generalize FtChannel.transferredChunk (UInt64.ofNat data.length) now
    (FtChannel.emit (.collectionSendData data) f) = g at hcount ⊢
  obtain ⟨hsame, hshort⟩ := hcount
  rw [hsame.bytestream, hf.bytestream, hsame.gtalkFileCollection, huses]
  rw [if_neg Bool.false_ne_true, if_pos rfl]
  split
  · exact ⟨hsame, hshort⟩
  · refine ⟨⟨hsame.requested, hsame.bytestream, hsame.gtalkFileCollection, hsame.listener,
      hsame.socketAddress, hsame.channelOpened, hsame.transport, hsame.state⟩, ?_⟩
    exact hshort

/-- The user provides the file. -/
theorem goesOn_provideFile (addressType accessControl : ℕ) (listens : Bool)
    (hf : Sends current f) :
    GoesOn current f (FtChannel.provideFile addressType accessControl listens f) := by
  have hemit : ∀ e, SameShape f (FtChannel.emit e f) :=
    fun e => ⟨rfl, rfl, rfl, rfl, rfl, rfl, rfl, rfl⟩
  rw [FtChannel.provideFile]
  split
  · exact (hemit _).goesOn hf
  split
  · exact (hemit _).goesOn hf
  split
  · exact (hemit _).goesOn hf
  case isFalse hpending hunset =>
    split
    · exact (hemit _).goesOn hf
    -- no client can have connected before
    have hnone : f.transport = none := by
      by_contra hsome
      exact hunset (hf.connected hsome).2
    have hnot : ¬ Blocked f := by
      rintro ⟨t, ht, -⟩
      rw [hnone] at ht
      cases ht
    intro _
    refine ⟨?_, fun hb => absurd hb hnot⟩
    have hstate : f.state.ended = false := by
      cases h : f.state <;> simp_all [FtChannel.FileTransferState.ended]
    rw [FtChannel.provided]
    dsimp only
    split
    case isTrue hopened =>
      -- only the current channel is open before the file is provided
      have hcurrent : ¬ ¬ current := by
        intro hc
        have hasleep := hf.asleep hc
        simp [awake, hopened, hstate] at hasleep
      refine ⟨?_, ?_, fun _ => ?_, ?_, ?_, fun hc => absurd hc hcurrent⟩
      all_goals rw [FtChannel.setState]
      all_goals split
      all_goals simp [FtChannel.emit, hf.requested, hf.bytestream, hnone]
    case isFalse =>
      refine ⟨hf.requested, hf.bytestream, fun _ => rfl, fun hsome => absurd hnone hsome, ?_,
        fun hc => hf.asleep hc⟩
      exact hf.bufferEmpty

/-- A client connects. -/
theorem sends_newConnection (hf : Sends current f) (hlistens : f.listener = true) :
    Sends current (FtChannel.newConnectionCb f) ∧ ¬ Blocked f := by
  have hnone : f.transport = none := by
    by_contra hsome
    rw [(hf.connected hsome).1] at hlistens
    cases hlistens
  have hnot : ¬ Blocked f := by
    rintro ⟨t, ht, -⟩
    rw [hnone] at ht
    cases ht
  refine ⟨?_, hnot⟩
  have heq : FtChannel.newConnectionCb f =
      { f with transport := some ⟨true, true, f.state ≠ .opened, true⟩, listener := false,
               out := f.out ++ [.transportBlockReceiving (f.state ≠ .opened)] } := by
    simp [FtChannel.newConnectionCb, FtChannel.blockReceiving, FtChannel.emit, hf.requested, hnone]
  rw [heq]
  refine ⟨hf.requested, hf.bytestream, nofun, fun _ => ⟨rfl, hf.address hlistens⟩, ?_, ?_⟩
  · rintro t ht
    obtain rfl := Option.some.inj ht
    rfl
  · intro hc
    have hasleep := hf.asleep hc
    simp only [awake, Bool.or_eq_false_iff, decide_eq_false_iff_not] at hasleep ⊢
    exact ⟨hasleep.1, by simp [talks, hasleep.1.1]⟩

/-- What happens to a channel without the collection. -/
theorem goesOn_handle {a : Answers} {e : FtChannel.Event} (hclient : ofClient a e = true)
    (henabled : FtChannel.enabled f e = true) (hf : Sends current f) :
    GoesOn current f (FtChannel.handle f e) := by
  cases e with
  | provideFile addressType accessControl listens =>
    exact goesOn_provideFile addressType accessControl listens hf
  | newConnection =>
    obtain ⟨hsends, hnot⟩ := sends_newConnection hf henabled
    exact fun _ => ⟨hsends, fun hb => absurd hb hnot⟩
  | transportDisconnected a =>
    rw [FtChannel.enabled, Option.any_eq_true_iff_get] at henabled
    obtain ⟨hsome, -⟩ := henabled
    obtain ⟨t, ht⟩ := Option.isSome_iff_exists.mp hsome
    obtain ⟨hgone, -, hkeeps⟩ := sends_transportGone hf ht
    rw [FtChannel.handle, ht]
    intro hg
    obtain ⟨hsends, hkeeps'⟩ := goesOn_transportDisconnectedCb a hgone hg
    exact ⟨hsends, fun hb => hkeeps' (hkeeps hb)⟩
  | presencesUpdated available =>
    rw [FtChannel.handle]
    split
    · exact fun _ => ⟨hf, fun hb => hb⟩
    · rw [FtChannel.cancelUnlessEnded]
      split
      · exact fun _ => ⟨hf, fun hb => hb⟩
      · exact fun _ => goesOn_setState _ hf nofun fun _ => rfl
  | progressTimeout now => exact (sameShape_emitProgressUpdate now f).goesOn hf
  | close a =>
    rw [FtChannel.handle, FtChannel.close]
    split
    · exact SameShape.goesOn ⟨rfl, rfl, rfl, rfl, rfl, rfl, rfl, rfl⟩ hf
    · exact fun hg => nomatch hg
  | dispose a => exact fun hg => nomatch hg
  | _ => cases hclient

theorem setState_gtalkFileCollection (state : FtChannel.FileTransferState)
    (reason : FtChannel.StateChangeReason) (f : FtChannel.State) :
    (FtChannel.setState state reason f).gtalkFileCollection = f.gtalkFileCollection := by
  rw [FtChannel.setState]
  split <;> rfl

/-- A channel that has let go of the collection does not come back. -/
theorem released_handle {a : Answers} {e : FtChannel.Event} (hclient : ofClient a e = true)
    (hreleased : f.gtalkFileCollection = false) :
    (FtChannel.handle f e).gtalkFileCollection = false := by
  cases e with
  | provideFile addressType accessControl listens =>
    rw [FtChannel.handle, FtChannel.provideFile]
    split
    · exact hreleased
    split
    · exact hreleased
    split
    · exact hreleased
    split
    · exact hreleased
    rw [FtChannel.provided]
    dsimp only
    split
    · exact (setState_gtalkFileCollection _ _ _).trans hreleased
    · exact hreleased
  | newConnection =>
    rw [FtChannel.handle, FtChannel.newConnectionCb]
    dsimp only
    split
    · exact hreleased
    · simp only [FtChannel.blockReading]
      split
      · exact hreleased
      · split <;> exact hreleased
  | transportDisconnected a =>
    rw [FtChannel.handle, FtChannel.transportDisconnectedCb]
    split
    · rfl
    · exact hreleased
  | presencesUpdated available =>
    rw [FtChannel.handle, FtChannel.cancelUnlessEnded]
    split
    · exact hreleased
    · split
      · exact hreleased
      · exact (setState_gtalkFileCollection _ _ _).trans hreleased
  | progressTimeout now => exact hreleased
  | close a =>
    rw [FtChannel.handle, FtChannel.close]
    split
    · exact hreleased
    · rfl
  | dispose a => rfl
  | _ => cases hclient

end Gtalk
