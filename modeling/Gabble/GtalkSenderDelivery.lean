/-
# What is passed to the agent

`share_delivers` is about every run of the sending side of a share.  The bytes reach
the agent in the order in which they were passed on, if the agent takes the last
bytes of each file at once.  If it does not, the rest stays in `write_buffer` when
the collection has gone on to the next request, and nothing sends it.
-/
import Gabble.GtalkSenderRequests

namespace Gtalk

open Base64 CText
open FtChannel (Answers GTimeVal)
open Transition

variable {f : FtChannel.State} {c : State} {s : Sender} {id : ℕ}

/-! ## The agent -/

theorem memdup_getD (data : Bytes) : (memdup data).getD [] = data := by
  cases data <;> rfl

/-- Sending a buffer: what the agent took, and the rest. -/
theorem wire_tail (data : Bytes) (n : ℕ) :
    (data.take n).map WireByte.body ++ ((memdup (data.drop n)).getD []).map .body =
      data.map .body := by
  rw [memdup_getD, ← List.map_append, List.take_append_drop]

theorem wire_concat (out : List Effect) (data : Bytes) :
    wire (out ++ [Effect.agentTook data]) = wire out ++ data.map .body := by
  rw [wire_append]
  exact congrArg _ (List.append_nil _)

/-- What `nice_component_writable` does while a file is sent. -/
theorem niceComponentWritable_send (hsend : c.httpStatus = .serverSend)
    (hcurrent : c.currentChannel = some id) (ret : ℤ) :
    niceComponentWritable ret c =
      match c.writeBuffer with
      | none => emit (.writeBlocked id false) c
      | some buffer =>
        if takesAll buffer ret then
          { c with
            writeBuffer := none
            out := c.out ++ [Effect.writeBlocked id false, .agentTook (buffer.take ret.toNat)] }
        else
          { c with
            writeBuffer := memdup (buffer.drop ret.toNat)
            out := c.out ++ [Effect.writeBlocked id false,
              .agentTook (buffer.take ret.toNat), .writeBlocked id true] } := by
  rw [niceComponentWritable, hsend]
  dsimp only
  rw [hcurrent]
  cases hbuffer : c.writeBuffer with
  | none => simp [emit, hbuffer]
  | some buffer =>
    simp only [emit, hbuffer, takesAll, Bool.not_eq_true', List.append_assoc, List.cons_append,
      List.nil_append]
    cases h : (decide (ret < 0) || decide (ret.toNat < buffer.length)) with
    | true => simp [hsend, hcurrent]
    | false => simp [hsend, hcurrent]

/-- Outside of a file `nice_component_writable` does nothing. -/
theorem niceComponentWritable_idle (h : Sharing s) (hs : s.collection.httpStatus ≠ .serverSend)
    (ret : ℤ) : niceComponentWritable ret s.collection = s.collection := by
  rcases h.server with hidle | hheaders | hsend
  · rw [niceComponentWritable, hidle]
  · rw [niceComponentWritable, hheaders]
  · exact absurd hsend hs

theorem take_of_takesAll {data : Bytes} {ret : ℤ} (h : takesAll data ret = true) :
    data.take ret.toNat = data := by
  simp only [takesAll, Bool.not_eq_true', Bool.or_eq_false_iff, decide_eq_false_iff_not] at h
  exact List.take_of_length_le (by omega)

/-- The agent takes some of the tail, in front of the rest. -/
theorem wire_writable (h : Sharing s) (ret : ℤ) :
    wire (niceComponentWritable ret s.collection).out ++
        tail (niceComponentWritable ret s.collection) =
      wire s.collection.out ++ tail s.collection := by
  by_cases hs : s.collection.httpStatus = .serverSend
  case neg => rw [niceComponentWritable_idle h hs]
  case pos =>
    obtain ⟨id, hid⟩ := Option.ne_none_iff_exists'.mp (h.send hs).1
    have hunblocked : wire [.writeBlocked id false] = [] := rfl
    rw [niceComponentWritable_send hs hid, tail, tail]
    cases hbuffer : s.collection.writeBuffer with
    | none =>
      dsimp only [emit]
      rw [wire_append, hunblocked, List.append_nil, hbuffer]
    | some buffer =>
      dsimp only
      split
      case isTrue hall =>
        dsimp only
        rw [take_of_takesAll hall, wire_append, List.append_assoc]
        simp [wire]
      case isFalse =>
        dsimp only
        rw [wire_append, List.append_assoc]
        refine congrArg _ ?_
        rw [Option.getD_some, ← wire_tail buffer ret.toNat]
        exact congrArg (· ++ _) (List.append_nil _)

/-- The agent takes all of the tail. -/
theorem wire_writable_all (h : Sharing s) {ret : ℕ} (hret : (tail s.collection).length ≤ ret) :
    tail (niceComponentWritable ret s.collection) = [] := by
  by_cases hs : s.collection.httpStatus = .serverSend
  case neg =>
    rw [niceComponentWritable_idle h hs, tail, h.writeBuffer_eq_none hs]
    rfl
  case pos =>
    obtain ⟨id, hid⟩ := Option.ne_none_iff_exists'.mp (h.send hs).1
    rw [niceComponentWritable_send hs hid]
    rw [tail, List.length_map] at hret
    cases hbuffer : s.collection.writeBuffer with
    | none =>
      dsimp only [emit]
      rw [tail, hbuffer]
      rfl
    | some buffer =>
      rw [hbuffer, Option.getD_some] at hret
      have hall : takesAll buffer ret = true := by
        simp only [takesAll, Bool.not_eq_true', Bool.or_eq_false_iff, decide_eq_false_iff_not]
        omega
      dsimp only
      rw [if_pos hall]
      rfl

theorem blockReceiving_uses {block : Bool}
    (h : (FtChannel.blockReceiving block f).gtalkFileCollection = true) :
    f.gtalkFileCollection = true := by
  rw [FtChannel.blockReceiving] at h
  cases ht : f.transport with
  | none => rwa [ht] at h
  | some t => rwa [ht] at h

theorem SharingBut.setSelf (h : SharingBut id s) (f : FtChannel.State) :
    SharingBut id (Gtalk.setFile id f s) := by
  have hother : ∀ id', id' ≠ id → (Gtalk.setFile id f s).files id' = s.files id' :=
    fun id' hne => Function.update_of_ne hne ..
  refine ⟨h.server, h.headers, h.send, fun id' hne => ?_,
    fun hw => ⟨(h.tail hw).1, fun id' hne => ?_⟩⟩
  · rw [hother id' hne]
    exact h.files id' hne
  · rw [hother id' hne]
    exact (h.tail hw).2 id' hne

/-- The agent becomes writable: the client of the current channel may go on when
nothing is left. -/
theorem sharing_writable (h : Sharing s) (ret : ℤ) :
    Sharing (route (niceComponentWritable ret s.collection) s) := by
  by_cases hs : s.collection.httpStatus = .serverSend
  case neg =>
    rw [niceComponentWritable_idle h hs, route_eq (List.append_nil _).symm]
    exact h
  case pos =>
    obtain ⟨id, hid⟩ := Option.ne_none_iff_exists'.mp (h.send hs).1
    have hunblock : (s.files id).gtalkFileCollection = true →
        Sends (s.collection.currentChannel = some id)
          (FtChannel.blockReceiving false (s.files id)) :=
      fun hg => sends_blockReceiving false (h.files id hg) hid
    have hbut := h.but id
    rw [niceComponentWritable_send hs hid]
    cases hbuffer : s.collection.writeBuffer with
    | none =>
      dsimp only
      rw [route_eq rfl, List.foldl_cons, List.foldl_nil, tell_writeBlocked]
      refine SharingBut.setFile ⟨hbut.server, hbut.headers, hbut.send, hbut.files, hbut.tail⟩
        fun hg => ⟨hunblock (blockReceiving_uses hg), fun hw => absurd hbuffer hw⟩
    | some buffer =>
      have hclient : (s.files id).gtalkFileCollection = true →
          (FtChannel.blockReceiving false (s.files id)).transport ≠ none := by
        intro hg
        obtain ⟨t, ht, -⟩ := (h.tail (by rw [hbuffer]; rintro ⟨⟩)).2 id hid hg
        rw [FtChannel.blockReceiving, ht]
        rintro ⟨⟩
      dsimp only
      split
      case isTrue =>
        rw [route_eq rfl, List.foldl_cons, List.foldl_cons, List.foldl_nil, tell_agentTook,
          tell_writeBlocked]
        refine SharingBut.setFile ⟨hbut.server, hbut.headers, hbut.send, hbut.files, fun hw => ?_⟩
          fun hg => ⟨hunblock (blockReceiving_uses hg), fun hw => ?_⟩
        · exact absurd rfl hw
        · exact absurd rfl hw
      case isFalse =>
        rw [route_eq rfl, List.foldl_cons, List.foldl_cons, List.foldl_cons, List.foldl_nil,
          tell_agentTook, tell_writeBlocked, tell_writeBlocked]
        have hself : ∀ s' : Sender,
            (setFile id (FtChannel.blockReceiving false (s.files id)) s').files id =
              FtChannel.blockReceiving false (s.files id) := fun s' => Function.update_self ..
        dsimp only
        rw [hself]
        refine SharingBut.setFile (SharingBut.setSelf ?_ _) fun hg => ?_
        · refine ⟨hbut.server, hbut.headers, hbut.send, hbut.files,
            fun hw => ⟨hs, fun id' hne hc => ?_⟩⟩
          exact absurd (Option.some.inj (hid.symm.trans hc)).symm hne
        · have huses := blockReceiving_uses (blockReceiving_uses hg)
          exact ⟨sends_blockReceiving true (hunblock huses) hid,
            fun _ _ => blocked_blockReceiving (hclient huses)⟩

/-! ## Passing data on -/

/-- A channel that reads is the current one, and there is no tail. -/
theorem Sharing.reads_current (h : Sharing s) (huses : (s.files id).gtalkFileCollection = true)
    (htalks : talks (s.files id) = true) :
    s.collection.currentChannel = some id ∧ s.collection.writeBuffer = none := by
  have hcurrent : s.collection.currentChannel = some id := by
    by_contra hnot
    have hasleep := (h.files id huses).asleep hnot
    rw [awake, htalks, Bool.or_true] at hasleep
    cases hasleep
  refine ⟨hcurrent, ?_⟩
  by_contra hw
  obtain ⟨t, ht, hb⟩ := (h.tail hw).2 id hcurrent huses
  simp [talks, ht, hb] at htalks

/-- What `gtalk_file_collection_send_data` does for the current channel. -/
theorem sendData_current (hcurrent : c.currentChannel = some id) (data : Bytes) (ret : ℤ) :
    sendData id data ret c =
      (if takesAll data ret then emit (.agentTook (data.take ret.toNat)) c
       else
        { c with writeBuffer := memdup (data.drop ret.toNat),
                 out := c.out ++ [Effect.agentTook (data.take ret.toNat), .writeBlocked id true] },
       true) := by
  rw [sendData, if_neg (by simpa using hcurrent)]
  simp only [takesAll, Bool.not_eq_true']
  cases h : (decide (ret < 0) || decide (ret.toNat < data.length)) with
  | true => simp [emit]
  | false => simp

theorem short_counted_blockReceiving (data : Bytes) (block : Bool) (f : FtChannel.State) :
    FtChannel.short (counted data (FtChannel.blockReceiving block f)) =
      FtChannel.short (counted data f) := by
  rw [FtChannel.blockReceiving]
  split <;> rfl

/-- `pass` for the current channel, after the data was sent. -/
theorem pass_current (hcurrent : s.collection.currentChannel = some id) (data : Bytes) (ret : ℤ)
    (now : GTimeVal) {s₁ : Sender} (hs₁ : route (sendData id data ret s.collection).1 s = s₁)
    {g : FtChannel.State} (hg : FtChannel.transportHandler data true now
      (answers id s₁.collection) (s₁.files id) = g) :
    pass id data ret now s =
      if FtChannel.short g then setFile id g s₁
      else route (completed id s₁.collection) (setFile id g s₁) := by
  have hok : (sendData id data ret s.collection).2 = true := by
    rw [sendData_current hcurrent]
  rw [pass, hok, if_pos rfl, hs₁, hg]
  rfl

/-- A file has ended: the collection waits for the next request. -/
theorem sharing_completed (h : Sharing s) (hcurrent : s.collection.currentChannel = some id)
    (hnotail : s.collection.writeBuffer = none) :
    Silent s.collection (route (completed id s.collection) s).collection ∧
      Sharing (route (completed id s.collection) s) := by
  have heq : completed id s.collection =
      { s.collection with httpStatus := .serverIdle, status := .waiting } := by
    rw [completed, if_neg (by simpa using hcurrent)]
  have hout : (completed id s.collection).out = s.collection.out ++ [] := by
    rw [heq, List.append_nil]
  rw [route_eq hout, List.foldl_nil, heq]
  refine ⟨.refl _, .inl rfl, nofun, nofun, h.files, fun hw => ?_⟩
  exact absurd hnotail hw

/-- Data that a channel passes on, and what is left of it, reach the agent after
what was passed on before; and the invariant is kept if the agent takes the end of
a file at once. -/
theorem pass_delivers (h : Sharing s) (huses : (s.files id).gtalkFileCollection = true)
    (htalks : talks (s.files id) = true) (data : Bytes) (ret : ℤ) (now : GTimeVal)
    (hend : takesEnd s (.localData id data ret now) = true) :
    wire (pass id data ret now s).collection.out ++ tail (pass id data ret now s).collection =
        wire s.collection.out ++ data.map .body ∧
      Sharing (pass id data ret now s) := by
  obtain ⟨hcurrent, hnotail⟩ := h.reads_current huses htalks
  have hsends := h.files id huses
  have hbut := h.but id
  by_cases hall : takesAll data ret = true
  case pos =>
    have hsent : (sendData id data ret s.collection).1 = emit (.agentTook data) s.collection := by
      rw [sendData_current hcurrent, if_pos hall, take_of_takesAll hall]
    have hs₁ : route (sendData id data ret s.collection).1 s =
        { s with collection := emit (.agentTook data) s.collection } := by
      rw [hsent, route_eq rfl]
      rfl
    obtain ⟨hsame, -⟩ := transportHandler_counts data now
      (answers id (emit (.agentTook data) s.collection)) hsends huses
    rw [pass_current hcurrent data ret now hs₁ rfl]
    dsimp only
    generalize FtChannel.transportHandler data true now
      (answers id (emit (.agentTook data) s.collection)) (s.files id) = g at hsame ⊢
    have hwire : wire (emit (.agentTook data) s.collection).out ++ tail s.collection =
        wire s.collection.out ++ data.map .body := by
      rw [emit, wire_concat, tail, hnotail]
      exact List.append_nil _
    have hset : Sharing
        (setFile id g { s with collection := emit (.agentTook data) s.collection }) := by
      refine SharingBut.setFile ⟨hbut.server, hbut.headers, hbut.send, hbut.files, hbut.tail⟩
        fun _ => ⟨hsame.sends hsends, fun hw => absurd hnotail hw⟩
    split
    · exact ⟨hwire, hset⟩
    · obtain ⟨hsilent, hdone⟩ := sharing_completed hset hcurrent hnotail
      exact ⟨hsilent.sent.trans hwire, hdone⟩
  case neg =>
    -- the file is not complete: the channel is blocked until the agent takes the rest
    simp only [takesEnd, hall, Bool.false_or, Bool.and_eq_true, decide_eq_true_eq] at hend
    obtain ⟨hsend, hshort⟩ := hend
    generalize hc : { s.collection with
      writeBuffer := memdup (data.drop ret.toNat),
      out := s.collection.out ++
        [Effect.agentTook (data.take ret.toNat), Effect.writeBlocked id true] } = c
    have hs₁ : route (sendData id data ret s.collection).1 s =
        setFile id (FtChannel.blockReceiving true (s.files id)) { s with collection := c } := by
      rw [sendData_current hcurrent, if_neg hall, ← hc, route_eq rfl]
      rfl
    have hself : (setFile id (FtChannel.blockReceiving true (s.files id))
        { s with collection := c }).files id = FtChannel.blockReceiving true (s.files id) :=
      Function.update_self ..
    have hblock := sends_blockReceiving true hsends hcurrent
    have huses' : (FtChannel.blockReceiving true (s.files id)).gtalkFileCollection = true := by
      rw [FtChannel.blockReceiving]
      split
      · exact huses
      · exact huses
    obtain ⟨hsame, hcounts⟩ := transportHandler_counts data now (answers id c) hblock huses'
    rw [short_counted_blockReceiving, hshort] at hcounts
    obtain ⟨g, hg⟩ : ∃ g, FtChannel.transportHandler data true now (answers id c)
      (FtChannel.blockReceiving true (s.files id)) = g := ⟨_, rfl⟩
    rw [hg] at hsame hcounts
    rw [pass_current (g := g) hcurrent data ret now hs₁ (by rw [hself]; exact hg), if_pos hcounts]
    constructor
    · show wire c.out ++ tail c = _
      rw [← hc, ← wire_tail data ret.toNat, tail, wire_append, List.append_assoc]
      exact congrArg (_ ++ ·) (congrArg (· ++ _) (List.append_nil _))
    · have hclient : (s.files id).transport ≠ none := by
        intro hnone
        rw [talks, hnone] at htalks
        cases htalks
      have hstatus : c.httpStatus = s.collection.httpStatus := by rw [← hc]
      have hcur : c.currentChannel = s.collection.currentChannel := by rw [← hc]
      refine SharingBut.setFile (SharingBut.setSelf ?_ _) fun _ => ⟨?_, fun _ _ => ?_⟩
      · rw [← hc]
        refine ⟨hbut.server, hbut.headers, hbut.send, hbut.files,
          fun hw => ⟨hsend, fun id' hne hid' => ?_⟩⟩
        exact absurd (Option.some.inj (hcurrent.symm.trans hid')).symm hne
      · show Sends (c.currentChannel = some id) g
        rw [hcur]
        exact hsame.sends hblock
      · rw [Blocked, hsame.transport]
        exact blocked_blockReceiving hclient

/-! ## Runs -/

/-- The sending side of a share at its beginning: nothing is sent yet, and the
channels have offered their files. -/
structure Begins (s : Sender) : Prop where
  httpStatus : s.collection.httpStatus = .serverIdle
  currentChannel : s.collection.currentChannel = none
  writeBuffer : s.collection.writeBuffer = none
  out : s.collection.out = []
  files : ∀ id, ∃ contact filename size initialOffset resumeSupported metadata,
    s.files id = FtChannel.offerFile contact
      (FtChannel.new .request filename size initialOffset resumeSupported metadata)

/-- Offering a file leaves the local socket and the state of the channel as they
are. -/
theorem sameShape_offerFile (contact : FtChannel.Contact) (f : FtChannel.State) :
    SameShape { f with gtalkFileCollection := (FtChannel.offerFile contact f).gtalkFileCollection }
      (FtChannel.offerFile contact f) := by
  rw [FtChannel.offerFile]
  dsimp only
  split_ifs <;> exact ⟨rfl, rfl, rfl, rfl, rfl, rfl, rfl, rfl⟩

theorem sharing_begins (h : Begins s) : Sharing s := by
  refine ⟨.inl h.httpStatus, fun _ => h.currentChannel, fun hs => ?_, fun id hg => ?_, fun hw => ?_⟩
  · rw [h.httpStatus] at hs
    cases hs
  · obtain ⟨contact, filename, size, initialOffset, resumeSupported, metadata, heq⟩ := h.files id
    rw [heq] at hg ⊢
    refine (sameShape_offerFile contact _).sends ?_
    exact ⟨rfl, rfl, nofun, fun hsome => absurd rfl hsome, nofun, fun _ => rfl⟩
  · exact absurd h.writeBuffer hw

theorem silent_sessionActive (c : State) : Silent c (sessionActive c) :=
  ⟨⟨_, rfl, wire_tells (c.channels.filter Channel.usable) .accepted false⟩, rfl⟩

/-- The peer has accepted the session. -/
theorem sharing_sessionActive (h : Sharing s)
    (hlive : Live (route (sessionActive s.collection) s).collection) :
    Sharing (route (sessionActive s.collection) s) := by
  rw [route_eq rfl] at hlive ⊢
  refine sharing_tellAll (.inl rfl) ?_ hlive
  refine ⟨h.server, h.headers, fun hs => ⟨(h.send hs).1, ?_⟩, h.files, h.tail⟩
  rw [sessionActive]
  dsimp only
  rw [(h.send hs).2]
  rfl

/-- The peer says that it has everything. -/
theorem sharing_contentCompleted (h : Sharing s)
    (hlive : Live (route (contentCompleted s.collection) s).collection) :
    Sharing (route (contentCompleted s.collection) s) := by
  rw [contentCompleted, tellAll, route_eq rfl] at hlive ⊢
  refine sharing_tellAll (.inr rfl) ?_ hlive
  exact ⟨h.server, h.headers, h.send, h.files, h.tail⟩

theorem silent_clientEvent (id : ℕ) (e : FtChannel.Event) (s : Sender) :
    Silent s.collection (clientEvent id e s).collection := by
  rw [clientEvent]
  split
  · exact (silent_terminate id s.collection).trans (route_silent _ _)
  · exact .refl _

/-- What holds in every state of a run: the tail follows what the agent took, and
the invariant while the share goes on. -/
def Delivering (given : List WireByte) (s : Sender) : Prop :=
  wire s.collection.out ++ tail s.collection = given ∧ (Live s.collection → Sharing s)

/-- **One step.** -/
theorem delivering_step {given : List WireByte} {s s' : Sender} {e : SendEvent}
    (h : Delivering given s) (hend : takesEnd s e = true) (hstep : sendStep s e = some s') :
    Delivering (given ++ passed s e) s' := by
  rw [sendStep] at hstep
  split at hstep
  case isTrue => cases hstep
  case isFalse hready =>
    simp only [Bool.or_eq_true, Bool.not_eq_true', not_or, Bool.not_eq_true,
      Bool.not_eq_false] at hready
    obtain ⟨⟨hover, haborted⟩, henabled⟩ := hready
    obtain ⟨hsent, hsharing⟩ := h
    have hs := hsharing ⟨hover, haborted⟩
    obtain rfl := Option.some.inj hstep
    cases e with
    | sessionActive =>
      refine ⟨?_, sharing_sessionActive hs⟩
      show _ = given ++ []
      rw [List.append_nil, ← hsent]
      exact ((silent_sessionActive s.collection).trans (route_silent _ s)).sent
    | contentCompleted =>
      refine ⟨?_, sharing_contentCompleted hs⟩
      show _ = given ++ []
      rw [List.append_nil, ← hsent]
      exact ((silent_tellAll .completed false s.collection).trans (route_silent _ s)).sent
    | localData id data ret now =>
      simp only [sendEnabled, usesCollection, fileEnabled, FtChannel.enabled,
        Bool.and_eq_true] at henabled
      obtain ⟨⟨huses, -⟩, -, htalks⟩ := henabled
      obtain ⟨-, hnotail⟩ := hs.reads_current huses htalks
      obtain ⟨hwire, hkeeps⟩ := pass_delivers hs huses htalks data ret now hend
      refine ⟨hwire.trans ?_, fun _ => hkeeps⟩
      rw [passed, ← hsent, tail, hnotail]
      exact congrArg (· ++ _) (List.append_nil _).symm
    | writable ret =>
      refine ⟨?_, fun _ => sharing_writable hs ret⟩
      show _ = given ++ []
      rw [List.append_nil, ← hsent, ← wire_writable hs ret]
      exact (route_silent _ s).sent
    | received data =>
      obtain ⟨hsharing', hbuffer, new, hnew, hquiet⟩ := reads_receive hs data
      refine ⟨?_, hsharing'⟩
      rw [passed, ← hsent, sendHandle, tail, tail, hbuffer, hnew, wire_append, List.drop_left]
      cases hw : s.collection.writeBuffer with
      | none => simp
      | some buffer => rw [hquiet (by rw [hw]; rintro ⟨⟩), List.append_nil, List.append_nil]
    | client id ev =>
      simp only [sendEnabled, fileEnabled, Bool.and_eq_true] at henabled
      refine ⟨?_, sharing_clientEvent hs henabled.1 henabled.2.2⟩
      show _ = given ++ []
      rw [List.append_nil, ← hsent]
      exact (silent_clientEvent id ev s).sent

/-- **What is passed on reaches the agent.**  In every run of the sending side of a
share in which the agent takes the end of each file at once, the bytes that were
passed to `gtalk_file_collection_send_data` and the heads of the responses reach
the agent in the order in which they were passed on, and each once; at most a tail
of a file is not there yet, and it follows as soon as the agent takes it. -/
theorem share_delivers {s₀ s : Sender} {es : List SendEvent} (h : Begins s₀)
    (hend : Admits (fun s e => takesEnd s e = true) sendStep s₀ es)
    (hrun : run sendStep s₀ es = some s) : Delivers (collect sendStep passed s₀ es) s := by
  have hbegin : Delivering [] s₀ := by
    refine ⟨?_, fun _ => sharing_begins h⟩
    rw [h.out, tail, h.writeBuffer]
    rfl
  obtain ⟨hsent, hsharing⟩ := run_collect_invariant
    (fun given s e s' hd hok hstep => delivering_step hd hok hstep) es hbegin hend hrun
  rw [List.nil_append] at hsent
  refine ⟨hsent, fun hlive ret hret => ?_⟩
  have hall := wire_writable (hsharing hlive) ret
  rwa [wire_writable_all (hsharing hlive) hret, List.append_nil, hsent] at hall

/-- A share of one file of two bytes. -/
def oneFile : Sender where
  collection :=
    { httpStatus := .serverIdle
      statusLine := []
      isChunked := false
      contentLength := 0
      writeBuffer := none
      agentAttached := true
      status := .accepted
      channels := [⟨0, ascii "f", 2, true, true⟩]
      currentChannel := none
      manifest := ⟨some (ascii "/temporary/1/"), [⟨ascii "f", false⟩]⟩
      initiator := ascii "alice@example.com/Empathy"
      packageString := ascii "telepathy-gabble"
      sessionOver := false
      aborted := false
      out := [] }
  unread := []
  files := fun _ =>
    FtChannel.offerFile ⟨true, false, false, true, true⟩ (FtChannel.new .request "f" 2 0 false false)

/-- The user provides the file, the peer requests it, the client writes its two
bytes in one or two pieces, and the agent becomes writable after each. -/
def oneFileRun (data : List (Bytes × ℤ)) : List SendEvent :=
  [.client 0 (.provideFile 0 0 true), .client 0 .newConnection,
   .received (ascii "GET /temporary/1/f HTTP/1.1\r\n\r\n")] ++
    data.flatMap fun d => [.localData 0 d.1 d.2 ⟨0, 0⟩, .writable 2]

theorem share_delivers_oneFile :
    ∃ s, run sendStep oneFile (oneFileRun [([7], 0), ([8], 1)]) = some s ∧
      Delivers (collect sendStep passed oneFile (oneFileRun [([7], 0), ([8], 1)])) s := by
  have hrun : (run sendStep oneFile (oneFileRun [([7], 0), ([8], 1)])).isSome = true := by
    decide +kernel
  obtain ⟨s, hs⟩ := Option.isSome_iff_exists.mp hrun
  have hbegins : Begins oneFile := ⟨rfl, rfl, rfl, rfl, fun _ =>
    ⟨⟨true, false, false, true, true⟩, "f", 2, 0, false, false, rfl⟩⟩
  exact ⟨s, hs, share_delivers hbegins (by decide +kernel) hs⟩

/-- The agent takes one of the two bytes.  The other one is not sent when the agent
is writable again, and the head of the next response is sent before it. -/
theorem lastByte_overtaken :
    ∃ s, run sendStep oneFile (oneFileRun [([7, 8], 1)] ++
        [.received (ascii "GET /temporary/1/f HTTP/1.1\r\n\r\n")]) = some s ∧
      ¬ Delivers (collect sendStep passed oneFile (oneFileRun [([7, 8], 1)] ++
        [.received (ascii "GET /temporary/1/f HTTP/1.1\r\n\r\n")])) s := by
  generalize hes : oneFileRun [([7, 8], 1)] ++
    [.received (ascii "GET /temporary/1/f HTTP/1.1\r\n\r\n")] = es
  have hrun : (run sendStep oneFile es).isSome = true := by
    rw [← hes]
    decide +kernel
  have hwrong : (run sendStep oneFile es).all (fun s =>
      decide (wire s.collection.out ++ tail s.collection ≠ collect sendStep passed oneFile es)) =
        true := by
    rw [← hes]
    decide +kernel
  obtain ⟨s, hs⟩ := Option.isSome_iff_exists.mp hrun
  rw [hs, Option.all_some, decide_eq_true_eq] at hwrong
  exact ⟨s, hs, fun h => hwrong h.1⟩

end Gtalk
