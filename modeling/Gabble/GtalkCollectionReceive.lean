/-
# Receiving the files of a collection

The reader of the responses does not care how the agent cuts the stream:
`coherent_reader` says that it is coherent in the states it can be in.  With the
reading of one response this gives `files_received`: each file of a collection is
handed to its channel byte for byte, ends once, and the next one is requested.
-/
import Gabble.GtalkCollectionResponse

namespace Gtalk

open Base64 CText Segments

variable {s : State} {id : ℕ} {buffer : Bytes}

/-! ## The states of the reader -/

/-- What holds between two reads while the session goes on: while a response is
read there is a channel for it, and only then bytes of a body are missing. -/
def Reading (s : State) : Prop :=
  Live s →
    match s.httpStatus with
    | .clientReceive | .clientHeaders | .clientChunkSize | .clientChunkEnd
    | .clientChunkFinal => s.currentChannel ≠ none
    | .clientBody => s.contentLength = 0 ↔ s.currentChannel = none
    | _ => True

theorem blockReading_frame (id : ℕ) (block : Bool) (s : State) :
    (blockReading id block s).httpStatus = s.httpStatus ∧
      (blockReading id block s).currentChannel = s.currentChannel := by
  rw [blockReading]
  split
  · exact ⟨rfl, rfl⟩
  · dsimp only
    split <;> exact ⟨rfl, rfl⟩

theorem setCurrentChannel_frame (current : Option ℕ) (s : State) :
    (setCurrentChannel current s).httpStatus = s.httpStatus ∧
      (setCurrentChannel current s).currentChannel = current := by
  cases current with
  | none => exact ⟨rfl, rfl⟩
  | some id => exact blockReading_frame _ _ _

/-- A channel whose file has ended is not usable any more. -/
def finish (id : ℕ) (s : State) : State := modifyChannel id (fun c => { c with usable := false }) s

/-- What `get_next_manifest_entry` says at the end of a file. -/
def endOf (id : ℕ) (s : State) : List Effect :=
  (if s.channels.length = 1 then [.sendComplete] else []) ++ [.stateChanged id .completed false]

/-- The collection when the file of a channel has ended. -/
def fileEnded (id : ℕ) (s : State) : State :=
  { finish id s with currentChannel := none, out := s.out ++ endOf id s }

theorem endCurrent_some (hid : s.currentChannel = some id) :
    endCurrent false s = fileEnded id s := by
  rw [endCurrent, hid]
  dsimp only
  rw [if_neg Bool.false_ne_true, fileEnded, endOf]
  by_cases hone : s.channels.length = 1
  · rw [if_pos hone, if_pos hone]
    simp [emit, setCurrentChannel, finish, modifyChannel]
  · rw [if_neg hone, if_neg hone]
    simp [emit, setCurrentChannel, finish, modifyChannel]

/-- A file that ends leaves the reader where it was, without a channel. -/
theorem endCurrent_frame (s : State) :
    (endCurrent false s).httpStatus = s.httpStatus ∧
      (endCurrent false s).contentLength = s.contentLength ∧
      (endCurrent false s).currentChannel = none := by
  cases hid : s.currentChannel with
  | none => rw [endCurrent, hid]; exact ⟨rfl, rfl, hid⟩
  | some id => rw [endCurrent_some hid]; exact ⟨rfl, rfl, rfl⟩

theorem reading_getNextManifestEntry
    (h : s.httpStatus = .clientIdle ∨ s.httpStatus = .clientBody ∧ s.contentLength = 0) :
    Reading (getNextManifestEntry false s) := by
  obtain ⟨hstatus, hlength, hcurrent⟩ := endCurrent_frame s
  rw [getNextManifestEntry]
  split
  case isTrue hover =>
    intro hlive
    rw [hlive.1] at hover
    cases hover
  case isFalse =>
    rw [requestNext]
    split
    · intro _
      dsimp only
      rw [hstatus, hlength, hcurrent]
      rcases h with h | ⟨h, hzero⟩
      · rw [h]
        trivial
      · rw [h]
        exact iff_of_true hzero rfl
    · intro _
      obtain ⟨hframe, hchannel⟩ := setCurrentChannel_frame (some _) _
      rw [hframe, hchannel]
      exact Option.some_ne_none _

theorem reading_withLine {f : Bytes → State} (h : Reading s)
    (hf : ∀ line, Reading (f line)) (buffer : Bytes) : Reading (withLine s buffer f).1 := by
  rw [withLine]
  split
  · exact h
  · exact hf _

theorem reading_respond (s : State) : Reading (respond s) := by
  have hnotFound : Reading (respond.notFound s) := fun _ => trivial
  rw [respond]
  split
  · intro hlive
    exact absurd hlive.2 (by simp [abort])
  · dsimp only
    split
    · split
      · exact hnotFound
      · intro hlive
        exact absurd hlive.2 (by simp [abort])
    · split
      · intro _
        obtain ⟨hframe, -⟩ := setCurrentChannel_frame (some _) _
        rw [hframe]
        trivial
      · exact hnotFound
    · exact hnotFound

theorem reading_endOfHeaders (hs : s.currentChannel ≠ none) :
    Reading (endOfHeaders s) := by
  rw [endOfHeaders]
  split
  · split
    · exact fun _ => hs
    · dsimp only
      split
      case isTrue hzero => exact reading_getNextManifestEntry (.inr ⟨rfl, hzero⟩)
      case isFalse hzero => exact fun _ => iff_of_false hzero hs
  · split
    · exact fun hlive => absurd hlive.1 (by simp [errorAll])
    · intro hlive
      -- the channel that is told of the error ends the session
      exfalso
      obtain ⟨id, hid⟩ := Option.ne_none_iff_exists'.mp hs
      have hover : (endCurrent true s).sessionOver = true := by
        rw [endCurrent, hid]
        rfl
      rw [getNextManifestEntry, hover] at hlive
      exact absurd (hlive.1.symm.trans hover) Bool.false_ne_true

/-- **The invariant of the reader.** -/
theorem reading_readAgent (buffer : Bytes) (h : Reading s) :
    Reading (readAgent s buffer).1 := by
  rw [readAgent]
  split
  case isTrue => exact h
  case isFalse hlive =>
    simp only [Bool.or_eq_true, not_or, Bool.not_eq_true] at hlive
    have hinv := h ⟨hlive.1.1, hlive.1.2⟩
    rw [httpDataReceived]
    split
    case h_1 =>
      refine reading_withLine h (fun line => ?_) buffer
      dsimp only
      split
      · exact fun _ => trivial
      · exact fun _ => trivial
    case h_2 =>
      refine reading_withLine h (fun line => ?_) buffer
      split
      · exact reading_respond s
      · exact h
    case h_3 => exact h
    case h_4 => exact h
    case h_5 hs =>
      rw [hs] at hinv
      exact reading_withLine h (fun line => fun _ => hinv) buffer
    case h_6 hs =>
      rw [hs] at hinv
      refine reading_withLine h (fun line => ?_) buffer
      split
      · exact reading_endOfHeaders hinv
      · split
        · exact h
        · rename_i f _
          cases f <;> exact fun _ => by simpa [setFraming, hs] using hinv
    case h_7 hs =>
      rw [hs] at hinv
      refine reading_withLine h (fun line => ?_) buffer
      intro _
      dsimp only
      split
      case h_6 hbody =>
        split at hbody
        case isTrue hpos => exact iff_of_false (by omega) hinv
        case isFalse => cases hbody
      case h_7 => trivial
      all_goals exact hinv
    case h_8 hs =>
      rw [hs] at hinv
      split
      · intro hlive
        split at hlive
        · exact absurd hlive.1 (by simp [errorAll])
        · exact absurd hlive.2 (by simp [abort])
      case h_2 id hid =>
        have hpos : s.contentLength ≠ 0 := fun hzero => by
          rw [hinv.mp hzero] at hid
          cases hid
        split
        · dsimp only
          split
          · exact fun _ => by simp [deliver, hid]
          · exact reading_getNextManifestEntry (.inr ⟨hs, rfl⟩)
        case isFalse hshort =>
          intro _
          simp only [deliver, hs]
          exact iff_of_false (by omega) (by rw [hid]; exact Option.some_ne_none _)
    case h_9 hs =>
      rw [hs] at hinv
      exact reading_withLine h (fun _ => fun _ => hinv) buffer
    case h_10 =>
      exact reading_withLine h (fun _ => reading_getNextManifestEntry (.inl rfl)) buffer

/-! ## Cutting the stream -/

theorem withLine_le (s : State) (buffer : Bytes) (f : Bytes → State) :
    (withLine s buffer f).2 ≤ buffer.length := by
  rw [withLine]
  cases hline : readLine buffer with
  | none => exact Nat.zero_le _
  | some r => exact readLine_le hline

theorem withLine_waits {f : Bytes → State}
    (h : (withLine s buffer f).2 = 0) : (withLine s buffer f).1 = s := by
  rw [withLine] at h ⊢
  cases hline : readLine buffer with
  | none => rfl
  | some r =>
    rw [hline] at h
    exact absurd h (readLine_pos hline)

theorem withLine_append {f : Bytes → State} (more : Bytes) (h : (withLine s buffer f).2 ≠ 0) :
    withLine s (buffer ++ more) f = withLine s buffer f := by
  rw [withLine] at h
  cases hline : readLine buffer with
  | none =>
    rw [hline] at h
    exact absurd rfl h
  | some r => rw [withLine, withLine, readLine_append hline, hline]

/-- The reader, in the states it can be in. -/
def reader : { s // Reading s } → Bytes → { s // Reading s } × ℕ :=
  restrict readAgent Reading fun _ buffer => reading_readAgent buffer

/-- A channel that reads a body has bytes to wait for. -/
theorem Reading.body (h : Reading s) (hlive : Live s)
    (hs : s.httpStatus = .clientBody) : s.contentLength = 0 ↔ s.currentChannel = none := by
  have hinv := h hlive
  rwa [hs] at hinv

/-- In a body the reader takes what there is of the bytes that are missing. -/
theorem httpDataReceived_body (hs : s.httpStatus = .clientBody)
    (hid : s.currentChannel = some id) (buffer : Bytes) :
    httpDataReceived s buffer =
      if s.contentLength ≤ buffer.length then
        (if s.isChunked then
          { deliver id (buffer.take s.contentLength) s with
            contentLength := 0, httpStatus := .clientChunkEnd }
         else
          getNextManifestEntry false
            { deliver id (buffer.take s.contentLength) s with contentLength := 0 },
         s.contentLength)
      else
        (deliver id buffer { s with contentLength := s.contentLength - buffer.length },
          buffer.length) := by
  rw [httpDataReceived, hs]
  dsimp only
  rw [hid]
  rfl

/-- A body that is not complete goes on where it was. -/
theorem httpDataReceived_body_append (hs : s.httpStatus = .clientBody)
    (hid : s.currentChannel = some id) (hlt : buffer.length < s.contentLength) (more : Bytes) :
    httpDataReceived s (buffer ++ more) =
      resume buffer.length
        (httpDataReceived
          (deliver id buffer { s with contentLength := s.contentLength - buffer.length }) more) := by
  have htake : (buffer ++ more).take s.contentLength =
      buffer ++ more.take (s.contentLength - buffer.length) := by
    rw [List.take_append, List.take_of_length_le (by omega)]
  have hmissing : (deliver id buffer
      { s with contentLength := s.contentLength - buffer.length }).contentLength =
        s.contentLength - buffer.length := rfl
  rw [httpDataReceived_body hs hid,
    httpDataReceived_body (s := deliver id buffer { s with
      contentLength := s.contentLength - buffer.length }) hs hid, resume, htake, hmissing,
    List.length_append]
  by_cases hle : s.contentLength ≤ buffer.length + more.length
  · rw [if_pos hle, if_pos (show s.contentLength - buffer.length ≤ more.length by omega)]
    simp only [deliver, List.map_append, List.append_assoc]
    rw [Nat.add_sub_cancel' (by omega)]
  · rw [if_neg hle, if_neg (show ¬ s.contentLength - buffer.length ≤ more.length by omega)]
    simp only [deliver, List.map_append, List.append_assoc, Nat.sub_add_eq]

theorem readAgent_le (s : State) (buffer : Bytes) : (readAgent s buffer).2 ≤ buffer.length := by
  rw [readAgent]
  split
  · exact Nat.le_refl _
  · rw [httpDataReceived]
    split
    case h_3 => exact Nat.zero_le _
    case h_4 => exact Nat.zero_le _
    case h_8 =>
      split
      · exact Nat.le_refl _
      · split
        case isTrue hle => exact hle
        case isFalse => exact Nat.le_refl _
    all_goals exact withLine_le _ _ _

/-- What the reader does outside a body it does with a line, or not at all. -/
theorem httpDataReceived_line (hs : s.httpStatus ≠ .clientBody) :
    (∀ buffer, httpDataReceived s buffer = (s, 0)) ∨
      ∃ f, ∀ buffer, httpDataReceived s buffer = withLine s buffer f := by
  cases hstatus : s.httpStatus with
  | serverSend => exact .inl fun buffer => by rw [httpDataReceived, hstatus]
  | clientIdle => exact .inl fun buffer => by rw [httpDataReceived, hstatus]
  | clientBody => exact absurd hstatus hs
  | _ => exact .inr ⟨_, fun buffer => by rw [httpDataReceived, hstatus]⟩

/-- A round that uses nothing changes nothing. -/
theorem readAgent_waits (h : Reading s)
    (hzero : (readAgent s buffer).2 = 0) : (readAgent s buffer).1 = s := by
  rw [readAgent] at hzero ⊢
  split
  case isTrue => rfl
  case isFalse hlive =>
    rw [if_neg hlive] at hzero
    simp only [Bool.or_eq_true, not_or, Bool.not_eq_true, List.isEmpty_eq_false_iff] at hlive
    by_cases hs : s.httpStatus = .clientBody
    · have hbody := h.body ⟨hlive.1.1, hlive.1.2⟩ hs
      -- there is something in the buffer, and something is missing
      exfalso
      cases hid : s.currentChannel with
      | none =>
        rw [httpDataReceived, hs, hid] at hzero
        exact hlive.2 (List.length_eq_zero_iff.mp hzero)
      | some id =>
        rw [httpDataReceived_body hs hid] at hzero
        split at hzero
        · rw [hbody.mp hzero] at hid
          cases hid
        · exact hlive.2 (List.length_eq_zero_iff.mp hzero)
    · rcases httpDataReceived_line hs with hnone | ⟨f, hline⟩
      · rw [hnone]
      · rw [hline] at hzero ⊢
        exact withLine_waits hzero

/-- A round that uses something does not look further, or it used everything and
the next round goes on where it was. -/
theorem readAgent_append (h : Reading s) {buffer more : Bytes} (hmore : more ≠ [])
    (hused : (readAgent s buffer).2 ≠ 0) :
    readAgent s (buffer ++ more) = readAgent s buffer ∨
      (readAgent s buffer).2 = buffer.length ∧ (readAgent (readAgent s buffer).1 more).2 ≠ 0 ∧
        readAgent s (buffer ++ more) =
          resume buffer.length (readAgent (readAgent s buffer).1 more) := by
  have hover : ∀ {s : State}, (s.sessionOver || s.aborted) = true → ∀ buffer,
      readAgent s buffer = (s, buffer.length) := by
    intro s hover buffer
    rw [readAgent, hover, if_pos (by simp)]
  have hmorelen : more.length ≠ 0 := fun hlen => hmore (List.length_eq_zero_iff.mp hlen)
  by_cases hdone : (s.sessionOver || s.aborted) = true
  · refine .inr ?_
    rw [hover hdone, hover hdone, hover hdone, resume, List.length_append]
    exact ⟨rfl, hmorelen, rfl⟩
  have hlive : Live s := by simpa [Live] using hdone
  have hne : buffer ≠ [] := by
    rintro rfl
    exact hused (by rw [readAgent, if_pos (by simp)]; rfl)
  have hne' : buffer ++ more ≠ [] := by simp [hne]
  rw [readAgent_live hlive hne] at hused ⊢
  rw [readAgent_live hlive hne']
  by_cases hs : s.httpStatus = .clientBody
  · have hbody := h.body hlive hs
    cases hid : s.currentChannel with
    | none =>
      have hzero := hbody.mpr hid
      have herror : ∀ buffer, httpDataReceived s buffer = (errorAll s, buffer.length) := by
        intro buffer
        rw [httpDataReceived, hs]
        dsimp only
        rw [hid, hzero]
        rfl
      refine .inr ?_
      rw [herror, herror, hover rfl, resume, List.length_append]
      exact ⟨rfl, hmorelen, rfl⟩
    | some id =>
      by_cases hle : s.contentLength ≤ buffer.length
      · refine .inl ?_
        rw [httpDataReceived_body hs hid, httpDataReceived_body hs hid, if_pos hle,
          if_pos (by rw [List.length_append]; omega), List.take_append_of_le_length hle]
      · refine .inr ?_
        let rest := deliver id buffer
          { s with contentLength := s.contentLength - buffer.length }
        have hrest : httpDataReceived s buffer = (rest, buffer.length) := by
          rw [httpDataReceived_body hs hid, if_neg hle]
        have hread : readAgent rest more = httpDataReceived rest more :=
          readAgent_live (show Live rest from hlive) hmore
        rw [hrest, httpDataReceived_body_append hs hid (by omega), hread]
        refine ⟨rfl, ?_, rfl⟩
        rw [httpDataReceived_body (s := rest) hs hid]
        split
        · exact fun hzero => hle (Nat.sub_eq_zero_iff_le.mp hzero)
        · exact hmorelen
  · rcases httpDataReceived_line hs with hnone | ⟨f, hline⟩
    · rw [hnone] at hused
      exact absurd rfl hused
    · rw [hline] at hused ⊢
      rw [hline]
      exact .inl (withLine_append more hused)

/-- **Cutting the stream makes no difference** to the reader. -/
theorem coherent_reader : Coherent reader where
  used_le s buffer := readAgent_le s.1 buffer
  waits s _ hzero := Subtype.ext (readAgent_waits s.2 hzero)
  extends_ s buffer more hmore hused := by
    rcases readAgent_append s.2 hmore hused with hsame | ⟨hall, hgoes, hresume⟩
    · obtain ⟨hstate, hlen⟩ := Prod.ext_iff.mp hsame
      exact .inl (Prod.ext (Subtype.ext hstate) hlen)
    · obtain ⟨hstate, hlen⟩ := Prod.ext_iff.mp hresume
      exact .inr ⟨hall, hgoes, Prod.ext (Subtype.ext hstate) hlen⟩

/-! ## The files of a collection -/

/-- What decides which file is requested next: a channel, its file's name, and
whether the file is still to come. -/
structure File where
  id : ℕ
  filename : Bytes
  usable : Bool
deriving DecidableEq

/-- The files of the collection. -/
def files (s : State) : List File := s.channels.map fun c => ⟨c.id, c.filename, c.usable⟩

/-- The first entry of the manifest whose file is still to come: the name to ask
for, and the channel. -/
def nextFile (m : Manifest) (fs : List File) : Option (Bytes × ℕ) :=
  m.entries.findSome? fun e =>
    (fs.find? fun f => f.filename = entryFilename e).bind fun f =>
      if f.usable then some (e.name, f.id) else none

/-- The file of this channel is not to come any more. -/
def mark (id : ℕ) (fs : List File) : List File :=
  fs.map fun f => if f.id = id then { f with usable := false } else f

/-- The files that are asked for in turn, at most so many. -/
def asked (m : Manifest) : ℕ → List File → List (Bytes × ℕ)
  | 0, _ => []
  | n + 1, fs =>
    match nextFile m fs with
    | none => []
    | some next => next :: asked m n (mark next.2 fs)

theorem nextEntry_map (s : State) :
    (nextEntry s).map (fun p => (p.1.name, p.2.id)) = nextFile s.manifest (files s) := by
  rw [nextEntry, nextFile, List.map_findSome?]
  congr 1
  funext e
  have hfind : (fun f : File => decide (f.filename = entryFilename e)) ∘
      (fun c : Channel => ⟨c.id, c.filename, c.usable⟩) =
        fun c => decide (c.filename = entryFilename e) := rfl
  rw [Function.comp_apply, getChannelByFilename, files, List.find?_map, hfind]
  cases s.channels.find? fun c => decide (c.filename = entryFilename e) with
  | none => rfl
  | some c =>
    simp only [Option.bind_some, Option.map_some]
    split <;> rfl

theorem channelExists_of_nextEntry {e : ManifestEntry} {c : Channel}
    (h : nextEntry s = some (e, c)) : channelExists c.id s = true := by
  obtain ⟨e', -, he'⟩ := List.exists_of_findSome?_eq_some h
  obtain ⟨c', hfind, hc'⟩ := Option.bind_eq_some_iff.mp he'
  split at hc'
  case isFalse => cases hc'
  case isTrue =>
    cases hc'
    exact List.any_eq_true.mpr ⟨c, List.mem_of_find?_eq_some hfind, by simp⟩

/-! ## What the collection says -/

/-- The effects that tell what is received: not the opening of a channel, the
attachment of the agent, or the message that everything is received. -/
def visible : Effect → Bool
  | .stateChanged _ .opened _ | .attachRecv _ | .sendComplete => false
  | _ => true

/-- What the collection says of the responses to the requests for a file and for
the files after it: the bytes of the body for the channel of the file, the end
of the file, the request for the next file, and so on. -/
def story (s : State) : ℕ → List (Bytes × ℕ) → List Response → List Effect
  | _, _, [] => []
  | id, next, r :: rs =>
    r.body.map (.dataReceived id) ++ .stateChanged id .completed false ::
      match next with
      | [] => []
      | (name, id') :: next => .agentSend (getRequest s name) :: story s id' next rs
termination_by structural _ _ rs => rs

/-- The collection has asked for the file of a channel. -/
structure Awaiting (id : ℕ) (s : State) : Prop where
  live : Live s
  receive : s.httpStatus = .clientReceive
  current : s.currentChannel = some id

theorem getRequest_congr {s s' : State} (hm : s'.manifest = s.manifest)
    (hi : s'.initiator = s.initiator) (hp : s'.packageString = s.packageString) (name : Bytes) :
    getRequest s' name = getRequest s name := by
  rw [getRequest, hm, hi, hp, getRequest]

theorem story_congr {s s' : State} (hm : s'.manifest = s.manifest)
    (hi : s'.initiator = s.initiator) (hp : s'.packageString = s.packageString) (id : ℕ)
    (next : List (Bytes × ℕ)) (rs : List Response) : story s' id next rs = story s id next rs := by
  induction rs generalizing id next with
  | nil => rfl
  | cons r rs ih =>
    cases next with
    | nil => rfl
    | cons n next => rw [story, story, getRequest_congr hm hi hp, ih]

/-- Making a file the current one: everything but the attachment of the agent and
what the channel reads is as it was. -/
theorem setCurrentChannel_some (hexists : channelExists id s = true) :
    ∃ attached channels out,
      setCurrentChannel (some id) s =
        { s with currentChannel := some id, agentAttached := attached, channels := channels,
                 out := out } ∧
      channels.map (fun c => (⟨c.id, c.filename, c.usable⟩ : File)) = files s ∧
      out.filter visible = s.out.filter visible := by
  have hfiles : ∀ (f : Channel → Channel),
      (∀ c, (⟨(f c).id, (f c).filename, (f c).usable⟩ : File) = ⟨c.id, c.filename, c.usable⟩) →
      (s.channels.map fun c => if c.id = id then f c else c).map
        (fun c => (⟨c.id, c.filename, c.usable⟩ : File)) = files s := by
    intro f hf
    rw [List.map_map, files]
    refine List.map_congr_left fun c _ => ?_
    rw [Function.comp_apply]
    split
    · exact hf c
    · rfl
  rw [setCurrentChannel, blockReading]
  rw [if_neg (by simpa [channelExists, emit] using hexists)]
  dsimp only
  split
  · exact ⟨_, _, _, rfl, hfiles _ (fun c => rfl), by simp [emit, modifyChannel, visible]⟩
  · exact ⟨_, _, _, rfl, hfiles _ (fun c => rfl), by simp [emit, visible]⟩

theorem files_finish (id : ℕ) (s : State) : files (finish id s) = mark id (files s) := by
  rw [files, finish, modifyChannel, mark, files, List.map_map, List.map_map]
  refine List.map_congr_left fun c _ => ?_
  simp only [Function.comp_apply]
  split <;> rfl

/-- The same session: what requests are made of is as it was. -/
def SameSession (s s' : State) : Prop :=
  s'.manifest = s.manifest ∧ s'.initiator = s.initiator ∧ s'.packageString = s.packageString

theorem getNextManifestEntry_eq (hlive : Live s) (hcurrent : s.currentChannel = some id) :
    getNextManifestEntry false s = requestNext (fileEnded id s) := by
  have hover : (fileEnded id s).sessionOver = false := hlive.1
  rw [getNextManifestEntry, endCurrent_some hcurrent, hover, if_neg Bool.false_ne_true]

theorem files_fileEnded (id : ℕ) (s : State) : files (fileEnded id s) = mark id (files s) :=
  files_finish id s

theorem visible_fileEnded (id : ℕ) (s : State) :
    (fileEnded id s).out.filter visible =
      s.out.filter visible ++ [Effect.stateChanged id .completed false] := by
  rw [fileEnded, List.filter_append, endOf]
  split <;> rfl

/-- **The next file is requested** when one has ended, if there is one. -/
theorem getNextManifestEntry_some (hlive : Live s)
    (hcurrent : s.currentChannel = some id) {name : Bytes} {id' : ℕ}
    (hnext : nextFile s.manifest (mark id (files s)) = some (name, id')) :
    Awaiting id' (getNextManifestEntry false s) ∧
      SameSession s (getNextManifestEntry false s) ∧
      files (getNextManifestEntry false s) = mark id (files s) ∧
      (getNextManifestEntry false s).out.filter visible =
        s.out.filter visible ++
          [Effect.stateChanged id .completed false, .agentSend (getRequest s name)] := by
  have hentry : (nextEntry (fileEnded id s)).map (fun p => (p.1.name, p.2.id)) =
      some (name, id') := by
    rw [nextEntry_map, files_fileEnded]
    exact hnext
  obtain ⟨⟨e, c⟩, hsome, hname⟩ := Option.map_eq_some_iff.mp hentry
  obtain ⟨rfl, rfl⟩ := Prod.mk.inj hname
  obtain ⟨attached, channels, out, hset, hchannels, hout⟩ := setCurrentChannel_some
    (s := { emit (.agentSend (getRequest (fileEnded id s) e.name)) (fileEnded id s) with
              status := .transferring, httpStatus := .clientReceive })
    (channelExists_of_nextEntry hsome)
  rw [getNextManifestEntry_eq hlive hcurrent, requestNext, hsome]
  dsimp only
  rw [hset]
  refine ⟨⟨hlive, rfl, rfl⟩, ⟨rfl, rfl, rfl⟩, hchannels.trans (files_fileEnded id s), ?_⟩
  dsimp only
  rw [hout]
  dsimp only [emit]
  rw [List.filter_append, visible_fileEnded,
    show getRequest (fileEnded id s) e.name = getRequest s e.name from
      getRequest_congr rfl rfl rfl e.name, List.append_assoc]
  rfl

/-- When the last file has ended nothing is requested. -/
theorem getNextManifestEntry_none (hlive : Live s) (hcurrent : s.currentChannel = some id)
    (hnext : nextFile s.manifest (mark id (files s)) = none) :
    Live (getNextManifestEntry false s) ∧
      (getNextManifestEntry false s).out.filter visible =
        s.out.filter visible ++ [Effect.stateChanged id .completed false] := by
  have hentry : nextEntry (fileEnded id s) = none := by
    rw [← Option.map_eq_none_iff, nextEntry_map, files_fileEnded]
    exact hnext
  rw [getNextManifestEntry_eq hlive hcurrent, requestNext, hentry]
  exact ⟨hlive, visible_fileEnded id s⟩

/-- A response of a share server that has the file and says how long it is. -/
def Response.Served (r : Response) : Prop := r.found = true ∧ r.framing ≠ none

/-- Reading the body of a response leaves the collection as it was, but for the
bytes it hands to the channel. -/
theorem bodyRead_frame (id : ℕ) (r : Response) (s : State) :
    files (bodyRead id r s) = files s ∧ SameSession s (bodyRead id r s) ∧
      (bodyRead id r s).currentChannel = s.currentChannel ∧
      (Live s → Live (bodyRead id r s)) ∧
      (bodyRead id r s).out = s.out ++ r.body.map (.dataReceived id) := by
  obtain ⟨chunked, length, hafter⟩ := afterHeaders_eq r s
  rw [bodyRead, hafter]
  exact ⟨rfl, ⟨rfl, rfl, rfl⟩, rfl, fun h => h, rfl⟩

/-- The responses to the requests for a file and for the files after it. -/
theorem drainAll_responses (hs : Awaiting id s) {rs : List Response} (hrs : ∀ r ∈ rs, r.Served)
    (hfiles : rs.length ≤ (asked s.manifest rs.length (mark id (files s))).length + 1) :
    ∃ s', drainAll readAgent s (rs.flatMap Response.wire) = (s', []) ∧ Live s' ∧
      s'.out.filter visible =
        s.out.filter visible ++
          story s id (asked s.manifest rs.length (mark id (files s))) rs := by
  induction rs generalizing id s with
  | nil => exact ⟨s, rfl, hs.live, (List.append_nil _).symm⟩
  | cons r rs ih =>
    obtain ⟨hfound, hframing⟩ := hrs r List.mem_cons_self
    obtain ⟨hbfiles, hbsession, hbcurrent, hblive, hbout⟩ := bodyRead_frame id r s
    have hcurrent := hbcurrent.trans hs.current
    have hvisible : (bodyRead id r s).out.filter visible =
        s.out.filter visible ++ r.body.map (.dataReceived id) := by
      have hbody : (r.body.map (.dataReceived id)).filter visible =
          r.body.map (.dataReceived id) := by
        refine List.filter_eq_self.mpr fun e he => ?_
        obtain ⟨b, -, rfl⟩ := List.mem_map.mp he
        rfl
      rw [hbout, List.filter_append, hbody]
    rw [List.flatMap_cons, drainAll_response hs.live hs.receive hs.current hfound
      (fun h => absurd h hframing)]
    rw [List.length_cons, asked] at hfiles ⊢
    cases hnext : nextFile s.manifest (mark id (files s)) with
    | none =>
      -- there is no other file, and so no other response
      rw [hnext] at hfiles
      have hnil : rs = [] := List.length_eq_zero_iff.mp (by simpa using hfiles)
      subst hnil
      obtain ⟨hlive, hout⟩ := getNextManifestEntry_none (hblive hs.live) hcurrent
        (by rw [hbfiles, hbsession.1]; exact hnext)
      refine ⟨_, rfl, hlive, ?_⟩
      rw [hout, hvisible, List.append_assoc]
      rfl
    | some next =>
      obtain ⟨name, id'⟩ := next
      rw [hnext] at hfiles
      obtain ⟨hawait, hsession, hfs, hout⟩ := getNextManifestEntry_some (hblive hs.live) hcurrent
        (by rw [hbfiles, hbsession.1]; exact hnext)
      have hm := hsession.1.trans hbsession.1
      have hi := hsession.2.1.trans hbsession.2.1
      have hp := hsession.2.2.trans hbsession.2.2
      rw [hbfiles] at hfs
      have hlen : rs.length ≤ (asked s.manifest rs.length
          (mark id' (mark id (files s)))).length + 1 := by simpa using hfiles
      obtain ⟨s', hdrain, hlive, hstory⟩ := ih hawait
        (fun r hr => hrs r (List.mem_cons_of_mem _ hr)) (by rw [hm, hfs]; exact hlen)
      refine ⟨s', hdrain, hlive, ?_⟩
      rw [hstory, hout, hvisible, hm, hfs, story_congr hm hi hp,
        getRequest_congr hbsession.1 hbsession.2.1 hbsession.2.2, story]
      simp

/-- **The files of a collection are received.**  A collection has asked for the
file of a channel; the share server answers this request and those for the next
files, with any bodies in any encoding, and the agent cuts the answers anywhere.
Each body is handed to the channel of its file, byte for byte; then the file
ends, once; then the next one is requested, if there is one.  Nothing else is
said. -/
theorem files_received {id : ℕ} {s : State} (hs : Awaiting id s) {rs : List Response}
    (hrs : ∀ r ∈ rs, r.Served)
    (hfiles : rs.length ≤ (asked s.manifest rs.length (mark id (files s))).length + 1)
    {reads : List Bytes} (hreads : reads.flatten = rs.flatMap Response.wire) :
    ∃ s', reads.foldl niceDataReceivedCb (s, []) = (s', []) ∧ Live s' ∧
      s'.out.filter visible =
        s.out.filter visible ++
          story s id (asked s.manifest rs.length (mark id (files s))) rs := by
  have hreading : Reading s := by
    intro _
    rw [hs.receive]
    exact fun hnone => by rw [hs.current] at hnone; cases hnone
  obtain ⟨s', hdrain, hlive, hstory⟩ := drainAll_responses hs hrs hfiles
  refine ⟨s', ?_, hlive, hstory⟩
  have hfeed := feedAll_eq_of_restrict (fun _ buffer => reading_readAgent buffer) coherent_reader
    hreading reads
  rw [hreads] at hfeed
  exact hfeed.trans hdrain

/-- A collection of a folder and a file that has asked for the folder. -/
def folderAndFile : State where
  httpStatus := .clientReceive
  statusLine := []
  isChunked := false
  contentLength := 0
  writeBuffer := none
  agentAttached := true
  status := .transferring
  channels := [⟨0, ascii "f.tar", 3, true, true⟩, ⟨1, ascii "g", 1, true, true⟩]
  currentChannel := some 0
  manifest := ⟨some (ascii "/temporary/1/"), [⟨ascii "f", true⟩, ⟨ascii "g", false⟩]⟩
  initiator := ascii "alice@example.com/Empathy"
  packageString := ascii "telepathy-gabble"
  sessionOver := false
  aborted := false
  out := []

/-- The folder comes in two chunks; the first size line has an extension. -/
def folderResponse : Response where
  statusLine := ascii "HTTP/1.1 200 OK"
  headers := [.chunked (ascii "transfer-encoding: Chunked") (by decide +kernel)]
  content := .chunked
    [⟨[7, 10],
      ⟨⟨ascii "2", by decide +kernel, by decide +kernel, by decide +kernel, by decide +kernel⟩,
        ascii ";x", by decide +kernel, by decide +kernel⟩, by decide +kernel⟩,
     ⟨[9],
      ⟨⟨ascii "01", by decide +kernel, by decide +kernel, by decide +kernel, by decide +kernel⟩,
        [], by decide +kernel, by decide +kernel⟩, by decide +kernel⟩]
    ⟨⟨ascii "0", by decide +kernel, by decide +kernel, by decide +kernel, by decide +kernel⟩,
      [], by decide +kernel, by decide +kernel⟩
  isLine := by decide +kernel
  fits := by decide +kernel

/-- The file has one byte. -/
def fileResponse : Response where
  statusLine := ascii "HTTP/1.1 200"
  headers := [.other (ascii "Connection: Keep-Alive") (by decide +kernel) (by decide +kernel)
      (by decide +kernel),
    .contentLength (ascii "Content-Length: ") 1
      ⟨ascii "1", by decide +kernel, by decide +kernel, by decide +kernel, by decide +kernel⟩
      (by decide +kernel)]
  content := .sized [13]
  isLine := by decide +kernel
  fits := by decide +kernel

theorem files_received_folderAndFile :
    ∃ s', [(folderResponse.wire ++ fileResponse.wire).take 60,
        (folderResponse.wire ++ fileResponse.wire).drop 60].foldl niceDataReceivedCb
          (folderAndFile, []) = (s', []) ∧ Live s' ∧
      s'.out.filter visible =
        [.dataReceived 0 7, .dataReceived 0 10, .dataReceived 0 9, .stateChanged 0 .completed false,
          .agentSend (getRequest folderAndFile (ascii "g")), .dataReceived 1 13,
          .stateChanged 1 .completed false] := by
  have hasked : Awaiting 0 folderAndFile := ⟨⟨rfl, rfl⟩, rfl, rfl⟩
  refine @files_received 0 folderAndFile hasked [folderResponse, fileResponse] ?_
    (by decide +kernel) _ ?_
  · intro r hr
    simp only [List.mem_cons, List.not_mem_nil, or_false] at hr
    rcases hr with rfl | rfl
    · exact ⟨by decide +kernel, by decide +kernel⟩
    · exact ⟨by decide +kernel, by decide +kernel⟩
  · rw [List.flatten_cons, List.flatten_cons, List.flatten_nil, List.append_nil,
      List.take_append_drop]
    rfl

end Gtalk
