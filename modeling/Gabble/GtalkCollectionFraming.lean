/-
# What one response leaves for the next

The framing of a body is kept in the share channel, where the headers of a
response put it.  A response that has no such header is read with what an
earlier one has put there.  `agrees_iff_ownFraming` says exactly when this makes
no difference: when no response without a framing header comes after a chunked
one.
-/
import Gabble.GtalkCollectionReceive

namespace Gtalk

open Base64 CText Segments

variable {s : State} {id : ℕ}

/-! ## Interpretations -/

/-- What the reader makes of a response: the framing that is in force when its
headers have been read, with the length of the body, and the bytes it hands to
the channels. -/
structure Interpretation where
  isChunked : Bool
  contentLength : ℕ
  delivered : List (ℕ × UInt8)
deriving DecidableEq

/-- The bytes that were handed to the channels. -/
def received (out : List Effect) : List (ℕ × UInt8) :=
  out.filterMap fun e =>
    match e with
    | .dataReceived id b => some (id, b)
    | _ => none

/-- The interpretation of a response, if the session goes on. -/
def interpretation (p : State × Bytes) (r : Response) : Option Interpretation :=
  if p.1.sessionOver then none
  else
    let headersRead := (niceDataReceivedCb p r.headerLines).1
    let read := (niceDataReceivedCb p r.wire).1
    some
      { isChunked := headersRead.isChunked
        contentLength := headersRead.contentLength
        delivered := (received read.out).drop (received p.1.out).length }

/-- The collection with a share channel that has read nothing yet. -/
def fresh (s : State) : State := { s with isChunked := false, contentLength := 0, statusLine := [] }

/-- Every response is interpreted as it would be alone on a fresh share channel. -/
def Agrees : State × Bytes → List Response → Prop
  | _, [] => True
  | p, r :: rs =>
    interpretation p r = interpretation (fresh p.1, []) r ∧ Agrees (niceDataReceivedCb p r.wire) rs

/-- What the share channel remembers of a framing. -/
def remembers (isChunked : Bool) : Option Framing → Bool
  | none => isChunked
  | some (.sized _) => false
  | some .chunked => true

/-- No response that lacks a framing header comes after a chunked one, unless one
with a `Content-Length` is between them.  A response for a file that was not
found is the last. -/
def OwnFraming : Bool → List Response → Prop
  | _, [] => True
  | isChunked, r :: rs =>
    (r.framing = none → isChunked = false) ∧
      (r.found = true → OwnFraming (remembers isChunked r.framing) rs)

instance decidableOwnFraming : ∀ isChunked rs, Decidable (OwnFraming isChunked rs)
  | _, [] => .isTrue trivial
  | isChunked, r :: rs =>
    have := decidableOwnFraming (remembers isChunked r.framing) rs
    inferInstanceAs (Decidable ((r.framing = none → isChunked = false) ∧
      (r.found = true → OwnFraming (remembers isChunked r.framing) rs)))

/-! ## What is handed to the channels -/

theorem received_append (out out' : List Effect) :
    received (out ++ out') = received out ++ received out' := List.filterMap_append

theorem received_visible (out : List Effect) : received (out.filter visible) = received out := by
  rw [received, received, List.filterMap_filter]
  congr 1
  funext e
  cases e with
  | stateChanged id state => cases state <;> rfl
  | _ => rfl

theorem received_data (id : ℕ) (data : Bytes) :
    received (data.map (.dataReceived id)) = data.map fun b => (id, b) := by
  rw [received, List.filterMap_map]
  exact List.filterMap_eq_map (f := fun b => (id, b)) ▸ rfl

/-- The end of a file and the next request hand nothing to the channels. -/
theorem received_getNextManifestEntry (hlive : Live s) (hcurrent : s.currentChannel = some id) :
    received (getNextManifestEntry false s).out = received s.out := by
  rw [← received_visible]
  cases hnext : nextFile s.manifest (mark id (files s)) with
  | none =>
    rw [(getNextManifestEntry_none hlive hcurrent hnext).2, received_append, received_visible]
    exact List.append_nil _
  | some next =>
    rw [(getNextManifestEntry_some hlive hcurrent hnext).2.2.2, received_append, received_visible]
    exact List.append_nil _

/-! ## Responses for files that were not found -/

/-- The session is over after a response for a file that was not found, and
nothing was handed to a channel. -/
theorem endOfHeaders_notFound (hcurrent : s.currentChannel = some id)
    (hfound : (ascii "HTTP/1.1 200").isPrefixOf s.statusLine = false) :
    (endOfHeaders s).sessionOver = true ∧ received (endOfHeaders s).out = received s.out := by
  rw [endOfHeaders, hfound, if_neg Bool.false_ne_true]
  split
  · refine ⟨rfl, ?_⟩
    rw [errorAll, tellAll]
    dsimp only
    have hnone : received (s.channels.map fun c => .stateChanged c.id .error false) = [] := by
      refine List.filterMap_eq_nil_iff.mpr fun e he => ?_
      obtain ⟨c, -, rfl⟩ := List.mem_map.mp he
      rfl
    rw [received_append, hnone, List.append_nil]
  · have hend : (endCurrent true s).sessionOver = true := by
      rw [endCurrent, hcurrent]
      rfl
    rw [getNextManifestEntry, hend, if_pos rfl]
    refine ⟨hend, ?_⟩
    rw [endCurrent, hcurrent]
    dsimp only
    rw [if_pos rfl]
    split
    all_goals simp [emit, modifyChannel, received]

/-! ## One response -/

/-- Asking for the next file leaves the framing as it is. -/
theorem requestNext_framing (s : State) :
    (requestNext s).isChunked = s.isChunked ∧ (requestNext s).contentLength = s.contentLength := by
  rw [requestNext]
  cases hnext : nextEntry s with
  | none => exact ⟨rfl, rfl⟩
  | some p =>
    obtain ⟨attached, channels, out, hset, -, -⟩ := setCurrentChannel_some
      (s := { emit (.agentSend (getRequest s p.1.name)) s with
                status := .transferring, httpStatus := .clientReceive })
      (channelExists_of_nextEntry hnext)
    dsimp only
    rw [hset]
    exact ⟨rfl, rfl⟩

theorem niceDataReceivedCb_nil (s : State) (buffer : Bytes) :
    niceDataReceivedCb (s, []) buffer = drainAll readAgent s buffer := rfl

/-- Once the session is over nothing is read. -/
theorem drainAll_over (h : s.sessionOver = true) (buffer : Bytes) :
    drainAll readAgent s buffer = (s, []) := by
  by_cases hnil : buffer = []
  · rw [hnil]
    rfl
  · have hread : readAgent s (buffer ++ []) = (s, buffer.length) := by
      rw [List.append_nil, readAgent, h, Bool.true_or, Bool.true_or, if_pos rfl]
    have hdrop := drainAll_piece hnil hread
    rw [List.append_nil] at hdrop
    exact hdrop

/-- The framing that is in force after the headers. -/
theorem afterHeaders_framing (r : Response) (s : State) :
    (afterHeaders r s).isChunked = remembers s.isChunked r.framing ∧
      (afterHeaders r s).contentLength =
        match r.framing with
        | none => s.contentLength
        | some (.sized n) => n
        | some .chunked => 0 := by
  rw [afterHeaders, applyFraming.eq_def]
  cases r.framing with
  | none => exact ⟨rfl, rfl⟩
  | some f => cases f <;> exact ⟨rfl, rfl⟩

section

variable (hs : Awaiting id s)

include hs

theorem headerLines_read (r : Response) :
    (niceDataReceivedCb (s, []) r.headerLines).1 = afterHeaders r s := by
  have hread := drainAll_headerLines hs.live hs.receive r []
  rw [List.append_nil] at hread
  rw [niceDataReceivedCb_nil, hread]
  rfl

/-- What is made of a response for a file that was found. -/
theorem wire_read_found {r : Response} (hfound : r.found = true)
    (hfresh : r.framing = none → s.isChunked = false ∧ s.contentLength = 0) :
    niceDataReceivedCb (s, []) r.wire = (getNextManifestEntry false (bodyRead id r s), []) := by
  have hread := drainAll_response hs.live hs.receive hs.current hfound hfresh []
  rw [List.append_nil] at hread
  rw [niceDataReceivedCb_nil, hread]
  rfl

/-- What is made of a response for a file that was not found. -/
theorem wire_read_notFound {r : Response} (hfound : r.found = false) :
    niceDataReceivedCb (s, []) r.wire = (endOfHeaders (afterHeaders r s), []) ∧
      (endOfHeaders (afterHeaders r s)).sessionOver = true ∧
      received (endOfHeaders (afterHeaders r s)).out = received s.out := by
  obtain ⟨isChunked, contentLength, heq⟩ := afterHeaders_eq r s
  have hcurrent : (afterHeaders r s).currentChannel = some id := by rw [heq]; exact hs.current
  obtain ⟨hover, hout⟩ := endOfHeaders_notFound hcurrent (by rw [heq]; exact hfound)
  refine ⟨?_, hover, by rw [hout, heq]⟩
  rw [niceDataReceivedCb_nil, Response.wire, drainAll_head hs.live hs.receive, drainAll_over hover]

theorem delivered_found (r : Response) :
    (received (getNextManifestEntry false (bodyRead id r s)).out).drop (received s.out).length =
      r.body.map fun b => (id, b) := by
  obtain ⟨-, -, hcurrent, hlive, hout⟩ := bodyRead_frame id r s
  rw [received_getNextManifestEntry (hlive hs.live) (hcurrent.trans hs.current), hout,
    received_append, List.drop_left, received_data]

/-- **The interpretation of a response**, when it has a framing of its own or the
share channel remembers none. -/
theorem interpretation_eq {r : Response}
    (hfresh : r.framing = none → s.isChunked = false ∧ s.contentLength = 0) :
    interpretation (s, []) r = some
      { isChunked := remembers false r.framing
        contentLength := match r.framing with
          | none => 0
          | some (.sized n) => n
          | some .chunked => 0
        delivered := if r.found then r.body.map fun b => (id, b) else [] } := by
  obtain ⟨hchunked, hlength⟩ := afterHeaders_framing r s
  have hremembers : remembers s.isChunked r.framing = remembers false r.framing := by
    cases hframing : r.framing with
    | none => rw [(hfresh hframing).1]
    | some f => cases f <;> rfl
  have hcount : (match r.framing with
      | none => s.contentLength
      | some (.sized n) => n
      | some .chunked => 0) = match r.framing with
      | none => 0
      | some (.sized n) => n
      | some .chunked => 0 := by
    cases hframing : r.framing with
    | none => exact (hfresh hframing).2
    | some f => cases f <;> rfl
  have hlive : s.sessionOver = false := hs.live.1
  rw [interpretation, hlive, if_neg Bool.false_ne_true, headerLines_read hs]
  dsimp only
  rw [hchunked, hlength, hremembers, hcount]
  cases hfound : r.found with
  | true =>
    rw [wire_read_found hs hfound hfresh]
    dsimp only
    rw [delivered_found hs, if_pos rfl]
  | false =>
    obtain ⟨hread, -, hout⟩ := wire_read_notFound hs hfound
    rw [hread]
    dsimp only
    rw [hout, List.drop_length, if_neg Bool.false_ne_true]

/-- A response without framing is not read as it would be alone when the share
channel remembers a chunked one. -/
theorem interpretation_ne {r : Response}
    (hframing : r.framing = none) (hchunked : s.isChunked = true) :
    interpretation (s, []) r ≠ interpretation (fresh s, []) r := by
  have hfresh : Awaiting id (fresh s) := ⟨hs.live, hs.receive, hs.current⟩
  have hlive : s.sessionOver = false := hs.live.1
  have hlive' : (fresh s).sessionOver = false := hs.live.1
  rw [interpretation, interpretation, hlive, hlive', if_neg Bool.false_ne_true,
    if_neg Bool.false_ne_true, headerLines_read hs, headerLines_read hfresh]
  intro heq
  have hfield := congrArg Interpretation.isChunked (Option.some.inj heq)
  dsimp only at hfield
  rw [(afterHeaders_framing r s).1, (afterHeaders_framing r (fresh s)).1, hframing] at hfield
  rw [remembers, remembers, hchunked] at hfield
  cases hfield

/-- What the share channel remembers of a response when it has asked for the next
file. -/
theorem remembered (r : Response) :
    (getNextManifestEntry false (bodyRead id r s)).isChunked = remembers s.isChunked r.framing ∧
      (getNextManifestEntry false (bodyRead id r s)).contentLength = 0 := by
  obtain ⟨-, -, hcurrent, hlive, -⟩ := bodyRead_frame id r s
  rw [getNextManifestEntry_eq (hlive hs.live) (hcurrent.trans hs.current)]
  obtain ⟨hchunked, hlength⟩ := requestNext_framing (fileEnded id (bodyRead id r s))
  rw [hchunked, hlength]
  exact ⟨(afterHeaders_framing r s).1, rfl⟩

end

/-! ## Sequences of responses -/

theorem agrees_over (h : s.sessionOver = true) (rs : List Response) :
    Agrees (s, []) rs := by
  induction rs with
  | nil => trivial
  | cons r rs ih =>
    refine ⟨?_, ?_⟩
    · rw [interpretation, interpretation, h, if_pos rfl]
      exact (if_pos h).symm
    · rw [niceDataReceivedCb_nil, drainAll_over h]
      exact ih

/-- **Responses on one share channel.**  The share channel has been asked for a
file and remembers no length; the responses to this request and to those for the
next files are interpreted as each would be alone exactly when each has a framing
of its own or the share channel remembers none. -/
theorem agrees_iff_ownFraming {id : ℕ} {s : State} (hs : Awaiting id s)
    (hlength : s.contentLength = 0) (rs : List Response)
    (hfiles : rs.length ≤ (asked s.manifest rs.length (mark id (files s))).length + 1) :
    Agrees (s, []) rs ↔ OwnFraming s.isChunked rs := by
  induction rs generalizing id s with
  | nil => exact Iff.rfl
  | cons r rs ih =>
    by_cases hbad : r.framing = none ∧ s.isChunked = true
    · refine iff_of_false (fun h => interpretation_ne hs hbad.1 hbad.2 h.1) fun h => ?_
      rw [h.1 hbad.1] at hbad
      cases hbad.2
    have hclear : r.framing = none → s.isChunked = false := by
      intro hnone
      simpa [hnone] using hbad
    have hfresh : r.framing = none → s.isChunked = false ∧ s.contentLength = 0 :=
      fun hnone => ⟨hclear hnone, hlength⟩
    have hsame : interpretation (s, []) r = interpretation (fresh s, []) r := by
      have halone : Awaiting id (fresh s) := ⟨hs.live, hs.receive, hs.current⟩
      rw [interpretation_eq hs hfresh, interpretation_eq halone fun _ => ⟨rfl, rfl⟩]
    rw [Agrees, OwnFraming, and_iff_right hsame, and_iff_right hclear]
    cases hfound : r.found with
    | false =>
      obtain ⟨hread, hover, -⟩ := wire_read_notFound hs hfound
      rw [hread]
      exact iff_of_true (agrees_over hover rs) fun h => nomatch h
    | true =>
      rw [wire_read_found hs hfound hfresh]
      obtain ⟨hbfiles, hbsession, hbcurrent, hblive, -⟩ := bodyRead_frame id r s
      have hcurrent := hbcurrent.trans hs.current
      rw [List.length_cons, asked] at hfiles
      cases hnext : nextFile s.manifest (mark id (files s)) with
      | none =>
        -- there is no other file, and so no other response
        rw [hnext] at hfiles
        have hnil : rs = [] := List.length_eq_zero_iff.mp (by simpa using hfiles)
        subst hnil
        exact iff_of_true trivial fun _ => trivial
      | some next =>
        rw [hnext] at hfiles
        obtain ⟨hawait, hsession, hfs, -⟩ := getNextManifestEntry_some (hblive hs.live)
          hcurrent (by rw [hbfiles, hbsession.1]; exact hnext)
        obtain ⟨hchunked, hzero⟩ := remembered hs r
        rw [← hchunked, ih hawait hzero]
        · exact ⟨fun h _ => h, fun h => h rfl⟩
        · rw [hsession.1, hbsession.1, hfs, hbfiles]
          simpa using hfiles

/-- The second file is empty, and its response has no headers. -/
def bareResponse : Response where
  statusLine := ascii "HTTP/1.1 200"
  headers := []
  content := .empty
  isLine := fileResponse.isLine
  fits := by decide +kernel

theorem agrees_iff_ownFraming_folderAndFile :
    Agrees (folderAndFile, []) [folderResponse, fileResponse] :=
  (agrees_iff_ownFraming ⟨⟨rfl, rfl⟩, rfl, rfl⟩ rfl [folderResponse, fileResponse]
    (by decide +kernel)).mpr (by decide +kernel)

/-- The empty file after the folder is taken for a chunked one. -/
theorem bareResponse_not_agrees : ¬ Agrees (folderAndFile, []) [folderResponse, bareResponse] :=
  fun h => absurd h.2.1 (by decide +kernel)

end Gtalk
