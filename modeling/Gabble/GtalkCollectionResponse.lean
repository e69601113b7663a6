/-
# Responses of a share server

What a share server sends for a file: a status line, headers, and a body that is
as long as a `Content-Length` header says or comes in chunks.  `drainAll_response`
says what the reader of `gtalk-file-collection.c` makes of one response, whatever
follows it.
-/
import Gabble.GtalkCollection
import Mathlib.Data.List.Induction

namespace Gtalk

open Base64 CText Segments

variable {s : State}

/-! ## The format -/

/-- The digits of a number of 64 bits. -/
structure Numeral (base n : ℕ) where
  digits : Bytes
  isDigit : ∀ b ∈ digits, isDigit base b = true
  ne_nil : digits ≠ []
  value_eq : value base digits = n
  lt : n < 2 ^ 64

/-- A header line of a response.  The names and the word `chunked` may be in any
case. -/
inductive Header : Type where
  | contentLength (key : Bytes) (n : ℕ) (number : Numeral 10 n)
      (hkey : sameLetters key (ascii "Content-Length: ") = true) : Header
  | chunked (text : Bytes)
      (htext : sameLetters text (ascii "Transfer-Encoding: chunked") = true) : Header
  /-- a header that says nothing of the body -/
  | other (text : Bytes) (hline : IsLine text) (hne : text ≠ [])
      (hother : framingOf text = none) : Header

/-- The text of a header line. -/
def Header.text : Header → Bytes
  | .contentLength key _ number _ => key ++ number.digits
  | .chunked text _ => text
  | .other text _ _ _ => text

/-- What a header says of the body. -/
def Header.framing : Header → Option Framing
  | .contentLength _ n _ _ => some (.sized n)
  | .chunked _ _ => some .chunked
  | .other _ _ _ _ => none

/-- A line with the size of a chunk; after the size there may be extensions. -/
structure SizeLine (n : ℕ) where
  number : Numeral 16 n
  extension : Bytes
  isLine : IsLine extension
  separated : extension.head? = none ∨ extension.head? = some 59

/-- A chunk of a body; it is not empty. -/
structure Chunk where
  data : Bytes
  size : SizeLine data.length
  ne_nil : data ≠ []

/-- What follows the headers. -/
inductive Content : Type where
  | empty : Content
  | sized (body : Bytes) : Content
  | chunked (chunks : List Chunk) (last : SizeLine 0) : Content

/-- The body. -/
def Content.body : Content → Bytes
  | .empty => []
  | .sized body => body
  | .chunked chunks _ => chunks.flatMap Chunk.data

/-- A text in a line of its own. -/
def lineOf (text : Bytes) : Bytes := text ++ lineEnd

def SizeLine.wire {n : ℕ} (l : SizeLine n) : Bytes := lineOf (l.number.digits ++ l.extension)

def Chunk.wire (c : Chunk) : Bytes := c.size.wire ++ (c.data ++ lineOf [])

/-- The content as the server sends it. -/
def Content.wire : Content → Bytes
  | .empty => []
  | .sized body => body
  | .chunked chunks last => chunks.flatMap Chunk.wire ++ (last.wire ++ lineOf [])

/-- A response.  The last header that says something of the body fits the
content. -/
structure Response where
  statusLine : Bytes
  headers : List Header
  content : Content
  isLine : IsLine statusLine
  fits : (headers.filterMap Header.framing).getLast? =
    match content with
    | .empty => none
    | .sized body => some (.sized body.length)
    | .chunked _ _ => some .chunked

/-- The framing a response tells itself. -/
def Response.framing (r : Response) : Option Framing :=
  (r.headers.filterMap Header.framing).getLast?

def Response.body (r : Response) : Bytes := r.content.body

/-- The status line and the headers. -/
def Response.headerLines (r : Response) : Bytes :=
  lineOf r.statusLine ++ (r.headers.flatMap fun h => lineOf h.text)

/-- The status line, the headers and the empty line. -/
def Response.head (r : Response) : Bytes := r.headerLines ++ lineOf []

/-- The response as the server sends it. -/
def Response.wire (r : Response) : Bytes := r.head ++ r.content.wire

/-- The response of a server that has the file. -/
def Response.found (r : Response) : Bool := (ascii "HTTP/1.1 200").isPrefixOf r.statusLine

/-! ## Header lines -/

theorem isLine_nil : IsLine [] := fun _ h => nomatch h

theorem isLine_of_sameLetters {l l' : Bytes} (h : sameLetters l l' = true) (h' : IsLine l') :
    IsLine l := by
  have hletter : ∀ c : UInt8, c < 65 → ∀ b : UInt8, toLower b = c → b = c := by
    intro c hc b hb
    rw [toLower] at hb
    split at hb
    case isTrue hupper =>
      simp only [Bool.and_eq_true, decide_eq_true_eq, UInt8.le_iff_toNat_le,
        UInt8.toNat_ofNat] at hupper
      have hnat := congrArg UInt8.toNat hb
      rw [UInt8.toNat_add] at hnat
      rw [UInt8.lt_iff_toNat_lt] at hc
      simp only [UInt8.toNat_ofNat] at hnat hc
      omega
    case isFalse => exact hb
  have hlower : ∀ c : UInt8, c < 65 → toLower c = c := by
    intro c hc
    rw [toLower, if_neg]
    rw [UInt8.lt_iff_toNat_lt] at hc
    simp only [Bool.and_eq_true, decide_eq_true_eq, UInt8.le_iff_toNat_le, UInt8.toNat_ofNat] at hc ⊢
    omega
  have hmap : l.map toLower = l'.map toLower := by simpa [sameLetters] using h
  have hout : ∀ c : UInt8, c < 65 → c ∈ l → c ∈ l' := by
    intro c hc hmem
    have hmem' : toLower c ∈ l'.map toLower := hmap ▸ List.mem_map_of_mem hmem
    obtain ⟨b, hb, hbc⟩ := List.mem_map.mp hmem'
    rw [hlower c hc] at hbc
    rwa [hletter c hc b hbc] at hb
  intro b hb
  refine ⟨?_, ?_, ?_⟩
  · rintro rfl
    exact (h' 10 (hout 10 (by decide) hb)).1 rfl
  · rintro rfl
    exact (h' 13 (hout 13 (by decide) hb)).2.1 rfl
  · rintro rfl
    exact (h' 0 (hout 0 (by decide) hb)).2.2 rfl

theorem isLine_digits {base n : ℕ} (hbase : base ≤ 16) (number : Numeral base n) :
    IsLine number.digits := by
  intro b hb
  have hdigit := isDigit_mono hbase (number.isDigit b hb)
  exact ⟨ne_of_isDigit hdigit (n := 10) (by omega), ne_of_isDigit hdigit (n := 13) (by omega),
    ne_of_isDigit hdigit (n := 0) (by omega)⟩

theorem length_of_sameLetters {l l' : Bytes} (h : sameLetters l l' = true) :
    l.length = l'.length := by
  have hmap : l.map toLower = l'.map toLower := by simpa [sameLetters] using h
  simpa using congrArg List.length hmap

theorem Header.isLine (h : Header) : IsLine h.text := by
  cases h with
  | contentLength key n number hkey =>
    exact (isLine_of_sameLetters hkey (by decide +kernel)).append (isLine_digits (by omega) number)
  | chunked text htext => exact isLine_of_sameLetters htext (by decide +kernel)
  | other text hline hne hother => exact hline

theorem Header.text_ne_nil (h : Header) : h.text ≠ [] := by
  cases h with
  | contentLength key n number hkey =>
    exact fun heq => number.ne_nil (List.append_eq_nil_iff.mp heq).2
  | chunked text htext =>
    intro heq
    have hlen := length_of_sameLetters htext
    rw [show text = [] from heq] at hlen
    exact absurd hlen (by decide)
  | other text hline hne hother => exact hne

/-- The reader makes of a header what it says. -/
theorem framingOf_text (h : Header) : framingOf h.text = h.framing := by
  cases h with
  | contentLength key n number hkey =>
    have hlen : key.length = 16 := length_of_sameLetters hkey
    have hnumber : strtoul 10 ((key ++ number.digits).drop 16) = n := by
      rw [← hlen, List.drop_left]
      have hread : CText.strtoul 10 (number.digits ++ []) = value 10 number.digits :=
        strtoul_append (by omega) number.isDigit number.ne_nil (fun _ hb => nomatch hb)
          (fun _ hb => nomatch hb) (number.value_eq.symm ▸ number.lt)
      rw [List.append_nil, number.value_eq] at hread
      exact hread
    have hprefix_ : hasPrefixIgnoringCase (ascii "Content-Length: ") (key ++ number.digits) =
        true := by
      rw [hasPrefixIgnoringCase, show (ascii "Content-Length: ").length = key.length from
        (length_of_sameLetters hkey).symm, List.take_left]
      exact hkey
    rw [Header.text, framingOf, if_pos hprefix_, hnumber, Header.framing]
  | chunked text htext =>
    rw [Header.text, framingOf, if_neg, if_pos htext, Header.framing]
    -- a text with the letters of the one header has not those of the other
    have hmap : text.map toLower = (ascii "Transfer-Encoding: chunked").map toLower := by
      simpa [sameLetters] using htext
    intro hprefix_
    have htake : (text.take (ascii "Content-Length: ").length).map toLower =
        (ascii "Content-Length: ").map toLower := by
      simpa [hasPrefixIgnoringCase, sameLetters] using hprefix_
    rw [List.map_take, hmap] at htake
    exact absurd htake (by decide)
  | other text hline hne hother => exact hother

/-- The reader makes of a size line its size. -/
theorem SizeLine.strtoul {n : ℕ} (l : SizeLine n) :
    CText.strtoul 16 (l.number.digits ++ l.extension) = n := by
  have hseparated : ∀ b ∈ l.extension.head?, isDigit 16 b = false ∧ toLower b ≠ 120 := by
    intro b hb
    rcases l.separated with hnone | hsome
    · rw [hnone] at hb
      cases hb
    · rw [hsome] at hb
      obtain rfl := Option.some.inj hb
      decide
  rw [strtoul_append (by omega) l.number.isDigit l.number.ne_nil hseparated
    (fun b hb => (l.isLine b hb).2.2) (l.number.value_eq.symm ▸ l.number.lt), l.number.value_eq]

theorem SizeLine.isLine_text {n : ℕ} (l : SizeLine n) : IsLine (l.number.digits ++ l.extension) :=
  (isLine_digits (by omega) l.number).append l.isLine

/-! ## Reading a response -/

/-- The session goes on. -/
def Live (s : State) : Prop := s.sessionOver = false ∧ s.aborted = false

theorem withLine_lineOf (s : State) {text : Bytes} (h : IsLine text) (rest : Bytes)
    (f : Bytes → State) :
    withLine s (lineOf text ++ rest) f = (f text, (lineOf text).length) := by
  rw [withLine, lineOf, readLine_line h, List.length_append]
  dsimp only
  rw [h.cString]
  rfl

theorem lineOf_ne_nil (text : Bytes) : lineOf text ≠ [] :=
  fun h => nomatch (List.append_eq_nil_iff.mp h).2

theorem readAgent_live (h : Live s) {buffer : Bytes} (hne : buffer ≠ []) :
    readAgent s buffer = httpDataReceived s buffer := by
  rw [readAgent, h.1, h.2, if_neg (by simpa using hne)]

/-- A line that the reader waits for is used. -/
theorem drainAll_lineOf {s s' : State} (h : Live s) {text : Bytes} (rest : Bytes)
    (hread : httpDataReceived s (lineOf text ++ rest) = (s', (lineOf text).length)) :
    drainAll readAgent s (lineOf text ++ rest) = drainAll readAgent s' rest :=
  drainAll_piece (lineOf_ne_nil text)
    ((readAgent_live h fun hnil => lineOf_ne_nil text (List.append_eq_nil_iff.mp hnil).1).trans
      hread)

/-- What one header line does to the share channel. -/
def readHeader (s : State) (h : Header) : State :=
  match h.framing with
  | none => s
  | some f => setFraming f s

/-- What the headers of a response do to the share channel: the last one that says
something of the body counts. -/
def applyFraming (f : Option Framing) (s : State) : State :=
  match f with
  | none => s
  | some f => setFraming f s

theorem setFraming_setFraming (f g : Framing) (s : State) :
    setFraming g (setFraming f s) = setFraming g s := by
  cases f <;> cases g <;> rfl

theorem foldl_readHeader (headers : List Header) (s : State) :
    headers.foldl readHeader s =
      applyFraming (headers.filterMap Header.framing).getLast? s := by
  induction headers using List.reverseRecOn with
  | nil => rfl
  | append_singleton headers h ih =>
    rw [List.foldl_concat, ih, readHeader, List.filterMap_append]
    cases hf : h.framing with
    | none => simp [hf]
    | some f =>
      simp only [List.filterMap_cons, hf, List.filterMap_nil, List.getLast?_concat]
      rw [applyFraming, applyFraming.eq_def]
      cases (headers.filterMap Header.framing).getLast? with
      | none => rfl
      | some g => exact setFraming_setFraming g f s

theorem setFraming_live {f : Framing} (h : Live s) : Live (setFraming f s) := by
  cases f <;> exact h

theorem setFraming_httpStatus (f : Framing) (s : State) :
    (setFraming f s).httpStatus = s.httpStatus := by
  cases f <;> rfl

/-- Header lines are read one after the other. -/
theorem drainAll_headers (h : Live s) (hs : s.httpStatus = .clientHeaders)
    (headers : List Header) (rest : Bytes) :
    drainAll readAgent s ((headers.flatMap fun h => lineOf h.text) ++ rest) =
      drainAll readAgent (headers.foldl readHeader s) rest := by
  induction headers generalizing s with
  | nil => rfl
  | cons header headers ih =>
    have hread : httpDataReceived s (lineOf header.text ++
        ((headers.flatMap fun h => lineOf h.text) ++ rest)) =
        (readHeader s header, (lineOf header.text).length) := by
      rw [httpDataReceived, hs]
      dsimp only
      rw [withLine_lineOf _ header.isLine, if_neg (by simpa using header.text_ne_nil),
        framingOf_text]
      rfl
    have hlive : Live (readHeader s header) := by
      rw [readHeader]
      split
      · exact h
      · exact setFraming_live h
    have hstatus : (readHeader s header).httpStatus = .clientHeaders := by
      rw [readHeader]
      split
      · exact hs
      · rw [setFraming_httpStatus, hs]
    rw [List.flatMap_cons, List.append_assoc, drainAll_lineOf h _ hread, List.foldl_cons,
      ih hlive hstatus]

/-- The share channel after the headers of a response. -/
def afterHeaders (r : Response) (s : State) : State :=
  applyFraming r.framing { s with httpStatus := .clientHeaders, statusLine := r.statusLine }

theorem afterHeaders_eq (r : Response) (s : State) :
    ∃ isChunked contentLength, afterHeaders r s =
      { s with httpStatus := .clientHeaders, statusLine := r.statusLine,
               isChunked := isChunked, contentLength := contentLength } := by
  rw [afterHeaders, applyFraming.eq_def]
  split
  · exact ⟨_, _, rfl⟩
  · rw [setFraming.eq_def]
    split <;> exact ⟨_, _, rfl⟩

theorem afterHeaders_live {r : Response} (h : Live s) : Live (afterHeaders r s) := by
  obtain ⟨isChunked, contentLength, heq⟩ := afterHeaders_eq r s
  rw [heq]
  exact h

theorem afterHeaders_httpStatus (r : Response) (s : State) :
    (afterHeaders r s).httpStatus = .clientHeaders := by
  obtain ⟨isChunked, contentLength, heq⟩ := afterHeaders_eq r s
  rw [heq]

/-- The header lines of a response are read. -/
theorem drainAll_headerLines (h : Live s) (hs : s.httpStatus = .clientReceive)
    (r : Response) (rest : Bytes) :
    drainAll readAgent s (r.headerLines ++ rest) =
      drainAll readAgent (afterHeaders r s) rest := by
  have hstatus : httpDataReceived s (lineOf r.statusLine ++
      ((r.headers.flatMap fun h => lineOf h.text) ++ rest)) =
      ({ s with httpStatus := .clientHeaders, statusLine := r.statusLine },
        (lineOf r.statusLine).length) := by
    rw [httpDataReceived, hs]
    exact withLine_lineOf _ r.isLine _ _
  rw [Response.headerLines, List.append_assoc, drainAll_lineOf h _ hstatus,
    drainAll_headers (by exact h) rfl, foldl_readHeader, ← Response.framing, ← afterHeaders]

/-- **The head of a response is read**, whatever comes after it. -/
theorem drainAll_head (h : Live s) (hs : s.httpStatus = .clientReceive)
    (r : Response) (rest : Bytes) :
    drainAll readAgent s (r.head ++ rest) =
      drainAll readAgent (endOfHeaders (afterHeaders r s)) rest := by
  have hempty : httpDataReceived (afterHeaders r s) (lineOf [] ++ rest) =
      (endOfHeaders (afterHeaders r s), (lineOf []).length) := by
    rw [httpDataReceived, afterHeaders_httpStatus]
    exact withLine_lineOf _ isLine_nil _ _
  rw [Response.head, List.append_assoc, drainAll_headerLines h hs,
    drainAll_lineOf (afterHeaders_live h) _ hempty]

/-! ## Reading a body -/

/-- A body or a chunk whose length is known is handed to the current channel. -/
theorem drainAll_sized (h : Live s) (hs : s.httpStatus = .clientBody) {id : ℕ}
    (hcurrent : s.currentChannel = some id) {data : Bytes} (hlen : s.contentLength = data.length)
    (hne : data ≠ []) (rest : Bytes) :
    drainAll readAgent s (data ++ rest) =
      drainAll readAgent
        (if s.isChunked then
          { deliver id data s with contentLength := 0, httpStatus := .clientChunkEnd }
         else getNextManifestEntry false { deliver id data s with contentLength := 0 }) rest := by
  refine drainAll_piece hne ?_
  rw [readAgent_live h (by simp [hne]), httpDataReceived, hs]
  dsimp only
  rw [hcurrent]
  dsimp only
  rw [hlen, if_pos (by simp), List.take_left]
  rfl

/-- A size line is read. -/
theorem drainAll_sizeLine (h : Live s) (hs : s.httpStatus = .clientChunkSize) {n : ℕ}
    (l : SizeLine n) (rest : Bytes) :
    drainAll readAgent s (l.wire ++ rest) =
      drainAll readAgent
        { s with contentLength := n,
                 httpStatus := if 0 < n then .clientBody else .clientChunkFinal } rest := by
  refine drainAll_lineOf h rest ?_
  rw [httpDataReceived, hs]
  dsimp only
  rw [withLine_lineOf _ l.isLine_text, l.strtoul]

/-- **The chunks of a body** are handed to the current channel, one after the
other. -/
theorem drainAll_chunks (h : Live s) (hs : s.httpStatus = .clientChunkSize)
    (hzero : s.contentLength = 0) (hchunked : s.isChunked = true) {id : ℕ}
    (hcurrent : s.currentChannel = some id) (chunks : List Chunk) (rest : Bytes) :
    drainAll readAgent s (chunks.flatMap Chunk.wire ++ rest) =
      drainAll readAgent (deliver id (chunks.flatMap Chunk.data) s) rest := by
  induction chunks generalizing s with
  | nil => rw [List.flatMap_nil, List.flatMap_nil, deliver, List.map_nil, List.append_nil]; rfl
  | cons c chunks ih =>
    have hpos : 0 < c.data.length := List.length_pos_iff.mpr c.ne_nil
    have hend : ∀ (s' : State) (rest : Bytes), s'.httpStatus = .clientChunkEnd →
        httpDataReceived s' (lineOf [] ++ rest) =
          ({ s' with httpStatus := .clientChunkSize }, (lineOf []).length) := by
      intro s' rest hs'
      rw [httpDataReceived, hs']
      exact withLine_lineOf _ isLine_nil _ _
    -- the size line, the data, and the line end after the data
    let sized : State := { s with contentLength := c.data.length, httpStatus := .clientBody }
    let ended : State :=
      { deliver id c.data sized with contentLength := 0, httpStatus := .clientChunkEnd }
    have hsized : Live sized := h
    have hended : Live ended := h
    have hdata := drainAll_sized hsized rfl hcurrent rfl c.ne_nil
      (lineOf [] ++ (chunks.flatMap Chunk.wire ++ rest))
    rw [if_pos (show sized.isChunked = true from hchunked)] at hdata
    rw [List.flatMap_cons, Chunk.wire, List.append_assoc, List.append_assoc, List.append_assoc,
      drainAll_sizeLine h hs, if_pos hpos, hdata, drainAll_lineOf hended _ (hend ended _ rfl),
      ih (s := { ended with httpStatus := .clientChunkSize }) h rfl rfl hchunked hcurrent]
    simp [deliver, sized, ended, hs, hzero]

/-- The share channel when the body of a response has been read. -/
def bodyRead (id : ℕ) (r : Response) (s : State) : State :=
  { deliver id r.body (afterHeaders r s) with
    contentLength := 0,
    httpStatus := match r.content with
      | .chunked _ _ => .clientIdle
      | _ => .clientBody }

/-- **A response is read**: its body is handed to the current channel, and then
the file has ended.  A response that does not say how long its body is has none,
unless the share channel remembers something else from an earlier one. -/
theorem drainAll_response (h : Live s) (hs : s.httpStatus = .clientReceive) {id : ℕ}
    (hcurrent : s.currentChannel = some id) {r : Response} (hfound : r.found = true)
    (hfresh : r.framing = none → s.isChunked = false ∧ s.contentLength = 0) (rest : Bytes) :
    drainAll readAgent s (r.wire ++ rest) =
      drainAll readAgent (getNextManifestEntry false (bodyRead id r s)) rest := by
  have hstatusLine : (afterHeaders r s).statusLine = r.statusLine := by
    obtain ⟨isChunked, contentLength, heq⟩ := afterHeaders_eq r s
    rw [heq]
  have hprefix_ : (ascii "HTTP/1.1 200").isPrefixOf r.statusLine = true := hfound
  rw [Response.wire, List.append_assoc, drainAll_head h hs, endOfHeaders, hstatusLine,
    if_pos hprefix_]
  have hfits := r.fits
  cases hcontent : r.content with
  | empty =>
    rw [hcontent] at hfits
    obtain ⟨hchunked, hlength⟩ := hfresh hfits
    have hafter : afterHeaders r s =
        { s with httpStatus := .clientHeaders, statusLine := r.statusLine } := by
      rw [afterHeaders, Response.framing, hfits, applyFraming]
    rw [hafter]
    dsimp only
    rw [hchunked, if_neg Bool.false_ne_true, if_pos hlength]
    simp [bodyRead, Response.body, Content.body, Content.wire, hcontent, hafter, deliver, hlength,
      hchunked]
  | sized body =>
    rw [hcontent] at hfits
    have hafter : afterHeaders r s =
        { s with httpStatus := .clientHeaders, statusLine := r.statusLine, isChunked := false,
                 contentLength := body.length } := by
      rw [afterHeaders, Response.framing, hfits, applyFraming, setFraming]
    rw [hafter]
    dsimp only
    rw [if_neg Bool.false_ne_true]
    by_cases hbody : body = []
    · rw [if_pos (by rw [hbody]; rfl)]
      simp [bodyRead, Response.body, Content.body, Content.wire, hcontent, hafter, deliver, hbody]
    · rw [if_neg (by simpa using hbody)]
      have hdata := drainAll_sized
        (s := { s with httpStatus := .clientBody, statusLine := r.statusLine,
                       isChunked := false, contentLength := body.length })
        h rfl hcurrent rfl hbody rest
      rw [if_neg Bool.false_ne_true] at hdata
      rw [Content.wire, hdata]
      simp [bodyRead, Response.body, Content.body, hcontent, hafter, deliver]
  | chunked chunks last =>
    rw [hcontent] at hfits
    have hafter : afterHeaders r s =
        { s with httpStatus := .clientHeaders, statusLine := r.statusLine, isChunked := true,
                 contentLength := 0 } := by
      rw [afterHeaders, Response.framing, hfits, applyFraming, setFraming]
    have hlast : ∀ s' : State, s'.httpStatus = .clientChunkFinal →
        httpDataReceived s' (lineOf [] ++ rest) =
          (getNextManifestEntry false { s' with httpStatus := .clientIdle },
            (lineOf []).length) := by
      intro s' hs'
      rw [httpDataReceived, hs']
      exact withLine_lineOf _ isLine_nil _ _
    -- the chunks, the size line of the last one, and the line end after it
    let start : State :=
      { s with httpStatus := .clientChunkSize, statusLine := r.statusLine, isChunked := true,
               contentLength := 0 }
    let ended : State := deliver id (chunks.flatMap Chunk.data) start
    let final : State := { ended with contentLength := 0, httpStatus := .clientChunkFinal }
    have hstart : Live start := h
    have hended : Live ended := h
    have hfinal : Live final := h
    rw [hafter]
    dsimp only
    rw [if_pos rfl, Content.wire, List.append_assoc, List.append_assoc,
      drainAll_chunks hstart rfl rfl rfl hcurrent, drainAll_sizeLine hended rfl,
      if_neg (Nat.lt_irrefl 0), drainAll_lineOf hfinal _ (hlast final rfl)]
    simp [bodyRead, Response.body, Content.body, hcontent, hafter, deliver, start, ended, final]

end Gtalk
