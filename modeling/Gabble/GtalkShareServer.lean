/-
# Requests to a share server

A peer asks a share server for a file by its name, which it has escaped; the server
takes the name out of the first line of the request and unescapes it.  `respond` compares
what it has got with the names of its channels without looking whether there is a name.
This module says which requests are answered, with which response, and for which names
the request of the one side is read back by the other.
-/
import Gabble.GtalkSenderRequests
import Mathlib.Data.List.DropRight

namespace Gtalk

open Base64 CText Segments
open UriEscape (WellEscaped escape unescape)

/-! ## Names -/

theorem keptInName_spec {b : UInt8} (h : keptInName b = true) :
    isSpace b = false ∧ b ≠ 10 ∧ b ≠ 13 ∧ b ≠ 0 := by
  have hall : ∀ b : UInt8, keptInName b = true →
      isSpace b = false ∧ b ≠ 10 ∧ b ≠ 13 ∧ b ≠ 0 := CText.forall_byte (by decide +kernel)
  exact hall b h

/-- An escaped name is one word of one line. -/
theorem mem_escapedName {name : Bytes} {b : UInt8} (h : b ∈ escape keptInName name) :
    isSpace b = false ∧ b ≠ 10 ∧ b ≠ 13 ∧ b ≠ 0 := by
  rcases UriEscape.mem_escape h with ⟨-, hkeep⟩ | rfl | hdigit
  · exact keptInName_spec hkeep
  · decide
  · refine ⟨isSpace_of_isDigit hdigit, ?_, ?_, ?_⟩
    · exact ne_of_isDigit hdigit (n := 10) (by omega)
    · exact ne_of_isDigit hdigit (n := 13) (by omega)
    · exact ne_of_isDigit hdigit (n := 0) (by omega)

/-! ## The path -/

theorem sscanfLiteral_space {f : UInt8} (h : isSpace f = true) (format input : Bytes) :
    sscanfLiteral (f :: format) input = sscanfLiteral format (input.dropWhile isSpace) := by
  rw [sscanfLiteral.eq_def]
  exact if_pos h

theorem sscanfLiteral_char {f : UInt8} (h : ¬ isSpace f = true) (format input : Bytes) :
    sscanfLiteral (f :: format) (f :: input) = sscanfLiteral format input := by
  rw [sscanfLiteral.eq_def]
  exact (if_neg h).trans (if_pos rfl)

/-- A literal matches itself; white space around its end may be taken with it. -/
theorem sscanfLiteral_self (format rest : Bytes) :
    (sscanfLiteral format (format ++ rest)).map (List.dropWhile isSpace) =
        some (rest.dropWhile isSpace) ∧
      (sscanfLiteral format ((format ++ rest).dropWhile isSpace)).map (List.dropWhile isSpace) =
        some (rest.dropWhile isSpace) := by
  induction format with
  | nil => exact ⟨rfl, congrArg some (List.dropWhile_idempotent isSpace rest)⟩
  | cons f format ih =>
    by_cases hspace : isSpace f = true
    · have hdrop : (f :: format ++ rest).dropWhile isSpace = (format ++ rest).dropWhile isSpace :=
        List.dropWhile_cons_of_pos hspace
      constructor
      · rw [sscanfLiteral_space hspace, hdrop]
        exact ih.2
      · rw [hdrop, sscanfLiteral_space hspace, List.dropWhile_idempotent]
        exact ih.2
    · have hdrop : (f :: format ++ rest).dropWhile isSpace = f :: format ++ rest :=
        List.dropWhile_cons_of_neg hspace
      have hmatch : sscanfLiteral (f :: format) (f :: format ++ rest) =
          sscanfLiteral format (format ++ rest) := sscanfLiteral_char hspace format _
      rw [hdrop, hmatch]
      exact ⟨ih.1, ih.1⟩

/-- What `%s` reads behind a literal that matches. -/
theorem sscanfString_self (format rest : Bytes) :
    sscanfString format (format ++ rest) =
      if ((rest.dropWhile isSpace).takeWhile fun b => !isSpace b).isEmpty then none
      else some ((rest.dropWhile isSpace).takeWhile fun b => !isSpace b) := by
  obtain ⟨input, hliteral, hdrop⟩ := Option.map_eq_some_iff.mp (sscanfLiteral_self format rest).1
  rw [sscanfString, hliteral]
  dsimp only [Option.bind_some]
  rw [hdrop]

/-- The part of the path behind the source path, as the server reads it. -/
def requested (s : State) (line : Bytes) : Option Bytes :=
  sscanfString (ascii "GET " ++ sourcePath s.manifest) line

/-- The line asks for an entry of the manifest. -/
def NamesEntry (s : State) (line : Bytes) : Prop :=
  ∃ word e, requested s line = some word ∧ e ∈ s.manifest.entries ∧
    unescape word = some (entryFilename e)

/-! ## Requests -/

/-- A request as a peer sends it: its first line, and headers that are not empty. -/
structure ShareRequest where
  line : Bytes
  headers : List Bytes
  isLine : 10 ∉ line
  isHeader : ∀ header ∈ headers, 10 ∉ header ∧ cString header ≠ []

/-- The bytes of the request. -/
def ShareRequest.wire (request : ShareRequest) : Bytes :=
  lineOf request.line ++ (request.headers.flatMap lineOf ++ lineOf [])

/-- A URL like the ones of `generate_temp_url`: it fits in a line and in a format. -/
def OwnUrl (m : Manifest) : Prop := ∀ url, m.sourceUrl = some url → IsLine url ∧ 37 ∉ url

/-- The server waits for a request.  Its files are those of the manifest, and the URL in the
manifest is one that the program has made. -/
structure Serving (s : State) : Prop where
  live : Live s
  idle : s.httpStatus = .serverIdle
  files : ∀ name, (∃ c ∈ s.channels, c.filename = name) ↔
    ∃ e ∈ s.manifest.entries, entryFilename e = name
  url : OwnUrl s.manifest

/-- The texts that are sent: requests, and the heads of responses. -/
def Effect.text : Effect → Option Bytes
  | .agentSend text => some text
  | _ => none

def texts (out : List Effect) : List Bytes := out.filterMap Effect.text

/-- The request has got one response, and the right one, and no name was missing. -/
def Answered (s s' : State) (line : Bytes) : Prop :=
  s'.aborted = false ∧ ∃ response, texts s'.out = texts s.out ++ [response] ∧
    (NamesEntry s line → (ascii "HTTP/1.1 200").isPrefixOf response = true) ∧
    (¬ NamesEntry s line → (ascii "HTTP/1.1 404").isPrefixOf response = true)

variable {s : State}

theorem texts_append (out out' : List Effect) : texts (out ++ out') = texts out ++ texts out' :=
  List.filterMap_append

/-- What is told of the channels is no text. -/
theorem texts_visible (out : List Effect) : texts (out.filter visible) = texts out := by
  rw [texts, texts, List.filterMap_filter]
  congr 1
  funext e
  cases e with
  | stateChanged channel state localTerminator => cases state <;> rfl
  | _ => rfl

theorem withLine_text (s : State) {text : Bytes} (h : 10 ∉ text) (rest : Bytes)
    (f : Bytes → State) :
    withLine s (lineOf text ++ rest) f = (f (cString text), (lineOf text).length) := by
  rw [withLine, lineOf, readLine_text h, List.length_append]
  rfl

/-- What the first line does to the server. -/
theorem nextRequest_frame (h : Serving s) (line : Bytes) :
    Live (nextRequest line s) ∧ (nextRequest line s).httpStatus = .serverHeaders ∧
      (nextRequest line s).currentChannel = none ∧ (nextRequest line s).statusLine = line ∧
      (nextRequest line s).channels = s.channels ∧ (nextRequest line s).manifest = s.manifest ∧
      texts (nextRequest line s).out = texts s.out := by
  rw [nextRequest]
  dsimp only
  cases hcurrent : s.currentChannel with
  | none => exact ⟨h.live, rfl, rfl, rfl, rfl, rfl, rfl⟩
  | some id =>
    refine ⟨h.live, rfl, rfl, rfl, rfl, rfl, ?_⟩
    show texts (s.out ++ [Effect.stateChanged id .completed false]) = _
    rw [texts_append]
    exact List.append_nil _

/-- Headers are passed by. -/
theorem drainAll_requestHeaders (hlive : Live s) (hs : s.httpStatus = .serverHeaders)
    {headers : List Bytes} (hheaders : ∀ header ∈ headers, 10 ∉ header ∧ cString header ≠ [])
    (rest : Bytes) :
    drainAll readAgent s (headers.flatMap lineOf ++ rest) = drainAll readAgent s rest := by
  induction headers with
  | nil => rfl
  | cons header headers ih =>
    obtain ⟨⟨hline, hne⟩, htail⟩ := List.forall_mem_cons.mp hheaders
    have hread : httpDataReceived s (lineOf header ++ (headers.flatMap lineOf ++ rest)) =
        (s, (lineOf header).length) := by
      rw [httpDataReceived, hs]
      dsimp only
      rw [withLine_text s hline, if_neg (by simpa using hne)]
    rw [List.flatMap_cons, List.append_assoc, drainAll_lineOf hlive _ hread, ih htail]

/-- A request is read to its end, and then responded to. -/
theorem drainAll_request (h : Serving s) (request : ShareRequest) :
    drainAll readAgent s request.wire =
      (respond (nextRequest (cString request.line) s), []) := by
  obtain ⟨hlive, hheaders, -⟩ := nextRequest_frame h (cString request.line)
  have hfirst : httpDataReceived s (lineOf request.line ++
      (request.headers.flatMap lineOf ++ lineOf [])) =
        (nextRequest (cString request.line) s, (lineOf request.line).length) := by
    rw [httpDataReceived, h.idle]
    dsimp only
    rw [withLine_text s request.isLine]
    rfl
  have hlast : httpDataReceived (nextRequest (cString request.line) s) (lineOf [] ++ []) =
      (respond (nextRequest (cString request.line) s), (lineOf []).length) := by
    rw [httpDataReceived, hheaders]
    dsimp only
    rw [withLine_text _ List.not_mem_nil]
    rfl
  have hend := drainAll_lineOf hlive [] hlast
  rw [List.append_nil] at hend
  rw [ShareRequest.wire, drainAll_lineOf h.live _ hfirst,
    drainAll_requestHeaders hlive hheaders request.isHeader, hend]
  rfl

/-- However the agent cuts a request. -/
theorem received_request (h : Serving s) (request : ShareRequest) {reads : List Bytes}
    (hreads : reads.flatten = request.wire) :
    reads.foldl niceDataReceivedCb (s, []) =
      (respond (nextRequest (cString request.line) s), []) := by
  have hreading : Reading s := by
    intro _
    rw [h.idle]
    trivial
  have hfeed := feedAll_eq_of_restrict (fun _ buffer => reading_readAgent buffer) coherent_reader
    hreading reads
  rw [hreads, drainAll_request h] at hfeed
  exact hfeed

/-! ## Responses -/

/-- The state after a text was sent as the response to a line. -/
theorem answered_of_texts {line response : Bytes} {s s' : State} (hlive : s'.aborted = false)
    (htexts : texts s'.out = texts s.out ++ [response])
    (hstatus : NamesEntry s line ∧ (ascii "HTTP/1.1 200").isPrefixOf response = true ∨
      ¬ NamesEntry s line ∧ (ascii "HTTP/1.1 404").isPrefixOf response = true) :
    Answered s s' line := by
  refine ⟨hlive, response, htexts, ?_⟩
  rcases hstatus with ⟨hnames, hfound⟩ | ⟨hnone, hmissing⟩
  · exact ⟨fun _ => hfound, fun hno => absurd hnames hno⟩
  · exact ⟨fun hyes => absurd hyes hnone, fun _ => hmissing⟩

/-- The response to a name that there is no file for. -/
theorem answered_notFound {line : Bytes} {s₀ : State} (hlive : s.aborted = false)
    (htexts : texts s.out = texts s₀.out) (hnone : ¬ NamesEntry s₀ line) :
    Answered s₀ (respond.notFound s) line := by
  have hsent : texts (respond.notFound s).out = texts s₀.out ++
      [ascii "HTTP/1.1 404\r\nConnection: Keep-Alive\r\nContent-Length: 0\r\n\r\n"] := by
    rw [← htexts]
    exact texts_append s.out _
  exact answered_of_texts hlive hsent (.inr ⟨hnone, by decide +kernel⟩)

/-- Making a file the current one sends no text. -/
theorem texts_setCurrentChannel {id : ℕ} (hexists : channelExists id s = true) :
    (setCurrentChannel (some id) s).aborted = s.aborted ∧
      texts (setCurrentChannel (some id) s).out = texts s.out := by
  obtain ⟨attached, channels, out, heq, -, hout⟩ := setCurrentChannel_some hexists
  rw [heq]
  refine ⟨rfl, ?_⟩
  show texts out = _
  rw [← texts_visible out, hout, texts_visible]

/-- The response with a file. -/
theorem answered_found {line response : Bytes} {s₀ s₁ : State} {c : Channel}
    (hlive : s₁.aborted = false) (htexts : texts s₁.out = texts s₀.out ++ [response])
    (hresponse : (ascii "HTTP/1.1 200").isPrefixOf response = true) (hmem : c ∈ s₁.channels)
    (hnames : NamesEntry s₀ line) : Answered s₀ (setCurrentChannel (some c.id) s₁) line := by
  have hexists : channelExists c.id s₁ = true :=
    List.any_eq_true.mpr ⟨c, hmem, decide_eq_true rfl⟩
  obtain ⟨haborted, hsent⟩ := texts_setCurrentChannel hexists
  exact answered_of_texts (haborted.trans hlive) (hsent.trans htexts) (.inl ⟨hnames, hresponse⟩)

theorem found_prefix (length rest : Bytes) : (ascii "HTTP/1.1 200").isPrefixOf
    (ascii "HTTP/1.1 200\r\nConnection: Keep-Alive\r\nContent-Length: " ++ length ++ rest) =
      true := by
  rw [List.isPrefixOf_iff_prefix, List.append_assoc]
  exact (List.isPrefixOf_iff_prefix.mp (by decide +kernel)).trans (List.prefix_append _ _)

/-- A name in the request names an entry of the manifest when there is a channel for it. -/
theorem namesEntry_iff (h : Serving s) {line word name : Bytes}
    (hword : requested s line = some word) (hname : unescape word = some name) :
    NamesEntry s line ↔ ∃ c ∈ s.channels, c.filename = name := by
  rw [h.files]
  constructor
  · rintro ⟨word', e, hword', hmem, he⟩
    rw [hword] at hword'
    cases hword'
    rw [hname] at he
    cases he
    exact ⟨e, hmem, rfl⟩
  · rintro ⟨e, hmem, he⟩
    exact ⟨word, e, hword, hmem, by rw [hname, he]⟩

/-- **One request.**  It is answered, unless a name cannot be unescaped and there are names to
compare it with. -/
theorem answered_respond_iff (h : Serving s) (line : Bytes) :
    Answered s (respond (nextRequest line s)) line ↔
      s.channels = [] ∨ ∀ word, requested s line = some word → WellEscaped word := by
  obtain ⟨hlive, -, hcurrent, hline, hchannels, hmanifest, htexts⟩ := nextRequest_frame h line
  have hrequested : sscanfString (ascii "GET " ++ sourcePath (nextRequest line s).manifest)
      (nextRequest line s).statusLine = requested s line := by
    rw [hline, hmanifest, requested]
  rw [respond, hcurrent, if_neg (by simp)]
  dsimp only
  rw [hrequested]
  cases hword : requested s line with
  | none =>
    refine iff_of_true ?_ (.inr fun word => by rintro ⟨⟩)
    apply answered_notFound hlive.2 htexts
    rintro ⟨word, e, hno, -⟩
    rw [hword] at hno
    cases hno
  | some word =>
    cases hname : unescape word with
    | none =>
      have hbad : ¬ WellEscaped word := by
        rw [← UriEscape.unescape_isSome_iff, hname]
        exact Bool.false_ne_true
      have hnone : ¬ NamesEntry s line := by
        rintro ⟨word', e, hword', -, he⟩
        rw [hword] at hword'
        cases hword'
        rw [hname] at he
        cases he
      simp only [Option.map_some, hname, hchannels]
      by_cases hempty : s.channels = []
      · rw [hempty]
        refine iff_of_true ?_ (.inl rfl)
        exact answered_notFound hlive.2 htexts hnone
      · -- the comparison of a missing name
        rw [if_neg (by simpa using hempty)]
        refine iff_of_false (by rintro ⟨⟨⟩, -⟩) ?_
        rintro (hno | hescaped)
        · exact hempty hno
        · exact hbad (hescaped word rfl)
    | some name =>
      have hgood : WellEscaped word := by
        rw [← UriEscape.unescape_isSome_iff, hname]
        rfl
      refine iff_of_true ?_ (.inr ?_)
      · simp only [Option.map_some, hname]
        rcases hfile : getChannelByFilename name (nextRequest line s) with _ | c
        · apply answered_notFound hlive.2 htexts
          rw [namesEntry_iff h hword hname, ← hchannels]
          rintro ⟨c, hmem, hc⟩
          have hnot := List.find?_eq_none.mp hfile c hmem
          exact hnot (decide_eq_true hc)
        · have hmem := List.mem_of_find?_eq_some hfile
          have hfilename : decide (c.filename = name) = true :=
            List.find?_some (p := fun c : Channel => decide (c.filename = name)) hfile
          have hnames : NamesEntry s line := by
            rw [namesEntry_iff h hword hname, ← hchannels]
            exact ⟨c, hmem, of_decide_eq_true hfilename⟩
          have hprefix := found_prefix (decimal c.size.toNat)
            (ascii "\r\nContent-Type: application/octet-stream\r\n\r\n")
          refine answered_found hlive.2 ?_ hprefix hmem hnames
          rw [← htexts]
          exact texts_append _ _
      · rintro word' hword'
        cases hword'
        exact hgood

/-! ## The other side -/

/-- The server reads the name back from the first line of the client's request. -/
def Decoded (client server : State) (name : Bytes) : Prop :=
  ∃ line used, readLine (getRequest client name) = some (line, used) ∧
    (requested server (cString line)).bind unescape = some name

theorem isLine_escapedName (name : Bytes) : IsLine (escape keptInName name) :=
  fun _ hb => (mem_escapedName hb).2

theorem isLine_sourcePath {m : Manifest} (h : OwnUrl m) :
    IsLine (sourcePath m) := by
  rw [sourcePath]
  split
  · exact isLine_nil
  · rename_i url hurl
    split
    · exact (h url hurl).1
    · exact (h url hurl).1.append (by decide +kernel)

/-- The first line of the request for a name. -/
def requestLine (m : Manifest) (name : Bytes) : Bytes :=
  ascii "GET " ++ sourcePath m ++ escape keptInName name ++ ascii " HTTP/1.1"

theorem readLine_getRequest {client : State} (name : Bytes) (hurl : OwnUrl client.manifest) :
    ∃ used, readLine (getRequest client name) = some (requestLine client.manifest name, used) ∧
      IsLine (requestLine client.manifest name) := by
  have hline : IsLine (requestLine client.manifest name) :=
    (((show IsLine (ascii "GET ") by decide +kernel).append (isLine_sourcePath hurl)).append
      (isLine_escapedName name)).append (by decide +kernel)
  have hsplit : ascii " HTTP/1.1\r\nConnection: Keep-Alive\r\nContent-Length: 0\r\nHost: " =
      ascii " HTTP/1.1" ++ (lineEnd ++
        ascii "Connection: Keep-Alive\r\nContent-Length: 0\r\nHost: ") := by decide +kernel
  have hrequest : getRequest client name = requestLine client.manifest name ++ lineEnd ++
      (ascii "Connection: Keep-Alive\r\nContent-Length: 0\r\nHost: " ++ client.initiator ++
        ascii ":0\r\nUser-Agent: " ++ client.packageString ++ ascii "\r\n\r\n") := by
    simp only [getRequest, requestLine, hsplit, List.append_assoc]
  rw [hrequest]
  exact ⟨_, readLine_line hline _, hline⟩

/-- **A name comes back** when it is not empty. -/
theorem decoded_iff {client server : State} {name : Bytes}
    (hsame : client.manifest.sourceUrl = server.manifest.sourceUrl)
    (hurl : OwnUrl server.manifest) (hnul : 0 ∉ name) :
    Decoded client server name ↔ name ≠ [] := by
  have hurl' : OwnUrl client.manifest := fun url h => hurl url (hsame ▸ h)
  obtain ⟨used, hread, hline⟩ := readLine_getRequest name hurl'
  have hpath : sourcePath client.manifest = sourcePath server.manifest := by
    rw [sourcePath, sourcePath, hsame]
  have hrequested : requested server (cString (requestLine client.manifest name)) =
      sscanfString (ascii "GET " ++ sourcePath server.manifest)
        (ascii "GET " ++ sourcePath server.manifest ++
          (escape keptInName name ++ ascii " HTTP/1.1")) := by
    rw [hline.cString, requested, requestLine, hpath, List.append_assoc]
  rw [sscanfString_self] at hrequested
  have hdecoded : Decoded client server name ↔
      (requested server (cString (requestLine client.manifest name))).bind unescape =
        some name := by
    constructor
    · rintro ⟨line, used', hline', hname⟩
      rw [hread] at hline'
      cases hline'
      exact hname
    · exact fun hname => ⟨_, used, hread, hname⟩
  rw [hdecoded, hrequested]
  constructor
  · -- behind the path of an empty name comes the version of the protocol
    rintro hname rfl
    revert hname
    decide +kernel
  · intro hne
    have hword : ∀ b ∈ escape keptInName name, (!isSpace b) = true := by
      intro b hb
      rw [(mem_escapedName hb).1]
      rfl
    obtain ⟨b, rest, hescape⟩ := List.exists_cons_of_ne_nil
      (show escape keptInName name ≠ [] from fun hnil => hne (UriEscape.escape_eq_nil.mp hnil))
    have hdrop : (escape keptInName name ++ ascii " HTTP/1.1").dropWhile isSpace =
        escape keptInName name ++ ascii " HTTP/1.1" := by
      rw [hescape]
      apply List.dropWhile_cons_of_neg
      rw [(mem_escapedName (hescape ▸ List.mem_cons_self)).1]
      exact Bool.false_ne_true
    have htake : ((escape keptInName name ++ ascii " HTTP/1.1").takeWhile fun b => !isSpace b) =
        escape keptInName name := by
      rw [List.takeWhile_append_of_pos hword]
      exact List.append_nil _
    rw [hdrop, htake, if_neg (by rw [hescape]; exact Bool.false_ne_true), Option.bind_some,
      UriEscape.unescape_escape (by decide) hnul]

/-- **Requests for shared files.**  A server answers a request exactly when there is no escape
in the path that is not one (or no file to compare the name with), however the request is cut;
and a client's request for a name is read back as that name exactly when it is not empty. -/
theorem share_requests (server : State) :
    (∀ (request : ShareRequest) (reads : List Bytes), Serving server →
      reads.flatten = request.wire →
      (Answered server (reads.foldl niceDataReceivedCb (server, [])).1 (cString request.line) ↔
        server.channels = [] ∨ ∀ word, requested server (cString request.line) = some word →
          WellEscaped word)) ∧
    ∀ (client : State) (name : Bytes), OwnUrl server.manifest →
      client.manifest.sourceUrl = server.manifest.sourceUrl → 0 ∉ name →
      (Decoded client server name ↔ name ≠ []) := by
  constructor
  · intro request reads h hreads
    rw [received_request h request hreads]
    exact answered_respond_iff h (cString request.line)
  · intro client name hurl hsame hnul
    exact decoded_iff hsame hurl hnul

/-! ### Examples -/

/-- A server of one file. -/
def shareServer : State where
  httpStatus := .serverIdle
  statusLine := []
  isChunked := false
  contentLength := 0
  writeBuffer := none
  agentAttached := true
  status := .accepted
  channels := [⟨0, ascii "a b", 2, true, true⟩]
  currentChannel := none
  manifest := ⟨some (ascii "/temporary/1/"), [⟨ascii "a b", false⟩]⟩
  initiator := ascii "alice@example.com/Empathy"
  packageString := ascii "telepathy-gabble"
  sessionOver := false
  aborted := false
  out := []

theorem serving_shareServer : Serving shareServer := by
  refine ⟨⟨rfl, rfl⟩, rfl, fun name => ?_, ?_⟩
  · constructor
    · rintro ⟨c, hc, rfl⟩
      rw [List.mem_singleton.mp hc]
      exact ⟨_, List.mem_cons_self, by decide +kernel⟩
    · rintro ⟨e, he, rfl⟩
      rw [List.mem_singleton.mp he]
      exact ⟨_, List.mem_cons_self, by decide +kernel⟩
  · rintro url hurl
    cases hurl
    decide +kernel

/-- A request of one line and one header. -/
def shareRequest (line : Bytes) (h : 10 ∉ line) : ShareRequest where
  line := line
  headers := [ascii "Connection: Keep-Alive"]
  isLine := h
  isHeader := by decide +kernel

theorem share_requests_shareServer :
    Answered shareServer
        ([(shareRequest (ascii "GET /temporary/1/a%20b HTTP/1.1") (by decide +kernel)).wire].foldl
          niceDataReceivedCb (shareServer, [])).1 (ascii "GET /temporary/1/a%20b HTTP/1.1") ∧
      Decoded shareServer shareServer (ascii "a b") := by
  refine ⟨?_, ?_⟩
  · have hline : cString (ascii "GET /temporary/1/a%20b HTTP/1.1") =
        ascii "GET /temporary/1/a%20b HTTP/1.1" := by decide +kernel
    have hiff := (share_requests shareServer).1
      (shareRequest (ascii "GET /temporary/1/a%20b HTTP/1.1") (by decide +kernel)) [_]
      serving_shareServer List.flatten_singleton
    rw [shareRequest, hline] at hiff
    refine hiff.mpr (.inr fun word hword => ?_)
    rw [← UriEscape.unescape_isSome_iff]
    have hword' : requested shareServer (ascii "GET /temporary/1/a%20b HTTP/1.1") =
        some (ascii "a%20b") := by decide +kernel
    rw [hword'] at hword
    cases hword
    decide +kernel
  · exact ((share_requests shareServer).2 shareServer (ascii "a b") serving_shareServer.url rfl
      (by decide +kernel)).mpr (by decide +kernel)

/-- A percent sign alone is not an escape: the name is missing when it is compared. -/
theorem bad_escape_not_answered :
    Serving shareServer ∧
      ¬ Answered shareServer
        ([(shareRequest (ascii "GET /temporary/1/100% HTTP/1.1") (by decide +kernel)).wire].foldl
          niceDataReceivedCb (shareServer, [])).1 (ascii "GET /temporary/1/100% HTTP/1.1") := by
  refine ⟨serving_shareServer, ?_⟩
  rintro ⟨hlive, -⟩
  revert hlive
  decide +kernel

end Gtalk
