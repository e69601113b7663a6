/-
# Collections of files shared through GTalk

The model of `gtalk-file-collection.c`.  The files of a collection are sent one
after the other over one share channel, which speaks HTTP over an ICE agent: the
receiving side asks for a file and reads the response, the sending side answers
the request and passes on what its local client writes.

What was read from the agent and not used yet is not in `State`: it is the buffer
of the reader `nice_data_received_cb` is, an instance of `Segments.feed`.  What
the collection tells its file transfer channels and the agent is appended to
`out`.
-/
import Gabble.FtChannel
import Gabble.Segments
import Gabble.UriEscape

namespace Gtalk

open Base64 CText
open FtChannel (GTalkFileCollectionState)
open UriEscape (escape unescape)

/-! ## Data -/

/-- `HttpStatus` -/
inductive HttpStatus : Type where
  | serverIdle : HttpStatus
  | serverHeaders : HttpStatus
  | serverSend : HttpStatus
  | clientIdle : HttpStatus
  | clientReceive : HttpStatus
  | clientHeaders : HttpStatus
  | clientChunkSize : HttpStatus
  | clientChunkEnd : HttpStatus
  | clientChunkFinal : HttpStatus
  | clientBody : HttpStatus
deriving DecidableEq

/-- `GtalkFtStatus` -/
inductive GtalkFtStatus : Type where
  | pending : GtalkFtStatus
  | initiated : GtalkFtStatus
  | accepted : GtalkFtStatus
  | transferring : GtalkFtStatus
  | waiting : GtalkFtStatus
  | terminated : GtalkFtStatus
deriving DecidableEq

/-- A file transfer channel of the collection, with its entries in
`channels_reading` and `channels_usable`. -/
structure Channel where
  id : ℕ
  filename : Bytes
  size : UInt64
  reading : Bool
  usable : Bool
deriving DecidableEq

/-- `GabbleJingleShareManifestEntry` -/
structure ManifestEntry where
  name : Bytes
  folder : Bool
deriving DecidableEq

/-- `GabbleJingleShareManifest` -/
structure Manifest where
  sourceUrl : Option Bytes
  entries : List ManifestEntry
deriving DecidableEq

/-- What the collection tells its channels, the agent and the session. -/
inductive Effect : Type where
  | stateChanged (channel : ℕ) (state : GTalkFileCollectionState) (localTerminator : Bool) : Effect
  /-- one byte of the data that is handed to a channel -/
  | dataReceived (channel : ℕ) (byte : UInt8) : Effect
  | writeBlocked (channel : ℕ) (blocked : Bool) : Effect
  /-- a request or the head of a response; what the agent returns is not looked at -/
  | agentSend (text : Bytes) : Effect
  /-- the bytes of a file that the agent took -/
  | agentTook (data : Bytes) : Effect
  | attachRecv (attached : Bool) : Effect
  | sessionAccept : Effect
  | createShareChannel : Effect
  | sessionTerminate : Effect
  | sendComplete : Effect
deriving DecidableEq

/-- `GTalkFileCollectionPrivate`, its `ShareChannel`, and `out`. -/
structure State where
  httpStatus : HttpStatus
  statusLine : Bytes
  isChunked : Bool
  contentLength : ℕ
  writeBuffer : Option Bytes
  agentAttached : Bool
  status : GtalkFtStatus
  channels : List Channel
  currentChannel : Option ℕ
  manifest : Manifest
  /-- the full JID of the session's initiator -/
  initiator : Bytes
  /-- `PACKAGE_STRING` -/
  packageString : Bytes
  /-- the channels have been told that the session is over and have let go of the
  collection -/
  sessionOver : Bool
  /-- an assertion has failed or a `NULL` was used -/
  aborted : Bool
  out : List Effect
deriving DecidableEq

def emit (e : Effect) (s : State) : State := { s with out := s.out ++ [e] }

/-- A failed assertion, or the use of a `NULL`. -/
def abort (s : State) : State := { s with aborted := true }

/-! ## Channels -/

/-- The channel with this identity. -/
def channel (id : ℕ) (s : State) : Option Channel := s.channels.find? fun c => c.id = id

/-- `channel_exists` -/
def channelExists (id : ℕ) (s : State) : Bool := s.channels.any fun c => c.id = id

/-- Change the entries of a channel in the collection's tables. -/
def modifyChannel (id : ℕ) (f : Channel → Channel) (s : State) : State :=
  { s with channels := s.channels.map fun c => if c.id = id then f c else c }

/-- `get_channel_by_filename` -/
def getChannelByFilename (filename : Bytes) (s : State) : Option Channel :=
  s.channels.find? fun c => c.filename = filename

/-- `gtalk_file_collection_block_reading` -/
def blockReading (id : ℕ) (block : Bool) (s : State) : State :=
  if !channelExists id s then abort s
  else
    let s := modifyChannel id (fun c => { c with reading := !block }) s
    if s.currentChannel = some id && s.agentAttached = block then
      emit (.attachRecv (!block)) { s with agentAttached := !block }
    else s

/-- `set_current_channel` -/
def setCurrentChannel (current : Option ℕ) (s : State) : State :=
  let s := { s with currentChannel := current }
  match current with
  | none => s
  | some id =>
    let s := emit (.stateChanged id .opened false) s
    let reading := (channel id s).any Channel.reading
    blockReading id (!reading) s

/-- A callback for every channel. -/
def tellAll (state : GTalkFileCollectionState) (localTerminator : Bool) (s : State) : State :=
  { s with out := s.out ++ s.channels.map fun c => .stateChanged c.id state localTerminator }

/-- The error of every channel: each closes its session, and the last one lets go
of the collection. -/
def errorAll (s : State) : State := { tellAll .error false s with sessionOver := true }

/-- `del_channel` -/
def delChannel (id : ℕ) (s : State) : State :=
  { s with channels := s.channels.filter fun c => c.id ≠ id,
           currentChannel := if s.currentChannel = some id then none else s.currentChannel }

/-- `gtalk_file_collection_terminate`.  `jingle_session_terminated_cb` tells the
channels that are left. -/
def terminate (id : ℕ) (s : State) : State :=
  if !channelExists id s then s
  else if s.currentChannel = some id then
    let s := delChannel id s
    if s.status = .transferring then
      { tellAll .terminated true (emit .sessionTerminate { s with status := .terminated }) with
        sessionOver := true }
    else { s with sessionOver := s.channels.isEmpty }
  else
    let s := delChannel id s
    emit (.stateChanged id .terminated true) { s with sessionOver := s.channels.isEmpty }

/-! ## Requests -/

/-- The characters a URI does not escape. -/
def unreserved (b : UInt8) : Bool :=
  (97 ≤ b && b ≤ 122) || (65 ≤ b && b ≤ 90) || (48 ≤ b && b ≤ 57) ||
    b = 45 || b = 46 || b = 95 || b = 126

/-- The bytes of a name that are not escaped: text in UTF-8 is left as it is, and names
come from stanzas, which are text in UTF-8. -/
def keptInName (b : UInt8) : Bool := unreserved b || 128 ≤ b

/-- The part of the URL of a file that comes before its name. -/
def sourcePath (m : Manifest) : Bytes :=
  match m.sourceUrl with
  | none => []
  | some url => if url.getLast? = some 47 then url else url ++ ascii "/"

/-- The request for a file. -/
def getRequest (s : State) (name : Bytes) : Bytes :=
  ascii "GET " ++ sourcePath s.manifest ++ escape keptInName name ++
    ascii " HTTP/1.1\r\nConnection: Keep-Alive\r\nContent-Length: 0\r\nHost: " ++ s.initiator ++
    ascii ":0\r\nUser-Agent: " ++ s.packageString ++ ascii "\r\n\r\n"

/-- The name of the channel for a manifest entry. -/
def entryFilename (e : ManifestEntry) : Bytes := e.name ++ if e.folder then ascii ".tar" else []

/-- The first entry of the manifest whose channel is usable, with the channel. -/
def nextEntry (s : State) : Option (ManifestEntry × Channel) :=
  s.manifest.entries.findSome? fun e =>
    (getChannelByFilename (entryFilename e) s).bind fun c => if c.usable then some (e, c) else none

/-- The first half of `get_next_manifest_entry`: the current file has ended.  A
channel that is told of an error closes the session. -/
def endCurrent (error : Bool) (s : State) : State :=
  match s.currentChannel with
  | none => s
  | some id =>
    let s := if s.channels.length = 1 then emit .sendComplete s else s
    let s := modifyChannel id (fun c => { c with usable := false }) s
    if error then
      { emit (.stateChanged id .error false) s with sessionOver := true, currentChannel := none }
    else setCurrentChannel none (emit (.stateChanged id .completed false) s)

/-- The second half of `get_next_manifest_entry`: the next file is requested. -/
def requestNext (s : State) : State :=
  match nextEntry s with
  | none => { s with status := .waiting }
  | some (e, c) =>
    setCurrentChannel (some c.id)
      { emit (.agentSend (getRequest s e.name)) s with
        status := .transferring, httpStatus := .clientReceive }

/-- `get_next_manifest_entry` -/
def getNextManifestEntry (error : Bool) (s : State) : State :=
  let s := endCurrent error s
  if s.sessionOver then s else requestNext s

/-! ## Responses -/

/-- The literal part of a `sscanf` format: white space stands for any amount of
it. -/
def sscanfLiteral : Bytes → Bytes → Option Bytes
  | [], input => some input
  | f :: format, input =>
    if isSpace f then sscanfLiteral format (input.dropWhile isSpace)
    else
      match input with
      | [] => none
      | b :: input => if b = f then sscanfLiteral format input else none

/-- What `sscanf` puts in the `%s` that follows a literal.  The URL in the format
is one this program has made; it has no conversion. -/
def sscanfString (format input : Bytes) : Option Bytes :=
  (sscanfLiteral format input).bind fun input =>
    let word := (input.dropWhile isSpace).takeWhile fun b => !isSpace b
    if word.isEmpty then none else some word

/-- A number in a `printf` format. -/
def decimal (n : ℕ) : Bytes := (Nat.toDigits 10 n).map fun c => UInt8.ofNat c.toNat

/-- The response of `http_data_received` to a request whose head is complete.  A name that
cannot be unescaped is a `NULL` that is compared with the name of the first channel. -/
def respond (s : State) : State :=
  if s.currentChannel.isSome then abort s
  else
    let filename := sscanfString (ascii "GET " ++ sourcePath s.manifest) s.statusLine
    match filename.map unescape with
    | some none => if s.channels.isEmpty then notFound s else abort s
    | some (some filename) =>
      match getChannelByFilename filename s with
      | some c =>
        setCurrentChannel (some c.id)
          { emit (.agentSend (
              ascii "HTTP/1.1 200\r\nConnection: Keep-Alive\r\nContent-Length: " ++
                decimal c.size.toNat ++
                ascii "\r\nContent-Type: application/octet-stream\r\n\r\n")) s with
            httpStatus := .serverSend, status := .transferring }
      | none => notFound s
    | none => notFound s
where
  /-- the response for a file that is not in the collection -/
  notFound (s : State) : State :=
    { emit (.agentSend (
        ascii "HTTP/1.1 404\r\nConnection: Keep-Alive\r\nContent-Length: 0\r\n\r\n")) s with
      httpStatus := .serverIdle, status := .transferring, currentChannel := none }

/-! ## Reading -/

/-- How the length of a body is told. -/
inductive Framing : Type where
  | sized (n : ℕ) : Framing
  | chunked : Framing
deriving DecidableEq

/-- The framing a header line tells, if it does. -/
def framingOf (line : Bytes) : Option Framing :=
  if hasPrefixIgnoringCase (ascii "Content-Length: ") line then
    some (.sized (strtoul 10 (line.drop 16)))
  else if sameLetters line (ascii "Transfer-Encoding: chunked") then some .chunked
  else none

/-- The framing is kept in the share channel. -/
def setFraming (f : Framing) (s : State) : State :=
  match f with
  | .sized n => { s with isChunked := false, contentLength := n }
  | .chunked => { s with isChunked := true, contentLength := 0 }

/-- The empty line after the headers of a response. -/
def endOfHeaders (s : State) : State :=
  if (ascii "HTTP/1.1 200").isPrefixOf s.statusLine then
    if s.isChunked then { s with httpStatus := .clientChunkSize }
    else
      let s := { s with httpStatus := .clientBody }
      if s.contentLength = 0 then getNextManifestEntry false s else s
  else if s.isChunked || s.contentLength ≠ 0 then errorAll s
  else getNextManifestEntry true s

/-- Hand data to the current channel. -/
def deliver (id : ℕ) (data : Bytes) (s : State) : State :=
  { s with out := s.out ++ data.map (.dataReceived id) }

/-- A line of the buffer is used, if there is one. -/
def withLine (s : State) (buffer : Bytes) (f : Bytes → State) : State × ℕ :=
  match readLine buffer with
  | none => (s, 0)
  | some (line, used) => (f (cString line), used)

/-- `http_data_received` -/
def httpDataReceived (s : State) (buffer : Bytes) : State × ℕ :=
  match s.httpStatus with
  | .serverIdle =>
    withLine s buffer fun line =>
      let s := { s with httpStatus := .serverHeaders, statusLine := line }
      match s.currentChannel with
      | none => s
      | some id => setCurrentChannel none (emit (.stateChanged id .completed false) s)
  | .serverHeaders => withLine s buffer fun line => if line.isEmpty then respond s else s
  | .serverSend | .clientIdle => (s, 0)
  | .clientReceive =>
    withLine s buffer fun line =>
      { s with httpStatus := .clientHeaders, statusLine := line }
  | .clientHeaders =>
    withLine s buffer fun line =>
      if line.isEmpty then endOfHeaders s
      else
        match framingOf line with
        | none => s
        | some f => setFraming f s
  | .clientChunkSize =>
    withLine s buffer fun line =>
      let size := strtoul 16 line
      { s with contentLength := size,
               httpStatus := if 0 < size then .clientBody else .clientChunkFinal }
  | .clientBody =>
    match s.currentChannel with
    | none =>
      (if s.contentLength ≤ buffer.length then errorAll s else abort s, buffer.length)
    | some id =>
      if s.contentLength ≤ buffer.length then
        let used := s.contentLength
        let s := deliver id (buffer.take used) s
        let s := { s with contentLength := 0 }
        (if s.isChunked then { s with httpStatus := .clientChunkEnd }
         else getNextManifestEntry false s, used)
      else
        (deliver id buffer { s with contentLength := s.contentLength - buffer.length },
          buffer.length)
  | .clientChunkEnd => withLine s buffer fun _ => { s with httpStatus := .clientChunkSize }
  | .clientChunkFinal =>
    withLine s buffer fun _ => getNextManifestEntry false { s with httpStatus := .clientIdle }

/-- One round of the loop of `nice_data_received_cb`: it runs while there are bytes,
and nobody reads what comes after the end of the session. -/
def readAgent (s : State) (buffer : Bytes) : State × ℕ :=
  if s.sessionOver || s.aborted || buffer.isEmpty then (s, buffer.length)
  else httpDataReceived s buffer

/-- `nice_data_received_cb`: what has come before and was not used is the second
component. -/
def niceDataReceivedCb (r : State × Bytes) (buffer : Bytes) : State × Bytes :=
  Segments.feed readAgent r buffer

/-! ## Sending -/

/-- `g_memdup` -/
def memdup (data : Bytes) : Option Bytes := if data.isEmpty then none else some data

/-- `gtalk_file_collection_send_data`; `ret` is what `nice_agent_send` returns, the
number of bytes it took or an error. -/
def sendData (id : ℕ) (data : Bytes) (ret : ℤ) (s : State) : State × Bool :=
  if s.currentChannel ≠ some id then (s, false)
  else
    let s := emit (.agentTook (data.take ret.toNat)) s
    if ret < 0 || ret.toNat < data.length then
      (emit (.writeBlocked id true) { s with writeBuffer := memdup (data.drop ret.toNat) }, true)
    else (s, true)

/-- `nice_component_writable`; `ret` is what `nice_agent_send` returns. -/
def niceComponentWritable (ret : ℤ) (s : State) : State :=
  match s.httpStatus with
  | .clientIdle => getNextManifestEntry false s
  | .serverSend =>
    match s.currentChannel with
    | none => errorAll s
    | some id =>
      let s := emit (.writeBlocked id false) s
      match s.writeBuffer with
      | none => s
      | some buffer =>
        let s := emit (.agentTook (buffer.take ret.toNat)) s
        if ret < 0 || ret.toNat < buffer.length then
          emit (.writeBlocked id true)
            { s with writeBuffer := memdup (buffer.drop ret.toNat) }
        else { s with writeBuffer := none }
  | _ => s

/-- `gtalk_file_collection_completed` -/
def completed (id : ℕ) (s : State) : State :=
  if s.currentChannel ≠ some id then s
  else { s with httpStatus := .serverIdle, status := .waiting }

end Gtalk
