/-
# In-band bytestreams

The model of `bytestream-ibb.c`: a stream of bytes carried by IQ stanzas.
Outgoing data is cut into blocks, at most `WINDOW_SIZE` of them may wait for an
answer, and what does not fit is kept in a write buffer that the answers flush.
Incoming data is handed to the user, or buffered with its IQ unanswered while
the user blocks reading.

A call of the code is a function on `State`; everything the code sends or
signals is appended to `out`.  Stanzas are known by their identity, a number,
as the code knows them by their address.
-/
import Gabble.Base64
import Gabble.CInt
import Gabble.Transition
import Mathlib.Data.PNat.Basic

namespace Ibb

open Base64
open CInt (guintSize)

/-- `READ_BUFFER_MAX_SIZE` -/
def readBufferMaxSize : ℕ := 512 * 1024

/-- `WINDOW_SIZE`: the number of not acked stanzas allowed. -/
def windowSize : ℕ := 10

/-! ## Data -/

/-- `GabbleBytestreamState` -/
inductive BytestreamState : Type where
  | localPending : BytestreamState
  | accepted : BytestreamState
  | initiating : BytestreamState
  | opened : BytestreamState
  | closing : BytestreamState
  | closed : BytestreamState
deriving DecidableEq

/-- The `WockyXmppError` and `WockySIError` codes the code answers with. -/
inductive XmppError : Type where
  | badRequest : XmppError
  | notAcceptable : XmppError
  | itemNotFound : XmppError
  | forbidden : XmppError
  | jidMalformed : XmppError
  | noValidStreams : XmppError
  | badProfile : XmppError
deriving DecidableEq

/-- An error with its text, if it has one. -/
structure GError where
  code : XmppError
  message : Option String
deriving DecidableEq

/-- An IQ received from the peer. -/
inductive Iq : Type where
  | data (id : ℕ) : Iq
  | close (id : ℕ) : Iq
deriving DecidableEq

/-- What the code sends to the peer or signals to its user. -/
inductive Effect : Type where
  /-- a data stanza with its sequence number and its encoded payload -/
  | data (stanza : ℕ) (seq : UInt16) (content : Text) : Effect
  | close : Effect
  | open_ (blockSize : ℕ) : Effect
  | siAccept : Effect
  | siDecline (error : GError) : Effect
  | acknowledge (iq : Iq) : Effect
  | iqError (iq : Iq) (error : GError) : Effect
  | dataReceived (str : Bytes) : Effect
  | stateChanged (state : BytestreamState) : Effect
  | writeBlocked (blocked : Bool) : Effect
deriving DecidableEq

/-- `GabbleBytestreamIBBPrivate`.  The block size is positive: the factory
ignores a block size of zero in the peer's `open` stanza. -/
structure State where
  state : BytestreamState
  blockSize : ℕ+
  seq : UInt16
  closeIqToAck : Option ℕ
  readBlocked : Bool
  readBuffer : Option Bytes
  /-- the data IQs not answered yet, the last one first -/
  receivedStanzasNotAcked : List ℕ
  sentStanzasNotAcked : List ℕ
  writeBuffer : Option Bytes
  writeBlocked : Bool
  disposeHasRun : Bool
  /-- the identity of the next data stanza -/
  nextStanza : ℕ
  /-- how many `open` requests have no answer yet -/
  initsPending : ℕ
  out : List Effect

/-- A new bytestream in the state its creator gives it. -/
def State.new (blockSize : ℕ+) (state : BytestreamState) : State where
  state := state
  blockSize := blockSize
  seq := 0
  closeIqToAck := none
  readBlocked := false
  readBuffer := none
  receivedStanzasNotAcked := []
  sentStanzasNotAcked := []
  writeBuffer := none
  writeBlocked := false
  disposeHasRun := false
  nextStanza := 0
  initsPending := 0
  out := []

/-- The contents of the write buffer; no buffer is an empty one. -/
def State.unsent (s : State) : Bytes := s.writeBuffer.getD []

/-- The contents of the read buffer. -/
def State.buffered (s : State) : Bytes := s.readBuffer.getD []

def emit (s : State) (effects : List Effect) : State := { s with out := s.out ++ effects }

/-- Setting the property "state". -/
def setState (s : State) (state : BytestreamState) : State :=
  if s.state = state then s else emit { s with state := state } [.stateChanged state]

def changeWriteBlockedState (s : State) (blocked : Bool) : State :=
  if s.writeBlocked = blocked then s
  else emit { s with writeBlocked := blocked } [.writeBlocked blocked]

/-- `send_close_stanza` answers the peer's close IQ, if there is one, and sends
a close IQ of its own. -/
def sendCloseStanza (s : State) : State :=
  match s.closeIqToAck with
  | some iq => emit { s with closeIqToAck := none } [.acknowledge (.close iq), .close]
  | none => emit s [.close]

/-! ## Sending -/

/-- One data stanza: it takes the next sequence number and waits for its answer. -/
def sendStanza (s : State) (payload : Bytes) : State :=
  { s with
    seq := s.seq + 1
    nextStanza := s.nextStanza + 1
    sentStanzasNotAcked := s.sentStanzasNotAcked ++ [s.nextStanza]
    out := s.out ++ [.data s.nextStanza s.seq (encode payload)] }

/-- How much of the data goes into the next stanza. -/
def sendNow (s : State) (len sent : ℕ) : ℕ :=
  if len - sent > s.blockSize then s.blockSize else len - sent

/-- The loop of `send_data`.  Every round adds a stanza to the window, so that
`WINDOW_SIZE` rounds are enough to fill it. -/
def sendDataLoop (str : Bytes) (len : ℕ) : ℕ → State → ℕ → State × ℕ
  | 0, s, sent => (s, sent)
  | fuel + 1, s, sent =>
    if sent < len then
      if s.sentStanzasNotAcked.length ≥ windowSize then (s, sent)
      else
        sendDataLoop str len fuel (sendStanza s ((str.drop sent).take (sendNow s len sent)))
          (sent + sendNow s len sent)
    else (s, sent)

/-- `send_data`: what was sent of the first `len` bytes of `str`. -/
def sendData (s : State) (str : Bytes) (len : ℕ) : State × ℕ :=
  sendDataLoop str len windowSize s 0

/-- `gabble_bytestream_ibb_send` -/
def send (s : State) (str : Bytes) : State × Bool :=
  if s.state ≠ .opened then (s, false)
  else
    match s.writeBuffer with
    | some buffer => ({ s with writeBuffer := some (buffer ++ str) }, true)
    | none =>
      let r := sendData s str str.length
      if r.2 < str.length then
        (changeWriteBlockedState { r.1 with writeBuffer := some (str.drop r.2) } true, true)
      else (r.1, true)

/-! ## Closing -/

/-- `gabble_bytestream_ibb_decline` -/
def decline (s : State) (error : Option GError) : State :=
  setState (emit s [.siDecline (error.getD ⟨.forbidden, some "Offer Declined"⟩)]) .closed

/-- The loops over the stanzas not answered yet, oldest first. -/
def answerAll (s : State) (answer : ℕ → Effect) : State :=
  emit { s with receivedStanzasNotAcked := [] } (s.receivedStanzasNotAcked.reverse.map answer)

/-- `gabble_bytestream_ibb_close` -/
def close (s : State) (error : Option GError) : State :=
  if s.state = .closed then s
  else
    let s := answerAll s fun id => .iqError (.data id) ⟨.itemNotFound, none⟩
    if s.state = .localPending then decline s error
    else
      match s.writeBuffer with
      | some _ => setState s .closing
      | none => setState (sendCloseStanza s) .closed

/-- `gabble_bytestream_ibb_close_received` -/
def closeReceived (s : State) (iq : ℕ) : State :=
  close { s with closeIqToAck := some iq } none

/-- The part of `iq_reply_cb` that flushes the write buffer.  `send_data` takes
the length as a `guint`. -/
def flushWriteBuffer (s : State) (buffer : Bytes) : State :=
  let r := sendData s buffer (buffer.length % guintSize)
  if r.2 = buffer.length then
    let s := changeWriteBlockedState { r.1 with writeBuffer := none } false
    if s.state = .closing then setState (sendCloseStanza s) .closed else s
  else { r.1 with writeBuffer := some (buffer.drop r.2) }

/-- An answered stanza leaves the table of the sent ones. -/
def removeSent (s : State) (stanza : ℕ) : State :=
  { s with sentStanzasNotAcked := s.sentStanzasNotAcked.erase stanza }

/-- `iq_reply_cb`: a data stanza was acknowledged, or refused. -/
def iqReplyCb (s : State) (stanza : ℕ) (acked : Bool) : State :=
  let s := removeSent s stanza
  if acked then
    match s.writeBuffer with
    | some buffer => flushWriteBuffer s buffer
    | none => s
  else close s none

/-- `gabble_bytestream_ibb_dispose` -/
def dispose (s : State) : State :=
  if s.disposeHasRun then s
  else
    let s := { s with disposeHasRun := true }
    let s := if s.state ≠ .closed then close s none else s
    match s.closeIqToAck with
    | some iq => emit { s with closeIqToAck := none } [.acknowledge (.close iq)]
    | none => s

/-! ## Receiving -/

/-- The answer to an incoming stanza; only an IQ is answered. -/
def answer (s : State) (isIq : Bool) (effect : Effect) : State :=
  if isIq then emit s [effect] else s

/-- `gabble_bytestream_ibb_receive`.  The decoder never fails, so the branch
"base64 decoding failed" of the code is never taken. -/
def receive (s : State) (id : ℕ) (content : Text) (isIq : Bool) : State :=
  if s.state ≠ .opened then
    answer s isIq (.iqError (.data id) ⟨.badRequest, some "IBB bytestream isn't open"⟩)
  else
    let str := decode content
    if s.readBlocked then
      if s.buffered.length + str.length > readBufferMaxSize then
        close (answer s isIq (.iqError (.data id) ⟨.notAcceptable, some "buffer is full"⟩)) none
      else
        { s with
          readBuffer := some (s.buffered ++ str)
          receivedStanzasNotAcked :=
            if isIq then id :: s.receivedStanzasNotAcked else s.receivedStanzasNotAcked }
    else answer (emit s [.dataReceived str]) isIq (.acknowledge (.data id))

/-- `gabble_bytestream_ibb_block_reading` -/
def blockReading (s : State) (block : Bool) : State :=
  if s.readBlocked = block then s
  else
    let s := { s with readBlocked := block }
    match s.readBuffer, block with
    | some buffer, false =>
      answerAll (emit { s with readBuffer := none } [.dataReceived buffer])
        fun id => .acknowledge (.data id)
    | _, _ => s

/-! ## Setting the stream up -/

/-- `gabble_bytestream_ibb_accept`; `sent` tells whether the stanza could be
sent. -/
def accept (s : State) (sent : Bool) : State :=
  if s.state ≠ .localPending then s
  else if sent then setState (emit s [.siAccept]) .accepted
  else s

/-- The part of `handle_ibb_open_iq` of the factory that concerns an accepted
stream: a block size of zero is ignored. -/
def openReceived (s : State) (blockSize : Option ℕ) : State :=
  let s :=
    match blockSize with
    | some n =>
      if h : 0 < n % guintSize then { s with blockSize := ⟨n % guintSize, h⟩ } else s
    | none => s
  setState s .opened

/-- `gabble_bytestream_ibb_initiate` -/
def initiate (s : State) (sent : Bool) : State :=
  if s.state ≠ .initiating then s
  else if sent then
    emit { s with initsPending := s.initsPending + 1 } [.open_ s.blockSize]
  else s

/-- `ibb_init_reply_cb` -/
def ibbInitReplyCb (s : State) (success : Bool) : State :=
  setState { s with initsPending := s.initsPending - 1 } (if success then .opened else .closed)

/-! ## Events -/

/-- What can happen to a bytestream. -/
inductive Event : Type where
  | send (str : Bytes) : Event
  | ack (stanza : ℕ) : Event
  | error (stanza : ℕ) : Event
  | close (error : Option GError) : Event
  | closeReceived (iq : ℕ) : Event
  | receive (id : ℕ) (content : Text) (isIq : Bool) : Event
  | blockReading (block : Bool) : Event
  | accept (sent : Bool) : Event
  | openReceived (blockSize : Option ℕ) : Event
  | initiate (sent : Bool) : Event
  | initReply (success : Bool) : Event
  | dispose : Event
deriving DecidableEq

/-- The events of a transfer that goes well. -/
def Event.isTransfer : Event → Bool
  | .send _ => true
  | .ack _ => true
  | _ => false

/-- The events of a stream that is set up already. -/
def Event.isTraffic : Event → Bool
  | .send _ => true
  | .ack _ => true
  | .error _ => true
  | .close _ => true
  | .closeReceived _ => true
  | .receive _ _ _ => true
  | .blockReading _ => true
  | _ => false

def Event.isAck : Event → Bool
  | .ack _ => true
  | _ => false

def Event.isError : Event → Bool
  | .error _ => true
  | _ => false

/-- One event.  A length is a `guint`, a stanza is answered once, the factory
opens an accepted stream only, and a disposed object is gone. -/
def step (s : State) (e : Event) : Option State :=
  if s.disposeHasRun then none
  else
    match e with
    | .send str => if str.length < guintSize then some (send s str).1 else none
    | .ack stanza =>
      if stanza ∈ s.sentStanzasNotAcked then some (iqReplyCb s stanza true) else none
    | .error stanza =>
      if stanza ∈ s.sentStanzasNotAcked then some (iqReplyCb s stanza false) else none
    | .close error => some (close s error)
    | .closeReceived iq => some (closeReceived s iq)
    | .receive id content isIq => some (receive s id content isIq)
    | .blockReading block => some (blockReading s block)
    | .accept sent => some (accept s sent)
    | .openReceived blockSize =>
      if s.state = .accepted then some (openReceived s blockSize) else none
    | .initiate sent => some (initiate s sent)
    | .initReply success =>
      if 0 < s.initsPending then some (ibbInitReplyCb s success) else none
    | .dispose => some (dispose s)

/-- What an event of the traffic does. -/
inductive Traffic (s : State) : Event → State → Prop where
  | send (str : Bytes) : Traffic s (.send str) (send s str).1
  | acked (stanza : ℕ) (hmem : stanza ∈ s.sentStanzasNotAcked) :
      Traffic s (.ack stanza) (iqReplyCb s stanza true)
  | refused (stanza : ℕ) (hmem : stanza ∈ s.sentStanzasNotAcked) :
      Traffic s (.error stanza) (iqReplyCb s stanza false)
  | close (error : Option GError) : Traffic s (.close error) (close s error)
  | closeReceived (iq : ℕ) : Traffic s (.closeReceived iq) (closeReceived s iq)
  | receive (id : ℕ) (content : Text) (isIq : Bool) :
      Traffic s (.receive id content isIq) (receive s id content isIq)
  | blockReading (block : Bool) : Traffic s (.blockReading block) (blockReading s block)

/-- What an event does to a stream that is not gone. -/
inductive Does (s : State) : Event → State → Prop where
  | traffic {e : Event} {s' : State} (h : Traffic s e s') : Does s e s'
  | accept (sent : Bool) : Does s (.accept sent) (accept s sent)
  | openReceived (blockSize : Option ℕ) (haccepted : s.state = .accepted) :
      Does s (.openReceived blockSize) (openReceived s blockSize)
  | initiate (sent : Bool) : Does s (.initiate sent) (initiate s sent)
  | initReply (success : Bool) (hpending : 0 < s.initsPending) :
      Does s (.initReply success) (ibbInitReplyCb s success)
  | dispose : Does s .dispose (dispose s)

/-- **What a step does.** -/
theorem step_does {s s' : State} {e : Event} (hs : step s e = some s') :
    s.disposeHasRun = false ∧ Does s e s' := by
  obtain ⟨halive, hs⟩ := Option.ite_none_left_eq_some.mp hs
  refine ⟨eq_false_of_ne_true halive, ?_⟩
  cases e with
  | send str =>
    obtain ⟨-, hs⟩ := Option.ite_none_right_eq_some.mp hs
    cases hs
    exact .traffic (.send str)
  | ack stanza =>
    obtain ⟨hmem, hs⟩ := Option.ite_none_right_eq_some.mp hs
    cases hs
    exact .traffic (.acked stanza hmem)
  | error stanza =>
    obtain ⟨hmem, hs⟩ := Option.ite_none_right_eq_some.mp hs
    cases hs
    exact .traffic (.refused stanza hmem)
  | close error =>
    cases hs
    exact .traffic (.close error)
  | closeReceived iq =>
    cases hs
    exact .traffic (.closeReceived iq)
  | receive id content isIq =>
    cases hs
    exact .traffic (.receive id content isIq)
  | blockReading block =>
    cases hs
    exact .traffic (.blockReading block)
  | accept sent =>
    cases hs
    exact .accept sent
  | openReceived blockSize =>
    obtain ⟨haccepted, hs⟩ := Option.ite_none_right_eq_some.mp hs
    cases hs
    exact .openReceived blockSize haccepted
  | initiate sent =>
    cases hs
    exact .initiate sent
  | initReply success =>
    obtain ⟨hpending, hs⟩ := Option.ite_none_right_eq_some.mp hs
    cases hs
    exact .initReply success hpending
  | dispose =>
    cases hs
    exact .dispose

/-- A step of the traffic. -/
theorem step_traffic {s s' : State} {e : Event} (hkind : e.isTraffic = true)
    (hs : step s e = some s') : Traffic s e s' := by
  cases (step_does hs).2 with
  | traffic h => exact h
  | accept | openReceived | initiate | initReply | dispose => cases hkind

end Ibb
