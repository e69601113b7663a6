/-
# The answer to a stream initiation

A bytestream that a peer has asked for is `LOCAL_PENDING` as long as the peer waits for
an answer.  Accepting it is the answer, and so is declining it.  A call of the code gives
no other answer, and takes the stream out of this state with an answer only; but for a
SOCKS5 stream that opens before its user has accepted it, and which is not answered then.
-/
import Gabble.Answered
import Gabble.BytestreamConsent
import Gabble.BytestreamIbbSend

open CInt (guintSize)
open Transition Answered

/-! ## In-band bytestreams -/

namespace Ibb

open Base64

/-- The stream initiation is answered. -/
def Effect.isSiAnswer : Effect → Bool
  | .siAccept | .siDecline _ => true
  | _ => false

/-- How often the stream initiation was answered. -/
def siAnswers (s : State) : ℕ := s.out.countP Effect.isSiAnswer

/-- What is seen of the request of a stream. -/
def view : View State where
  waiting s := s.state = .localPending
  answers := siAnswers
  lost _ := False

section

variable {s s' : State}

theorem siAnswers_of_out {effects : List Effect} (hout : s'.out = s.out ++ effects) :
    siAnswers s' = siAnswers s + effects.countP Effect.isSiAnswer := by
  rw [siAnswers, hout, List.countP_append]
  rfl

theorem turn_of_out (hstate : s'.state = s.state) {effects : List Effect}
    (hout : s'.out = s.out ++ effects) (heffects : ∀ e ∈ effects, e.isSiAnswer = false) :
    view.Turn s s' := by
  have hwaiting : view.waiting s' ↔ view.waiting s := by
    change s'.state = .localPending ↔ s.state = .localPending
    rw [hstate]
  refine .same hwaiting ?_ id
  refine (siAnswers_of_out hout).trans (Nat.add_eq_left.mpr (List.countP_eq_zero.mpr ?_))
  intro e he
  rw [heffects e he]
  exact Bool.false_ne_true

/-- What is not seen of the request has changed. -/
theorem turn_of_eq (hstate : s'.state = s.state) (hout : s'.out = s.out) : view.Turn s s' :=
  @turn_of_out s s' hstate [] (hout.trans (List.append_nil _).symm) nofun

/-- Effects that answer nothing may be emitted. -/
theorem turn_emit (s : State) {effects : List Effect}
    (heffects : ∀ e ∈ effects, e.isSiAnswer = false) : view.Turn s (emit s effects) :=
  turn_of_out rfl rfl heffects

/-- Once it is accepted a stream does not wait for an answer again. -/
theorem turn_setState (h : s.state ≠ .localPending) {state : BytestreamState}
    (hstate : state ≠ .localPending) : view.Turn s (setState s state) := by
  rw [setState]
  split
  · exact .refl view s
  · exact .after h hstate (@siAnswers_of_out s _ [.stateChanged state] rfl) id

section

variable (s)

theorem turn_changeWriteBlockedState (blocked : Bool) :
    view.Turn s (changeWriteBlockedState s blocked) := by
  rw [changeWriteBlockedState]
  split
  · exact .refl view s
  · exact @turn_of_out s _ rfl [.writeBlocked blocked] rfl (by simp [Effect.isSiAnswer])

theorem turn_sendCloseStanza : view.Turn s (sendCloseStanza s) := by
  rw [sendCloseStanza]
  split
  case h_1 iq _ =>
    exact @turn_of_out s _ rfl [.acknowledge (.close iq), .close] rfl (by simp [Effect.isSiAnswer])
  case h_2 => exact turn_emit s (by simp [Effect.isSiAnswer])

theorem sendCloseStanza_state : (sendCloseStanza s).state = s.state := by
  rw [sendCloseStanza]
  split
  · rfl
  · rfl

theorem turn_sendData (str : Bytes) (len : ℕ) :
    view.Turn s (sendData s str len).1 := by
  refine sendDataLoop_inv (I := fun s' _ => view.Turn s s') ?_ windowSize (.refl view s)
  intro s' sent h _ _
  refine h.trans (@turn_of_out s' _ rfl [.data s'.nextStanza s'.seq (encode _)] rfl ?_)
  simp [Effect.isSiAnswer]

theorem turn_send (str : Bytes) : view.Turn s (send s str).1 := by
  rcases send_cases s str with ⟨-, h⟩ | ⟨-, buffer, -, h⟩ | ⟨-, -, -, -, h⟩ | ⟨-, -, -, h⟩
  · rw [h]
    exact .refl view s
  · rw [h]
    exact turn_of_eq rfl rfl
  · rw [h]
    have hkept : view.Turn (sendData s str str.length).1 { (sendData s str str.length).1 with
        writeBuffer := some (str.drop (sendData s str str.length).2) } := turn_of_eq rfl rfl
    exact ((turn_sendData s str str.length).trans hkept).trans (turn_changeWriteBlockedState _ true)
  · rw [h]
    exact turn_sendData s str str.length

end

/-! ### Closing -/

/-- Declining the stream is the answer. -/
theorem turn_decline (h : s.state = .localPending) (error : Option GError) :
    view.Turn s (decline s error) := by
  have hopen : (emit s [.siDecline (error.getD ⟨.forbidden, some "Offer Declined"⟩)]).state ≠
      .closed := by
    rw [emit, h]
    decide
  rw [decline, setState, if_neg hopen]
  refine .answer h (show BytestreamState.closed ≠ .localPending by decide) ?_ id
  exact @siAnswers_of_out s _ [.siDecline _, .stateChanged .closed] (List.append_assoc _ _ _)

section

variable (s)

theorem turn_answerAll {answer : ℕ → Effect}
    (hanswer : ∀ id, (answer id).isSiAnswer = false) : view.Turn s (answerAll s answer) := by
  refine @turn_of_out s _ rfl (s.receivedStanzasNotAcked.reverse.map answer) rfl ?_
  intro e he
  obtain ⟨id, -, rfl⟩ := List.mem_map.mp he
  exact hanswer id

/-- A close while the request is pending declines it. -/
theorem turn_close (error : Option GError) : view.Turn s (close s error) := by
  rw [close]
  split
  · exact .refl view s
  have hanswered := @turn_answerAll s (fun id => .iqError (.data id) ⟨.itemNotFound, none⟩)
    fun _ => rfl
  dsimp only
  generalize hs₁ : answerAll s _ = s₁ at hanswered
  split
  case isTrue hpending => exact hanswered.trans (turn_decline hpending error)
  case isFalse hpending =>
    split
    · exact hanswered.trans (turn_setState hpending (by decide))
    · have hclosing : (sendCloseStanza s₁).state ≠ .localPending := by
        rw [sendCloseStanza_state]
        exact hpending
      exact (hanswered.trans (turn_sendCloseStanza s₁)).trans (turn_setState hclosing (by decide))

theorem turn_flushWriteBuffer (buffer : Bytes) :
    view.Turn s (flushWriteBuffer s buffer) := by
  have hsent := turn_sendData s buffer (buffer.length % guintSize)
  have hsame := (sendData_same s buffer (buffer.length % guintSize)).state
  have hempty := hsent.trans (@turn_of_eq _ { (sendData s buffer (buffer.length % guintSize)).1 with
    writeBuffer := none } rfl rfl)
  have hunblocked := hempty.trans (turn_changeWriteBlockedState _ false)
  rcases flushWriteBuffer_cases s buffer with ⟨-, -, h⟩ | ⟨-, hclosing, h⟩ | ⟨-, h⟩
  · rw [h]
    exact hunblocked
  · rw [h]
    refine (hunblocked.trans (turn_sendCloseStanza _)).trans (turn_setState ?_ (by decide))
    rw [sendCloseStanza_state, (changeWriteBlockedState_window _ _).2.2.1, hsame, hclosing]
    decide
  · rw [h]
    exact hsent.trans (turn_of_eq rfl rfl)

theorem turn_iqReplyCb (stanza : ℕ) (acked : Bool) :
    view.Turn s (iqReplyCb s stanza acked) := by
  have hremoved : view.Turn s (removeSent s stanza) := turn_of_eq rfl rfl
  cases acked with
  | true =>
    rcases iqReplyCb_acked s stanza with ⟨-, h⟩ | ⟨buffer, -, h⟩
    · rw [h]
      exact hremoved
    · rw [h]
      exact hremoved.trans (turn_flushWriteBuffer _ buffer)
  | false => exact hremoved.trans (turn_close _ none)

/-- A stream that goes declines what it has not answered. -/
theorem turn_dispose : view.Turn s (dispose s) := by
  rw [dispose]
  split
  · exact .refl view s
  have hgone : view.Turn s { s with disposeHasRun := true } := turn_of_eq rfl rfl
  have hclosed : view.Turn s (if s.state ≠ .closed then close { s with disposeHasRun := true } none
      else { s with disposeHasRun := true }) := by
    split
    · exact hgone.trans (turn_close _ none)
    · exact hgone
  dsimp only
  generalize (if s.state ≠ .closed then _ else _) = s₁ at hclosed ⊢
  split
  case h_1 iq _ =>
    exact hclosed.trans
      (@turn_of_out s₁ _ rfl [.acknowledge (.close iq)] rfl (by simp [Effect.isSiAnswer]))
  case h_2 => exact hclosed

end

/-! ### Events -/

theorem turn_answer (s : State) (isIq : Bool) {effect : Effect}
    (heffect : effect.isSiAnswer = false) : view.Turn s (answer s isIq effect) := by
  rw [answer]
  split
  · exact turn_emit s (by simpa using heffect)
  · exact .refl view s

theorem turn_receive (s : State) (id : ℕ) (content : Text) (isIq : Bool) :
    view.Turn s (receive s id content isIq) := by
  rw [receive]
  split
  · exact turn_answer s isIq rfl
  dsimp only
  split
  · split
    · exact (turn_answer s isIq rfl).trans (turn_close _ none)
    · exact turn_of_eq rfl rfl
  · exact (turn_emit s (by simp [Effect.isSiAnswer])).trans (turn_answer _ isIq rfl)

theorem turn_blockReading (s : State) (block : Bool) : view.Turn s (blockReading s block) := by
  rw [blockReading]
  split
  · exact .refl view s
  have hflag : view.Turn s { s with readBlocked := block } := turn_of_eq rfl rfl
  dsimp only
  split
  case h_1 buffer _ _ =>
    have hhanded : view.Turn { s with readBlocked := false }
        (emit { s with readBlocked := false, readBuffer := none } [.dataReceived buffer]) :=
      @turn_of_out _ _ rfl [.dataReceived buffer] rfl (by simp [Effect.isSiAnswer])
    exact (hflag.trans hhanded).trans (turn_answerAll _ fun _ => rfl)
  case h_2 => exact hflag

/-- Accepting the stream is the answer, if the stanza can be sent. -/
theorem turn_accept (s : State) (sent : Bool) : view.Turn s (accept s sent) := by
  rw [accept]
  split
  · exact .refl view s
  case isFalse hpending =>
    have hpending : s.state = .localPending := not_not.mp hpending
    split
    · rw [setState, if_neg (by rw [emit, hpending]; decide)]
      refine .answer hpending (show BytestreamState.accepted ≠ .localPending by decide) ?_ id
      exact @siAnswers_of_out s _ [.siAccept, .stateChanged .accepted] (List.append_assoc _ _ _)
    · exact .refl view s

/-- Opening an accepted stream is no answer. -/
theorem turn_openReceived (haccepted : s.state = .accepted) (blockSize : Option ℕ) :
    view.Turn s (openReceived s blockSize) := by
  have hopened : ∀ t : State, t.state = s.state → view.Turn t (setState t .opened) := by
    intro t ht
    refine turn_setState ?_ (by decide)
    rw [ht, haccepted]
    decide
  have hsized : ∀ blockSize, view.Turn s { s with blockSize := blockSize } := fun _ =>
    turn_of_eq rfl rfl
  dsimp only [openReceived]
  split
  · split
    · exact (hsized _).trans (hopened _ rfl)
    · exact hopened s rfl
  · exact hopened s rfl

/-- **A step of an in-band stream is a turn.**  No reply to an `open` is expected as long
as the stream is pending. -/
theorem turn_openStep {e : Event} (hinits : s.state = .localPending → s.initsPending = 0)
    (hstep : openStep s e = some s') : view.Turn s s' := by
  rcases openStep_does hstep with ⟨blockSize, rfl, rfl⟩ | ⟨hother, hdoes⟩
  · rw [handleIbbOpenIq]
    split
    · exact .refl view s
    case isFalse haccepted => exact turn_openReceived (not_not.mp haccepted) blockSize
  cases hdoes with
  | openReceived blockSize => exact absurd rfl (hother blockSize)
  | traffic h =>
    cases h with
    | send str => exact turn_send s str
    | acked stanza => exact turn_iqReplyCb s stanza true
    | refused stanza => exact turn_iqReplyCb s stanza false
    | close error => exact turn_close s error
    | closeReceived iq =>
      have hheard : view.Turn s { s with closeIqToAck := some iq } := turn_of_eq rfl rfl
      exact hheard.trans (turn_close _ none)
    | receive id content isIq => exact turn_receive s id content isIq
    | blockReading block => exact turn_blockReading s block
  | initiate sent =>
    rw [initiate]
    split
    · exact .refl view s
    split
    · exact @turn_of_out s _ rfl [.open_ s.blockSize] rfl (by simp [Effect.isSiAnswer])
    · exact .refl view s
  | initReply success hpending =>
    have hanswered : view.Turn s { s with initsPending := s.initsPending - 1 } :=
      turn_of_eq rfl rfl
    have hnot : ({ s with initsPending := s.initsPending - 1 } : State).state ≠ .localPending :=
      fun h => hpending.ne' (hinits h)
    refine hanswered.trans (turn_setState hnot ?_)
    cases success with
    | true => exact BytestreamState.noConfusion
    | false => exact BytestreamState.noConfusion
  | accept sent => exact turn_accept s sent
  | dispose => exact turn_dispose s

end

end Ibb

/-! ## SOCKS5 bytestreams -/

namespace Socks5

open Base64

/-- The stream initiation is answered. -/
def Effect.isSiAnswer : Effect → Bool
  | .siAccept | .siDecline _ => true
  | _ => false

/-- How often the stream initiation was answered. -/
def siAnswers (s : State) : ℕ := s.out.countP Effect.isSiAnswer

/-- The stream was used without having been accepted, and is not pending any more. -/
structure Overtaken (s : State) : Prop where
  used : ∃ e ∈ s.out, e.isUse = true
  state : s.bytestreamState ≠ .localPending ∧ s.bytestreamState ≠ .accepted

/-- What is seen of the request of a stream. -/
def view : View State where
  waiting s := s.bytestreamState = .localPending
  answers := siAnswers
  lost := Overtaken

section

variable {s s' : State}

theorem siAnswers_of_out {effects : List Effect} (hout : s'.out = s.out ++ effects) :
    siAnswers s' = siAnswers s + effects.countP Effect.isSiAnswer := by
  rw [siAnswers, hout, List.countP_append]
  rfl

/-- A stream that was overtaken stays so. -/
theorem Overtaken.of_out (h : Overtaken s) {effects : List Effect}
    (hout : s'.out = s.out ++ effects)
    (hstate : s'.bytestreamState ≠ .localPending ∧ s'.bytestreamState ≠ .accepted) :
    Overtaken s' := by
  obtain ⟨e, he, huse⟩ := h.used
  refine ⟨⟨e, ?_, huse⟩, hstate⟩
  rw [hout]
  exact List.mem_append_left _ he

theorem turn_of_out (hstate : s'.bytestreamState = s.bytestreamState) {effects : List Effect}
    (hout : s'.out = s.out ++ effects) (heffects : ∀ e ∈ effects, e.isSiAnswer = false) :
    view.Turn s s' := by
  have hwaiting : view.waiting s' ↔ view.waiting s := by
    change s'.bytestreamState = .localPending ↔ s.bytestreamState = .localPending
    rw [hstate]
  refine .same hwaiting ?_ fun h => h.of_out hout (by rw [hstate]; exact h.state)
  refine (siAnswers_of_out hout).trans (Nat.add_eq_left.mpr (List.countP_eq_zero.mpr ?_))
  intro e he
  rw [heffects e he]
  exact Bool.false_ne_true

/-- What is not seen of the request has changed. -/
theorem turn_of_eq (hstate : s'.bytestreamState = s.bytestreamState) (hout : s'.out = s.out) :
    view.Turn s s' :=
  @turn_of_out s s' hstate [] (hout.trans (List.append_nil _).symm) nofun

theorem turn_emit {effect : Effect} (heffect : effect.isSiAnswer = false) (s : State) :
    view.Turn s (emit effect s) :=
  @turn_of_out s _ rfl [effect] rfl (by simpa using heffect)

theorem turn_setState (h : s.bytestreamState ≠ .localPending) {state : Ibb.BytestreamState}
    (hstate : state ≠ .localPending ∧ state ≠ .accepted) : view.Turn s (setState state s) := by
  rw [setState]
  split
  · exact .refl view s
  · exact .after h hstate.1 (@siAnswers_of_out s _ [.stateChanged state] rfl) fun hlost =>
      @Overtaken.of_out s _ hlost [.stateChanged state] rfl hstate

/-- The stream opens, whether it was accepted or not. -/
theorem turn_opened (s : State) : view.Turn s (setState .opened s) := by
  by_cases h : s.bytestreamState = .localPending
  · have hopens : setState .opened s = emit (.stateChanged .opened)
        { s with bytestreamState := .opened, registered := s.registered && true } := by
      rw [setState, if_neg (by rw [h]; decide)]
      rfl
    have hlost : view.lost (setState .opened s) := by
      rw [hopens]
      exact ⟨⟨.stateChanged .opened, List.mem_append_right _ (List.mem_singleton_self _), rfl⟩,
        Ibb.BytestreamState.noConfusion, Ibb.BytestreamState.noConfusion⟩
    exact ⟨fun hw => absurd h hw, fun _ => .inr (.inr hlost), fun _ => hlost⟩
  · exact turn_setState h ⟨by decide, by decide⟩

theorem turn_blockReceiving (block : Bool) (s : State) : view.Turn s (blockReceiving block s) := by
  rw [blockReceiving]
  split
  · exact turn_of_eq rfl rfl
  · exact @turn_of_out s _ rfl [.transportBlockReceiving block] rfl (by simp [Effect.isSiAnswer])

/-- A stream that was answered may close. -/
theorem turn_bytestreamClosed (h : s.bytestreamState ≠ .localPending) :
    view.Turn s (bytestreamClosed s) := by
  have hdropped : view.Turn s (closeTransport s) := turn_of_eq rfl rfl
  exact hdropped.trans (@turn_setState (closeTransport s) h .closed ⟨by decide, by decide⟩)

theorem turn_changeWriteBlockedState (blocked : Bool) (s : State) :
    view.Turn s (changeWriteBlockedState blocked s) := by
  rw [changeWriteBlockedState]
  split
  · exact .refl view s
  · exact @turn_of_out s _ rfl [.writeBlocked blocked] rfl (by simp [Effect.isSiAnswer])

theorem turn_transportBufferEmptyCb (s : State) : view.Turn s (transportBufferEmptyCb s) := by
  rw [transportBufferEmptyCb]
  split
  case isTrue hclosing =>
    refine turn_bytestreamClosed ?_
    rw [hclosing]
    decide
  case isFalse =>
    split
    · exact turn_changeWriteBlockedState false s
    · exact .refl view s

theorem turn_setTransport (t : Transport) (s : State) : view.Turn s (setTransport t s) := by
  rw [setTransport]
  split
  · exact turn_of_eq rfl rfl
  · exact turn_of_eq rfl rfl

/-! ### Closing -/

/-- Declining the stream is the answer. -/
theorem turn_decline (h : s.bytestreamState = .localPending) (error : Option Ibb.GError) :
    view.Turn s (decline error s) := by
  have hopen : (emit (.siDecline (error.getD ⟨.forbidden, some "Offer Declined"⟩))
      s).bytestreamState ≠ .closed := by
    rw [emit, h]
    decide
  rw [decline, setState, if_neg hopen]
  refine .answer h (show Ibb.BytestreamState.closed ≠ .localPending by decide) ?_ fun hlost => ?_
  · exact @siAnswers_of_out s _ [.siDecline _, .stateChanged .closed] (List.append_assoc _ _ _)
  · exact absurd h hlost.state.1

theorem turn_close (error : Option Ibb.GError) (s : State) : view.Turn s (close error s) := by
  rw [close]
  split
  · exact .refl view s
  split
  case isTrue hpending => exact turn_decline hpending error
  case isFalse hpending =>
    have hclosing := @turn_setState s hpending .closing ⟨by decide, by decide⟩
    dsimp only
    split
    · exact hclosing
    · refine hclosing.trans (turn_bytestreamClosed ?_)
      rw [setState_eq]
      exact Ibb.BytestreamState.noConfusion

theorem turn_startTimer (s : State) : view.Turn s (startTimer s) := by
  rw [startTimer]
  split
  · exact turn_of_eq rfl rfl
  · exact turn_of_eq rfl rfl

theorem turn_tryStreamhost (h : Streamhost) (s : State) : view.Turn s (tryStreamhost h s) := by
  have htrying : view.Turn s { s with socks5State := .targetTryingConnect } := turn_of_eq rfl rfl
  exact ((htrying.trans (turn_setTransport _ _)).trans (turn_startTimer _)).trans (turn_emit rfl _)

theorem turn_streamhostFailed (s : State) : view.Turn s (streamhostFailed s) := by
  have hleft : view.Turn s { closeTransport s with streamhosts := s.streamhosts.tail } :=
    turn_of_eq rfl rfl
  rw [streamhostFailed]
  dsimp only
  split
  · exact hleft.trans (turn_tryStreamhost _ _)
  · rw [noMoreStreamhosts]
    have htold := hleft.trans (@turn_emit .connectionError rfl _)
    split
    · exact htold.trans (turn_of_eq rfl rfl)
    case h_2 iq _ =>
      exact htold.trans (@turn_of_out _ _ rfl
        [.iqError iq ⟨.itemNotFound, some "impossible to connect to any streamhost"⟩] rfl
        (by simp [Effect.isSiAnswer]))

theorem turn_socks5Error (s : State) : view.Turn s (socks5Error s) := by
  have herror : view.Turn s { stopTimer s with socks5State := .error } := turn_of_eq rfl rfl
  rw [socks5Error]
  dsimp only
  split
  · exact herror.trans (turn_streamhostFailed _)
  · exact herror.trans (turn_streamhostFailed _)
  · exact herror.trans (turn_streamhostFailed _)
  · exact herror
  · exact herror
  · exact herror.trans (turn_close none _)

theorem turn_transportDisconnectedCb (s : State) : view.Turn s (transportDisconnectedCb s) := by
  have hstopped : view.Turn s (stopTimer s) := turn_of_eq rfl rfl
  exact hstopped.trans (turn_socks5Error _)

theorem turn_writeToTransport (data : Bytes) (s : State) :
    view.Turn s (writeToTransport data s).1 := by
  have hsent : ∀ transport writes, view.Turn s { emit (.transportSend data) s with
      transport := transport, writes := writes } := fun _ _ =>
    @turn_of_out s _ rfl [.transportSend data] rfl (by simp [Effect.isSiAnswer])
  rw [writeToTransport]
  split
  · exact turn_of_eq rfl rfl
  case h_2 t ht =>
    split
    · exact turn_of_eq rfl rfl
    dsimp only
    split
    · split
      · exact (hsent (some { t with phase := .disconnected }) s.writes.tail).trans
          (turn_transportDisconnectedCb _)
      · exact (hsent s.transport s.writes.tail).trans (turn_transportBufferEmptyCb _)
      · split
        · exact (hsent s.transport s.writes.tail).trans (turn_transportBufferEmptyCb _)
        · exact hsent _ _
    · split
      · exact (hsent s.transport s.writes).trans (turn_transportBufferEmptyCb _)
      · exact hsent s.transport s.writes

/-! ### Receiving -/

theorem turn_targetGotConnectReply (s : State) : view.Turn s (targetGotConnectReply s) := by
  have hconnected : view.Turn s { s with socks5State := .connected } := turn_of_eq rfl rfl
  have hopened := hconnected.trans (turn_opened _)
  rw [targetGotConnectReply]
  dsimp only
  split
  · exact hopened.trans (turn_of_eq rfl rfl)
  case h_2 h _ _ =>
    have hused := hopened.trans (@turn_emit
      (.streamhostUsed (setState .opened { s with
        socks5State := .connected }).msgForAcknowledgeConnection h.jid) rfl _)
    split
    · exact hused.trans (turn_blockReceiving true _)
    · exact hused

theorem turn_initiatorGotConnectReply (s : State) :
    view.Turn s (initiatorGotConnectReply s) := by
  have hsent : view.Turn s { s with socks5State := .initiatorActivationSent } := turn_of_eq rfl rfl
  have hblocked := hsent.trans (turn_blockReceiving true _)
  refine .trans ?_ (turn_emit rfl _)
  exact hblocked.trans (turn_of_eq rfl rfl)

section

variable (sha1Hex : Bytes → Bytes)

theorem turn_sendConnectCommand (s : State) : view.Turn s (sendConnectCommand sha1Hex s) := by
  refine .trans ?_ (turn_startTimer _)
  exact (turn_writeToTransport _ s).trans (turn_of_eq rfl rfl)

theorem turn_sendConnectReply (s : State) : view.Turn s (sendConnectReply sha1Hex s) := by
  have hsent := (turn_writeToTransport (connectMessage 0 (domain sha1Hex false s)) s).trans
    (@turn_of_eq _ { (writeToTransport (connectMessage 0 (domain sha1Hex false s)) s).1 with
      socks5State := .connected } rfl rfl)
  have hblocked := hsent.trans (turn_blockReceiving true _)
  rw [sendConnectReply]
  split
  · exact hblocked.trans (turn_of_eq rfl rfl)
  · exact hblocked.trans (turn_of_eq rfl rfl)

theorem turn_deliver (data : Bytes) (s : State) : view.Turn s (deliver data s) := by
  refine @turn_of_out s _ rfl (data.map .dataReceived) rfl ?_
  intro e he
  obtain ⟨byte, -, rfl⟩ := List.mem_map.mp he
  rfl

theorem turn_follow (v : Verdict) {accept : ℕ → State × ℤ}
    (haccept : ∀ used, view.Turn s (accept used).1) : view.Turn s (follow v s accept).1 := by
  cases v with
  | wait => exact .refl view s
  | refused => exact turn_socks5Error s
  | accepted used => exact haccept used

/-- No message of the negotiation answers the request. -/
theorem turn_handleReceivedData (s : State) (buffer : Bytes) :
    view.Turn s (handleReceivedData sha1Hex s buffer).1 := by
  have hstopped : view.Turn s (stopTimer s) := turn_of_eq rfl rfl
  rw [handleReceivedData]
  split
  · exact turn_follow _ fun used => turn_sendConnectCommand sha1Hex s
  · exact turn_follow _ fun used => turn_sendConnectCommand sha1Hex s
  · exact turn_follow _ fun used => hstopped.trans (turn_targetGotConnectReply _)
  · exact turn_follow _ fun used => hstopped.trans (turn_initiatorGotConnectReply _)
  · exact turn_follow _ fun used => (turn_writeToTransport [5, 0] s).trans (turn_of_eq rfl rfl)
  · refine turn_follow _ fun used => ?_
    split
    · exact turn_sendConnectReply sha1Hex s
    · have hdropped : view.Turn s (closeTransport s) := turn_of_eq rfl rfl
      exact hdropped.trans (turn_socks5Error _)
  · exact turn_deliver buffer s
  · exact .refl view s
  all_goals exact turn_of_eq rfl rfl

/-- By induction on the rounds that are left. -/
theorem turn_readLoop (fuel : ℕ) (s : State) : view.Turn s (readLoop sha1Hex fuel s) := by
  induction fuel generalizing s with
  | zero => exact .refl view s
  | succ fuel ih =>
    rw [readLoop]
    split
    · exact .refl view s
    case h_2 buffer _ =>
      have hround := turn_handleReceivedData sha1Hex s buffer
      have hkept : ∀ rest, view.Turn s
          { (handleReceivedData sha1Hex s buffer).1 with readBuffer := some rest } := fun _ =>
        hround.trans (turn_of_eq rfl rfl)
      dsimp only
      split
      · exact hround
      split
      · exact hround
      · split
        · split
          · exact (hkept _).trans (ih _)
          · exact hkept _
        · split
          · exact (hkept _).trans (ih _)
          · exact hkept _

theorem turn_transportHandler (data : Bytes) (s : State) :
    view.Turn s (transportHandler sha1Hex data s) := by
  rw [transportHandler]
  split
  · exact turn_of_eq rfl rfl
  case h_2 buffer _ =>
    have hread : view.Turn s { s with readBuffer := some (buffer ++ data) } := turn_of_eq rfl rfl
    exact hread.trans (turn_readLoop sha1Hex _ _)

end

/-! ### Setting the stream up -/

theorem turn_transportConnectedCb (s : State) : view.Turn s (transportConnectedCb s) := by
  have hstopped : view.Turn s (stopTimer s) := turn_of_eq rfl rfl
  rw [transportConnectedCb]
  dsimp only
  split
  · exact (hstopped.trans (turn_writeToTransport [5, 1, 0] _)).trans (turn_of_eq rfl rfl)
  · exact hstopped

theorem turn_connectionFailed (h : s.bytestreamState ≠ .localPending) :
    view.Turn s (connectionFailed s) :=
  (@turn_emit .connectionError rfl s).trans
    (@turn_setState (emit .connectionError s) h .closed ⟨by decide, by decide⟩)

theorem turn_socks5ActivationReplyCb (h : s.bytestreamState ≠ .localPending) (success : Bool) :
    view.Turn s (socks5ActivationReplyCb success s) := by
  have hanswered : view.Turn s { s with activationsPending := s.activationsPending - 1 } :=
    turn_of_eq rfl rfl
  rw [socks5ActivationReplyCb]
  dsimp only
  split
  · have hconnected : view.Turn s { s with
        activationsPending := s.activationsPending - 1, socks5State := .connected } :=
      turn_of_eq rfl rfl
    exact (hconnected.trans (turn_opened _)).trans (turn_blockReceiving false _)
  · exact hanswered.trans (@turn_connectionFailed { s with activationsPending := _ } h)

theorem turn_socks5InitReplyCb (h : s.bytestreamState ≠ .localPending)
    (reply : Option (Option Bytes)) (proxies : List Streamhost) :
    view.Turn s (socks5InitReplyCb reply proxies s) := by
  have hanswered : view.Turn s { s with initsPending := s.initsPending - 1 } :=
    turn_of_eq rfl rfl
  have hfailed : ∀ t : State, t.bytestreamState = s.bytestreamState → t.out = s.out →
      view.Turn s (connectionFailed t) := fun t hstate hout =>
    (turn_of_eq hstate hout).trans (turn_connectionFailed (by rw [hstate]; exact h))
  rcases reply with - | - | jid
  · exact hfailed _ rfl rfl
  · exact hfailed _ rfl rfl
  rw [socks5InitReplyCb]
  dsimp only
  split
  · split
    · exact hfailed _ rfl rfl
    · rw [initiatorConnectedToProxy]
      split
      · exact hfailed _ rfl rfl
      · have htrying : view.Turn s { s with
            initsPending := s.initsPending - 1, proxyJid := some jid,
            socks5State := .initiatorTryingConnect } := turn_of_eq rfl rfl
        exact (htrying.trans (turn_setTransport _ _)).trans (turn_emit rfl _)
  · split
    · exact hfailed _ rfl rfl
    · exact (hanswered.trans (turn_opened _)).trans (turn_blockReceiving false _)

theorem turn_sendStreamhosts (ips : List Bytes) (port : ℕ) (proxies : List Streamhost) (s : State) :
    view.Turn s (sendStreamhosts ips port proxies s) := by
  have hsent : view.Turn s { s with
      socks5State := .initiatorOfferSent, initsPending := s.initsPending + 1 } := turn_of_eq rfl rfl
  exact hsent.trans (turn_emit rfl _)

theorem turn_initiate (ips : List Bytes) (port : Option ℕ) (proxies : List Streamhost) (s : State) :
    view.Turn s (initiate ips port proxies s) := by
  rw [initiate]
  split
  · exact .refl view s
  split
  · exact turn_sendStreamhosts [] 0 proxies s
  split
  · exact turn_of_eq rfl rfl
  · have hlistening : view.Turn s { s with listener := true, listening := port.isSome } :=
      turn_of_eq rfl rfl
    cases port with
    | none => exact hlistening.trans (turn_sendStreamhosts _ _ _ _)
    | some port => exact hlistening.trans (turn_sendStreamhosts _ _ _ _)

theorem turn_queryReceived (iq : ℕ) (nodes : List StreamhostNode) (s : State) :
    view.Turn s (queryReceived iq nodes s) := by
  rw [queryReceived, addStreamhosts_eq, socks5Connect]
  dsimp only
  split
  · refine .trans ?_ (turn_tryStreamhost _ _)
    exact turn_of_eq rfl rfl
  · refine .trans ?_ (turn_socks5Error _)
    exact turn_of_eq rfl rfl

/-! ### The user -/

theorem turn_send (str : Bytes) (s : State) : view.Turn s (send str s).1 := by
  have hwritten := turn_writeToTransport str s
  rw [send]
  split
  · exact .refl view s
  dsimp only
  split
  · exact hwritten.trans (turn_close none _)
  · split
    · exact hwritten
    · dsimp only
      split
      · exact hwritten
      · exact hwritten.trans (turn_changeWriteBlockedState true _)

/-- Accepting the stream is the answer, if the stanza can be sent. -/
theorem turn_accept (sent : Bool) (s : State) : view.Turn s (accept sent s) := by
  rw [accept]
  split
  · exact .refl view s
  case isFalse hpending =>
    have hpending : s.bytestreamState = .localPending := not_not.mp hpending
    split
    · rw [setState, if_neg (by rw [emit, hpending]; decide)]
      refine .answer hpending (show Ibb.BytestreamState.accepted ≠ .localPending by decide) ?_
        fun hlost => absurd hpending hlost.state.1
      exact @siAnswers_of_out s _ [.siAccept, .stateChanged .accepted] (List.append_assoc _ _ _)
    · exact .refl view s

theorem turn_blockReading (block : Bool) (s : State) : view.Turn s (blockReading block s) := by
  have hflag : view.Turn s { s with readBlocked := block } := turn_of_eq rfl rfl
  rw [blockReading]
  split
  · exact .refl view s
  dsimp only
  split
  · exact hflag.trans (turn_blockReceiving block _)
  · exact hflag

theorem turn_dispose (s : State) : view.Turn s (dispose s) := by
  have hstopped : view.Turn s (stopTimer { s with disposeHasRun := true }) := turn_of_eq rfl rfl
  have hclosed : view.Turn s (if s.bytestreamState ≠ .closed then
      close none (stopTimer { s with disposeHasRun := true }) else
      stopTimer { s with disposeHasRun := true }) := by
    split
    · exact hstopped.trans (turn_close none _)
    · exact hstopped
  exact hclosed.trans (turn_of_eq rfl rfl)

/-- **A step of a SOCKS5 stream is a turn.**  No reply is expected as long as the stream is
pending. -/
theorem turn_step {sha1Hex : Bytes → Bytes} {e : Event}
    (hpassive : s.bytestreamState = .localPending → s.initsPending = 0 ∧ s.activationsPending = 0)
    (hstep : step sha1Hex s e = some s') : view.Turn s s' := by
  obtain ⟨-, -, henabled, rfl⟩ := step_live hstep
  have hmap : ∀ f : Transport → Transport, view.Turn s { s with transport := s.transport.map f } :=
    fun _ => turn_of_eq rfl rfl
  cases e with
  | initiate ips port proxies => exact turn_initiate ips port proxies s
  | accept sent => exact turn_accept sent s
  | send str => exact turn_send str s
  | close error => exact turn_close error s
  | blockReading block => exact turn_blockReading block s
  | query iq nodes => exact turn_queryReceived iq nodes s
  | initReply reply proxies =>
    have hnot : s.bytestreamState ≠ .localPending := by
      intro h
      rw [enabled, (hpassive h).1] at henabled
      cases henabled
    exact turn_socks5InitReplyCb hnot reply proxies
  | activationReply success =>
    have hnot : s.bytestreamState ≠ .localPending := by
      intro h
      rw [enabled, (hpassive h).2] at henabled
      cases henabled
    exact turn_socks5ActivationReplyCb hnot success
  | newConnection =>
    have hawaits : view.Turn s { s with socks5State := .initiatorAwaitingAuthRequest } :=
      turn_of_eq rfl rfl
    exact hawaits.trans (turn_setTransport _ _)
  | transportConnected => exact (hmap _).trans (turn_transportConnectedCb _)
  | transportDisconnected => exact (hmap _).trans (turn_transportDisconnectedCb _)
  | transportBufferEmpty => exact (hmap _).trans (turn_transportBufferEmptyCb _)
  | received data => exact turn_transportHandler sha1Hex data s
  | timeout => exact turn_socks5Error s
  | dispose => exact turn_dispose s

end

end Socks5
