import Inetstack.Tcp.Established.Endpoint
import Inetstack.Laws.Tcp.Established.Sender

/-!
# What an event can do to an endpoint

Two inversion lemmas, one for each side of the connection. `ReceiveStep` says what an event does to
the receive side and to what the user has read; `SendStep` says what it does to the send side, to the
segments transmitted, to the background task and to the send part of the history. Every invariant of
runs is proved by cases on one of the two.
-/

namespace Inetstack.Tcp

open Machine (bind_eq_ok)

/-- The states after the peer's FIN are those in which its side has finished. -/
theorem State.afterPeerFin_eq (state : State) :
    state.afterPeerFin = decide (state.peerSide = .finished) := by
  cases state <;> rfl

namespace Endpoint

variable {σ : Type}

/-- **What an event can do to the receive side.** -/
inductive ReceiveStep [CongestionControl σ] (e : Endpoint σ) : Event → Endpoint σ → Prop
  | untouched {event : Event} {e' : Endpoint σ} (side : e'.cb.receiveSide = e.cb.receiveSide)
      (delivered : e'.history.delivered = e.history.delivered)
      (peerFin : e'.history.peerFin = e.history.peerFin ∨ e'.history.peerFin =
        (e.history.peerFin || decide (e'.cb.receiveSide.peer = .finished))) :
      ReceiveStep e event e'
  | read {env : Env} {e' : Endpoint σ} {buf : Buffer} {receiver : Receiver}
      (popped : e.cb.receiveSide.receiver.pop = some (buf, receiver))
      (side : e'.cb.receiveSide = { e.cb.receiveSide with receiver := receiver })
      (delivered : e'.history.delivered = e.history.delivered ++ [buf])
      (peerFin : e'.history.peerFin =
        (e.history.peerFin || decide (e'.cb.receiveSide.peer = .finished))) :
      ReceiveStep e (.call .pollRecv env) e'
  | received {header : TcpHeader} {data : Buffer} {env : Env} {e' : Endpoint σ}
      (side : e.cb.receiveSide.Received e.cb.goesOn header data e'.cb.receiveSide)
      (delivered : e'.history.delivered = e.history.delivered)
      (peerFin : e'.history.peerFin =
        (e.history.peerFin || decide (e'.cb.receiveSide.peer = .finished))) :
      ReceiveStep e (.receive header data env) e'

/-- Once the peer's FIN is recorded, it stays recorded. -/
theorem after_peerFin (e : Endpoint σ) (first : Bool) (cb : ControlBlock σ) (task : SenderTask) :
    (e.after first cb task).history.peerFin =
      (e.history.peerFin || decide (cb.receiveSide.peer = .finished)) := by
  have h := State.afterPeerFin_eq cb.state
  simp only [after, record, h]
  rfl

/-- A call that keeps the receive side and is recorded leaves it untouched. -/
theorem ReceiveStep.of_after [CongestionControl σ] {e e' : Endpoint σ} {event : Event} {first : Bool}
    {cb : ControlBlock σ} {task : SenderTask} (eq : e' = e.after first cb task)
    (side : cb.receiveSide = e.cb.receiveSide) : ReceiveStep e event e' := by
  subst eq
  exact .untouched side rfl (.inr (after_peerFin e first cb task))

/-- The history records a text segment that has just gone out. -/
theorem after_history_sentText {e : Endpoint σ} {cb : ControlBlock σ} (task : SenderTask)
    {segment : TcpSegment} {sender : Sender} (sent : e.cb.SentText segment sender cb)
    (text : segment.carriesText = true) :
    (e.after true cb task).history.firstTransmissions =
        e.history.firstTransmissions ++ [segment] ∧
      (e.after true cb task).history.used =
        e.history.used + (sender.sendNext - e.cb.sender.sendNext).toNat := by
  constructor
  · simp only [after, record, sent.transmitted, List.drop_left, List.filter_cons, text, if_true,
      List.filter_nil]
  · simp only [after, record, sent.sender_eq]

/-- A call that keeps SND.NXT and transmits no text for the first time leaves the history of the
send side alone. -/
theorem after_history_quiet (e : Endpoint σ) (first : Bool) (cb : ControlBlock σ) (task : SenderTask)
    (next : cb.sender.sendNext = e.cb.sender.sendNext)
    (none : first = false ∨ cb.rt.transmitted = e.cb.rt.transmitted) :
    (e.after first cb task).history.firstTransmissions = e.history.firstTransmissions ∧
      (e.after first cb task).history.used = e.history.used := by
  constructor
  · rcases none with rfl | same
    · simp only [after, record, Bool.false_eq_true, if_false, List.append_nil]
    · simp only [after, record, same, List.drop_length, List.filter_nil, ite_self, List.append_nil]
  · simp only [after, record, next, sub_self, SeqNumber.toNat_zero, Nat.add_zero]

/-- The send part of the history is the same. -/
structure SameSendHistory (e e' : Endpoint σ) : Prop where
  accepted : e'.history.accepted = e.history.accepted
  firstTransmissions : e'.history.firstTransmissions = e.history.firstTransmissions
  used : e'.history.used = e.history.used

/-- A first transmission of a piece of the stream has been recorded. -/
structure Transmitted (e : Endpoint σ) (segment : TcpSegment) (buf : Buffer) (e' : Endpoint σ) :
    Prop where
  firstTransmissions :
    e'.history.firstTransmissions = e.history.firstTransmissions ++ [segment]
  used : e'.history.used = e.history.used + (buf.seqLength : SeqNumber).toNat

/-- The window of the peer, the segment it was taken from, and what the peer has acknowledged, are the
same. -/
structure SameWindow (e e' : Endpoint σ) : Prop where
  sendUnacked : e'.cb.sender.sendUnacked = e.cb.sender.sendUnacked
  sendWindow : e'.cb.sender.sendWindow = e.cb.sender.sendWindow
  lastUpdate : e'.cb.sender.lastUpdate = e.cb.sender.lastUpdate

/-- **What an event can do to the send side.** -/
inductive SendStep [CongestionControl σ] (e : Endpoint σ) : Event → Endpoint σ → Prop
  /-- Nothing but pure ACKs; the task stays where it is, goes back to `'top`, or ends. -/
  | quiet {event : Event} {e' : Endpoint σ} (acks : e.cb.AcksOnly e'.cb)
      (task : e'.task = e.task ∨ e'.task = .top ∨ ∃ fail, e'.task = .terminated fail)
      (history : SameSendHistory e e')
      (window : SameWindow e e' ∨ ∃ header data env, event = .receive header data env ∧
        e'.task = e.task ∧ e.cb.receive env header data = .ok e'.cb) : SendStep e event e'
  /-- An iteration of the background sender found something to send. -/
  | waits {env : Env} {e' : Endpoint σ} (acks : e.cb.AcksOnly e'.cb)
      (atTop : e.task = .top)
      (unsent : e.cb.sender.sendNext ≠ e.cb.sender.unsentSeqNo)
      (task : e'.task = .awaitProbe e.cb.sender.sendNext ∧ e.cb.sender.sendWindow = 0 ∨
        ∃ effectiveCwnd front rest, e'.task =
            .awaitSend e.cb.sender.sendNext e.cb.sender.sendWindow effectiveCwnd
              e.cb.sender.sentData ∧
          e.cb.sender.unsentQueue = front :: rest ∧
          e.cb.sender.sentData + UInt32.ofNat front.length < e.cb.sender.sendWindow)
      (history : SameSendHistory e e') (window : SameWindow e e') :
      SendStep e (.call (.sender .iterate) env) e'
  /-- `send` put the buffer on the wire. -/
  | sent {buf : Buffer} {env : Env} {e' : Endpoint σ} {segment : TcpSegment}
      (notDone : e.cb.userIsDoneSending = false) (small : buf.length < 2 ^ 32)
      (atOnce : e.cb.sendsAtOnce env buf = true)
      (text : segment.Text e.cb.sender.sendNext buf.isEmpty buf)
      (sent : e.cb.SentText segment (ControlBlock.senderAfterSend e.cb.sender buf env.now) e'.cb)
      (task : e'.task = e.task)
      (accepted : e'.history.accepted = e.history.accepted ++ [buf])
      (transmitted : Transmitted e segment buf e') : SendStep e (.call (.send buf) env) e'
  /-- `send` queued the buffer. -/
  | queued {buf : Buffer} {env : Env} {e' : Endpoint σ}
      (notDone : e.cb.userIsDoneSending = false) (small : buf.length < 2 ^ 32)
      (below : e.cb.sender.unsentQueue.length ≤ UNSENT_QUEUE_CUTOFF)
      (side : e'.cb.sendSide = { e.cb.sendSide with
        unsentQueue := e.cb.sender.unsentQueue ++ [buf]
        unsentSeqNo := e.cb.sender.unsentSeqNo + buf.length })
      (same : e'.cb.rt = e.cb.rt) (task : e'.task = e.task) (window : SameWindow e e')
      (accepted : e'.history.accepted = e.history.accepted ++ [buf])
      (first : e'.history.firstTransmissions = e.history.firstTransmissions)
      (used : e'.history.used = e.history.used) : SendStep e (.call (.send buf) env) e'
  /-- `close` put the FIN on the wire. -/
  | sentFin {env : Env} {e' : Endpoint σ} {cb : ControlBlock σ} {segment : TcpSegment}
      (notDone : e.cb.userIsDoneSending = false)
      (atOnce : e.cb.sendsAtOnce env [] = true)
      (text : segment.Text e.cb.sender.sendNext true [])
      (sent : e.cb.SentText segment (ControlBlock.senderAfterSend e.cb.sender [] env.now) cb)
      (closed : e'.cb = { cb with userIsDoneSending := true }) (task : e'.task = e.task)
      (accepted : e'.history.accepted = e.history.accepted)
      (transmitted : Transmitted e segment [] e') : SendStep e (.call .close env) e'
  /-- `close` queued the end-of-send marker. -/
  | queuedFin {env : Env} {e' : Endpoint σ}
      (notDone : e.cb.userIsDoneSending = false)
      (notAtOnce : e.cb.sendsAtOnce env [] = false)
      (side : e'.cb.sendSide =
        { e.cb.sendSide with
          unsentQueue := e.cb.sender.unsentQueue ++ [[]]
          userIsDoneSending := true })
      (same : e'.cb.rt = e.cb.rt) (task : e'.task = e.task) (window : SameWindow e e')
      (history : SameSendHistory e e') : SendStep e (.call .close env) e'
  /-- The background sender probed a zero window with the first byte of the queue. -/
  | probed {env : Env} {e' : Endpoint σ} {sendNext : SeqNumber} {mac : MacAddress} {b : UInt8}
      {bs : Buffer} {rest : List Buffer} {segment : TcpSegment}
      (waiting : e.task = .awaitProbe sendNext)
      (queue : e.cb.sender.unsentQueue = (b :: bs) :: rest)
      (text : segment.Text sendNext false [b])
      (sent : e.cb.SentText segment
        (ControlBlock.senderAfterPop e.cb.sender [b] (bs :: rest) env.now) e'.cb)
      (task : e'.task = .probing sendNext [b] mac 1)
      (accepted : e'.history.accepted = e.history.accepted)
      (transmitted : Transmitted e segment [b] e') :
      SendStep e (.call (.sender (.arpReply (.ok mac))) env) e'
  /-- The background sender repeated its probe. -/
  | probedAgain {env : Env} {e' : Endpoint σ} {sendNext : SeqNumber} {buf : Buffer}
      {mac : MacAddress} {timeout : Duration} {segment : TcpSegment}
      (probing : e.task = .probing sendNext buf mac timeout)
      (text : segment.Text sendNext false buf)
      (sent : e.cb.SentText segment e.cb.sender e'.cb)
      (task : e'.task = .probing sendNext buf mac (timeout * 2))
      (history : SameSendHistory e e') : SendStep e (.call (.sender .probeTimeout) env) e'
  /-- The background sender sent what fits of the first buffer of the queue. -/
  | popped {env : Env} {e' : Endpoint σ} {sendNext : SeqNumber}
      {winSz effectiveCwnd sentData : UInt32} {mac : MacAddress} {front : Buffer}
      {rest : List Buffer} {n : Nat} {segment : TcpSegment}
      (waiting : e.task = .awaitSend sendNext winSz effectiveCwnd sentData)
      (queue : e.cb.sender.unsentQueue = front :: rest)
      (room : n = e.cb.maxSize winSz effectiveCwnd sentData)
      (text : segment.Text sendNext (front.take n).isEmpty (front.take n))
      (sent : e.cb.SentText segment
        (ControlBlock.senderAfterPop e.cb.sender (front.take n)
          (ControlBlock.popLeft n front rest) env.now) e'.cb)
      (task : e'.task = .top)
      (accepted : e'.history.accepted = e.history.accepted)
      (transmitted : Transmitted e segment (front.take n) e') :
      SendStep e (.call (.sender (.arpReply (.ok mac))) env) e'

theorem SameSendHistory.refl (e : Endpoint σ) : SameSendHistory e e := ⟨rfl, rfl, rfl⟩

/-- A call that transmits at most pure ACKs, and is not recorded as a first transmission. -/
theorem SendStep.of_acksOnly [CongestionControl σ] {e e' : Endpoint σ} {event : Event}
    {cb : ControlBlock σ}
    (eq : e' = e.after false cb e.task) (acks : e.cb.AcksOnly cb)
    (window : cb.sender = e.cb.sender ∨ ∃ header data env, event = .receive header data env ∧
      e.cb.receive env header data = .ok cb) : SendStep e event e' := by
  subst eq
  have next := acks.sendNext
  obtain ⟨first, used⟩ := after_history_quiet e false cb e.task next (.inl rfl)
  refine .quiet acks (.inl rfl) ⟨rfl, first, used⟩ ?_
  rcases window with same | ⟨header, data, env, rfl, ran⟩
  · exact .inl ⟨congrArg Sender.sendUnacked same, congrArg Sender.sendWindow same,
      congrArg Sender.lastUpdate same⟩
  · exact .inr ⟨header, data, env, rfl, rfl, ran⟩

/-- The number of sequence numbers a text segment uses, as the history records it. -/
theorem transmitted_of_sentText {e : Endpoint σ} {cb : ControlBlock σ} (task : SenderTask)
    {segment : TcpSegment} {sender : Sender} {buf : Buffer} {seq : SeqNumber}
    (sent : e.cb.SentText segment sender cb) (text : segment.Text seq buf.isEmpty buf)
    (next : sender.sendNext = e.cb.sender.sendNext + buf.seqLength) :
    Transmitted e segment buf (e.after true cb task) := by
  have carries : segment.carriesText = true := by
    simp only [TcpSegment.carriesText, text.data, text.fin, Bool.or_eq_true, Bool.not_eq_true']
    cases buf.isEmpty <;> simp
  obtain ⟨first, used⟩ := after_history_sentText task sent carries
  refine ⟨first, ?_⟩
  rw [used, next, add_sub_cancel_left]

variable [CongestionControl σ]

/-- Sending leaves the receive side alone. -/
theorem send_receiveSide {cb cb' : ControlBlock σ} {env : Env} {buf : Buffer}
    {result : Except Fail Unit} (ran : cb.send env buf = .ok (result, cb')) :
    cb'.receiveSide = cb.receiveSide := by
  rcases ControlBlock.send_cases ran with
    ⟨fail, cc, -, rfl, -⟩ | ⟨-, -, -, ⟨-, segment, -, sent⟩ | ⟨-, -, cc, rfl⟩⟩
  · rfl
  · exact sent.receiveSide
  · rfl

/-- So does the background sender. -/
theorem senderStep_receiveStep {e e' : Endpoint σ} {env : Env} {poll : SenderPoll}
    (stepped : e.senderStep env poll = .ok e') : ReceiveStep e (.call (.sender poll) env) e' := by
  unfold senderStep at stepped
  split at stepped
  · obtain ⟨⟨task, cb⟩, ran, eq⟩ := bind_eq_ok.mp stepped
    obtain ⟨cc, rfl, -⟩ := ControlBlock.senderIterate_cases ran
    exact .of_after (Except.ok.inj eq).symm rfl
  · obtain ⟨⟨task, cb⟩, ran, eq⟩ := bind_eq_ok.mp stepped
    obtain ⟨_, _, _, _, _, segment, _, sent⟩ := ControlBlock.senderProbe_sentText ran
    exact .of_after (Except.ok.inj eq).symm sent.receiveSide
  · obtain ⟨⟨task, cb⟩, ran, eq⟩ := bind_eq_ok.mp stepped
    obtain ⟨_, _, _, _, segment, _, sent⟩ := ControlBlock.senderTransmit_sentText ran
    exact .of_after (Except.ok.inj eq).symm sent.receiveSide
  · cases stepped
    exact .untouched rfl rfl (.inl rfl)
  · cases stepped
    exact .untouched rfl rfl (.inl rfl)
  · obtain ⟨⟨task, cb⟩, ran, eq⟩ := bind_eq_ok.mp stepped
    obtain ⟨_, segment, _, sent⟩ := ControlBlock.senderProbeAgain_sentText ran
    exact .of_after (Except.ok.inj eq).symm sent.receiveSide
  · cases stepped
    exact .untouched rfl rfl (.inl rfl)
  · cases stepped
    exact .untouched rfl rfl (.inl rfl)

/-- **Every event does to the receive side what `ReceiveStep` says.** -/
theorem step_receiveStep {e e' : Endpoint σ} {event : Event} (stepped : e.step event = .ok e') :
    ReceiveStep e event e' := by
  cases event with
  | receive header data env =>
    obtain ⟨cb, ran, eq⟩ := bind_eq_ok.mp stepped
    cases eq
    exact .received (ControlBlock.receive_received ran) rfl (after_peerFin e false cb e.task)
  | call c env =>
    cases c with
    | send buf =>
      obtain ⟨⟨result, cb⟩, ran, eq⟩ := bind_eq_ok.mp stepped
      have side := send_receiveSide ran
      cases result with
      | ok u =>
        cases eq
        exact .untouched side rfl (.inr (after_peerFin e true cb e.task))
      | error fail => exact .of_after (Except.ok.inj eq).symm side
    | close =>
      obtain ⟨cb, ran, eq⟩ := bind_eq_ok.mp stepped
      refine .of_after (Except.ok.inj eq).symm ?_
      rcases ControlBlock.close_cases ran with ⟨-, rfl⟩ | ⟨cb₁, sent, rfl⟩
      · rfl
      · have side := send_receiveSide sent
        exact side
    | pollRecv =>
      simp only [step, call, ControlBlock.pollRecv] at stepped
      cases popped : e.cb.receiver.pop with
      | none =>
        simp only [popped, Except.ok.injEq] at stepped
        subst stepped
        exact .untouched rfl rfl (.inl rfl)
      | some read =>
        obtain ⟨buf, receiver⟩ := read
        simp only [popped, Except.ok.injEq] at stepped
        subst stepped
        exact .read popped rfl rfl (after_peerFin e false _ e.task)
    | sender poll => exact senderStep_receiveStep stepped
    | acknowledger =>
      simp only [step, call] at stepped
      split at stepped
      · cases stepped
        exact .untouched rfl rfl (.inl rfl)
      · obtain ⟨cb, ran, eq⟩ := bind_eq_ok.mp stepped
        exact .of_after (Except.ok.inj eq).symm (ControlBlock.sendAck_receiveSide ran)
    | retransmitter =>
      simp only [step, call] at stepped
      split at stepped
      · cases stepped
        exact .untouched rfl rfl (.inl rfl)
      · exact .of_after (Except.ok.inj stepped).symm rfl

/-- What a poll of the background sender can do to the send side. -/
theorem senderStep_sendStep {e e' : Endpoint σ} {env : Env} {poll : SenderPoll}
    (stepped : e.senderStep env poll = .ok e') : SendStep e (.call (.sender poll) env) e' := by
  unfold senderStep at stepped
  split at stepped
  next atTop =>
    obtain ⟨⟨task, cb⟩, ran, eq⟩ := bind_eq_ok.mp stepped
    obtain ⟨cc, rfl, moved⟩ := ControlBlock.senderIterate_cases ran
    cases eq
    obtain ⟨first, used⟩ := after_history_quiet e true { e.cb with cc := cc } task rfl (.inr rfl)
    have history : SameSendHistory e (e.after true { e.cb with cc := cc } task) :=
      ⟨rfl, first, used⟩
    rcases moved with rfl | ⟨rfl, unsent, zero⟩ | ⟨cwnd, front, rest, rfl, unsent, queue, room, -⟩
    · exact .quiet (.of_eq rfl rfl) (.inr (.inl rfl)) history (.inl ⟨rfl, rfl, rfl⟩)
    · exact .waits (.of_eq rfl rfl) atTop unsent (.inl ⟨rfl, zero⟩) history ⟨rfl, rfl, rfl⟩
    · exact .waits (.of_eq rfl rfl) atTop unsent (.inr ⟨cwnd, front, rest, rfl, queue, room⟩) history
        ⟨rfl, rfl, rfl⟩
  next sendNext mac waiting =>
    obtain ⟨⟨task, cb⟩, ran, eq⟩ := bind_eq_ok.mp stepped
    obtain ⟨b, bs, rest, queue, rfl, segment, text, sent⟩ := ControlBlock.senderProbe_sentText ran
    cases eq
    exact .probed waiting queue text sent rfl rfl (transmitted_of_sentText _ sent text rfl)
  next sendNext winSz cwnd sentData mac waiting =>
    obtain ⟨⟨task, cb⟩, ran, eq⟩ := bind_eq_ok.mp stepped
    obtain ⟨front, rest, queue, rfl, segment, text, sent⟩ :=
      ControlBlock.senderTransmit_sentText ran
    cases eq
    exact .popped waiting queue rfl text sent rfl rfl (transmitted_of_sentText _ sent text rfl)
  · cases stepped
    exact .quiet (.of_eq rfl rfl) (.inr (.inr ⟨_, rfl⟩)) ⟨rfl, rfl, rfl⟩ (.inl ⟨rfl, rfl, rfl⟩)
  · cases stepped
    exact .quiet (.of_eq rfl rfl) (.inr (.inr ⟨_, rfl⟩)) ⟨rfl, rfl, rfl⟩ (.inl ⟨rfl, rfl, rfl⟩)
  next sendNext buf mac timeout probing =>
    obtain ⟨⟨task, cb⟩, ran, eq⟩ := bind_eq_ok.mp stepped
    obtain ⟨rfl, segment, text, sent⟩ := ControlBlock.senderProbeAgain_sentText ran
    cases eq
    obtain ⟨first, used⟩ := after_history_quiet e false cb
      (.probing sendNext buf mac (timeout * 2)) (by rw [sent.sender_eq]) (.inl rfl)
    exact .probedAgain probing text sent rfl ⟨rfl, first, used⟩
  · cases stepped
    exact .quiet (.of_eq rfl rfl) (.inr (.inl rfl)) ⟨rfl, rfl, rfl⟩ (.inl ⟨rfl, rfl, rfl⟩)
  · cases stepped
    exact .quiet (.of_eq rfl rfl) (.inl rfl) (.refl e) (.inl ⟨rfl, rfl, rfl⟩)

/-- **Every event does to the send side what `SendStep` says.** -/
theorem step_sendStep {e e' : Endpoint σ} {event : Event} (stepped : e.step event = .ok e') :
    SendStep e event e' := by
  cases event with
  | receive header data env =>
    obtain ⟨cb, ran, eq⟩ := bind_eq_ok.mp stepped
    exact .of_acksOnly (Except.ok.inj eq).symm (ControlBlock.receive_acksOnly ran)
      (.inr ⟨header, data, env, rfl, ran⟩)
  | call c env =>
    cases c with
    | send buf =>
      obtain ⟨⟨result, cb⟩, ran, eq⟩ := bind_eq_ok.mp stepped
      -- refused, sent at once, or queued
      rcases ControlBlock.send_cases ran with ⟨fail, cc, rfl, rfl, -⟩ |
        ⟨rfl, notDone, small, ⟨atOnce, segment, text, sent⟩ | ⟨-, below, cc, rfl⟩⟩
      · cases eq
        obtain ⟨first, used⟩ := after_history_quiet e true { e.cb with cc := cc } e.task
          rfl (.inr rfl)
        exact .quiet (.of_eq rfl rfl) (.inl rfl) ⟨rfl, first, used⟩ (.inl ⟨rfl, rfl, rfl⟩)
      · cases eq
        obtain ⟨first, used⟩ := transmitted_of_sentText e.task sent text rfl
        exact .sent notDone small atOnce text sent rfl rfl ⟨first, used⟩
      · cases eq
        obtain ⟨first, used⟩ := after_history_quiet e true { e.cb with
            cc := cc
            sender := { e.cb.sender with
              unsentQueue := e.cb.sender.unsentQueue ++ [buf]
              unsentSeqNo := e.cb.sender.unsentSeqNo + buf.length } } e.task rfl (.inr rfl)
        exact .queued notDone small below rfl rfl rfl ⟨rfl, rfl, rfl⟩ rfl first used
    | close =>
      obtain ⟨cb, ran, eq⟩ := bind_eq_ok.mp stepped
      -- nothing to do, or the FIN marker goes the way of an empty buffer
      rcases ControlBlock.close_cases ran with ⟨-, rfl⟩ | ⟨cb₁, marker, rfl⟩
      · cases eq
        obtain ⟨first, used⟩ := after_history_quiet e true e.cb e.task rfl (.inr rfl)
        exact .quiet (.of_eq rfl rfl) (.inl rfl) ⟨rfl, first, used⟩ (.inl ⟨rfl, rfl, rfl⟩)
      · rcases ControlBlock.send_cases marker with ⟨fail, cc, refused, rfl, -⟩ |
          ⟨-, notDone, small, ⟨atOnce, segment, text, sent⟩ | ⟨notAtOnce, -, cc, rfl⟩⟩
        -- a refused marker panics, so it is not this branch
        · cases refused
        · cases eq
          obtain ⟨first, used⟩ := transmitted_of_sentText e.task sent text rfl
          exact .sentFin notDone atOnce text sent rfl rfl rfl ⟨first, used⟩
        · cases eq
          obtain ⟨first, used⟩ := after_history_quiet e true { e.cb with
              cc := cc
              userIsDoneSending := true
              sender := { e.cb.sender with
                unsentQueue := e.cb.sender.unsentQueue ++ [[]]
                unsentSeqNo := e.cb.sender.unsentSeqNo + ([] : Buffer).length } } e.task rfl (.inr rfl)
          refine .queuedFin notDone notAtOnce ?_ rfl rfl ⟨rfl, rfl, rfl⟩ ⟨rfl, first, used⟩
          simp only [after, ControlBlock.sendSide, List.length_nil, Nat.cast_zero, add_zero]
    | pollRecv =>
      simp only [step, call, ControlBlock.pollRecv] at stepped
      cases popped : e.cb.receiver.pop with
      | none =>
        simp only [popped, Except.ok.injEq] at stepped
        subst stepped
        exact .quiet (.of_eq rfl rfl) (.inl rfl) (.refl e) (.inl ⟨rfl, rfl, rfl⟩)
      | some read =>
        obtain ⟨buf, receiver⟩ := read
        simp only [popped, Except.ok.injEq] at stepped
        subst stepped
        obtain ⟨first, used⟩ := after_history_quiet e false
          { e.cb with receiver := receiver } e.task rfl (.inl rfl)
        exact .quiet (.of_eq rfl rfl) (.inl rfl) ⟨rfl, first, used⟩ (.inl ⟨rfl, rfl, rfl⟩)
    | sender poll => exact senderStep_sendStep stepped
    | acknowledger =>
      simp only [step, call] at stepped
      split at stepped
      · cases stepped
        exact .quiet (.of_eq rfl rfl) (.inl rfl) (.refl e) (.inl ⟨rfl, rfl, rfl⟩)
      · obtain ⟨cb, ran, eq⟩ := bind_eq_ok.mp stepped
        exact .of_acksOnly (Except.ok.inj eq).symm (ControlBlock.sendAck_acked ran).acksOnly
          (.inl (ControlBlock.sendAck_acked ran).sender)
    | retransmitter =>
      simp only [step, call] at stepped
      split at stepped
      · cases stepped
        exact .quiet (.of_eq rfl rfl) (.inl rfl) (.refl e) (.inl ⟨rfl, rfl, rfl⟩)
      · exact .of_acksOnly (Except.ok.inj stepped).symm (.of_eq rfl rfl) (.inl rfl)

end Endpoint

/-! ## A connection to run

A small connection, for the runs that show a law is not vacuous or a claim about the code is false.
-/

/-- A configuration for examples. -/
def sampleConfig : TcpConfig where
  advertisedMss := 1460
  windowScale := 0
  receiveWindowSize := 65535
  ackDelayTimeout := 0
  handshakeRetries := 3
  handshakeTimeout := 3
  rxChecksumOffload := false
  txChecksumOffload := false

/-- A handshake with a peer that starts at `receiveNext`, of an end that itself starts at `sendNext`. -/
def sampleOpening (receiveNext sendNext : SeqNumber) (receiveWindow sendWindow : UInt32) (mss : Nat) :
    Opening where
  localAddr := ⟨1, 10⟩
  remoteAddr := ⟨2, 20⟩
  rt := ⟨7, sampleConfig, []⟩
  receiverSeqNo := receiveNext
  ackDelayTimeout := 0
  receiverWindowSize := receiveWindow
  receiverWindowScale := 0
  senderSeqNo := sendNext
  senderWindowSize := sendWindow
  senderWindowScale := 0
  senderMss := mss

/-- Its control block, without congestion control. -/
def sampleBlock (receiveNext sendNext : SeqNumber) (receiveWindow sendWindow : UInt32) (mss : Nat) :
    ControlBlock CongestionControl.None :=
  (sampleOpening receiveNext sendNext receiveWindow sendWindow mss).block

/-- A time, and a known link address. -/
def sampleEnv : Env := ⟨0, some 9⟩

/-- The header of a segment from the peer, with only the ACK flag set. -/
def sampleHeader (seqNum ackNum : UInt32) (windowSize : UInt16) : TcpHeader :=
  { TcpHeader.new 20 10 with
    seqNum := ⟨seqNum⟩, ackNum := ⟨ackNum⟩, ack := true, windowSize := windowSize }

end Inetstack.Tcp
