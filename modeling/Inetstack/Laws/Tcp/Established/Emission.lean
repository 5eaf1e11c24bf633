import Inetstack.Laws.Tcp.Established.Endpoint

/-!
# What a connection says

A connection says something in one place only, `emit`, and whatever it says acknowledges all it has
received so far and stops the timer of the delayed ACK. Every event either leaves both what was said
and what is owed as they were, or starts the timer, or says one thing; where the link address of the
peer is not known, an ACK that was due is not said.
-/

namespace Inetstack.Tcp

open Machine (bind_eq_ok)

/-- A segment of a connection with the transmit option of its runtime. -/
structure TcpSegment.Plain (config : TcpConfig) (segment : TcpSegment) : Prop where
  optionList : segment.tcpHdr.optionList = []
  offload : segment.txChecksumOffload = config.txChecksumOffload

namespace ControlBlock

variable {σ : Type} {cb cb' : ControlBlock σ} {env : Env} {rt : Runtime} {segment : TcpSegment}

/-- `cb'` has just said `segment` over a runtime that was `before`. -/
structure Emitted (before : Runtime) (segment : TcpSegment) (cb' : ControlBlock σ) : Prop where
  rt : cb'.rt = before.transmit segment
  ackDeadline : cb'.ackDeadline = none
  ackNum : segment.tcpHdr.ackNum = cb'.receiver.receiveNext
  plain : segment.Plain before.tcpOptions

/-- `cb'` has said something, or has started the timer to say it later, or has nowhere to say it to. -/
inductive Answers (env : Env) (cb cb' : ControlBlock σ) : Prop
  | emits (segment : TcpSegment) (emitted : Emitted cb.rt segment cb')
  | defers (idle : cb.ackDeadline = none) (same : cb'.rt = cb.rt)
      (running : cb'.ackDeadline.isSome = true)
  | unresolved (unknown : env.remoteLinkAddr = none) (same : cb'.rt = cb.rt)

/-- Nothing has been said, and nothing more is owed. -/
structure Silent (cb cb' : ControlBlock σ) : Prop where
  rt : cb'.rt = cb.rt
  ackDeadline : cb'.ackDeadline = cb.ackDeadline
  receiveNext : cb'.receiver.receiveNext = cb.receiver.receiveNext
  recvQueue : cb'.receiver.recvQueue.length ≤ cb.receiver.recvQueue.length

/-- **What a call can say.** -/
inductive Speaks (env : Env) (cb cb' : ControlBlock σ) : Prop
  | silent (silent : Silent cb cb')
  | answers (answers : Answers env cb cb')

/-- Only the runtime and the timer of the control block before matter. -/
theorem Answers.of_same {cb₁ : ControlBlock σ} (h : Answers env cb₁ cb') (rt : cb₁.rt = cb.rt)
    (ackDeadline : cb₁.ackDeadline = cb.ackDeadline) : Answers env cb cb' := by
  cases h with
  | emits segment emitted => exact .emits segment (rt ▸ emitted)
  | defers idle same running => exact .defers (ackDeadline ▸ idle) (same.trans rt) running
  | unresolved unknown same => exact .unresolved unknown (same.trans rt)

/-- What only touches the other fields is silent. -/
theorem Silent.of_receiver (rt : cb'.rt = cb.rt) (ackDeadline : cb'.ackDeadline = cb.ackDeadline)
    (receiver : cb'.receiver = cb.receiver) : Silent cb cb' :=
  ⟨rt, ackDeadline, congrArg _ receiver, Nat.le_of_eq (by rw [receiver])⟩

/-- A silent step before one that may speak. -/
theorem Speaks.after {cb₁ : ControlBlock σ} (silent : Silent cb cb₁) (h : Speaks env cb₁ cb') :
    Speaks env cb cb' := by
  cases h with
  | silent again =>
    exact .silent ⟨again.rt.trans silent.rt, again.ackDeadline.trans silent.ackDeadline,
      again.receiveNext.trans silent.receiveNext, Nat.le_trans again.recvQueue silent.recvQueue⟩
  | answers answers => exact .answers (answers.of_same silent.rt silent.ackDeadline)

/-! ## ACKs -/

/-- A header with any sequence number, and with or without a FIN. -/
theorem emitted_of_tcpHeader {header : TcpHeader} (built : cb.tcpHeader = .ok header)
    (seqNum : SeqNumber) (fin : Bool) (data : Buffer) (mac : MacAddress) :
    Emitted cb.rt (cb.segmentOf { header with seqNum := seqNum, fin := fin } data mac)
      (cb.emit { header with seqNum := seqNum, fin := fin } data mac) := by
  obtain ⟨w, -, rfl⟩ := tcpHeader_ok built
  exact ⟨rfl, rfl, rfl, rfl, rfl⟩

/-- An ACK is said at once, whether or not the timer was running. -/
theorem sendAck_answers {cb₁ : ControlBlock σ} (ran : cb₁.sendAck env = .ok cb')
    (same : cb₁.rt = cb.rt) : Answers env cb cb' := by
  obtain ⟨header, built, ran⟩ := bind_eq_ok.mp ran
  cases link : env.remoteLinkAddr with
  | none =>
    simp only [link, Except.ok.injEq] at ran
    exact .unresolved link (ran ▸ same)
  | some mac =>
    simp only [link, Except.ok.injEq] at ran
    subst ran
    exact .emits _ (same ▸ emitted_of_tcpHeader built cb₁.sender.sendNext header.fin [] mac)

/-- A consumed FIN is answered with an ACK. -/
theorem receiveFin_answers (ran : cb.receiveFin env = .ok cb') : Answers env cb cb' := by
  obtain ⟨state, -, ran⟩ := bind_eq_ok.mp ran
  exact sendAck_answers ran rfl

theorem scheduleAck_answers (ran : cb.scheduleAck env = .ok cb') : Answers env cb cb' := by
  unfold scheduleAck at ran
  split at ran
  next idle =>
    cases ran
    exact .defers idle rfl rfl
  next => exact sendAck_answers ran rfl

/-- In-order data is answered at once or within the delay. -/
theorem receiveInOrder_speaks {seg : InSegment} (ran : cb.receiveInOrder env seg = .ok cb') :
    Speaks env cb cb' := by
  unfold receiveInOrder at ran
  split at ran
  · -- the text has moved RCV.NXT on, so one of the two must answer
    have same : (cb.receiveData seg.data).2.rt = cb.rt := rfl
    have deadline : (cb.receiveData seg.data).2.ackDeadline = cb.ackDeadline := rfl
    rcases hdata : cb.receiveData seg.data with ⟨released, cb₁⟩
    simp only [hdata] at ran same deadline
    split at ran
    · exact .answers ((receiveFin_answers ran).of_same same deadline)
    · exact .answers ((scheduleAck_answers ran).of_same same deadline)
  · split at ran
    · exact .answers (receiveFin_answers ran)
    · cases ran
      exact .silent (.of_receiver rfl rfl rfl)

/-- Out-of-order data is answered at once. -/
theorem receiveOutOfOrder_speaks {seg : InSegment} (ran : cb.receiveOutOfOrder env seg = .ok cb') :
    Speaks env cb cb' := by
  have stored {cb₁ cb₂ : ControlBlock σ} {newStart newEnd : SeqNumber} {buf : Buffer}
      (ran : cb₁.storeOutOfOrderSegment newStart newEnd buf = .ok cb₂) : cb₂.rt = cb₁.rt := by
    obtain ⟨outOfOrder, -, eq⟩ := bind_eq_ok.mp ran
    cases eq
    rfl
  unfold receiveOutOfOrder at ran
  split at ran
  · refine .answers ?_
    split at ran
    · dsimp only at ran
      split at ran
      · obtain ⟨cb₁, store, ran⟩ := bind_eq_ok.mp ran
        have same := stored store
        exact sendAck_answers ran same
      · exact sendAck_answers ran rfl
    · obtain ⟨cb₁, store, ran⟩ := bind_eq_ok.mp ran
      exact sendAck_answers ran (stored store)
  · cases ran
    exact .silent (.of_receiver rfl rfl rfl)

variable [CongestionControl σ]

/-- An ACK is not answered. -/
theorem processAck_silent {now : Instant} {header : TcpHeader} {go : Bool}
    (ran : cb.processAck now header = .ok (go, cb')) : Silent cb cb' := by
  rcases processAck_cases ran with ⟨cc, rfl, -⟩ | ⟨-, -, -, cc, queue, rto, deadline, state, -, rfl⟩
  · exact .of_receiver rfl rfl rfl
  · exact .of_receiver rfl rfl rfl

/-- **A segment arrives.** -/
theorem receive_speaks {header : TcpHeader} {data : Buffer}
    (ran : cb.receive env header data = .ok cb') : Speaks env cb cb' := by
  rcases receive_cases ran with rfl | acked | ⟨-, -, -, rfl⟩ | ⟨seg, cb₁, -, -, processed, acked⟩ |
    ⟨seg, cb₁, -, -, processed, ⟨-, ran⟩ | ⟨-, ran⟩⟩
  · exact .silent (.of_receiver rfl rfl rfl)
  · exact .answers (sendAck_answers acked rfl)
  · exact .silent (.of_receiver rfl rfl rfl)
  · exact .after (processAck_silent processed) (.answers (sendAck_answers acked rfl))
  · exact .after (processAck_silent processed) (receiveInOrder_speaks ran)
  · exact .after (processAck_silent processed) (receiveOutOfOrder_speaks ran)

/-! ## Text -/

theorem sendImmediate_answers (env : Env) {now : Instant} {buf : Buffer} {mac : MacAddress}
    (ran : cb.sendImmediate now buf mac = .ok cb') : Answers env cb cb' := by
  obtain ⟨header, built, ran⟩ := bind_eq_ok.mp ran
  have emitted := emitted_of_tcpHeader built cb.sender.sendNext buf.isEmpty buf mac
  cases ran
  exact .emits _ ⟨emitted.rt, emitted.ackDeadline, emitted.ackNum, emitted.plain⟩

/-- What goes out at once carries the current RCV.NXT, and so answers. -/
theorem send_speaks {buf : Buffer} {result : Except Fail Unit}
    (ran : cb.send env buf = .ok (result, cb')) : Speaks env cb cb' := by
  rcases cb.send_ways env buf with ⟨-, fail, eq⟩ | ⟨-, -, ⟨-, cc, mac, eq⟩ | ⟨-, cc, eq⟩⟩
  · rw [eq] at ran
    cases ran
    exact .silent (.of_receiver rfl rfl rfl)
  · rw [eq] at ran
    obtain ⟨cb₁, sent, ran⟩ := Machine.map_eq_ok _ ran
    cases ran
    exact .answers ((sendImmediate_answers env sent).of_same rfl rfl)
  · rw [eq] at ran
    rcases sendLater_cases (Except.ok.inj ran) with ⟨fail, cc, -, rfl, -⟩ | ⟨-, -, cc, rfl⟩
    · exact .silent (.of_receiver rfl rfl rfl)
    · exact .silent (.of_receiver rfl rfl rfl)

theorem close_speaks (ran : cb.close env = .ok cb') : Speaks env cb cb' := by
  rcases close_cases ran with ⟨-, rfl⟩ | ⟨cb₁, sent, rfl⟩
  · exact .silent (.of_receiver rfl rfl rfl)
  · cases send_speaks sent with
    | silent silent =>
      exact .silent ⟨silent.rt, silent.ackDeadline, silent.receiveNext, silent.recvQueue⟩
    | answers answers =>
      cases answers with
      | emits segment emitted =>
        exact .answers (.emits segment
          ⟨emitted.rt, emitted.ackDeadline, emitted.ackNum, emitted.plain⟩)
      | defers idle same running => exact .answers (.defers idle same running)
      | unresolved unknown same => exact .answers (.unresolved unknown same)

omit [CongestionControl σ] in
theorem senderProbe_answers (env : Env) {now : Instant} {sendNext : SeqNumber} {mac : MacAddress}
    {task : SenderTask} (ran : cb.senderProbe now sendNext mac = .ok (task, cb')) :
    Answers env cb cb' := by
  obtain ⟨popped, -, ran⟩ := bind_eq_ok.mp ran
  cases popped with
  | none => cases ran
  | some popped =>
    obtain ⟨buf, sender⟩ := popped
    obtain ⟨header, built, ran⟩ := bind_eq_ok.mp ran
    have emitted := emitted_of_tcpHeader built sendNext header.fin buf mac
    cases ran
    exact .emits _ emitted

omit [CongestionControl σ] in
theorem senderProbeAgain_answers (env : Env) {sendNext : SeqNumber} {buf : Buffer} {mac : MacAddress}
    {timeout : Duration} {task : SenderTask}
    (ran : cb.senderProbeAgain sendNext buf mac timeout = .ok (task, cb')) :
    Answers env cb cb' := by
  obtain ⟨header, built, ran⟩ := bind_eq_ok.mp ran
  have emitted := emitted_of_tcpHeader built sendNext header.fin buf mac
  cases ran
  exact .emits _ emitted

/-- Every transmission of the background sender answers too. -/
theorem senderTransmit_answers (env : Env) {now : Instant} {sendNext : SeqNumber}
    {winSz effectiveCwnd sentData : UInt32} {mac : MacAddress} {task : SenderTask}
    (ran : cb.senderTransmit now sendNext winSz effectiveCwnd sentData mac = .ok (task, cb')) :
    Answers env cb cb' := by
  unfold senderTransmit at ran
  split at ran
  · cases ran
  next segmentData sender _ =>
    obtain ⟨header, built, ran⟩ := bind_eq_ok.mp ran
    have emitted := emitted_of_tcpHeader built sendNext segmentData.isEmpty segmentData mac
    cases ran
    exact .emits _ ⟨emitted.rt, emitted.ackDeadline, emitted.ackNum, emitted.plain⟩

end ControlBlock

/-! ## Events -/

def Event.env : Event → Env
  | .call _ env => env
  | .receive _ _ env => env

namespace Endpoint

open ControlBlock (Answers Silent Speaks)

variable {σ : Type} {start e e' : Endpoint σ}

/-- What a connection has said since it was as `start`. -/
def said (start e : Endpoint σ) : List TcpSegment :=
  e.cb.rt.transmitted.drop start.cb.rt.transmitted.length

/-- One more segment has been said since `start`. -/
theorem said_transmit {segment : TcpSegment} (kept : start.cb.rt.transmitted <+: e.cb.rt.transmitted)
    (rt : e'.cb.rt = e.cb.rt.transmit segment) : start.said e' = start.said e ++ [segment] := by
  rw [said, said, rt, Runtime.transmit, List.drop_append_of_le_length kept.length_le]

variable [CongestionControl σ]

/-- **A poll of the background sender.** -/
theorem senderStep_speaks {env : Env} {poll : SenderPoll}
    (stepped : e.senderStep env poll = .ok e') : Speaks env e.cb e'.cb := by
  unfold senderStep at stepped
  split at stepped
  · obtain ⟨⟨task, cb⟩, ran, eq⟩ := bind_eq_ok.mp stepped
    obtain ⟨cc, rfl, -⟩ := ControlBlock.senderIterate_cases ran
    cases eq
    exact .silent (.of_receiver rfl rfl rfl)
  · obtain ⟨⟨task, cb⟩, ran, eq⟩ := bind_eq_ok.mp stepped
    cases eq
    exact .answers (ControlBlock.senderProbe_answers env ran)
  · obtain ⟨⟨task, cb⟩, ran, eq⟩ := bind_eq_ok.mp stepped
    cases eq
    exact .answers (ControlBlock.senderTransmit_answers env ran)
  · cases stepped
    exact .silent (.of_receiver rfl rfl rfl)
  · cases stepped
    exact .silent (.of_receiver rfl rfl rfl)
  · obtain ⟨⟨task, cb⟩, ran, eq⟩ := bind_eq_ok.mp stepped
    cases eq
    exact .answers (ControlBlock.senderProbeAgain_answers env ran)
  · cases stepped
    exact .silent (.of_receiver rfl rfl rfl)
  · cases stepped
    exact .silent (.of_receiver rfl rfl rfl)

/-- **Every event says what `Speaks` allows.** -/
theorem step_speaks {event : Event} (stepped : e.step event = .ok e') :
    Speaks event.env e.cb e'.cb := by
  cases event with
  | receive header data env =>
    obtain ⟨cb, ran, eq⟩ := bind_eq_ok.mp stepped
    cases eq
    exact ControlBlock.receive_speaks ran
  | call c env =>
    cases c with
    | send buf =>
      obtain ⟨⟨result, cb⟩, ran, eq⟩ := bind_eq_ok.mp stepped
      have speaks := ControlBlock.send_speaks ran
      cases result with
      | ok u =>
        cases eq
        exact speaks
      | error fail =>
        cases eq
        exact speaks
    | close =>
      obtain ⟨cb, ran, eq⟩ := bind_eq_ok.mp stepped
      cases eq
      exact ControlBlock.close_speaks ran
    | pollRecv =>
      simp only [step, call, ControlBlock.pollRecv] at stepped
      cases popped : e.cb.receiver.pop with
      | none =>
        simp only [popped, Except.ok.injEq] at stepped
        subst stepped
        exact .silent (.of_receiver rfl rfl rfl)
      | some read =>
        obtain ⟨buf, receiver⟩ := read
        simp only [popped, Except.ok.injEq] at stepped
        subst stepped
        obtain ⟨rest, queue, rfl⟩ := Receiver.pop_cases popped
        refine .silent ⟨rfl, rfl, rfl, ?_⟩
        rw [queue]
        exact Nat.le_succ _
    | sender poll => exact senderStep_speaks stepped
    | acknowledger =>
      simp only [step, call] at stepped
      split at stepped
      · cases stepped
        exact .silent (.of_receiver rfl rfl rfl)
      · obtain ⟨cb, ran, eq⟩ := bind_eq_ok.mp stepped
        cases eq
        exact .answers (ControlBlock.sendAck_answers ran rfl)
    | retransmitter =>
      simp only [step, call] at stepped
      split at stepped
      · cases stepped
        exact .silent (.of_receiver rfl rfl rfl)
      · cases stepped
        exact .silent (.of_receiver rfl rfl rfl)

end Endpoint

end Inetstack.Tcp
