import Inetstack.Tcp.Established.Endpoint

/-!
# A connection does not read what it has transmitted

The list of transmitted segments is only ever appended to, and no test and no field depends on what is in
it. So putting other segments in front of it commutes with every event, and what a connection does is the
same whatever else has gone over the runtime it shares (`step_behind`).
-/

namespace Inetstack.Tcp

open Machine (bind_eq_map bind_eq_map_of_same)

/-- The runtime after other segments than its own. -/
def Runtime.behind (log : List TcpSegment) (rt : Runtime) : Runtime :=
  { rt with transmitted := log ++ rt.transmitted }

variable {σ : Type} (log : List TcpSegment)

namespace ControlBlock

/-- A control block whose runtime has a log already. -/
def behind (cb : ControlBlock σ) : ControlBlock σ := { cb with rt := cb.rt.behind log }

/-- A segment goes to the end of the log. -/
theorem emit_behind (cb : ControlBlock σ) (header : TcpHeader) (data : Buffer) (mac : MacAddress) :
    (cb.behind log).emit header data mac = (cb.emit header data mac).behind log := by
  simp only [emit, behind, Runtime.behind, Runtime.transmit, List.append_assoc]
  rfl

/-- No function below reads the log, so each does behind a log what it does alone. -/
theorem sendAck_behind (cb : ControlBlock σ) (env : Env) :
    (cb.behind log).sendAck env = (cb.sendAck env).map (behind log) := by
  unfold sendAck
  apply bind_eq_map_of_same (x := cb.tcpHeader)
  intro header
  cases env.remoteLinkAddr with
  | none => rfl
  | some mac => exact congrArg Except.ok (emit_behind log cb _ [] mac)

/-! ## Receiving -/

theorem receiveFin_behind (cb : ControlBlock σ) (env : Env) :
    (cb.behind log).receiveFin env = (cb.receiveFin env).map (behind log) := by
  unfold receiveFin
  apply bind_eq_map_of_same (x := stateAfterFin cb.state)
  intro state
  exact sendAck_behind log
    { cb with
      receiver := { cb.receiver with receiveNext := cb.receiver.receiveNext + SeqNumber.mk 1 }
      state := state } env

theorem scheduleAck_behind (cb : ControlBlock σ) (env : Env) :
    (cb.behind log).scheduleAck env = (cb.scheduleAck env).map (behind log) := by
  unfold scheduleAck
  rw [show (cb.behind log).ackDeadline = cb.ackDeadline from rfl]
  split
  · rfl
  · exact sendAck_behind log { cb with ackDeadline := none } env

/-- The in-order part of `receive`. -/
theorem receiveInOrder_behind (cb : ControlBlock σ) (env : Env) (seg : InSegment) :
    (cb.behind log).receiveInOrder env seg = (cb.receiveInOrder env seg).map (behind log) := by
  unfold receiveInOrder
  rw [show (cb.behind log).state = cb.state from rfl,
    show (cb.behind log).receiveData seg.data =
      ((cb.receiveData seg.data).1, (cb.receiveData seg.data).2.behind log) from rfl]
  dsimp only
  split
  · split
    · exact receiveFin_behind log _ env
    · exact scheduleAck_behind log _ env
  split
  · exact receiveFin_behind log cb env
  · rfl

theorem storeOutOfOrderSegment_behind (cb : ControlBlock σ) (newStart newEnd : SeqNumber) (buf : Buffer) :
    (cb.behind log).storeOutOfOrderSegment newStart newEnd buf =
      (cb.storeOutOfOrderSegment newStart newEnd buf).map (behind log) :=
  bind_eq_map_of_same fun _ => rfl

/-- The out-of-order part of `receive`. -/
theorem receiveOutOfOrder_behind (cb : ControlBlock σ) (env : Env) (seg : InSegment) :
    (cb.behind log).receiveOutOfOrder env seg = (cb.receiveOutOfOrder env seg).map (behind log) := by
  have stored : ∀ (cb : ControlBlock σ) (last : SeqNumber),
      ((cb.behind log).storeOutOfOrderSegment seg.segStart last seg.data >>= fun cb => cb.sendAck env) =
        (cb.storeOutOfOrderSegment seg.segStart last seg.data >>=
          fun cb => cb.sendAck env).map (behind log) := fun cb last =>
    bind_eq_map (storeOutOfOrderSegment_behind log cb _ _ _) fun cb => sendAck_behind log cb env
  unfold receiveOutOfOrder
  rw [show (cb.behind log).state = cb.state from rfl]
  split
  · split
    · dsimp only
      split
      · exact stored (cb.storeOutOfOrderFin seg.segEnd) _
      · exact sendAck_behind log (cb.storeOutOfOrderFin seg.segEnd) env
    · exact stored cb _
  · rfl

theorem receiveRst_behind (cb : ControlBlock σ) :
    (cb.behind log).receiveRst = cb.receiveRst.map (behind log) := by
  unfold receiveRst
  rw [show (cb.behind log).state = cb.state from rfl]
  split
  · rfl
  · rfl

variable [CongestionControl σ]

/-- `process_ack` transmits nothing. -/
theorem processAck_behind (cb : ControlBlock σ) (now : Instant) (header : TcpHeader) :
    (cb.behind log).processAck now header =
      (cb.processAck now header).map (Prod.map id (behind log)) := by
  unfold processAck
  dsimp only
  rw [show (cb.behind log).sender = cb.sender from rfl]
  split
  · split
    · apply bind_eq_map_of_same
      intro removed
      split
      · rfl
      · rfl
    · rfl
  · rfl

theorem receiveInWindow_behind (cb : ControlBlock σ) (env : Env) (seg : InSegment) :
    (cb.behind log).receiveInWindow env seg = (cb.receiveInWindow env seg).map (behind log) := by
  unfold receiveInWindow
  split
  · exact receiveRst_behind log cb
  split
  · rfl
  split
  · rfl
  · apply bind_eq_map (processAck_behind log cb env.now seg.header)
    intro processed
    obtain ⟨goesOn, cb₁⟩ := processed
    cases goesOn with
    | false => exact sendAck_behind log cb₁ env
    | true =>
      dsimp only [Prod.map, id]
      rw [show (cb.behind log).receiver = cb.receiver from rfl]
      split
      · exact receiveInOrder_behind log cb₁ env seg
      · exact receiveOutOfOrder_behind log cb₁ env seg

/-- **A segment arrives** behind a log. -/
theorem receive_behind (cb : ControlBlock σ) (env : Env) (header : TcpHeader) (data : Buffer) :
    (cb.behind log).receive env header data = (cb.receive env header data).map (behind log) := by
  unfold receive
  apply bind_eq_map_of_same
    (x := InSegment.accept cb.receiver.receiveNext cb.getReceiveWindowSize header data)
  intro accepted
  cases accepted with
  | none =>
    dsimp only
    split
    · rfl
    · exact sendAck_behind log cb env
  | some seg => exact receiveInWindow_behind log cb env seg

/-! ## Sending -/

/-- What goes out at once. -/
theorem sendImmediate_behind (cb : ControlBlock σ) (now : Instant) (buf : Buffer) (mac : MacAddress) :
    (cb.behind log).sendImmediate now buf mac = (cb.sendImmediate now buf mac).map (behind log) := by
  unfold sendImmediate
  apply bind_eq_map_of_same (x := cb.tcpHeader)
  intro header
  simp only [emit, behind, Runtime.behind, Runtime.transmit, startRetransmitTimer, Except.map,
    List.append_assoc]
  rfl

omit [CongestionControl σ] in
theorem sendLater_behind (cb : ControlBlock σ) (buf : Buffer) :
    (cb.behind log).sendLater buf = Prod.map id (behind log) (cb.sendLater buf) := by
  unfold sendLater
  rw [show (cb.behind log).sender = cb.sender from rfl]
  split
  · rfl
  · rfl

/-- `send`, whether the buffer goes out or is queued. -/
theorem send_behind (cb : ControlBlock σ) (env : Env) (buf : Buffer) :
    (cb.behind log).send env buf = (cb.send env buf).map (Prod.map id (behind log)) := by
  have later (cb : ControlBlock σ) : (Except.ok ((cb.behind log).sendLater buf) : Except Fault _) =
      Except.map (Prod.map id (behind log)) (.ok (cb.sendLater buf)) :=
    congrArg Except.ok (sendLater_behind log cb buf)
  generalize eq : cb.behind log = cb'
  have done : cb'.userIsDoneSending = cb.userIsDoneSending := eq ▸ rfl
  have queue : cb'.sender.unsentQueue = cb.sender.unsentQueue := eq ▸ rfl
  have checked : ({ cb' with cc := CongestionControl.onCwndCheckBeforeSend env.now cb'.cc } :
      ControlBlock σ) =
      ({ cb with cc := CongestionControl.onCwndCheckBeforeSend env.now cb.cc } :
        ControlBlock σ).behind log := eq ▸ rfl
  unfold send
  dsimp only
  rw [checked, done, queue]
  split
  · exact eq ▸ rfl
  split
  · exact eq ▸ rfl
  split
  · set plain : ControlBlock σ :=
      { cb with cc := CongestionControl.onCwndCheckBeforeSend env.now cb.cc }
    rw [show (plain.behind log).roomToSend buf = plain.roomToSend buf from rfl]
    split
    · exact bind_eq_map (sendImmediate_behind log plain env.now buf _) fun _ => rfl
    · exact later plain
  · exact eq ▸ later cb

/-- `close`, whether the FIN goes out or is queued. -/
theorem close_behind (cb : ControlBlock σ) (env : Env) :
    (cb.behind log).close env = (cb.close env).map (behind log) := by
  unfold close
  rw [show (cb.behind log).userIsDoneSending = cb.userIsDoneSending from rfl]
  split
  · rfl
  · apply bind_eq_map (send_behind log cb env [])
    intro sent
    obtain ⟨result, cb₁⟩ := sent
    cases result <;> rfl

/-! ## The background sender -/

/-- An iteration of the background sender. It only looks at what there is to do. -/
theorem senderIterate_behind (cb : ControlBlock σ) (now : Instant) :
    (cb.behind log).senderIterate now = (cb.senderIterate now).map (Prod.map id (behind log)) := by
  unfold senderIterate
  rw [show (cb.behind log).sender = cb.sender from rfl]
  dsimp only
  split
  · rfl
  split
  · rfl
  cases cb.sender.topSizeUnsent with
  | none => rfl
  | some size =>
    dsimp only
    rw [show (cb.behind log).cc = cb.cc from rfl]
    split
    · rfl
    · rfl

omit [CongestionControl σ] in
theorem senderProbe_behind (cb : ControlBlock σ) (now : Instant) (sendNext : SeqNumber)
    (mac : MacAddress) :
    (cb.behind log).senderProbe now sendNext mac =
      (cb.senderProbe now sendNext mac).map (Prod.map id (behind log)) := by
  unfold senderProbe
  apply bind_eq_map_of_same (x := cb.sender.popOneUnsentByte)
  intro popped
  cases popped with
  | none => rfl
  | some popped =>
    obtain ⟨buf, sender⟩ := popped
    set pushed : ControlBlock σ := { cb with
      sender := Sender.pushUnackedSegment { sender with sendNext := sender.sendNext + SeqNumber.mk 1 }
        { bytes := buf, initialTx := some now } }
    apply bind_eq_map_of_same (x := pushed.tcpHeader)
    intro header
    exact congrArg (fun cb => Except.ok (SenderTask.probing sendNext buf mac 1, cb))
      (emit_behind log pushed _ buf mac)

omit [CongestionControl σ] in
theorem senderProbeAgain_behind (cb : ControlBlock σ) (sendNext : SeqNumber) (buf : Buffer)
    (mac : MacAddress) (timeout : Duration) :
    (cb.behind log).senderProbeAgain sendNext buf mac timeout =
      (cb.senderProbeAgain sendNext buf mac timeout).map (Prod.map id (behind log)) := by
  unfold senderProbeAgain
  apply bind_eq_map_of_same (x := cb.tcpHeader)
  intro header
  exact congrArg (fun cb => Except.ok (SenderTask.probing sendNext buf mac (timeout * 2), cb))
    (emit_behind log cb _ buf mac)

/-- The transmission after the ARP answer. -/
theorem senderTransmit_behind (cb : ControlBlock σ) (now : Instant) (sendNext : SeqNumber)
    (winSz effectiveCwnd sentData : UInt32) (mac : MacAddress) :
    (cb.behind log).senderTransmit now sendNext winSz effectiveCwnd sentData mac =
      (cb.senderTransmit now sendNext winSz effectiveCwnd sentData mac).map
        (Prod.map id (behind log)) := by
  unfold senderTransmit
  rw [show (cb.behind log).sender = cb.sender from rfl,
    show (cb.behind log).maxSize winSz effectiveCwnd sentData =
      cb.maxSize winSz effectiveCwnd sentData from rfl]
  cases cb.sender.popUnsent (cb.maxSize winSz effectiveCwnd sentData) with
  | none => rfl
  | some popped =>
    obtain ⟨data, sender⟩ := popped
    dsimp only
    set sent : ControlBlock σ := { cb with
      sender := sender
      cc := CongestionControl.onSend now cb.rto.estimate sentData cb.cc }
    apply bind_eq_map_of_same (x := sent.tcpHeader)
    intro header
    simp only [emit, behind, Runtime.behind, Runtime.transmit, startRetransmitTimer, Except.map,
      List.append_assoc, sent]
    rfl

end ControlBlock

namespace Endpoint

def behind (e : Endpoint σ) : Endpoint σ := { e with cb := e.cb.behind log }

/-- The history takes the new end of the log, which is the same behind a log. -/
theorem after_behind (e : Endpoint σ) (first : Bool) (cb : ControlBlock σ) (task : SenderTask) :
    (e.behind log).after first (cb.behind log) task = (e.after first cb task).behind log := by
  have new : (log ++ cb.rt.transmitted).drop (log ++ e.cb.rt.transmitted).length =
      cb.rt.transmitted.drop e.cb.rt.transmitted.length := by
    rw [List.length_append, List.drop_append, List.drop_eq_nil_of_le (Nat.le_add_right _ _),
      Nat.add_sub_cancel_left, List.nil_append]
  have history : (e.behind log).record first (cb.behind log) = e.record first cb := by
    unfold record
    dsimp only
    rw [show (cb.behind log).rt.transmitted = log ++ cb.rt.transmitted from rfl,
      show (e.behind log).cb.rt.transmitted = log ++ e.cb.rt.transmitted from rfl, new]
    rfl
  unfold after
  rw [history]
  rfl

/-- A computation of a task and a control block, recorded. -/
theorem recorded_behind (e : Endpoint σ) (first : Bool)
    {x x' : Except Fault (SenderTask × ControlBlock σ)}
    (same : x' = x.map (Prod.map id (ControlBlock.behind log))) :
    (x' >>= fun result => Except.ok ((e.behind log).after first result.2 result.1)) =
      (x >>= fun result => Except.ok (e.after first result.2 result.1)).map (behind log) :=
  bind_eq_map same fun result => congrArg Except.ok (after_behind log e first result.2 result.1)

variable [CongestionControl σ]

/-- A poll of the background sender, wherever its task stands. -/
theorem senderStep_behind (e : Endpoint σ) (env : Env) (poll : SenderPoll) :
    (e.behind log).senderStep env poll = (e.senderStep env poll).map (behind log) := by
  unfold senderStep
  rw [show (e.behind log).task = e.task from rfl]
  split
  · exact recorded_behind log e true (ControlBlock.senderIterate_behind log e.cb env.now)
  · exact recorded_behind log e true (ControlBlock.senderProbe_behind log e.cb env.now _ _)
  · exact recorded_behind log e true (ControlBlock.senderTransmit_behind log e.cb env.now _ _ _ _ _)
  · rfl
  · rfl
  · exact recorded_behind log e false (ControlBlock.senderProbeAgain_behind log e.cb _ _ _ _)
  · rfl
  · rfl

/-- **A call** behind a log. -/
theorem call_behind (e : Endpoint σ) (env : Env) (c : Call) :
    (e.behind log).call env c = (e.call env c).map (behind log) := by
  cases c with
  | send buf =>
    apply bind_eq_map (ControlBlock.send_behind log e.cb env buf)
    intro sent
    obtain ⟨result, cb⟩ := sent
    have recorded := after_behind log e true cb e.task
    cases result with
    | ok u =>
      exact congrArg (fun e : Endpoint σ => Except.ok { e with
        history := { e.history with accepted := e.history.accepted ++ [buf] } }) recorded
    | error fail => exact congrArg Except.ok recorded
  | close =>
    exact bind_eq_map (ControlBlock.close_behind log e.cb env) fun cb =>
      congrArg Except.ok (after_behind log e true cb e.task)
  | pollRecv =>
    simp only [call, ControlBlock.pollRecv]
    rw [show (e.behind log).cb.receiver = e.cb.receiver from rfl]
    cases popped : e.cb.receiver.pop with
    | none => rfl
    | some read =>
      obtain ⟨buf, receiver⟩ := read
      have recorded := after_behind log e false { e.cb with receiver := receiver } e.task
      exact congrArg (fun e : Endpoint σ => Except.ok { e with
        history := { e.history with delivered := e.history.delivered ++ [buf] } }) recorded
  | sender poll => exact senderStep_behind log e env poll
  | acknowledger =>
    simp only [call]
    rw [show (e.behind log).task = e.task from rfl]
    split
    · rfl
    · exact bind_eq_map (ControlBlock.sendAck_behind log e.cb env) fun cb =>
        congrArg Except.ok (after_behind log e false cb e.task)
  | retransmitter =>
    simp only [call]
    rw [show (e.behind log).task = e.task from rfl]
    split
    · rfl
    · exact congrArg Except.ok (after_behind log e false (e.cb.retransmitTimeout env.now) e.task)

/-- **Every event commutes with putting other segments in front of the log.** -/
theorem step_behind (e : Endpoint σ) (event : Event) :
    (e.behind log).step event = (e.step event).map (behind log) := by
  cases event with
  | call c env => exact call_behind log e env c
  | receive header data env =>
    exact bind_eq_map (ControlBlock.receive_behind log e.cb env header data) fun cb =>
      congrArg Except.ok (after_behind log e false cb e.task)

end Endpoint

end Inetstack.Tcp
