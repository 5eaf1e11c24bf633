import Inetstack.Laws.Tcp.Established.Emission
import Inetstack.Lib.Log

/-!
# The addresses of a connection

A connection keeps its two addresses, and every segment it transmits goes from the one to the other, out of
the interface of its runtime.
-/

namespace Inetstack.Tcp

open Machine (bind_eq_ok)

/-- The address a segment comes from, and the address it goes to. -/
def TcpSegment.ends (segment : TcpSegment) : SocketAddrV4 × SocketAddrV4 :=
  ({ ip := segment.ipv4Hdr.srcAddr, port := segment.tcpHdr.srcPort },
    { ip := segment.ipv4Hdr.dstAddr, port := segment.tcpHdr.dstPort })

namespace ControlBlock

variable {σ : Type} {cb cb' cb'' : ControlBlock σ} {env : Env}

/-- A segment of a connection: between its addresses, and from its interface. -/
structure Sends (cb : ControlBlock σ) (segment : TcpSegment) : Prop where
  ends : segment.ends = (cb.localAddr, cb.remoteAddr)
  srcAddr : segment.ethernet2Hdr.srcAddr = cb.rt.localLinkAddr

/-- The addresses are the same, and what has been transmitted since is between them. -/
structure Stays (cb cb' : ControlBlock σ) : Prop where
  localAddr : cb'.localAddr = cb.localAddr
  remoteAddr : cb'.remoteAddr = cb.remoteAddr
  localLinkAddr : cb'.rt.localLinkAddr = cb.rt.localLinkAddr
  log : Log.Adds cb.Sends cb.rt.transmitted cb'.rt.transmitted

/-- Nothing was transmitted. -/
theorem Stays.of_same (localAddr : cb'.localAddr = cb.localAddr) (remoteAddr : cb'.remoteAddr = cb.remoteAddr)
    (rt : cb'.rt = cb.rt) : cb.Stays cb' where
  localAddr := localAddr
  remoteAddr := remoteAddr
  localLinkAddr := by rw [rt]
  log := .of_eq (congrArg Runtime.transmitted rt)

/-- One segment was transmitted. -/
theorem Stays.of_transmit {segment : TcpSegment} (localAddr : cb'.localAddr = cb.localAddr)
    (remoteAddr : cb'.remoteAddr = cb.remoteAddr) (rt : cb'.rt = cb.rt.transmit segment)
    (own : cb.Sends segment) : cb.Stays cb' where
  localAddr := localAddr
  remoteAddr := remoteAddr
  localLinkAddr := by rw [rt]; rfl
  log := by
    rw [rt]
    exact .one own _

/-- The same from a control block with the same addresses and runtime. -/
theorem Stays.after (h : cb'.Stays cb'') (localAddr : cb'.localAddr = cb.localAddr)
    (remoteAddr : cb'.remoteAddr = cb.remoteAddr) (rt : cb'.rt = cb.rt) : cb.Stays cb'' where
  localAddr := h.localAddr.trans localAddr
  remoteAddr := h.remoteAddr.trans remoteAddr
  localLinkAddr := h.localLinkAddr.trans (by rw [rt])
  log := by
    rw [← rt]
    exact h.log.mono fun segment said =>
      ⟨by rw [said.ends, localAddr, remoteAddr], by rw [said.srcAddr, rt]⟩

/-! ## ACKs -/

/-- What is built from `tcp_header` has the addresses of the connection and the window of the moment. -/
theorem sends_segmentOf {header : TcpHeader} (built : cb.tcpHeader = .ok header) (seqNum : SeqNumber)
    (fin : Bool) (data : Buffer) (mac : MacAddress) :
    cb.Sends (cb.segmentOf { header with seqNum := seqNum, fin := fin } data mac) := by
  obtain ⟨w, -, rfl⟩ := tcpHeader_ok built
  exact ⟨rfl, rfl⟩

/-- A connection stays between its addresses, whatever it does; each function adds to the log only what it
sends. -/
theorem sendAck_stays (ran : cb.sendAck env = .ok cb') : cb.Stays cb' := by
  obtain ⟨header, built, ran⟩ := bind_eq_ok.mp ran
  cases link : env.remoteLinkAddr with
  | none =>
    simp only [link, Except.ok.injEq] at ran
    exact ran ▸ .of_same rfl rfl rfl
  | some mac =>
    simp only [link, Except.ok.injEq] at ran
    subst ran
    exact .of_transmit rfl rfl rfl (sends_segmentOf built cb.sender.sendNext header.fin [] mac)

theorem receiveFin_stays (ran : cb.receiveFin env = .ok cb') : cb.Stays cb' := by
  obtain ⟨state, -, ran⟩ := bind_eq_ok.mp ran
  have stays := sendAck_stays ran
  exact stays.after rfl rfl rfl

theorem scheduleAck_stays (ran : cb.scheduleAck env = .ok cb') : cb.Stays cb' := by
  unfold scheduleAck at ran
  split at ran
  · cases ran
    exact .of_same rfl rfl rfl
  · have stays := sendAck_stays ran
    exact stays.after rfl rfl rfl

/-- The in-order part of `receive`. -/
theorem receiveInOrder_stays {seg : InSegment} (ran : cb.receiveInOrder env seg = .ok cb') :
    cb.Stays cb' := by
  unfold receiveInOrder at ran
  split at ran
  · dsimp only at ran
    split at ran
    · have stays := receiveFin_stays ran
      exact stays.after rfl rfl rfl
    · have stays := scheduleAck_stays ran
      exact stays.after rfl rfl rfl
  · split at ran
    · exact receiveFin_stays ran
    · cases ran
      exact .of_same rfl rfl rfl

theorem storeOutOfOrderSegment_same {newStart newEnd : SeqNumber} {buf : Buffer}
    (ran : cb.storeOutOfOrderSegment newStart newEnd buf = .ok cb') :
    ∃ outOfOrder, cb' = { cb with outOfOrder := outOfOrder } := by
  obtain ⟨outOfOrder, -, eq⟩ := bind_eq_ok.mp ran
  exact ⟨outOfOrder, (Except.ok.inj eq).symm⟩

theorem receiveOutOfOrder_stays {seg : InSegment} (ran : cb.receiveOutOfOrder env seg = .ok cb') :
    cb.Stays cb' := by
  unfold receiveOutOfOrder at ran
  split at ran
  · split at ran
    · dsimp only at ran
      split at ran
      · obtain ⟨cb₁, store, ran⟩ := bind_eq_ok.mp ran
        obtain ⟨outOfOrder, rfl⟩ := storeOutOfOrderSegment_same store
        have stays := sendAck_stays ran
        exact stays.after rfl rfl rfl
      · have stays := sendAck_stays ran
        exact stays.after rfl rfl rfl
    · obtain ⟨cb₁, store, ran⟩ := bind_eq_ok.mp ran
      obtain ⟨outOfOrder, rfl⟩ := storeOutOfOrderSegment_same store
      exact (sendAck_stays ran).after rfl rfl rfl
  · cases ran
    exact .of_same rfl rfl rfl

section

variable [CongestionControl σ]

/-- An ACK touches neither the addresses nor the log. -/
theorem processAck_same {now : Instant} {header : TcpHeader} {go : Bool}
    (ran : cb.processAck now header = .ok (go, cb')) :
    cb'.localAddr = cb.localAddr ∧ cb'.remoteAddr = cb.remoteAddr ∧ cb'.rt = cb.rt := by
  rcases processAck_cases ran with ⟨cc, rfl, -⟩ | ⟨-, -, -, cc, queue, rto, deadline, state, -, rfl⟩
  · exact ⟨rfl, rfl, rfl⟩
  · exact ⟨rfl, rfl, rfl⟩

/-- **A segment arrives.** -/
theorem receive_stays {header : TcpHeader} {data : Buffer} (ran : cb.receive env header data = .ok cb') :
    cb.Stays cb' := by
  rcases receive_cases ran with rfl | acked | ⟨-, -, -, rfl⟩ | ⟨seg, cb₁, -, -, processed, acked⟩ |
    ⟨seg, cb₁, -, -, processed, ⟨-, ran⟩ | ⟨-, ran⟩⟩
  · exact .of_same rfl rfl rfl
  · exact sendAck_stays acked
  · exact .of_same rfl rfl rfl
  · obtain ⟨localAddr, remoteAddr, rt⟩ := processAck_same processed
    exact (sendAck_stays acked).after localAddr remoteAddr rt
  · obtain ⟨localAddr, remoteAddr, rt⟩ := processAck_same processed
    exact (receiveInOrder_stays ran).after localAddr remoteAddr rt
  · obtain ⟨localAddr, remoteAddr, rt⟩ := processAck_same processed
    exact (receiveOutOfOrder_stays ran).after localAddr remoteAddr rt

end

/-! ## Text -/

section

variable [CongestionControl σ]

/-- What goes out at once. -/
theorem sendImmediate_stays {now : Instant} {buf : Buffer} {mac : MacAddress}
    (ran : cb.sendImmediate now buf mac = .ok cb') : cb.Stays cb' := by
  obtain ⟨header, built, ran⟩ := bind_eq_ok.mp ran
  have own := sends_segmentOf built cb.sender.sendNext buf.isEmpty buf mac
  cases ran
  exact .of_transmit rfl rfl rfl ⟨own.ends, own.srcAddr⟩

theorem send_stays {buf : Buffer} {result : Except Fail Unit} (ran : cb.send env buf = .ok (result, cb')) :
    cb.Stays cb' := by
  rcases cb.send_ways env buf with ⟨-, fail, eq⟩ | ⟨-, -, ⟨-, cc, mac, eq⟩ | ⟨-, cc, eq⟩⟩
  · rw [eq] at ran
    cases ran
    exact .of_same rfl rfl rfl
  · rw [eq] at ran
    obtain ⟨cb₁, sent, ran⟩ := Machine.map_eq_ok _ ran
    cases ran
    exact (sendImmediate_stays sent).after rfl rfl rfl
  · rw [eq] at ran
    rcases sendLater_cases (Except.ok.inj ran) with ⟨fail, cc, -, rfl, -⟩ | ⟨-, -, cc, rfl⟩
    · exact .of_same rfl rfl rfl
    · exact .of_same rfl rfl rfl

theorem close_stays (ran : cb.close env = .ok cb') : cb.Stays cb' := by
  rcases close_cases ran with ⟨-, rfl⟩ | ⟨cb₁, sent, rfl⟩
  · exact .of_same rfl rfl rfl
  · have stays := send_stays sent
    exact ⟨stays.localAddr, stays.remoteAddr, stays.localLinkAddr, stays.log⟩

end

theorem senderProbe_stays {now : Instant} {sendNext : SeqNumber} {mac : MacAddress} {task : SenderTask}
    (ran : cb.senderProbe now sendNext mac = .ok (task, cb')) : cb.Stays cb' := by
  obtain ⟨popped, -, ran⟩ := bind_eq_ok.mp ran
  cases popped with
  | none => cases ran
  | some popped =>
    obtain ⟨buf, sender⟩ := popped
    obtain ⟨header, built, ran⟩ := bind_eq_ok.mp ran
    have own := sends_segmentOf built sendNext header.fin buf mac
    cases ran
    exact .of_transmit rfl rfl rfl ⟨own.ends, own.srcAddr⟩

theorem senderProbeAgain_stays {sendNext : SeqNumber} {buf : Buffer} {mac : MacAddress}
    {timeout : Duration} {task : SenderTask}
    (ran : cb.senderProbeAgain sendNext buf mac timeout = .ok (task, cb')) : cb.Stays cb' := by
  obtain ⟨header, built, ran⟩ := bind_eq_ok.mp ran
  have own := sends_segmentOf built sendNext header.fin buf mac
  cases ran
  exact .of_transmit rfl rfl rfl ⟨own.ends, own.srcAddr⟩

/-- The transmission after the ARP answer. -/
theorem senderTransmit_stays [CongestionControl σ] {now : Instant} {sendNext : SeqNumber}
    {winSz effectiveCwnd sentData : UInt32} {mac : MacAddress} {task : SenderTask}
    (ran : cb.senderTransmit now sendNext winSz effectiveCwnd sentData mac = .ok (task, cb')) :
    cb.Stays cb' := by
  unfold senderTransmit at ran
  split at ran
  · cases ran
  next segmentData sender _ =>
    obtain ⟨header, built, ran⟩ := bind_eq_ok.mp ran
    have own := sends_segmentOf built sendNext segmentData.isEmpty segmentData mac
    cases ran
    exact .of_transmit rfl rfl rfl ⟨own.ends, own.srcAddr⟩

end ControlBlock

namespace Endpoint

variable {σ : Type} [CongestionControl σ] {e e' : Endpoint σ}

/-- **A poll of the background sender.** -/
theorem senderStep_stays {env : Env} {poll : SenderPoll} (stepped : e.senderStep env poll = .ok e') :
    e.cb.Stays e'.cb := by
  unfold senderStep at stepped
  split at stepped
  · obtain ⟨⟨task, cb⟩, ran, eq⟩ := bind_eq_ok.mp stepped
    obtain ⟨cc, rfl, -⟩ := ControlBlock.senderIterate_cases ran
    cases eq
    exact .of_same rfl rfl rfl
  · obtain ⟨⟨task, cb⟩, ran, eq⟩ := bind_eq_ok.mp stepped
    cases eq
    exact ControlBlock.senderProbe_stays ran
  · obtain ⟨⟨task, cb⟩, ran, eq⟩ := bind_eq_ok.mp stepped
    cases eq
    exact ControlBlock.senderTransmit_stays ran
  · cases stepped
    exact .of_same rfl rfl rfl
  · cases stepped
    exact .of_same rfl rfl rfl
  · obtain ⟨⟨task, cb⟩, ran, eq⟩ := bind_eq_ok.mp stepped
    cases eq
    exact ControlBlock.senderProbeAgain_stays ran
  · cases stepped
    exact .of_same rfl rfl rfl
  · cases stepped
    exact .of_same rfl rfl rfl

/-- **Every event keeps the addresses**, and what it transmits is between them. -/
theorem step_stays {event : Event} (stepped : e.step event = .ok e') : e.cb.Stays e'.cb := by
  cases event with
  | receive header data env =>
    obtain ⟨cb, ran, eq⟩ := bind_eq_ok.mp stepped
    cases eq
    exact ControlBlock.receive_stays ran
  | call c env =>
    cases c with
    | send buf =>
      obtain ⟨⟨result, cb⟩, ran, eq⟩ := bind_eq_ok.mp stepped
      have stays := ControlBlock.send_stays ran
      cases result with
      | ok u =>
        cases eq
        exact stays
      | error fail =>
        cases eq
        exact stays
    | close =>
      obtain ⟨cb, ran, eq⟩ := bind_eq_ok.mp stepped
      cases eq
      exact ControlBlock.close_stays ran
    | pollRecv =>
      simp only [step, call, ControlBlock.pollRecv] at stepped
      cases popped : e.cb.receiver.pop with
      | none =>
        simp only [popped, Except.ok.injEq] at stepped
        exact stepped ▸ .of_same rfl rfl rfl
      | some read =>
        simp only [popped, Except.ok.injEq] at stepped
        exact stepped ▸ .of_same rfl rfl rfl
    | sender poll => exact senderStep_stays stepped
    | acknowledger =>
      simp only [step, call] at stepped
      split at stepped
      · cases stepped
        exact .of_same rfl rfl rfl
      · obtain ⟨cb, ran, eq⟩ := bind_eq_ok.mp stepped
        cases eq
        exact ControlBlock.sendAck_stays ran
    | retransmitter =>
      simp only [step, call] at stepped
      split at stepped
      · cases stepped
        exact .of_same rfl rfl rfl
      · cases stepped
        exact .of_same rfl rfl rfl

end Endpoint

end Inetstack.Tcp
