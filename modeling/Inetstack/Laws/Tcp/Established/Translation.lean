import Mathlib.Data.List.InsertIdx
import Inetstack.Laws.Tcp.SequenceNumber
import Inetstack.Laws.Tcp.Established.Endpoint

/-!
# Translating sequence numbers

Moving both initial sequence numbers of a connection, and with them the numbers of every segment that
arrives, should move the numbers it keeps and sends and change nothing else: the code compares and
subtracts numbers of one origin only. `shift` moves a state, and each routine commutes with it.

There is one exception. `Sender::new` initialises SND.WL1, which holds a number of the peer, with a
number of its own. Until the first window update has overwritten it, the test in
`update_send_window` compares numbers of two origins, and its answer depends on how far apart the two
initial numbers are.
-/

namespace Inetstack.Tcp

open Machine (bind_eq_map bind_eq_map_of_same)

/-- How far the numbers move: our own, the peer's, and those in SND.WL1 and SND.WL2. -/
structure Shift where
  sent : SeqNumber
  received : SeqNumber
  lastUpdate : SeqNumber × SeqNumber

/-! ## Comparisons -/

namespace SeqNumber

/-- The comparisons read a difference, which a common offset leaves alone. -/
@[simp] theorem lt_shift (a b d : SeqNumber) : (a + d).lt (b + d) = a.lt b := by
  change decide (((a + d) - (b + d)).value.toInt32 < 0) = decide ((a - b).value.toInt32 < 0)
  rw [add_sub_add_right_eq_sub]

@[simp] theorem le_shift (a b d : SeqNumber) : (a + d).le (b + d) = a.le b := by
  change decide (((a + d) - (b + d)).value.toInt32 ≤ 0) = decide ((a - b).value.toInt32 ≤ 0)
  rw [add_sub_add_right_eq_sub]

@[simp] theorem ge_shift (a b d : SeqNumber) : (a + d).ge (b + d) = a.ge b := by
  change decide (((a + d) - (b + d)).value.toInt32 ≥ 0) = decide ((a - b).value.toInt32 ≥ 0)
  rw [add_sub_add_right_eq_sub]

end SeqNumber

/-! ## Moving a state -/

/-- A header with its own number and its acknowledgement moved. -/
def TcpHeader.shift (seq ack : SeqNumber) (header : TcpHeader) : TcpHeader :=
  { header with seqNum := header.seqNum + seq, ackNum := header.ackNum + ack }

/-- A segment of ours: its own number is ours, its acknowledgement the peer's. -/
def TcpSegment.shift (sent received : SeqNumber) (segment : TcpSegment) : TcpSegment :=
  { segment with tcpHdr := segment.tcpHdr.shift sent received }

/-- The log holds segments of ours. -/
def Runtime.shift (sent received : SeqNumber) (rt : Runtime) : Runtime :=
  { rt with transmitted := rt.transmitted.map (TcpSegment.shift sent received) }

/-- SND.UNA and SND.NXT are our own numbers; SND.WL1 and SND.WL2 have offsets of their own. -/
def Sender.shift (d : Shift) (s : Sender) : Sender :=
  { s with
    sendUnacked := s.sendUnacked + d.sent
    sendNext := s.sendNext + d.sent
    unsentSeqNo := s.unsentSeqNo + d.sent
    sendWindowLastUpdateSeq := s.sendWindowLastUpdateSeq + d.lastUpdate.1
    sendWindowLastUpdateAck := s.sendWindowLastUpdateAck + d.lastUpdate.2 }

def Receiver.shift (d : SeqNumber) (r : Receiver) : Receiver :=
  { r with readerNext := r.readerNext + d, receiveNext := r.receiveNext + d }

/-- An entry of the out-of-order store. -/
def shiftEntry (d : SeqNumber) (entry : SeqNumber × Buffer) : SeqNumber × Buffer :=
  (entry.1 + d, entry.2)

/-- The sender, the receiver and the store with their numbers moved, and everything else as it was. -/
def ControlBlock.shift {σ : Type} (d : Shift) (cb : ControlBlock σ) : ControlBlock σ :=
  { cb with
    rt := cb.rt.shift d.sent d.received
    sender := cb.sender.shift d
    outOfOrder := cb.outOfOrder.map (shiftEntry d.received)
    outOfOrderFin := cb.outOfOrderFin.map (· + d.received)
    receiver := cb.receiver.shift d.received }

/-- A segment of the peer on its way through `receive`. -/
def InSegment.shift (d : Shift) (seg : InSegment) : InSegment :=
  { seg with
    header := seg.header.shift d.received d.sent
    segStart := seg.segStart + d.received
    segEnd := seg.segEnd + d.received }

/-- What a pass over the store decides, with the numbers in it moved. -/
def Pass.shift (d : SeqNumber) : Pass → Pass
  | .discard => .discard
  | .insert actionIndex newStart buf => .insert actionIndex (newStart + d) buf
  | .encompass actionIndex newStart newEnd buf =>
    .encompass actionIndex (newStart + d) (newEnd + d) buf

/-- Where the background sender waits it holds a SND.NXT, which is one of our own numbers. -/
def SenderTask.shift (d : SeqNumber) : SenderTask → SenderTask
  | .awaitProbe sendNext => .awaitProbe (sendNext + d)
  | .probing sendNext buf remoteLinkAddr timeout =>
    .probing (sendNext + d) buf remoteLinkAddr timeout
  | .awaitSend sendNext winSz effectiveCwnd sentData =>
    .awaitSend (sendNext + d) winSz effectiveCwnd sentData
  | task => task

def History.shift (d : Shift) (history : History) : History :=
  { history with
    firstTransmissions := history.firstTransmissions.map (TcpSegment.shift d.sent d.received) }

/-- One end of a connection, its task and its history with the numbers moved. -/
def Endpoint.shift {σ : Type} (d : Shift) (e : Endpoint σ) : Endpoint σ where
  cb := e.cb.shift d
  task := e.task.shift d.sent
  history := e.history.shift d

/-- The same handshake with both initial sequence numbers moved. -/
def Opening.shift (sent received : SeqNumber) (o : Opening) : Opening :=
  { o with
    rt := o.rt.shift sent received
    receiverSeqNo := o.receiverSeqNo + received
    senderSeqNo := o.senderSeqNo + sent }

/-- An event with the numbers of an arriving segment moved: its own is the peer's, its
acknowledgement ours. -/
def Event.shift (sent received : SeqNumber) : Event → Event
  | .receive header data env => .receive (header.shift received sent) data env
  | event => event

/-! ## The acceptance test -/

namespace InSegment

variable (d : Shift)

/-- A segment that arrives with its numbers moved is the same segment, moved. -/
theorem arriving_shift (header : TcpHeader) (data : Buffer) :
    arriving (header.shift d.received d.sent) data = (arriving header data).shift d := by
  have last : ∀ n : UInt32,
      (if 0 < n then header.seqNum + d.received + SeqNumber.mk (n - 1)
        else header.seqNum + d.received) =
      (if 0 < n then header.seqNum + SeqNumber.mk (n - 1) else header.seqNum) + d.received := by
    intro n
    split
    · rw [add_right_comm]
    · rfl
  exact congrArg (fun segEnd => InSegment.mk (header.shift d.received d.sent) data
    (header.seqNum + d.received) segEnd (arriving header data).segLen) (last _)

/-- What lies before RCV.NXT is a distance, and is cut off alike. -/
theorem trimFront_shift (seg : InSegment) (receiveNext : SeqNumber) :
    (seg.shift d).trimFront (receiveNext + d.received) =
      (seg.trimFront receiveNext).map (shift d) := by
  have duplicate : (receiveNext + d.received - (seg.shift d).segStart) =
      receiveNext - seg.segStart := add_sub_add_right_eq_sub _ _ _
  unfold trimFront
  rw [duplicate]
  dsimp only
  have syn : (seg.shift d).header.syn = seg.header.syn := rfl
  rw [syn]
  split
  · apply bind_eq_map_of_same
    intro data
    simp only [Except.map, shift, TcpHeader.shift, add_right_comm]
  · apply bind_eq_map_of_same
    intro data
    simp only [Except.map, shift, TcpHeader.shift, add_right_comm]

/-- What lies past the window is a distance, and is cut off alike. -/
theorem trimBack_shift (seg : InSegment) (after : SeqNumber) :
    (seg.shift d).trimBack (after + d.received) = (seg.trimBack after).map (shift d) := by
  have excess : (seg.shift d).segEnd - (after + d.received) = seg.segEnd - after :=
    add_sub_add_right_eq_sub _ _ _
  have test : (seg.shift d).segEnd.ge (after + d.received) = seg.segEnd.ge after :=
    SeqNumber.ge_shift _ _ _
  have len : (seg.shift d).segLen = seg.segLen := rfl
  unfold trimBack
  rw [excess, test, len]
  dsimp only
  split
  · have fin : (seg.shift d).header.fin = seg.header.fin := rfl
    rw [fin]
    split
    · apply bind_eq_map_of_same
      intro data
      simp only [Except.map, shift, TcpHeader.shift, add_sub_right_comm]
    · apply bind_eq_map_of_same
      intro data
      simp only [Except.map, shift, TcpHeader.shift, add_sub_right_comm]
  · rfl

/-- **The acceptance test commutes with a shift.** -/
theorem accept_shift (receiveNext : SeqNumber) (window : UInt32) (header : TcpHeader)
    (data : Buffer) :
    accept (receiveNext + d.received) window (header.shift d.received d.sent) data =
      (accept receiveNext window header data).map (Option.map (shift d)) := by
  have start : (arriving (header.shift d.received d.sent) data).segStart =
      (arriving header data).segStart + d.received := rfl
  have last : (arriving (header.shift d.received d.sent) data).segEnd =
      (arriving header data).segEnd + d.received := by
    rw [arriving_shift]
    rfl
  have cut : ∀ seg : InSegment,
      ((seg.shift d).trimBack (receiveNext + SeqNumber.mk window + d.received) >>=
          fun seg => Except.ok (some seg)) =
        (seg.trimBack (receiveNext + SeqNumber.mk window) >>=
          fun seg => Except.ok (some seg)).map (Option.map (shift d)) := fun seg =>
    bind_eq_map (trimBack_shift d seg _) fun _ => rfl
  unfold accept
  dsimp only
  rw [start, last, add_right_comm receiveNext, SeqNumber.lt_shift, SeqNumber.lt_shift,
    SeqNumber.ge_shift, arriving_shift]
  simp only [add_left_inj]
  split
  · exact cut _
  split
  · split
    · rfl
    · exact bind_eq_map (trimFront_shift d _ receiveNext) cut
  split
  · rfl
  · exact cut _

end InSegment

/-! ## The out-of-order store -/

/-- A pass over the store compares the entries with the new segment, and all of them have moved alike. -/
theorem storePass_shift (d : SeqNumber) (len index : Nat) (newStart newEnd : SeqNumber) (buf : Buffer)
    (store : List (SeqNumber × Buffer)) :
    storePass len index (newStart + d) (newEnd + d) buf (store.map (shiftEntry d)) =
      (storePass len index newStart newEnd buf store).map (Pass.shift d) := by
  induction store generalizing index newStart buf with
  | nil => rfl
  | cons entry rest ih =>
    obtain ⟨storedStart, stored⟩ := entry
    simp only [List.map_cons, shiftEntry]
    unfold storePass
    dsimp only
    rw [add_right_comm storedStart]
    simp only [SeqNumber.lt_shift, SeqNumber.le_shift, add_sub_add_right_eq_sub]
    split
    · split
      · rfl
      split
      · rfl
      · exact bind_eq_map_of_same fun _ => rfl
    split
    · rfl
    split
    · exact ih _ _ _
    · apply bind_eq_map_of_same
      intro cut
      rw [add_right_comm newStart]
      exact ih _ _ _

/-- **Storing commutes with a shift.** -/
theorem storePasses_shift (d : SeqNumber) (passes : Nat) (newStart newEnd : SeqNumber) (buf : Buffer)
    (store : List (SeqNumber × Buffer)) :
    storePasses passes (newStart + d) (newEnd + d) buf (store.map (shiftEntry d)) =
      (storePasses passes newStart newEnd buf store).map (List.map (shiftEntry d)) := by
  induction passes generalizing newStart newEnd buf store with
  | zero => rfl
  | succ passes ih =>
    unfold storePasses
    rw [List.length_map]
    apply bind_eq_map (storePass_shift d _ _ _ _ _ _)
    intro pass
    cases pass with
    | discard => rfl
    | insert index start cut =>
      simp only [Pass.shift, Except.map]
      rw [List.map_take, List.map_insertIdx]
      rfl
    | encompass index start last cut =>
      simp only [Pass.shift]
      rw [List.eraseIdx_map]
      exact ih _ _ _ _

theorem Receiver.push_shift (d : SeqNumber) (r : Receiver) (buf : Buffer) :
    (r.shift d).push buf = (r.push buf).shift d := by
  simp only [push, shift, add_right_comm]

/-- **The drain commutes with a shift.** -/
theorem drainOutOfOrder_shift (d recvNext : SeqNumber) (receiver : Receiver)
    (store : List (SeqNumber × Buffer)) :
    drainOutOfOrder (recvNext + d) (receiver.shift d) (store.map (shiftEntry d)) =
      (((drainOutOfOrder recvNext receiver store).1.shift d,
        (drainOutOfOrder recvNext receiver store).2.1.map (shiftEntry d),
        (drainOutOfOrder recvNext receiver store).2.2)) := by
  induction store generalizing recvNext receiver with
  | nil => rfl
  | cons entry rest ih =>
    obtain ⟨start, buf⟩ := entry
    simp only [List.map_cons, shiftEntry]
    unfold drainOutOfOrder
    simp only [add_left_inj]
    split
    · rw [Receiver.push_shift, add_right_comm, ih]
    · rfl

/-! ## Headers, ACKs and the text -/

namespace ControlBlock

section Plain

variable {σ : Type} (d : Shift)

/-- The window is what is left of the buffer, whatever the numbers are. -/
theorem getReceiveWindowSize_shift (cb : ControlBlock σ) :
    (cb.shift d).getReceiveWindowSize = cb.getReceiveWindowSize := by
  have span : (cb.shift d).receiver.receiveNext - (cb.shift d).receiver.readerNext =
      cb.receiver.receiveNext - cb.receiver.readerNext := add_sub_add_right_eq_sub _ _ _
  unfold getReceiveWindowSize
  rw [span]
  rfl

/-- The header of an outgoing segment acknowledges RCV.NXT, which has moved. -/
theorem tcpHeader_shift (cb : ControlBlock σ) :
    (cb.shift d).tcpHeader = cb.tcpHeader.map (TcpHeader.shift 0 d.received) := by
  unfold tcpHeader hdrWindowSize
  rw [getReceiveWindowSize_shift]
  apply bind_eq_map_of_same
  intro w
  rfl

/-- A segment is logged with both of its numbers moved. -/
theorem emit_shift (cb : ControlBlock σ) (header : TcpHeader) (data : Buffer) (mac : MacAddress) :
    (cb.shift d).emit (header.shift d.sent d.received) data mac =
      (cb.emit header data mac).shift d := by
  simp only [emit, shift, Runtime.transmit, Runtime.shift, List.map_append, List.map_cons,
    List.map_nil]
  rfl

theorem sendAck_shift (cb : ControlBlock σ) (env : Env) :
    (cb.shift d).sendAck env = (cb.sendAck env).map (shift d) := by
  unfold sendAck
  apply bind_eq_map (tcpHeader_shift d cb)
  intro header
  cases env.remoteLinkAddr with
  | none => rfl
  | some mac =>
    have emitted := emit_shift d cb { header with seqNum := cb.sender.sendNext } [] mac
    exact congrArg Except.ok emitted

/-- In-order data, with whatever of the store it joins, moves the same bytes to the reader. -/
theorem receiveData_shift (cb : ControlBlock σ) (buf : Buffer) :
    (cb.shift d).receiveData buf = ((cb.receiveData buf).1, (cb.receiveData buf).2.shift d) := by
  have drained := drainOutOfOrder_shift d.received (cb.receiver.receiveNext + .ofLen buf.length)
    (cb.receiver.push buf) cb.outOfOrder
  unfold receiveData
  dsimp only
  rw [show (cb.shift d).receiver.receiveNext + SeqNumber.ofLen buf.length =
      cb.receiver.receiveNext + SeqNumber.ofLen buf.length + d.received from add_right_comm _ _ _,
    show (cb.shift d).receiver.push buf = (cb.receiver.push buf).shift d.received from
      Receiver.push_shift _ _ _,
    show (cb.shift d).outOfOrder = cb.outOfOrder.map (shiftEntry d.received) from rfl, drained,
    show (cb.shift d).outOfOrderFin.isSome = cb.outOfOrderFin.isSome from Option.isSome_map]
  rfl

theorem receiveFin_shift (cb : ControlBlock σ) (env : Env) :
    (cb.shift d).receiveFin env = (cb.receiveFin env).map (shift d) := by
  unfold receiveFin
  apply bind_eq_map_of_same
  intro state
  have acked := sendAck_shift d
    { cb with
      receiver := { cb.receiver with receiveNext := cb.receiver.receiveNext + SeqNumber.mk 1 }
      state := state } env
  rw [← acked]
  refine congrArg (fun cb : ControlBlock σ => cb.sendAck env) ?_
  simp only [shift, Receiver.shift, add_right_comm]

theorem scheduleAck_shift (cb : ControlBlock σ) (env : Env) :
    (cb.shift d).scheduleAck env = (cb.scheduleAck env).map (shift d) := by
  unfold scheduleAck
  rw [show (cb.shift d).ackDeadline = cb.ackDeadline from rfl]
  split
  · rfl
  · exact sendAck_shift d { cb with ackDeadline := none } env

/-- The in-order part of `receive`, with its data, its FIN and its ACK. -/
theorem receiveInOrder_shift (cb : ControlBlock σ) (env : Env) (seg : InSegment) :
    (cb.shift d).receiveInOrder env (seg.shift d) = (cb.receiveInOrder env seg).map (shift d) := by
  unfold receiveInOrder
  rw [show (seg.shift d).data = seg.data from rfl,
    show (seg.shift d).header.fin = seg.header.fin from rfl,
    show (cb.shift d).state = cb.state from rfl, receiveData_shift]
  dsimp only
  split
  · split
    · exact receiveFin_shift d _ env
    · exact scheduleAck_shift d _ env
  split
  · exact receiveFin_shift d cb env
  · rfl

/-- What is stored out of order, with the entries it replaces. -/
theorem storeOutOfOrderSegment_shift (cb : ControlBlock σ) (newStart newEnd : SeqNumber)
    (buf : Buffer) :
    (cb.shift d).storeOutOfOrderSegment (newStart + d.received) (newEnd + d.received) buf =
      (cb.storeOutOfOrderSegment newStart newEnd buf).map (shift d) := by
  unfold storeOutOfOrderSegment
  rw [show (cb.shift d).outOfOrder = cb.outOfOrder.map (shiftEntry d.received) from rfl,
    List.length_map]
  exact bind_eq_map (storePasses_shift _ _ _ _ _ _) fun _ => rfl

theorem receiveOutOfOrder_shift (cb : ControlBlock σ) (env : Env) (seg : InSegment) :
    (cb.shift d).receiveOutOfOrder env (seg.shift d) =
      (cb.receiveOutOfOrder env seg).map (shift d) := by
  have stored : ∀ (cb : ControlBlock σ) (last : SeqNumber),
      ((cb.shift d).storeOutOfOrderSegment (seg.segStart + d.received) (last + d.received) seg.data
          >>= fun cb => cb.sendAck env) =
        (cb.storeOutOfOrderSegment seg.segStart last seg.data >>=
          fun cb => cb.sendAck env).map (shift d) := fun cb last =>
    bind_eq_map (storeOutOfOrderSegment_shift d cb _ _ _) fun cb => sendAck_shift d cb env
  unfold receiveOutOfOrder
  rw [show (seg.shift d).segLen = seg.segLen from rfl,
    show (seg.shift d).header.fin = seg.header.fin from rfl,
    show (cb.shift d).state = cb.state from rfl]
  split
  · split
    · dsimp only
      split
      · have cut : (seg.shift d).segEnd - SeqNumber.mk 1 =
            seg.segEnd - SeqNumber.mk 1 + d.received := add_sub_right_comm _ _ _
        rw [cut]
        exact stored (cb.storeOutOfOrderFin seg.segEnd) _
      · exact sendAck_shift d (cb.storeOutOfOrderFin seg.segEnd) env
    · exact stored cb _
  · rfl

end Plain

/-! ## The ACK and the window update -/

/-- The two connections give the same answer to whether a segment may update the window, or the segment
carries the window they have already. -/
def sameUpdate (s s' : Sender) (sent received : SeqNumber) (header : TcpHeader) : Bool :=
  s.windowUpdateIsCurrent header == s'.windowUpdateIsCurrent (header.shift received sent) ||
    s.sendWindow == header.windowSize.toUInt32 <<< s.windowScale.toUInt32

/-- What SND.WL1 and SND.WL2 hold after a segment that may update the window. -/
def usedUpdate (s : Sender) (header : TcpHeader) : SeqNumber × SeqNumber :=
  if s.windowUpdateIsCurrent header then (header.seqNum, header.ackNum) else s.lastUpdate

/-- The update changes the window and the two numbers, and nothing else. -/
theorem updateSendWindow_eq (s : Sender) (header : TcpHeader) :
    s.updateSendWindow header = { s with
      sendWindow := if s.windowUpdateIsCurrent header then
          header.windowSize.toUInt32 <<< s.windowScale.toUInt32
        else s.sendWindow
      sendWindowLastUpdateSeq := (usedUpdate s header).1
      sendWindowLastUpdateAck := (usedUpdate s header).2 } := by
  unfold Sender.updateSendWindow usedUpdate
  cases s.windowUpdateIsCurrent header with
  | true => rfl
  | false => rfl

/-- What an update leaves: how far SND.WL1 and SND.WL2 are apart then. -/
def afterUpdate (d : Shift) (s : Sender) (header : TcpHeader) : Shift :=
  { d with lastUpdate :=
      usedUpdate (s.shift d) (header.shift d.received d.sent) - usedUpdate s header }

/-- **The two connections have the same window after an update exactly where `sameUpdate` answers so.** -/
theorem sameUpdate_iff (d : Shift) (s : Sender) (header : TcpHeader) :
    sameUpdate s (s.shift d) d.sent d.received header = true ↔
      ((s.shift d).updateSendWindow (header.shift d.received d.sent)).sendWindow =
        (s.updateSendWindow header).sendWindow := by
  have window : (s.shift d).sendWindow = s.sendWindow := rfl
  have scaled : (header.shift d.received d.sent).windowSize.toUInt32 <<<
      (s.shift d).windowScale.toUInt32 = header.windowSize.toUInt32 <<< s.windowScale.toUInt32 := rfl
  rw [updateSendWindow_eq, updateSendWindow_eq, sameUpdate, Bool.or_eq_true, beq_iff_eq, beq_iff_eq]
  dsimp only
  rw [window, scaled]
  cases s.windowUpdateIsCurrent header <;>
    cases (s.shift d).windowUpdateIsCurrent (header.shift d.received d.sent) <;> simp [eq_comm]

/-- The window is updated alike, whatever SND.WL1 and SND.WL2 hold afterwards. -/
theorem updateSendWindow_shift (d : Shift) (s : Sender) (header : TcpHeader)
    (same : sameUpdate s (s.shift d) d.sent d.received header = true) :
    (s.shift d).updateSendWindow (header.shift d.received d.sent) =
      (s.updateSendWindow header).shift (afterUpdate d s header) := by
  have window := (sameUpdate_iff d s header).mp same
  have numbers : usedUpdate (s.shift d) (header.shift d.received d.sent) =
      usedUpdate s header + (afterUpdate d s header).lastUpdate :=
    Prod.ext (add_sub_cancel _ _).symm (add_sub_cancel _ _).symm
  rw [updateSendWindow_eq, updateSendWindow_eq] at window ⊢
  dsimp only at window
  rw [window, numbers]
  rfl

variable (d : Shift)

/-- **The processing of an ACK commutes with a shift**, when the window test answers the same. -/
theorem processAck_shift (cb : ControlBlock CongestionControl.None) (now : Instant)
    (header : TcpHeader)
    (same : cb.sender.sendUnacked.lt header.ackNum = true →
      header.ackNum.le cb.sender.sendNext = true →
      sameUpdate cb.sender (cb.sender.shift d) d.sent d.received header = true) :
    ∃ w, (cb.shift d).processAck now (header.shift d.received d.sent) =
      (cb.processAck now header).map (Prod.map id (shift { d with lastUpdate := w })) := by
  have una : (cb.shift d).sender.sendUnacked = cb.sender.sendUnacked + d.sent := rfl
  have next : (cb.shift d).sender.sendNext = cb.sender.sendNext + d.sent := rfl
  have ack : (header.shift d.received d.sent).ackNum = header.ackNum + d.sent := rfl
  unfold processAck
  dsimp only
  rw [una, next, ack, SeqNumber.lt_shift, SeqNumber.le_shift, add_sub_add_right_eq_sub]
  simp only [add_left_inj]
  split
  next newer =>
    split
    next known =>
      refine ⟨(afterUpdate d cb.sender header).lastUpdate, bind_eq_map_of_same ?_⟩
      intro removed
      have updated := updateSendWindow_shift d
        { cb.sender with unackedQueue := removed.1, sendUnacked := header.ackNum } header
        (same newer known)
      split
      · refine congrArg (fun sender => Except.ok (true, ({ cb.shift d with
          cc := cb.cc, sender := sender, rto := removed.2, retransmitDeadline := none
          state := stateAfterAllAcked cb.state } : ControlBlock CongestionControl.None))) updated
      · refine congrArg (fun sender => Except.ok (true, ({ cb.shift d with
          cc := cb.cc, sender := sender, rto := removed.2
          retransmitDeadline := some (now + removed.2.estimate) } :
            ControlBlock CongestionControl.None))) updated
    next => exact ⟨d.lastUpdate, rfl⟩
  next => exact ⟨d.lastUpdate, rfl⟩

/-- **`receive` commutes with a shift**, when the window test answers the same. -/
theorem receive_shift (cb : ControlBlock CongestionControl.None) (env : Env) (header : TcpHeader)
    (data : Buffer)
    (same : ∀ seg, InSegment.accept cb.receiver.receiveNext cb.getReceiveWindowSize header data =
        .ok (some seg) → seg.Acks →
      cb.sender.sendUnacked.lt seg.header.ackNum = true →
      seg.header.ackNum.le cb.sender.sendNext = true →
      sameUpdate cb.sender (cb.sender.shift d) d.sent d.received seg.header = true) :
    ∃ w, (cb.shift d).receive env (header.shift d.received d.sent) data =
      (cb.receive env header data).map (shift { d with lastUpdate := w }) := by
  unfold receive
  rw [getReceiveWindowSize_shift,
    show (cb.shift d).receiver.receiveNext = cb.receiver.receiveNext + d.received from rfl,
    InSegment.accept_shift]
  cases accepted : InSegment.accept cb.receiver.receiveNext cb.getReceiveWindowSize header data with
  | error fault => exact ⟨d.lastUpdate, rfl⟩
  | ok answer =>
    cases answer with
    | none =>
      refine ⟨d.lastUpdate, ?_⟩
      have acked := sendAck_shift d cb env
      change (if header.rst then Except.ok (cb.shift d) else (cb.shift d).sendAck env) =
        (if header.rst then Except.ok cb else cb.sendAck env).map (shift d)
      split
      · rfl
      · exact acked
    | some seg =>
      change ∃ w, (cb.shift d).receiveInWindow env (seg.shift d) =
        (cb.receiveInWindow env seg).map (shift { d with lastUpdate := w })
      unfold receiveInWindow
      rw [show (seg.shift d).header = seg.header.shift d.received d.sent from rfl,
        show (seg.header.shift d.received d.sent).rst = seg.header.rst from rfl,
        show (seg.header.shift d.received d.sent).syn = seg.header.syn from rfl,
        show (seg.header.shift d.received d.sent).ack = seg.header.ack from rfl]
      split
      -- an RST and a SYN leave the numbers of the last update alone
      · refine ⟨d.lastUpdate, ?_⟩
        unfold receiveRst
        rw [show (cb.shift d).state = cb.state from rfl]
        split <;> rfl
      next noRst =>
      split
      · exact ⟨d.lastUpdate, rfl⟩
      next noSyn =>
      split
      · exact ⟨d.lastUpdate, rfl⟩
      next ack =>
      -- only the ACK can move WL1 and WL2, and their new offsets are `w`
      have acks : seg.Acks := ⟨by simpa using noRst, by simpa using noSyn, by simpa using ack⟩
      obtain ⟨w, processed⟩ := processAck_shift d cb env.now seg.header (same seg accepted acks)
      refine ⟨w, bind_eq_map processed ?_⟩
      intro went
      obtain ⟨go, cb₁⟩ := went
      have atNext : (seg.shift d).segStart = (cb.shift d).receiver.receiveNext ↔
          seg.segStart = cb.receiver.receiveNext := add_left_inj _
      cases go with
      | false => exact sendAck_shift { d with lastUpdate := w } cb₁ env
      | true =>
        change (if (seg.shift d).segStart = (cb.shift d).receiver.receiveNext then
            (cb₁.shift { d with lastUpdate := w }).receiveInOrder env (seg.shift d)
          else (cb₁.shift { d with lastUpdate := w }).receiveOutOfOrder env (seg.shift d)) =
          Except.map _ (if seg.segStart = cb.receiver.receiveNext then cb₁.receiveInOrder env seg
            else cb₁.receiveOutOfOrder env seg)
        simp only [atNext]
        split
        · exact receiveInOrder_shift { d with lastUpdate := w } cb₁ env seg
        · exact receiveOutOfOrder_shift { d with lastUpdate := w } cb₁ env seg

/-! ## Sending -/

/-- What is in flight is a distance. -/
theorem sentData_shift (s : Sender) : (s.shift d).sentData = s.sentData :=
  congrArg SeqNumber.value (add_sub_add_right_eq_sub s.sendNext s.sendUnacked d.sent)

/-- SND.NXT moves on past a segment that waits for its ACK. -/
theorem pushed_shift (s : Sender) (n : SeqNumber) (segment : UnackedSegment) :
    Sender.pushUnackedSegment { s.shift d with sendNext := (s.shift d).sendNext + n } segment =
      (Sender.pushUnackedSegment { s with sendNext := s.sendNext + n } segment).shift d := by
  simp only [Sender.pushUnackedSegment, Sender.shift, add_right_comm]

/-- A segment goes out, with the sender as it leaves it. -/
theorem sent_shift (cb : ControlBlock CongestionControl.None) (header : TcpHeader) (data : Buffer)
    (mac : MacAddress) (sender : Sender) (now : Instant) :
    (({ (cb.shift d).emit (header.shift d.sent d.received) data mac with
        sender := sender.shift d } : ControlBlock CongestionControl.None).startRetransmitTimer now) =
      (({ cb.emit header data mac with sender := sender } :
        ControlBlock CongestionControl.None).startRetransmitTimer now).shift d := by
  rw [emit_shift]
  rfl

/-- A buffer that goes out at once takes the next numbers, moved. -/
theorem sendImmediate_shift (cb : ControlBlock CongestionControl.None) (now : Instant)
    (buf : Buffer) (mac : MacAddress) :
    (cb.shift d).sendImmediate now buf mac = (cb.sendImmediate now buf mac).map (shift d) := by
  have moved : ∀ (n : SeqNumber) (segment : UnackedSegment),
      Sender.pushUnackedSegment { cb.sender.shift d with
        sendNext := (cb.sender.shift d).sendNext + n
        unsentSeqNo := (cb.sender.shift d).unsentSeqNo + n } segment =
      (Sender.pushUnackedSegment { cb.sender with
        sendNext := cb.sender.sendNext + n
        unsentSeqNo := cb.sender.unsentSeqNo + n } segment).shift d := by
    intro n segment
    simp only [Sender.pushUnackedSegment, Sender.shift, add_right_comm]
  unfold sendImmediate
  apply bind_eq_map (tcpHeader_shift d cb)
  intro header
  have sent := sent_shift d cb
    { header with seqNum := cb.sender.sendNext, fin := buf.isEmpty } buf mac
    (Sender.pushUnackedSegment { cb.sender with
      sendNext := cb.sender.sendNext + SeqNumber.mk (if buf.isEmpty then 1 else .ofNat buf.length)
      unsentSeqNo := cb.sender.unsentSeqNo +
        SeqNumber.mk (if buf.isEmpty then 1 else .ofNat buf.length) }
      { bytes := buf, initialTx := some now }) now
  rw [← moved] at sent
  exact congrArg Except.ok sent

theorem sendLater_shift (cb : ControlBlock CongestionControl.None) (buf : Buffer) :
    (cb.shift d).sendLater buf = Prod.map id (shift d) (cb.sendLater buf) := by
  unfold sendLater
  rw [show (cb.shift d).sender.unsentQueue = cb.sender.unsentQueue from rfl]
  split
  · rfl
  · simp only [Prod.map, shift, Sender.shift, id, add_right_comm]

/-- **`send` commutes with a shift.** -/
theorem send_shift (cb : ControlBlock CongestionControl.None) (env : Env) (buf : Buffer) :
    (cb.shift d).send env buf = (cb.send env buf).map (Prod.map id (shift d)) := by
  have later : (Except.ok ((cb.shift d).sendLater buf) : Except Fault _) =
      Except.map (Prod.map id (shift d)) (.ok (cb.sendLater buf)) :=
    congrArg Except.ok (sendLater_shift d cb buf)
  have room : (cb.shift d).roomToSend buf = cb.roomToSend buf := by
    unfold roomToSend
    rw [show (cb.shift d).sender.sentData = cb.sender.sentData from sentData_shift d cb.sender]
    rfl
  -- the congestion control's hook changes nothing, so each side tests the block it was given
  have idle (cb : ControlBlock CongestionControl.None) :
      { cb with cc := CongestionControl.onCwndCheckBeforeSend env.now cb.cc } = cb := rfl
  unfold send
  simp only [idle]
  rw [show (cb.shift d).userIsDoneSending = cb.userIsDoneSending from rfl,
    show (cb.shift d).sender.unsentQueue = cb.sender.unsentQueue from rfl]
  split
  · rfl
  split
  · rfl
  split
  · rw [room]
    split
    · exact bind_eq_map (sendImmediate_shift d cb env.now buf _) fun _ => rfl
    · exact later
  · exact later

/-- `close` queues or sends a FIN alike. -/
theorem close_shift (cb : ControlBlock CongestionControl.None) (env : Env) :
    (cb.shift d).close env = (cb.close env).map (shift d) := by
  unfold close
  rw [show (cb.shift d).userIsDoneSending = cb.userIsDoneSending from rfl]
  split
  · rfl
  · apply bind_eq_map (send_shift d cb env [])
    intro sent
    obtain ⟨result, cb₁⟩ := sent
    cases result <;> rfl

/-! ## The background sender -/

/-- An iteration of the background sender finds the same to do, and waits with its SND.NXT moved. -/
theorem senderIterate_shift (cb : ControlBlock CongestionControl.None) (now : Instant) :
    (cb.shift d).senderIterate now =
      (cb.senderIterate now).map (Prod.map (SenderTask.shift d.sent) (shift d)) := by
  have unsent : ((cb.shift d).sender.sendNext = (cb.shift d).sender.unsentSeqNo) =
      (cb.sender.sendNext = cb.sender.unsentSeqNo) := propext (add_left_inj _)
  have sent : (cb.shift d).sender.sentData = cb.sender.sentData := sentData_shift d cb.sender
  unfold senderIterate
  simp only [unsent]
  split
  · rfl
  rw [show (cb.shift d).sender.sendWindow = cb.sender.sendWindow from rfl]
  split
  · rfl
  rw [sent, show (cb.shift d).sender.topSizeUnsent = cb.sender.topSizeUnsent from rfl,
    show (cb.shift d).sender.mss = cb.sender.mss from rfl,
    show (cb.shift d).cc = cb.cc from rfl]
  cases cb.sender.topSizeUnsent with
  | none => rfl
  | some size =>
    dsimp only
    split <;> rfl

theorem popOneUnsentByte_shift (s : Sender) :
    (s.shift d).popOneUnsentByte =
      s.popOneUnsentByte.map (Option.map (Prod.map id (Sender.shift d))) := by
  unfold Sender.popOneUnsentByte
  rw [show (s.shift d).unsentQueue = s.unsentQueue from rfl]
  cases s.unsentQueue with
  | nil => rfl
  | cons buf rest =>
    apply bind_eq_map_of_same
    intro left
    exact bind_eq_map_of_same fun byte => rfl

/-- The first probe of a shut window takes the same byte off the queue. -/
theorem senderProbe_shift (cb : ControlBlock CongestionControl.None) (now : Instant)
    (sendNext : SeqNumber) (mac : MacAddress) :
    (cb.shift d).senderProbe now (sendNext + d.sent) mac =
      (cb.senderProbe now sendNext mac).map (Prod.map (SenderTask.shift d.sent) (shift d)) := by
  unfold senderProbe
  apply bind_eq_map (popOneUnsentByte_shift d cb.sender)
  intro popped
  cases popped with
  | none => rfl
  | some popped =>
    obtain ⟨buf, sender⟩ := popped
    simp only [Option.map_some, Prod.map, pushed_shift, id]
    apply bind_eq_map (tcpHeader_shift d { cb with
      sender := Sender.pushUnackedSegment { sender with sendNext := sender.sendNext + SeqNumber.mk 1 }
        { bytes := buf, initialTx := some now } })
    intro header
    have emitted := emit_shift d { cb with
      sender := Sender.pushUnackedSegment { sender with sendNext := sender.sendNext + SeqNumber.mk 1 }
        { bytes := buf, initialTx := some now } } { header with seqNum := sendNext } buf mac
    exact congrArg (fun cb => Except.ok (SenderTask.probing (sendNext + d.sent) buf mac 1, cb)) emitted

theorem senderProbeAgain_shift (cb : ControlBlock CongestionControl.None) (sendNext : SeqNumber)
    (buf : Buffer) (mac : MacAddress) (timeout : Duration) :
    (cb.shift d).senderProbeAgain (sendNext + d.sent) buf mac timeout =
      (cb.senderProbeAgain sendNext buf mac timeout).map
        (Prod.map (SenderTask.shift d.sent) (shift d)) := by
  unfold senderProbeAgain
  apply bind_eq_map (tcpHeader_shift d cb)
  intro header
  have emitted := emit_shift d cb { header with seqNum := sendNext } buf mac
  exact congrArg
    (fun cb => Except.ok (SenderTask.probing (sendNext + d.sent) buf mac (timeout * 2), cb)) emitted

theorem popUnsent_shift (s : Sender) (maxBytes : Nat) :
    (s.shift d).popUnsent maxBytes = (s.popUnsent maxBytes).map (Prod.map id (Sender.shift d)) := by
  unfold Sender.popUnsent
  rw [show (s.shift d).unsentQueue = s.unsentQueue from rfl]
  cases s.unsentQueue with
  | nil => rfl
  | cons buf rest =>
    dsimp only
    split <;> rfl

/-- The transmission after the ARP answer cuts the same piece off the queue. -/
theorem senderTransmit_shift (cb : ControlBlock CongestionControl.None) (now : Instant)
    (sendNext : SeqNumber) (winSz effectiveCwnd sentData : UInt32) (mac : MacAddress) :
    (cb.shift d).senderTransmit now (sendNext + d.sent) winSz effectiveCwnd sentData mac =
      (cb.senderTransmit now sendNext winSz effectiveCwnd sentData mac).map
        (Prod.map (SenderTask.shift d.sent) (shift d)) := by
  unfold senderTransmit
  rw [show (cb.shift d).maxSize winSz effectiveCwnd sentData =
      cb.maxSize winSz effectiveCwnd sentData from rfl,
    show (cb.shift d).sender = cb.sender.shift d from rfl, popUnsent_shift]
  cases cb.sender.popUnsent (cb.maxSize winSz effectiveCwnd sentData) with
  | none => rfl
  | some popped =>
    obtain ⟨data, sender⟩ := popped
    apply bind_eq_map (tcpHeader_shift d { cb with sender := sender })
    intro header
    have sent := sent_shift d { cb with sender := sender }
      { header with seqNum := sendNext, fin := data.isEmpty } data mac
      (Sender.pushUnackedSegment { sender with
        sendNext := sender.sendNext +
          SeqNumber.mk (if data.isEmpty then 1 else .ofNat data.length) }
        { bytes := data, initialTx := some now }) now
    rw [← pushed_shift] at sent
    exact congrArg (fun cb => Except.ok (SenderTask.top, cb)) sent

end ControlBlock

namespace Endpoint

section Shift

variable (d : Shift)

/-- What is recorded of a call is recorded moved, whatever the offsets of WL1 and WL2 are by then. -/
theorem after_shift (e : Endpoint CongestionControl.None) (first : Bool)
    (cb : ControlBlock CongestionControl.None) (task : SenderTask) (w : SeqNumber × SeqNumber) :
    (e.shift d).after first (cb.shift { d with lastUpdate := w }) (task.shift d.sent) =
      (e.after first cb task).shift { d with lastUpdate := w } := by
  have new : (((cb.rt.transmitted.map (TcpSegment.shift d.sent d.received)).drop
        (e.cb.rt.transmitted.map (TcpSegment.shift d.sent d.received)).length).filter
          TcpSegment.carriesText) =
      ((cb.rt.transmitted.drop e.cb.rt.transmitted.length).filter TcpSegment.carriesText).map
        (TcpSegment.shift d.sent d.received) := by
    rw [List.length_map, ← List.map_drop, List.filter_map]
    rfl
  have used : (cb.sender.sendNext + d.sent) - (e.cb.sender.sendNext + d.sent) =
      cb.sender.sendNext - e.cb.sender.sendNext := add_sub_add_right_eq_sub _ _ _
  have history : (e.shift d).record first (cb.shift { d with lastUpdate := w }) =
      (e.record first cb).shift { d with lastUpdate := w } := by
    unfold record
    dsimp only
    rw [show (cb.shift { d with lastUpdate := w }).rt.transmitted =
        cb.rt.transmitted.map (TcpSegment.shift d.sent d.received) from rfl,
      show (e.shift d).cb.rt.transmitted =
        e.cb.rt.transmitted.map (TcpSegment.shift d.sent d.received) from rfl,
      new,
      show (cb.shift { d with lastUpdate := w }).sender.sendNext - (e.shift d).cb.sender.sendNext =
        cb.sender.sendNext - e.cb.sender.sendNext from used]
    unfold History.shift
    dsimp only
    rw [List.map_append]
    cases first <;> rfl
  unfold after
  rw [history]
  rfl

/-- A computation of a task and a control block, recorded. -/
theorem recorded_shift (e : Endpoint CongestionControl.None) (first : Bool)
    {x x' : Except Fault (SenderTask × ControlBlock CongestionControl.None)}
    (same : x' = x.map (Prod.map (SenderTask.shift d.sent) (ControlBlock.shift d))) :
    (x' >>= fun result => Except.ok ((e.shift d).after first result.2 result.1)) =
      (x >>= fun result => Except.ok (e.after first result.2 result.1)).map (shift d) :=
  bind_eq_map same fun result =>
    congrArg Except.ok (after_shift d e first result.2 result.1 d.lastUpdate)

/-- A poll of the background sender, wherever the task stands. -/
theorem senderStep_shift (e : Endpoint CongestionControl.None) (env : Env) (poll : SenderPoll) :
    (e.shift d).senderStep env poll = (e.senderStep env poll).map (shift d) := by
  obtain ⟨cb, task, history⟩ := e
  cases task with
  | top =>
    cases poll with
    | iterate =>
      exact recorded_shift d ⟨cb, .top, history⟩ true (ControlBlock.senderIterate_shift d cb env.now)
    | arpReply reply => rfl
    | probeTimeout => rfl
    | windowChanged => rfl
  | awaitProbe sendNext =>
    cases poll with
    | arpReply reply =>
      cases reply with
      | ok mac =>
        exact recorded_shift d ⟨cb, .awaitProbe sendNext, history⟩ true
          (ControlBlock.senderProbe_shift d cb env.now sendNext mac)
      | error fail => rfl
    | iterate => rfl
    | probeTimeout => rfl
    | windowChanged => rfl
  | probing sendNext buf mac timeout =>
    cases poll with
    | probeTimeout =>
      exact recorded_shift d ⟨cb, .probing sendNext buf mac timeout, history⟩ false
        (ControlBlock.senderProbeAgain_shift d cb sendNext buf mac timeout)
    | arpReply reply => cases reply <;> rfl
    | iterate => rfl
    | windowChanged => rfl
  | awaitSend sendNext winSz effectiveCwnd sentData =>
    cases poll with
    | arpReply reply =>
      cases reply with
      | ok mac =>
        exact recorded_shift d ⟨cb, .awaitSend sendNext winSz effectiveCwnd sentData, history⟩ true
          (ControlBlock.senderTransmit_shift d cb env.now sendNext winSz effectiveCwnd sentData mac)
      | error fail => rfl
    | iterate => rfl
    | probeTimeout => rfl
    | windowChanged => rfl
  | terminated fail => cases poll <;> rfl

/-- **Every call commutes with a shift.** -/
theorem call_shift (e : Endpoint CongestionControl.None) (env : Env) (c : Call) :
    (e.shift d).call env c = (e.call env c).map (shift d) := by
  have recorded : ∀ (first : Bool) (cb : ControlBlock CongestionControl.None),
      (e.shift d).after first (cb.shift d) (e.shift d).task =
        (e.after first cb e.task).shift d := fun first cb =>
    after_shift d e first cb e.task d.lastUpdate
  cases c with
  | send buf =>
    apply bind_eq_map (ControlBlock.send_shift d e.cb env buf)
    intro sent
    obtain ⟨result, cb⟩ := sent
    have after := recorded true cb
    cases result with
    | ok u =>
      refine congrArg (fun e : Endpoint CongestionControl.None => Except.ok
        { e with history := { e.history with accepted := e.history.accepted ++ [buf] } }) after
    | error fail => exact congrArg Except.ok after
  | close =>
    exact bind_eq_map (ControlBlock.close_shift d e.cb env) fun cb =>
      congrArg Except.ok (recorded true cb)
  | pollRecv =>
    simp only [call, ControlBlock.pollRecv, Receiver.pop]
    rw [show (e.shift d).cb.receiver.recvQueue = e.cb.receiver.recvQueue from rfl]
    cases e.cb.receiver.recvQueue with
    | nil => rfl
    | cons buf rest =>
      have after := recorded false { e.cb with receiver := { e.cb.receiver with
        recvQueue := rest, readerNext := e.cb.receiver.readerNext + .ofLen buf.length } }
      -- reading moves `readerNext` by the length of the buffer
      have moved : (ControlBlock.shift d { e.cb with receiver := { e.cb.receiver with
          recvQueue := rest, readerNext := e.cb.receiver.readerNext + .ofLen buf.length } }) =
          { (e.shift d).cb with receiver := { (e.shift d).cb.receiver with
            recvQueue := rest
            readerNext := (e.shift d).cb.receiver.readerNext + .ofLen buf.length } } := by
        simp only [ControlBlock.shift, shift, Receiver.shift, add_right_comm]
      rw [moved] at after
      exact congrArg (fun e : Endpoint CongestionControl.None => Except.ok
        { e with history := { e.history with delivered := e.history.delivered ++ [buf] } }) after
  | sender poll => exact senderStep_shift d e env poll
  | acknowledger =>
    have acked : ((e.shift d).cb.sendAck env >>= fun cb =>
          Except.ok ((e.shift d).after false cb (e.shift d).task)) =
        (e.cb.sendAck env >>= fun cb => Except.ok (e.after false cb e.task)).map (shift d) :=
      bind_eq_map (ControlBlock.sendAck_shift d e.cb env) fun cb =>
        congrArg Except.ok (recorded false cb)
    obtain ⟨cb, task, history⟩ := e
    cases task with
    | terminated fail => rfl
    | _ => exact acked
  | retransmitter =>
    have timeout := congrArg (Except.ok (ε := Fault)) (recorded false (e.cb.retransmitTimeout env.now))
    obtain ⟨cb, task, history⟩ := e
    cases task with
    | terminated fail => rfl
    | _ => exact timeout

end Shift

/-- The endpoint is another one with its numbers moved. -/
def Shifted (sent received : SeqNumber) (e e' : Endpoint CongestionControl.None) : Prop :=
  ∃ w, e' = e.shift ⟨sent, received, w⟩

/-- Where the ACK of an arriving segment acknowledges something new, the two connections agree on
whether the segment may update the window, or have the window it carries already. -/
def updatesAlike (sent received : SeqNumber)
    (pair : Endpoint CongestionControl.None × Endpoint CongestionControl.None) : Event → Bool
  | .receive header data _ =>
    match InSegment.accept pair.1.cb.receiver.receiveNext pair.1.cb.getReceiveWindowSize header
      data with
    | .ok (some seg) =>
      !(!seg.header.rst && !seg.header.syn && seg.header.ack &&
          pair.1.cb.sender.sendUnacked.lt seg.header.ackNum &&
          seg.header.ackNum.le pair.1.cb.sender.sendNext) ||
        ControlBlock.sameUpdate pair.1.cb.sender pair.2.cb.sender sent received seg.header
    | _ => true
  | .call _ _ => true

/-- **One event, in two connections.** -/
theorem step_shifted {sent received : SeqNumber} {e e' : Endpoint CongestionControl.None}
    {event : Event} (h : Shifted sent received e e')
    (alike : updatesAlike sent received (e, e') event = true) :
    Machine.Agree (Shifted sent received) (e.step event) (e'.step (event.shift sent received)) := by
  obtain ⟨w, rfl⟩ := h
  cases event with
  | call c env =>
    exact .of_map (call_shift ⟨sent, received, w⟩ e env c) fun _ => ⟨w, rfl⟩
  | receive header data env =>
    obtain ⟨w', received'⟩ := ControlBlock.receive_shift ⟨sent, received, w⟩ e.cb env header data (by
      intro seg accepted acks newer known
      have answer : ControlBlock.sameUpdate e.cb.sender (e.shift ⟨sent, received, w⟩).cb.sender sent
          received seg.header = true := by
        simpa [updatesAlike, accepted, acks.rst, acks.syn, acks.ack, newer, known] using alike
      exact answer)
    refine .of_map (g := shift ⟨sent, received, w'⟩) ?_ fun _ => ⟨w', rfl⟩
    exact bind_eq_map received' fun cb =>
      congrArg Except.ok (after_shift ⟨sent, received, w⟩ e false cb e.task w')

/-- What the two connections have in common: states, queues, windows and tasks are the same, and the
numbers in the store and in the segments emitted are moved. -/
structure SameUpToShift (sent received : SeqNumber) (e e' : Endpoint CongestionControl.None) :
    Prop where
  state : e'.cb.state = e.cb.state
  recvQueue : e'.cb.receiver.recvQueue = e.cb.receiver.recvQueue
  outOfOrder : e'.cb.outOfOrder = e.cb.outOfOrder.map (shiftEntry received)
  unackedQueue : e'.cb.sender.unackedQueue = e.cb.sender.unackedQueue
  unsentQueue : e'.cb.sender.unsentQueue = e.cb.sender.unsentQueue
  sendWindow : e'.cb.sender.sendWindow = e.cb.sender.sendWindow
  sendUnacked : e'.cb.sender.sendUnacked = e.cb.sender.sendUnacked + sent
  sendNext : e'.cb.sender.sendNext = e.cb.sender.sendNext + sent
  readerNext : e'.cb.receiver.readerNext = e.cb.receiver.readerNext + received
  receiveNext : e'.cb.receiver.receiveNext = e.cb.receiver.receiveNext + received
  delivered : e'.history.delivered = e.history.delivered
  emitted : e'.cb.rt.transmitted = e.cb.rt.transmitted.map (TcpSegment.shift sent received)

/-- A shift that leaves WL1 and WL2 offsets of their own shows in these two only, which the user never
sees. -/
theorem Shifted.same {sent received : SeqNumber} {e e' : Endpoint CongestionControl.None}
    (h : Shifted sent received e e') : SameUpToShift sent received e e' := by
  obtain ⟨w, rfl⟩ := h
  exact ⟨rfl, rfl, rfl, rfl, rfl, rfl, rfl, rfl, rfl, rfl, rfl, rfl⟩

/-- **Translation invariance**, where the window tests answer alike. Two connections that differ in
their initial sequence numbers, and take the same events with the numbers moved, are the same up to
the move after every event, and stop with the same fault if they stop. -/
theorem translation_invariance (o : Opening) (sent received : SeqNumber) (events : List Event)
    (alike : Machine.Admits (Machine.pair step step (Event.shift sent received))
      (updatesAlike sent received · · = true) (opened o, opened (o.shift sent received)) events) (n : Nat) :
    Machine.Agree (SameUpToShift sent received) ((opened o).run (events.take n))
      ((opened (o.shift sent received)).run ((events.take n).map (Event.shift sent received))) := by
  refine Machine.Agree.mono (fun _ _ => Shifted.same) ?_
  -- SND.WL1 and SND.WL2 start out moved like our own numbers
  exact Machine.run_agree (R := Shifted sent received) step_shifted ⟨(sent, sent), rfl⟩ (alike.take n)

/-- A byte and its ACK, with the peer's numbers moved by 100 and our own by 7. -/
def echoEvents : List Event :=
  [.call (.send [1]) sampleEnv, .receive (sampleHeader 50 41 10) [5] sampleEnv]

/-- The window of the ACK is adopted by both connections. -/
theorem translation_invariance_echo :
    ∃ e e' : Endpoint CongestionControl.None,
      (Endpoint.start (sampleBlock ⟨50⟩ ⟨40⟩ 100 100 1460)).run echoEvents = .ok e ∧
      (Endpoint.start (sampleBlock ⟨150⟩ ⟨47⟩ 100 100 1460)).run
        (echoEvents.map (Event.shift ⟨7⟩ ⟨100⟩)) = .ok e' ∧
      e.cb.sender.sendWindow = 10 ∧ SameUpToShift ⟨7⟩ ⟨100⟩ e e' := by
  obtain ⟨e, ran, window⟩ := Machine.map_eq_ok
    (x := (Endpoint.start (sampleBlock ⟨50⟩ ⟨40⟩ 100 100 1460)).run echoEvents)
    (fun e => e.cb.sender.sendWindow) (t := 10) (by decide +kernel)
  obtain ⟨e', ran', -⟩ := Machine.map_eq_ok
    (x := (Endpoint.start (sampleBlock ⟨150⟩ ⟨47⟩ 100 100 1460)).run
      (echoEvents.map (Event.shift ⟨7⟩ ⟨100⟩)))
    (fun e => e.cb.sender.sendWindow) (t := 10) (by decide +kernel)
  refine ⟨e, e', ran, ran', window, ?_⟩
  have same := translation_invariance (sampleOpening ⟨50⟩ ⟨40⟩ 100 100 1460) ⟨7⟩ ⟨100⟩ echoEvents
    (Machine.Admits.of_admits (by decide +kernel)) 2
  rwa [show (opened (sampleOpening ⟨50⟩ ⟨40⟩ 100 100 1460)).run (echoEvents.take 2) = Except.ok e from ran,
    show (opened ((sampleOpening ⟨50⟩ ⟨40⟩ 100 100 1460).shift ⟨7⟩ ⟨100⟩)).run
      ((echoEvents.take 2).map (Event.shift ⟨7⟩ ⟨100⟩)) = Except.ok e' from ran'] at same

/-- The same byte and ACK, with only the peer's numbers moved, to below our own: the ACK that sets the
window to 10 in one connection is ignored in the other. -/
theorem window_update_depends_on_isn :
    ∃ e e' : Endpoint CongestionControl.None,
      (Endpoint.start (sampleBlock ⟨50⟩ ⟨40⟩ 100 100 1460)).run echoEvents = .ok e ∧
      (Endpoint.start (sampleBlock ⟨30⟩ ⟨40⟩ 100 100 1460)).run
        (echoEvents.map (Event.shift 0 (⟨30⟩ - ⟨50⟩))) = .ok e' ∧
      e.cb.sender.sendWindow = 10 ∧ e'.cb.sender.sendWindow = 100 := by
  obtain ⟨e, ran, window⟩ := Machine.map_eq_ok
    (x := (Endpoint.start (sampleBlock ⟨50⟩ ⟨40⟩ 100 100 1460)).run echoEvents)
    (fun e => e.cb.sender.sendWindow) (t := 10) (by decide +kernel)
  obtain ⟨e', ran', window'⟩ := Machine.map_eq_ok
    (x := (Endpoint.start (sampleBlock ⟨30⟩ ⟨40⟩ 100 100 1460)).run
      (echoEvents.map (Event.shift 0 (⟨30⟩ - ⟨50⟩))))
    (fun e => e.cb.sender.sendWindow) (t := 100) (by decide +kernel)
  exact ⟨e, e', ran, ran', window, window'⟩

end Endpoint

end Inetstack.Tcp
