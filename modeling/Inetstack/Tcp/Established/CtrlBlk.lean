import Inetstack.Tcp.Established.CongestionControl
import Inetstack.Tcp.Established.Sender

/-!
# The control block (`established/ctrlblk.rs`, and `Sender::send` of `established/sender.rs`)

The control block of an established connection and its calls, in the release build. Every call takes
the control block and gives back the changed one; the segments a call transmits are appended to
`rt.transmitted`. `receive`, one routine of 370 lines in the source, is cut at its own comments into
named pieces: the acceptance test with its trimming, the RST check, the processing of the ACK, the
out-of-order branch, the segment text, the FIN and the delayed ACK.

The waker of a suspended reader is left out: it only says when to poll again.
-/

namespace Inetstack.Tcp

def MAX_OUT_OF_ORDER : Nat := 16

/-- The receive sequence space: what the user has read ends at `readerNext`, what has been received
in order ends at `receiveNext` (RCV.NXT), and `recvQueue` holds the bytes between. -/
structure Receiver where
  readerNext : SeqNumber
  receiveNext : SeqNumber
  recvQueue : List Buffer
  deriving DecidableEq

namespace Receiver

def new (readerNext receiveNext : SeqNumber) : Receiver where
  readerNext := readerNext
  receiveNext := receiveNext
  recvQueue := []

def pop (r : Receiver) : Option (Buffer × Receiver) :=
  match r.recvQueue with
  | [] => none
  | buf :: rest =>
    some (buf, { r with recvQueue := rest, readerNext := r.readerNext + .ofLen buf.length })

def push (r : Receiver) (buf : Buffer) : Receiver :=
  { r with
    recvQueue := r.recvQueue ++ [buf]
    receiveNext := r.receiveNext + .ofLen buf.length }

end Receiver

/-- Transmission control block for one connection, generic in its congestion control. -/
structure ControlBlock (σ : Type) where
  localAddr : SocketAddrV4
  remoteAddr : SocketAddrV4
  rt : Runtime
  sender : Sender
  state : State
  ackDelayTimeout : Duration
  ackDeadline : Option Instant
  receiveBufferSize : UInt32
  windowScale : UInt32
  /-- Received, in the window, and not yet in order: each buffer with its first sequence number. -/
  outOfOrder : List (SeqNumber × Buffer)
  /-- The sequence number of a FIN that came out of order. -/
  outOfOrderFin : Option SeqNumber
  receiver : Receiver
  userIsDoneSending : Bool
  cc : σ
  retransmitDeadline : Option Instant
  rto : RtoCalculator

/-- A segment on its way through `receive`: the header and the data as trimmed so far, and the three
locals that follow them. `segEnd` is the last sequence number, not the one after it. -/
structure InSegment where
  header : TcpHeader
  data : Buffer
  segStart : SeqNumber
  segEnd : SeqNumber
  segLen : UInt32

namespace InSegment

/-- The locals as `receive` first computes them. -/
def arriving (header : TcpHeader) (data : Buffer) : InSegment :=
  let segLen := UInt32.ofNat data.length + (if header.syn then 1 else 0) +
    (if header.fin then 1 else 0)
  { header := header
    data := data
    segStart := header.seqNum
    segEnd := if 0 < segLen then header.seqNum + SeqNumber.mk (segLen - 1) else header.seqNum
    segLen := segLen }

/-- Cut what lies before RCV.NXT off the front, and the SYN with it. -/
def trimFront (seg : InSegment) (receiveNext : SeqNumber) : Except Fault InSegment := do
  let duplicate := (receiveNext - seg.segStart).value
  let seg := { seg with
    segStart := seg.segStart + SeqNumber.mk duplicate
    segLen := seg.segLen - duplicate }
  if seg.header.syn then
    let data ← Buffer.adjust seg.data (duplicate - 1).toNat
    .ok { seg with header := { seg.header with syn := false }, data := data }
  else
    let data ← Buffer.adjust seg.data duplicate.toNat
    .ok { seg with data := data }

/-- Cut what lies past the window off the back, and the FIN with it. -/
def trimBack (seg : InSegment) (afterReceiveWindow : SeqNumber) : Except Fault InSegment := do
  if 0 < seg.segLen && seg.segEnd.ge afterReceiveWindow then
    let excess := (seg.segEnd - afterReceiveWindow).value + 1
    let seg := { seg with
      segEnd := seg.segEnd - SeqNumber.mk excess
      segLen := seg.segLen - excess }
    if seg.header.fin then
      let data ← Buffer.trim seg.data (excess - 1).toNat
      .ok { seg with header := { seg.header with fin := false }, data := data }
    else
      let data ← Buffer.trim seg.data excess.toNat
      .ok { seg with data := data }
  else .ok seg

/-- The acceptance test of `receive`. `none` is a segment wholly outside the window. -/
def accept (receiveNext : SeqNumber) (window : UInt32) (header : TcpHeader) (data : Buffer) :
    Except Fault (Option InSegment) := do
  let seg := arriving header data
  let afterReceiveWindow := receiveNext + SeqNumber.mk window
  if seg.segStart = receiveNext then
    let seg ← seg.trimBack afterReceiveWindow
    .ok (some seg)
  else if seg.segStart.lt receiveNext then
    if seg.segEnd.lt receiveNext then .ok none
    else
      let seg ← seg.trimFront receiveNext
      let seg ← seg.trimBack afterReceiveWindow
      .ok (some seg)
  else if seg.segStart.ge afterReceiveWindow then .ok none
  else
    let seg ← seg.trimBack afterReceiveWindow
    .ok (some seg)

end InSegment

/-! ## The out-of-order store -/

/-- How one pass over the out-of-order store ends: the new segment is dropped, inserted at an index,
or the entry at an index is removed and another pass made. -/
inductive Pass where
  | discard
  | insert (actionIndex : Nat) (newStart : SeqNumber) (buf : Buffer)
  | encompass (actionIndex : Nat) (newStart newEnd : SeqNumber) (buf : Buffer)

/-- One pass of `store_out_of_order_segment` over the entries from `index` on. `len` is the length
of the whole store, which is where a segment goes that no entry stops. -/
def storePass (len : Nat) : Nat → SeqNumber → SeqNumber → Buffer → List (SeqNumber × Buffer) →
    Except Fault Pass
  | _, newStart, _, buf, [] => .ok (.insert len newStart buf)
  | index, newStart, newEnd, buf, (storedStart, stored) :: rest =>
    let storedEnd := storedStart + SeqNumber.mk (UInt32.ofNat stored.length - 1)
    if newStart.lt storedStart then
      if newEnd.lt storedStart then .ok (.insert index newStart buf)
      else if storedEnd.lt newEnd then .ok (.encompass index newStart newEnd buf)
      else do
        -- the source breaks here and leaves the index at the end of the store
        let excess := (newEnd - storedStart).value + 1
        let buf ← Buffer.trim buf excess.toNat
        .ok (.insert len newStart buf)
    else if newEnd.le storedEnd then .ok .discard
    else if storedEnd.lt newStart then storePass len (index + 1) newStart newEnd buf rest
    else do
      let duplicate := (storedEnd - newStart).value
      let buf ← Buffer.adjust buf duplicate.toNat
      storePass len (index + 1) (newStart + SeqNumber.mk duplicate) newEnd buf rest

/-- The passes of `store_out_of_order_segment`. Each pass but the last removes an entry, so one more
pass than there are entries is enough, and `passes` is that number. -/
def storePasses : Nat → SeqNumber → SeqNumber → Buffer → List (SeqNumber × Buffer) →
    Except Fault (List (SeqNumber × Buffer))
  | 0, _, _, _, store => .ok store
  | passes + 1, newStart, newEnd, buf, store => do
    match ← storePass store.length 0 newStart newEnd buf store with
    | .discard => .ok store
    | .insert actionIndex newStart buf =>
      .ok ((store.insertIdx actionIndex (newStart, buf)).take MAX_OUT_OF_ORDER)
    | .encompass actionIndex newStart newEnd buf =>
      storePasses passes newStart newEnd buf (store.eraseIdx actionIndex)

/-- The drain loop of `receive_data`: move the entries that continue `recvNext` to the receive
queue. The flag says whether any was moved. -/
def drainOutOfOrder (recvNext : SeqNumber) (receiver : Receiver) :
    List (SeqNumber × Buffer) → Receiver × List (SeqNumber × Buffer) × Bool
  | [] => (receiver, [], false)
  | (start, buf) :: rest =>
    if start = recvNext then
      let (receiver, left, _) :=
        drainOutOfOrder (recvNext + .ofLen buf.length) (receiver.push buf) rest
      (receiver, left, true)
    else (receiver, (start, buf) :: rest, false)

namespace ControlBlock

section Headers

variable {σ : Type}

/-! ## Headers and transmission -/

/-- RCV.WND. The subtraction wraps. -/
def getReceiveWindowSize (cb : ControlBlock σ) : UInt32 :=
  cb.receiveBufferSize - (cb.receiver.receiveNext - cb.receiver.readerNext).value

def hdrWindowSize (cb : ControlBlock σ) : Except Fault UInt16 :=
  let hdrWindowSize := cb.getReceiveWindowSize >>> cb.windowScale
  if hdrWindowSize.toNat < 2 ^ 16 then .ok hdrWindowSize.toUInt16 else .error .windowSizeOverflow

def tcpHeader (cb : ControlBlock σ) : Except Fault TcpHeader := do
  let windowSize ← cb.hdrWindowSize
  .ok { TcpHeader.new cb.localAddr.port cb.remoteAddr.port with
    windowSize := windowSize
    ack := true
    ackNum := cb.receiver.receiveNext }

/-- The segment `emit` builds around a header and its data. -/
def segmentOf (cb : ControlBlock σ) (header : TcpHeader) (data : Buffer)
    (remoteLinkAddr : MacAddress) : TcpSegment where
  ethernet2Hdr := { dstAddr := remoteLinkAddr, srcAddr := cb.rt.localLinkAddr }
  ipv4Hdr := { srcAddr := cb.localAddr.ip, dstAddr := cb.remoteAddr.ip }
  tcpHdr := header
  data := data
  txChecksumOffload := cb.rt.tcpOptions.txChecksumOffload

/-- The state after a FIN has been sent. -/
def stateAfterFinSent : State → State
  | .established => .finWait1
  | .closeWait => .lastAck
  | state => state

def emit (cb : ControlBlock σ) (header : TcpHeader) (data : Buffer) (remoteLinkAddr : MacAddress) :
    ControlBlock σ :=
  { cb with
    rt := cb.rt.transmit (cb.segmentOf header data remoteLinkAddr)
    ackDeadline := none
    state := if header.fin then stateAfterFinSent cb.state else cb.state }

def sendAck (cb : ControlBlock σ) (env : Env) : Except Fault (ControlBlock σ) := do
  let header ← cb.tcpHeader
  match env.remoteLinkAddr with
  | some remoteLinkAddr =>
    .ok (cb.emit { header with seqNum := cb.sender.sendNext } [] remoteLinkAddr)
  | none => .ok cb

/-- Start the retransmission timer if it is not running. -/
def startRetransmitTimer (cb : ControlBlock σ) (now : Instant) : ControlBlock σ :=
  { cb with
    retransmitDeadline :=
      if cb.retransmitDeadline.isNone then some (now + cb.rto.estimate)
      else cb.retransmitDeadline }

end Headers

variable {σ : Type} [CongestionControl σ]

def new (localAddr remoteAddr : SocketAddrV4) (rt : Runtime) (receiverSeqNo : SeqNumber)
    (ackDelayTimeout : Duration) (receiverWindowSize receiverWindowScale : UInt32)
    (senderSeqNo : SeqNumber) (senderWindowSize : UInt32) (senderWindowScale : UInt8)
    (senderMss : Nat) : ControlBlock σ where
  localAddr := localAddr
  remoteAddr := remoteAddr
  rt := rt
  sender := Sender.new senderSeqNo senderWindowSize senderWindowScale senderMss
  state := .established
  ackDelayTimeout := ackDelayTimeout
  ackDeadline := none
  receiveBufferSize := receiverWindowSize
  windowScale := receiverWindowScale
  outOfOrder := []
  outOfOrderFin := none
  receiver := Receiver.new receiverSeqNo receiverSeqNo
  userIsDoneSending := false
  cc := CongestionControl.new senderMss senderSeqNo
  retransmitDeadline := none
  rto := RtoCalculator.new

/-! ## Sending -/

/-- The window test of `Sender::send`. Its sums wrap, and an end-of-send marker counts nothing. -/
def roomToSend (cb : ControlBlock σ) (buf : Buffer) : Bool :=
  let inFlightAfterSend := cb.sender.sentData + UInt32.ofNat buf.length
  let effectiveCwnd := CongestionControl.getCwnd cb.cc +
    CongestionControl.getLimitedTransmitCwndIncrease cb.cc
  let winSz := cb.sender.sendWindow
  0 < winSz && inFlightAfterSend ≤ winSz && inFlightAfterSend ≤ effectiveCwnd

/-- The immediate transmission of `Sender::send`. An end-of-send marker goes out as a FIN. -/
def sendImmediate (cb : ControlBlock σ) (now : Instant) (buf : Buffer)
    (remoteLinkAddr : MacAddress) : Except Fault (ControlBlock σ) := do
  let sendNext := cb.sender.sendNext
  let cb := { cb with
    cc := CongestionControl.onSend now cb.rto.estimate cb.sender.sentData cb.cc }
  let header ← cb.tcpHeader
  let bufLen := if buf.isEmpty then 1 else UInt32.ofNat buf.length
  let cb := cb.emit { header with seqNum := sendNext, fin := buf.isEmpty } buf remoteLinkAddr
  let sender := { cb.sender with
    sendNext := cb.sender.sendNext + SeqNumber.mk bufLen
    unsentSeqNo := cb.sender.unsentSeqNo + SeqNumber.mk bufLen }
  let cb := { cb with sender := sender.pushUnackedSegment { bytes := buf, initialTx := some now } }
  .ok (cb.startRetransmitTimer now)

omit [CongestionControl σ] in
/-- The slow path of `Sender::send`: leave the buffer to the background sender. -/
def sendLater (cb : ControlBlock σ) (buf : Buffer) : Except Fail Unit × ControlBlock σ :=
  if UNSENT_QUEUE_CUTOFF < cb.sender.unsentQueue.length then
    (.error { errno := .EBUSY, cause := "too many packets to send" }, cb)
  else
    (.ok (), { cb with sender := { cb.sender with
      unsentQueue := cb.sender.unsentQueue ++ [buf]
      unsentSeqNo := cb.sender.unsentSeqNo + .ofLen buf.length } })

/-- The main send routine, `Sender::send`. -/
def send (cb : ControlBlock σ) (env : Env) (buf : Buffer) :
    Except Fault (Except Fail Unit × ControlBlock σ) := do
  if cb.userIsDoneSending then
    .ok (.error { errno := .EINVAL, cause := "Connection is closing" }, cb)
  else if 2 ^ 32 ≤ buf.length then
    .ok (.error { errno := .EINVAL, cause := "buffer too large" }, cb)
  else if cb.sender.unsentQueue.isEmpty then
    let cb := { cb with cc := CongestionControl.onCwndCheckBeforeSend env.now cb.cc }
    match cb.roomToSend buf, env.remoteLinkAddr with
    | true, some remoteLinkAddr =>
      let cb ← cb.sendImmediate env.now buf remoteLinkAddr
      .ok (.ok (), cb)
    | _, _ => .ok (cb.sendLater buf)
  else .ok (cb.sendLater buf)

/-- The user's close: queue the end-of-send marker, once. -/
def close (cb : ControlBlock σ) (env : Env) : Except Fault (ControlBlock σ) := do
  if cb.userIsDoneSending then .ok cb
  else
    match ← cb.send env [] with
    | (.ok (), cb) => .ok { cb with userIsDoneSending := true }
    | (.error _, _) => .error .sendFailed

/-! ## Receiving -/

/-- The state after an ACK of everything sent so far. -/
def stateAfterAllAcked : State → State
  | .finWait1 => .finWait2
  | .closing => .timeWait
  | .lastAck => .closed
  | state => state

/-- The processing of the ACK field. The flag says whether `receive` goes on with the segment; it
does not after an ACK of data not yet sent. -/
def processAck (cb : ControlBlock σ) (now : Instant) (header : TcpHeader) :
    Except Fault (Bool × ControlBlock σ) := do
  let sendUnacknowledged := cb.sender.sendUnacked
  let sendNext := cb.sender.sendNext
  let cb := { cb with
    cc := CongestionControl.onAckReceived now cb.rto.estimate sendUnacknowledged sendNext
      header.ackNum cb.cc }
  if sendUnacknowledged.lt header.ackNum then
    if header.ackNum.le sendNext then
      let bytesAcknowledged := (header.ackNum - sendUnacknowledged).value
      let (unackedQueue, rto) ←
        Sender.removeAcknowledged now bytesAcknowledged.toNat cb.sender.unackedQueue cb.rto
      let sender := { cb.sender with unackedQueue := unackedQueue, sendUnacked := header.ackNum }
      let cb := { cb with sender := sender.updateSendWindow header, rto := rto }
      if header.ackNum = sendNext then
        .ok (true, { cb with retransmitDeadline := none, state := stateAfterAllAcked cb.state })
      else .ok (true, { cb with retransmitDeadline := some (now + cb.rto.estimate) })
    else .ok (false, cb)
  else .ok (true, cb)

section Receive

omit [CongestionControl σ]

/-- The RST check: every state but Closed goes to Closed. -/
def receiveRst (cb : ControlBlock σ) : Except Fault (ControlBlock σ) :=
  if cb.state = .closed then .error (.badTcpState cb.state) else .ok { cb with state := .closed }

/-- The states in which data can still come from the peer. -/
def mayReceiveData : State → Bool
  | .established | .finWait1 | .finWait2 => true
  | _ => false

def storeOutOfOrderFin (cb : ControlBlock σ) (fin : SeqNumber) : ControlBlock σ :=
  { cb with outOfOrderFin := some fin }

def storeOutOfOrderSegment (cb : ControlBlock σ) (newStart newEnd : SeqNumber) (buf : Buffer) :
    Except Fault (ControlBlock σ) := do
  let outOfOrder ←
    storePasses (cb.outOfOrder.length + 1) newStart newEnd buf cb.outOfOrder
  .ok { cb with outOfOrder := outOfOrder }

/-- The out-of-order branch: remember the FIN, store the data, send an ACK. -/
def receiveOutOfOrder (cb : ControlBlock σ) (env : Env) (seg : InSegment) :
    Except Fault (ControlBlock σ) := do
  if 0 < seg.segLen && mayReceiveData cb.state then
    if seg.header.fin then
      let cb := cb.storeOutOfOrderFin seg.segEnd
      if 0 < seg.segLen - 1 then
        let cb ← cb.storeOutOfOrderSegment seg.segStart (seg.segEnd - SeqNumber.mk 1) seg.data
        cb.sendAck env
      else cb.sendAck env
    else
      let cb ← cb.storeOutOfOrderSegment seg.segStart seg.segEnd seg.data
      cb.sendAck env
  else .ok cb

/-- Add in-order data to the receive queue, and with it the stored data that now is in order. True
is returned when some was and a FIN has been remembered. -/
def receiveData (cb : ControlBlock σ) (buf : Buffer) : Bool × ControlBlock σ :=
  let recvNext := cb.receiver.receiveNext + .ofLen buf.length
  let (receiver, outOfOrder, addedOutOfOrder) :=
    drainOutOfOrder recvNext (cb.receiver.push buf) cb.outOfOrder
  (addedOutOfOrder && cb.outOfOrderFin.isSome,
    { cb with receiver := receiver, outOfOrder := outOfOrder })

/-- The state after a FIN of the peer, and the panic in the one state that does not expect it. -/
def stateAfterFin : State → Except Fault State
  | .established => .ok .closeWait
  | .finWait1 => .ok .closing
  | .finWait2 => .ok .timeWait
  | .closed => .error (.badTcpState .closed)
  | state => .ok state

/-- Consume a FIN: advance RCV.NXT over it, change the state and ACK at once. -/
def receiveFin (cb : ControlBlock σ) (env : Env) : Except Fault (ControlBlock σ) := do
  let receiver := { cb.receiver with receiveNext := cb.receiver.receiveNext + SeqNumber.mk 1 }
  let state ← stateAfterFin cb.state
  { cb with receiver := receiver, state := state }.sendAck env

/-- The delayed ACK: start the timer, or ACK now if it was running. -/
def scheduleAck (cb : ControlBlock σ) (env : Env) : Except Fault (ControlBlock σ) :=
  match cb.ackDeadline with
  | none => .ok { cb with ackDeadline := some (env.now + cb.ackDelayTimeout) }
  | some _ => { cb with ackDeadline := none }.sendAck env

/-- The in-order branch: the segment text, then the FIN. -/
def receiveInOrder (cb : ControlBlock σ) (env : Env) (seg : InSegment) :
    Except Fault (ControlBlock σ) :=
  if !seg.data.isEmpty && mayReceiveData cb.state then
    let (outOfOrderFin, cb) := cb.receiveData seg.data
    if seg.header.fin || outOfOrderFin then cb.receiveFin env else cb.scheduleAck env
  else if seg.header.fin then cb.receiveFin env
  else .ok cb

end Receive

/-- What `receive` does with a segment once it has been trimmed to the window. -/
def receiveInWindow (cb : ControlBlock σ) (env : Env) (seg : InSegment) :
    Except Fault (ControlBlock σ) := do
  if seg.header.rst then cb.receiveRst
  else if seg.header.syn then .ok { cb with state := .closed }
  else if !seg.header.ack then .ok cb
  else
    let receiveNext := cb.receiver.receiveNext
    match ← cb.processAck env.now seg.header with
    | (false, cb) => cb.sendAck env
    | (true, cb) =>
      if seg.segStart = receiveNext then cb.receiveInOrder env seg
      else cb.receiveOutOfOrder env seg

/-- The main receive routine. -/
def receive (cb : ControlBlock σ) (env : Env) (header : TcpHeader) (data : Buffer) :
    Except Fault (ControlBlock σ) := do
  match ← InSegment.accept cb.receiver.receiveNext cb.getReceiveWindowSize header data with
  | none => if header.rst then .ok cb else cb.sendAck env
  | some seg => cb.receiveInWindow env seg

omit [CongestionControl σ] in
/-- The user's read: `none` is a pending poll. -/
def pollRecv (cb : ControlBlock σ) : Option (Buffer × ControlBlock σ) :=
  match cb.receiver.pop with
  | none => none
  | some (buf, receiver) => some (buf, { cb with receiver := receiver })

end ControlBlock

end Inetstack.Tcp
