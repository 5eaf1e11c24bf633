import Inetstack.Tcp.Established.CtrlBlk

/-!
# The background tasks (`established/background/*.rs`)

A connection runs three tasks: `sender`, `retransmitter` and `acknowledger`. The sender is an
asynchronous loop. It is cut here at its suspension points, and `SenderTask` says at which of them
it stands, with the locals it keeps across the wait.

Where the source waits for one of several values to change and then goes back to `'top`, the task
stands at `top`: an iteration that finds nothing new ends there again. Which of the two arms of the
persist loop fires is left to whoever polls the task, since the watched values and the timer are the
runtime's.

The retransmission timer's arm of the retransmitter and the acknowledger are single calls. The
retransmitter's other arm, the fast retransmit, is never taken under the congestion control the
stack uses and is left out.
-/

namespace Inetstack.Tcp

/-- Where the background sender stands. -/
inductive SenderTask where
  /-- At `'top`, or waiting for a change that takes it there. -/
  | top
  /-- Waiting for the ARP query before a window probe. -/
  | awaitProbe (sendNext : SeqNumber)
  /-- In the persist loop, holding the probe it repeats. -/
  | probing (sendNext : SeqNumber) (buf : Buffer) (remoteLinkAddr : MacAddress)
      (timeout : Duration)
  /-- Waiting for the ARP query before a normal transmission. -/
  | awaitSend (sendNext : SeqNumber) (winSz effectiveCwnd sentData : UInt32)
  /-- Ended by a failed ARP query. -/
  | terminated (fail : Fail)
  deriving DecidableEq

namespace ControlBlock

variable {σ : Type} [CongestionControl σ]

/-- One iteration of the background sender, from `'top` to its next suspension. -/
def senderIterate (cb : ControlBlock σ) (now : Instant) :
    Except Fault (SenderTask × ControlBlock σ) :=
  let sendNext := cb.sender.sendNext
  if sendNext = cb.sender.unsentSeqNo then .ok (.top, cb)
  else
    let winSz := cb.sender.sendWindow
    if winSz = 0 then .ok (.awaitProbe sendNext, cb)
    else
      let cb := { cb with cc := CongestionControl.onCwndCheckBeforeSend now cb.cc }
      let effectiveCwnd := CongestionControl.getCwnd cb.cc +
        CongestionControl.getLimitedTransmitCwndIncrease cb.cc
      match cb.sender.topSizeUnsent with
      | none => .error .noBufferInUnsentQueue
      | some nextBufSize =>
        let sentData := cb.sender.sentData
        if winSz ≤ sentData + UInt32.ofNat nextBufSize || effectiveCwnd ≤ sentData ||
            effectiveCwnd - sentData ≤ UInt32.ofNat cb.sender.mss then .ok (.top, cb)
        else .ok (.awaitSend sendNext winSz effectiveCwnd sentData, cb)

section Probe

omit [CongestionControl σ]

/-- The first transmission of a window probe, once the link address is known. -/
def senderProbe (cb : ControlBlock σ) (now : Instant) (sendNext : SeqNumber)
    (remoteLinkAddr : MacAddress) : Except Fault (SenderTask × ControlBlock σ) := do
  match ← cb.sender.popOneUnsentByte with
  | none => .error .noUnsentData
  | some (buf, sender) =>
    let sender := { sender with sendNext := sender.sendNext + SeqNumber.mk 1 }
    let cb := { cb with
      sender := sender.pushUnackedSegment { bytes := buf, initialTx := some now } }
    let header ← cb.tcpHeader
    .ok (.probing sendNext buf remoteLinkAddr 1,
      cb.emit { header with seqNum := sendNext } buf remoteLinkAddr)

/-- A repetition of the window probe, when the persist timer runs out. -/
def senderProbeAgain (cb : ControlBlock σ) (sendNext : SeqNumber) (buf : Buffer)
    (remoteLinkAddr : MacAddress) (timeout : Duration) :
    Except Fault (SenderTask × ControlBlock σ) := do
  let header ← cb.tcpHeader
  .ok (.probing sendNext buf remoteLinkAddr (timeout * 2),
    cb.emit { header with seqNum := sendNext } buf remoteLinkAddr)

/-- The largest segment the background sender takes from the queue, from the values it read before
it waited for ARP. The subtractions wrap. -/
def maxSize (cb : ControlBlock σ) (winSz effectiveCwnd sentData : UInt32) : Nat :=
  min (min (winSz - sentData).toNat cb.sender.mss) (effectiveCwnd - sentData).toNat

end Probe

/-- A normal transmission of the background sender, once the link address is known. -/
def senderTransmit (cb : ControlBlock σ) (now : Instant) (sendNext : SeqNumber)
    (winSz effectiveCwnd sentData : UInt32) (remoteLinkAddr : MacAddress) :
    Except Fault (SenderTask × ControlBlock σ) := do
  match cb.sender.popUnsent (cb.maxSize winSz effectiveCwnd sentData) with
  | none => .error .unsentSequenceGap
  | some (segmentData, sender) =>
    let cb := { cb with
      sender := sender
      cc := CongestionControl.onSend now cb.rto.estimate sentData cb.cc }
    let header ← cb.tcpHeader
    let segmentDataLen := if segmentData.isEmpty then 1 else UInt32.ofNat segmentData.length
    let cb := cb.emit { header with seqNum := sendNext, fin := segmentData.isEmpty } segmentData
      remoteLinkAddr
    let sender := { cb.sender with sendNext := cb.sender.sendNext + SeqNumber.mk segmentDataLen }
    let cb := { cb with
      sender := sender.pushUnackedSegment { bytes := segmentData, initialTx := some now } }
    .ok (.top, cb.startRetransmitTimer now)

/-- The retransmission timer's arm of the retransmitter. The call that would resend is disabled in
the source, so the arm tells congestion control and cancels the timer. -/
def retransmitTimeout (cb : ControlBlock σ) (now : Instant) : ControlBlock σ :=
  { cb with
    cc := CongestionControl.onRto now cb.sender.sendUnacked cb.cc
    retransmitDeadline := none }

end ControlBlock

end Inetstack.Tcp
