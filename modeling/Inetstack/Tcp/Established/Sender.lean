import Inetstack.Tcp.Segment
import Inetstack.Tcp.Established.Rto

/-!
# The send side's data and its queues (`established/sender.rs`)

`Sender` holds the send sequence space and two queues: `unackedQueue`, sent and not yet
acknowledged, and `unsentQueue`, accepted from the user and not yet sent. An empty buffer in either
queue is the end-of-send marker, which stands for the FIN. The values the source watches
(`WatchedValue`) are plain values: the watch only says when a suspended task looks again.

The routines here work on the queues alone. `Sender::send` also reads and writes the control block
and is in `CtrlBlk`.
-/

namespace Inetstack.Tcp

/-- An entry of the unacknowledged queue. `initialTx` is `none` once an RTT sample from this entry
would be wrong. -/
structure UnackedSegment where
  bytes : Buffer
  initialTx : Option Instant
  deriving DecidableEq

/-- A longer unsent queue takes nothing more. -/
def UNSENT_QUEUE_CUTOFF : Nat := 1024

/-- The send side of a connection. -/
structure Sender where
  /-- SND.UNA -/
  sendUnacked : SeqNumber
  unackedQueue : List UnackedSegment
  /-- SND.NXT -/
  sendNext : SeqNumber
  unsentQueue : List Buffer
  unsentSeqNo : SeqNumber
  /-- SND.WND -/
  sendWindow : UInt32
  /-- SND.WL1 -/
  sendWindowLastUpdateSeq : SeqNumber
  /-- SND.WL2 -/
  sendWindowLastUpdateAck : SeqNumber
  windowScale : UInt8
  mss : Nat
  deriving DecidableEq

namespace Sender

/-- Nothing is sent, and everything stands at the first number. The last update of the window stands there
too. -/
def new (seqNo : SeqNumber) (sendWindow : UInt32) (windowScale : UInt8) (mss : Nat) : Sender where
  sendUnacked := seqNo
  unackedQueue := []
  sendNext := seqNo
  unsentQueue := []
  unsentSeqNo := seqNo
  sendWindow := sendWindow
  sendWindowLastUpdateSeq := seqNo
  sendWindowLastUpdateAck := seqNo
  windowScale := windowScale
  mss := mss

/-- The amount of sequence space in flight (SND.NXT - SND.UNA), as the code computes it. -/
def sentData (s : Sender) : UInt32 := (s.sendNext - s.sendUnacked).value

def pushUnackedSegment (s : Sender) (segment : UnackedSegment) : Sender :=
  { s with unackedQueue := s.unackedQueue ++ [segment] }

/-- The RTT sample of an acknowledged entry. The clock never runs backwards past a transmission, and
where it would the standard library's subtraction gives zero. -/
def rttSample (rto : RtoCalculator) (now : Instant) (segment : UnackedSegment) : RtoCalculator :=
  match segment.initialTx with
  | some initialTx => rto.addSample (max 0 (now - initialTx))
  | none => rto

/-- The loop of `remove_acknowledged_data` over the unacknowledged queue. -/
def removeAcknowledged (now : Instant) :
    Nat → List UnackedSegment → RtoCalculator → Except Fault (List UnackedSegment × RtoCalculator)
  | 0, queue, rto => .ok (queue, rto)
  -- the release build asserts nothing here and pops an empty queue for ever
  | _ + 1, [], _ => .error .unackedUnderrun
  | n + 1, segment :: rest, rto =>
    if n + 1 < segment.bytes.length then
      .ok ({ bytes := segment.bytes.drop (n + 1), initialTx := none } :: rest,
        rttSample rto now segment)
    -- the end-of-send marker takes whatever count is left with it
    else if segment.bytes.length = 0 then .ok (rest, rttSample rto now segment)
    else
      removeAcknowledged now (n + 1 - segment.bytes.length) rest (rttSample rto now segment)

/-- The byte of a probe. The rest of the buffer stays, also when it is empty. -/
def popOneUnsentByte (s : Sender) : Except Fault (Option (Buffer × Sender)) :=
  match s.unsentQueue with
  | [] => .ok none
  | buf :: rest => do
    let left ← Buffer.adjust buf 1
    let byte ← Buffer.trim buf (buf.length - 1)
    .ok (some (byte, { s with unsentQueue := left :: rest }))

/-- At most one buffer, and of a longer one its front. -/
def popUnsent (s : Sender) (maxBytes : Nat) : Option (Buffer × Sender) :=
  match s.unsentQueue with
  | [] => none
  | buf :: rest =>
    if maxBytes < buf.length then
      some (buf.take maxBytes, { s with unsentQueue := buf.drop maxBytes :: rest })
    else some (buf, { s with unsentQueue := rest })

/-- The length of the front buffer. -/
def topSizeUnsent (s : Sender) : Option Nat := s.unsentQueue.head?.map List.length

/-- The test of `update_send_window`: the segment is not older than the one last used. -/
def windowUpdateIsCurrent (s : Sender) (header : TcpHeader) : Bool :=
  s.sendWindowLastUpdateSeq.lt header.seqNum ||
    (s.sendWindowLastUpdateSeq == header.seqNum && s.sendWindowLastUpdateAck.le header.ackNum)

/-- The window of a segment, scaled, unless the segment is older than the last one used. -/
def updateSendWindow (s : Sender) (header : TcpHeader) : Sender :=
  if s.windowUpdateIsCurrent header then
    { s with
      sendWindow := header.windowSize.toUInt32 <<< s.windowScale.toUInt32
      sendWindowLastUpdateSeq := header.seqNum
      sendWindowLastUpdateAck := header.ackNum }
  else s

end Sender

end Inetstack.Tcp
