import Inetstack.Tcp.Basic

/-!
# Cubic congestion control (`established/congestion_control/cubic.rs`)

The window is computed in `f32` in a few places: where it is reduced, and in congestion avoidance, where it
follows a cubic function of the time or the window a standard sender would have. `CubicFloat` is what these
computations give, as numbers of 32 bits and a test, each for what the computation reads. Nothing is said of
the results. The integers are those of the release build and wrap around.

Of the options only `fast_convergence` is read; it is given by its value, if it is set. The clock, which the
source reads in the hooks, is an argument of theirs.
-/

namespace Inetstack.Tcp

/-- The results of the computations in `f32`. -/
structure CubicFloat where
  /-- `(cwnd as f32 * BETA_CUBIC) as u32`. -/
  reducedCwnd : UInt32 → UInt32
  /-- `(cwnd as f32 * (1. + BETA_CUBIC) / 2.) as u32`. -/
  convergedCwnd : UInt32 → UInt32
  /-- `w_cubic(w_max, t, k) < w_est`, for the flag that `k` reads, `w_max`, `mss`, `t` and `rtt`. -/
  cubicBelowEst : Bool → UInt32 → UInt32 → Duration → Duration → Bool
  /-- `(w_est * mss) as u32`, for `w_max`, `mss`, `t` and `rtt`. -/
  wEst : UInt32 → UInt32 → Duration → Duration → UInt32
  /-- `cwnd_inc as u32`, for the flag, `w_max`, `mss`, `cwnd`, `t` and `rtt`. -/
  cwndInc : Bool → UInt32 → UInt32 → UInt32 → Duration → Duration → UInt32

/-- `u32::saturating_sub`. -/
def saturatingSub (a b : UInt32) : UInt32 := if b ≤ a then a - b else 0

/-- The state of the algorithm. The cells of the code are fields. -/
structure Cubic where
  mss : UInt32
  caStart : Instant
  cwnd : UInt32
  fastConvergence : Bool
  initialCwnd : UInt32
  lastSendTime : Instant
  lastCongestionWasRto : Bool
  retransmittedPacketsInFlight : UInt32
  rttAtLastSend : Duration
  ssthresh : UInt32
  wMax : UInt32
  duplicateAckCount : UInt32
  fastRetransmitNow : Bool
  inFastRecovery : Bool
  prevAckSeqNo : SeqNumber
  recover : SeqNumber
  limitedTransmitCwndIncrease : UInt32
  deriving DecidableEq

namespace Cubic

/-- The number of duplicate ACKs that starts a fast retransmit. -/
def DUP_ACK_THRESHOLD : UInt32 := 3

/-- The initial window is two to four times the segment size, by its size. -/
def new (now : Instant) (mss : Nat) (seqNo : SeqNumber) (fastConvergence : Option Bool) :
    Except Fault Cubic :=
  if mss < 2 ^ 32 then
    let mss := UInt32.ofNat mss
    let initialCwnd := if mss ≤ 1095 then 4 * mss else if mss ≤ 2190 then 3 * mss else 2 * mss
    .ok {
      mss := mss
      caStart := now
      cwnd := initialCwnd
      fastConvergence := fastConvergence.getD true
      initialCwnd := initialCwnd
      lastSendTime := now
      lastCongestionWasRto := false
      retransmittedPacketsInFlight := 0
      rttAtLastSend := 1
      ssthresh := 0xffffffff
      wMax := 0
      duplicateAckCount := 0
      fastRetransmitNow := false
      inFastRecovery := false
      prevAckSeqNo := seqNo
      recover := seqNo
      limitedTransmitCwndIncrease := 0 }
  else .error .mssTooLarge

variable (float : CubicFloat)

/-- `fast_convergence`, the function. -/
def converge (c : Cubic) : Except Fault Cubic :=
  if c.mss = 0 then .error .divideByZero
  else if c.cwnd / c.mss < c.wMax / c.mss then .ok { c with wMax := float.convergedCwnd c.cwnd }
  else .ok { c with wMax := c.cwnd }

/-- What becomes of `w_max` at a congestion event. -/
def rememberCwnd (c : Cubic) : Except Fault Cubic :=
  if c.fastConvergence then c.converge float else .ok { c with wMax := c.cwnd }

/-! ## Duplicate ACKs -/

/-- The first duplicate ACKs let one more segment out each: limited transmit. -/
def incrementDupAckCount (c : Cubic) : UInt32 × Cubic :=
  let duplicateAckCount := c.duplicateAckCount + 1
  let c := { c with duplicateAckCount := duplicateAckCount }
  if duplicateAckCount < DUP_ACK_THRESHOLD then
    (duplicateAckCount,
      { c with limitedTransmitCwndIncrease := c.limitedTransmitCwndIncrease + c.mss })
  else (duplicateAckCount, c)

/-- The third duplicate ACK starts fast recovery, if it is past `recover` or a retransmitted segment seems
lost. The ones behind it, and all in fast recovery, let the window grow. -/
def onDupAckReceived (c : Cubic) (sendNext ackSeqNo : SeqNumber) : Except Fault Cubic := do
  let (duplicateAckCount, c) := c.incrementDupAckCount
  let ackSeqNoDiff := (ackSeqNo - c.prevAckSeqNo).value
  let cwnd := c.cwnd
  let ackCoversRecover := (ackSeqNo - SeqNumber.mk 1).gt c.recover
  let retransmittedPacketDroppedHeuristic := decide (c.mss < cwnd) && decide (ackSeqNoDiff ≤ 4 * c.mss)
  if duplicateAckCount = DUP_ACK_THRESHOLD && (ackCoversRecover || retransmittedPacketDroppedHeuristic) then
    let c := { c with inFastRecovery := true, recover := sendNext }
    let reducedCwnd := float.reducedCwnd cwnd
    let c ← c.rememberCwnd float
    .ok { c with
      ssthresh := max reducedCwnd (2 * c.mss)
      cwnd := reducedCwnd
      fastRetransmitNow := true }
  else if decide (DUP_ACK_THRESHOLD < duplicateAckCount) || c.inFastRecovery then
    .ok { c with cwnd := c.cwnd + c.mss }
  else .ok c

/-! ## New ACKs -/

/-- An ACK past `recover` ends fast recovery. Another one has the next segment sent again and takes what it
acknowledges off the window. -/
def onAckReceivedFastRecovery (c : Cubic) (now : Instant) (sendUnacked sendNext ackSeqNo : SeqNumber) :
    Cubic :=
  let bytesOutstanding := (sendNext - sendUnacked).value
  let bytesAcknowledged := (ackSeqNo - sendUnacked).value
  if ackSeqNo.gt c.recover then
    { c with
      cwnd := min c.ssthresh (max bytesOutstanding c.mss + c.mss)
      caStart := now
      lastCongestionWasRto := false
      inFastRecovery := false }
  else
    let c := { c with fastRetransmitNow := true }
    if c.mss ≤ bytesAcknowledged then { c with cwnd := c.cwnd - bytesAcknowledged + c.mss }
    else { c with cwnd := c.cwnd - bytesAcknowledged }

/-- The window in congestion avoidance. -/
def avoidedCwnd (c : Cubic) (now : Instant) (rto : Duration) : UInt32 :=
  let t := now - c.caStart
  if float.cubicBelowEst c.lastCongestionWasRto c.wMax c.mss t rto then float.wEst c.wMax c.mss t rto
  else c.cwnd + float.cwndInc c.lastCongestionWasRto c.wMax c.mss c.cwnd t rto

/-- Slow start below `ssthresh`, congestion avoidance from there on. -/
def onAckReceivedSsCa (c : Cubic) (now : Instant) (rto : Duration) (sendUnacked ackSeqNo : SeqNumber) :
    Cubic :=
  let bytesAcknowledged := (ackSeqNo - sendUnacked).value
  if c.cwnd < c.ssthresh then { c with cwnd := c.cwnd + min bytesAcknowledged c.mss }
  else { c with cwnd := c.avoidedCwnd float now rto }

/-- An ACK is a duplicate one if it acknowledges nothing. -/
def onAckReceived (c : Cubic) (now : Instant) (rto : Duration)
    (sendUnacked sendNext ackSeqNo : SeqNumber) : Except Fault Cubic := do
  let bytesAcknowledged := (ackSeqNo - sendUnacked).value
  if bytesAcknowledged = 0 then
    let c ← c.onDupAckReceived float sendNext ackSeqNo
    .ok { c with
      retransmittedPacketsInFlight := saturatingSub c.retransmittedPacketsInFlight 1 }
  else
    let c := { c with duplicateAckCount := 0 }
    let c :=
      if c.inFastRecovery then c.onAckReceivedFastRecovery now sendUnacked sendNext ackSeqNo
      else c.onAckReceivedSsCa float now rto sendUnacked ackSeqNo
    .ok { c with prevAckSeqNo := ackSeqNo }

/-! ## Timeouts and sending -/

/-- The window falls to one segment. The threshold is lowered only while no retransmitted segment is in
flight. -/
def onRtoSsCa (c : Cubic) : Except Fault Cubic := do
  let cwnd := c.cwnd
  let c ← c.rememberCwnd float
  let c := { c with cwnd := c.mss }
  let rpif := c.retransmittedPacketsInFlight
  let c := if rpif = 0 then { c with ssthresh := max (float.reducedCwnd cwnd) (2 * c.mss) } else c
  .ok { c with retransmittedPacketsInFlight := rpif + 1, lastCongestionWasRto := true }

/-- A timeout ends fast recovery. -/
def onRtoFastRecovery (c : Cubic) (sendUnacked : SeqNumber) : Cubic :=
  { c with recover := sendUnacked, inFastRecovery := false }

def onRto (c : Cubic) (sendUnacked : SeqNumber) : Except Fault Cubic := do
  let c ← c.onRtoSsCa float
  .ok (c.onRtoFastRecovery sendUnacked)

/-- After a pause longer than the timeout at the last send, the window is the initial one at most. -/
def onCwndCheckBeforeSend (c : Cubic) (now : Instant) : Cubic :=
  if c.rttAtLastSend < now - c.lastSendTime then
    { c with cwnd := min c.initialCwnd c.cwnd, limitedTransmitCwndIncrease := 0 }
  else c

/-- What is sent uses up what limited transmit has let out. -/
def onSend (c : Cubic) (now : Instant) (rto : Duration) (numBytesSent : UInt32) : Cubic :=
  { c with
    lastSendTime := now
    rttAtLastSend := rto
    limitedTransmitCwndIncrease := saturatingSub c.limitedTransmitCwndIncrease numBytesSent }

/-- The request for a fast retransmit has been served. -/
def onFastRetransmit (c : Cubic) : Cubic := { c with fastRetransmitNow := false }

end Cubic

/-! ## The calls as a machine -/

/-- The calls of a connection to its congestion control. -/
inductive CubicCall where
  | onAckReceived (now : Instant) (rto : Duration) (sendUnacked sendNext ackSeqNo : SeqNumber)
  | onSend (now : Instant) (rto : Duration) (numBytesSent : UInt32)
  | onCwndCheckBeforeSend (now : Instant)
  | onRto (sendUnacked : SeqNumber)
  | onFastRetransmit
  deriving DecidableEq

def Cubic.step (float : CubicFloat) (c : Cubic) : CubicCall → Except Fault Cubic
  | .onAckReceived now rto sendUnacked sendNext ackSeqNo =>
    c.onAckReceived float now rto sendUnacked sendNext ackSeqNo
  | .onSend now rto numBytesSent => .ok (c.onSend now rto numBytesSent)
  | .onCwndCheckBeforeSend now => .ok (c.onCwndCheckBeforeSend now)
  | .onRto sendUnacked => c.onRto float sendUnacked
  | .onFastRetransmit => .ok c.onFastRetransmit

end Inetstack.Tcp
