import Inetstack.Tcp.Established.CtrlBlk

/-!
# Opening a connection (`protocols/tcp/active_open.rs`)

`ActiveOpenSocket` is one connect attempt. It has a retry task that sends SYNs, and it answers a
SYN+ACK with an ACK and a control block, which it leaves in `result` for `poll_result` to take.

The retry tasks of the two sides are the same loop around different segments: as many times as the
configuration says, wait for the ARP query, send, wait for the timer; and when the loop is over, give
up. It is cut at its waits, like the background sender. The task lives as long as the handle to it,
so it is kept in the place of the handle.

`FALLBACK_MSS` is a constant of the runtime crate and a parameter here.
-/

namespace Inetstack.Tcp

/-! ## The retry task -/

/-- Where a retry task stands: not polled yet, waiting for the ARP query or for the timer, with as many
iterations to go after the present one, or over. -/
inductive RetryTask where
  | spawned
  | awaitArp (left : Nat)
  | awaitTimer (left : Nat)
  | ended
  deriving DecidableEq, Repr

/-- What wakes a retry task. A poll that does not fit where the task stands does nothing. -/
inductive RetryPoll where
  | first
  | arpReply (reply : Except Fail MacAddress)
  | timeout

/-- What a retry task does when it runs. -/
inductive RetryAction where
  | nothing
  | transmit (remoteLinkAddr : MacAddress)
  | giveUp
  deriving DecidableEq, Repr

namespace RetryTask

/-- The head of the loop. -/
def iterate : Nat → RetryTask × RetryAction
  | 0 => (.ended, .giveUp)
  | left + 1 => (.awaitArp left, .nothing)

/-- Run a retry task to its next wait. -/
def poll (handshakeRetries : Nat) : RetryTask → RetryPoll → RetryTask × RetryAction
  | .spawned, .first => iterate handshakeRetries
  | .awaitArp left, .arpReply (.ok remoteLinkAddr) =>
    (.awaitTimer left, .transmit remoteLinkAddr)
  -- a failed query uses up an iteration without a segment
  | .awaitArp left, .arpReply (.error _) => iterate left
  | .awaitTimer left, .timeout => iterate left
  | task, _ => (task, .nothing)

end RetryTask

/-! ## What both sides make of a segment -/

/-- The two options a handshake looks for: the window scale, and the MSS with its fallback. The last
option of a kind counts. -/
def handshakeOptions (fallbackMss : Nat) (header : TcpHeader) : Option UInt8 × Nat :=
  header.optionList.foldl
    (fun (remoteWindowScale, mss) option =>
      match option with
      | .windowScale w => (some w, mss)
      | .maximumSegmentSize m => (remoteWindowScale, m.toNat)
      | _ => (remoteWindowScale, mss))
    (none, fallbackMss)

/-- The scales in use: ours only if the peer has one. -/
def negotiatedScales (config : TcpConfig) : Option UInt8 → UInt32 × UInt8
  | some w => (config.windowScale.toUInt32, w)
  | none => (0, 0)

/-- `checked_shl` on a 16-bit window: shifted within 16 bits, and `None` from 16 on. The shifted value
is then widened. -/
def checkedShl16 (window : UInt16) (scale : Nat) : Except Fault UInt32 :=
  if scale < 16 then .ok (window <<< UInt16.ofNat scale).toUInt32 else .error .windowSizeOverflow

/-- `checked_shl` on a window widened to 32 bits first. -/
def checkedShl32 (window : UInt16) (scale : Nat) : Except Fault UInt32 :=
  if scale < 32 then .ok (window.toUInt32 <<< UInt32.ofNat scale) else .error .windowSizeOverflow

/-- A segment without data from one address to another. -/
def bareSegment (rt : Runtime) (localAddr remoteAddr : SocketAddrV4) (header : TcpHeader)
    (remoteLinkAddr : MacAddress) : TcpSegment where
  ethernet2Hdr := { dstAddr := remoteLinkAddr, srcAddr := rt.localLinkAddr }
  ipv4Hdr := { srcAddr := localAddr.ip, dstAddr := remoteAddr.ip }
  tcpHdr := header
  data := []
  -- the source takes the receive option here
  txChecksumOffload := rt.tcpOptions.rxChecksumOffload

/-- The options both a SYN and a SYN+ACK advertise. The MSS is cut to 16 bits. -/
def TcpHeader.advertise (header : TcpHeader) (config : TcpConfig) : TcpHeader :=
  (header.pushOption (.maximumSegmentSize (UInt16.ofNat config.advertisedMss))).pushOption
    (.windowScale config.windowScale)

/-! ## The socket -/

/-- What an open produces: an established connection, or an error. -/
abbrev OpenResult := Except Fail (ControlBlock CongestionControl.None)

structure ActiveOpenSocket where
  localIsn : SeqNumber
  localAddr : SocketAddrV4
  remoteAddr : SocketAddrV4
  rt : Runtime
  handle : RetryTask
  result : Option OpenResult

/-- What happens to a connect attempt: a segment arrives, the retry task is polled, or the user asks for
the result. -/
inductive ConnectEvent where
  | receive (header : TcpHeader) (env : Env)
  | retry (poll : RetryPoll)
  | pollResult

namespace ActiveOpenSocket

def new (localIsn : SeqNumber) (localAddr remoteAddr : SocketAddrV4) (rt : Runtime) :
    ActiveOpenSocket where
  localIsn := localIsn
  localAddr := localAddr
  remoteAddr := remoteAddr
  rt := rt
  handle := .spawned
  result := none

/-- Take the result, if there is one. -/
def pollResult (s : ActiveOpenSocket) : Option OpenResult × ActiveOpenSocket :=
  (s.result, { s with result := none })

def setResult (s : ActiveOpenSocket) (result : OpenResult) : ActiveOpenSocket :=
  { s with result := some result }

/-- The ACK of a SYN+ACK. -/
def ackHeader (s : ActiveOpenSocket) (remoteSeqNum : SeqNumber) : TcpHeader :=
  { TcpHeader.new s.localAddr.port s.remoteAddr.port with
    ack := true
    ackNum := remoteSeqNum
    windowSize := s.rt.tcpOptions.receiveWindowSize
    seqNum := s.localIsn + SeqNumber.mk 1 }

/-- The control block of a SYN+ACK. -/
def controlBlock (fallbackMss : Nat) (s : ActiveOpenSocket) (header : TcpHeader) :
    Except Fault (ControlBlock CongestionControl.None) := do
  let config := s.rt.tcpOptions
  let (remoteWindowScale, mss) := handshakeOptions fallbackMss header
  let (localWindowScale, remoteWindowScale) := negotiatedScales config remoteWindowScale
  if localWindowScale ≤ 14 ∧ remoteWindowScale ≤ 14 then
    let rxWindowSize ← checkedShl16 config.receiveWindowSize localWindowScale.toNat
    let txWindowSize ← checkedShl16 header.windowSize remoteWindowScale.toNat
    .ok (ControlBlock.new s.localAddr s.remoteAddr s.rt (header.seqNum + SeqNumber.mk 1)
      config.ackDelayTimeout rxWindowSize localWindowScale (s.localIsn + SeqNumber.mk 1)
      txWindowSize remoteWindowScale mss)
  else .error .windowScaleTooLarge

/-- A segment for a connect attempt. -/
def receive (fallbackMss : Nat) (s : ActiveOpenSocket) (env : Env) (header : TcpHeader) :
    Except Fault ActiveOpenSocket := do
  let expectedSeq := s.localIsn + SeqNumber.mk 1
  if !(header.ack && header.ackNum == expectedSeq) then .ok s
  else if header.rst then
    .ok (s.setResult (.error { errno := .ECONNREFUSED, cause := "connection refused" }))
  else if !header.syn then .ok s
  else
    match env.remoteLinkAddr with
    | none => .error .arpControlFlow
    | some remoteLinkAddr =>
      let segment := bareSegment s.rt s.localAddr s.remoteAddr
        (s.ackHeader (header.seqNum + SeqNumber.mk 1)) remoteLinkAddr
      let s := { s with rt := s.rt.transmit segment }
      let cb ← s.controlBlock fallbackMss header
      .ok (s.setResult (.ok cb))

/-- The SYN the retry task sends. -/
def synHeader (s : ActiveOpenSocket) : TcpHeader :=
  { TcpHeader.new s.localAddr.port s.remoteAddr.port with
    syn := true
    seqNum := s.localIsn
    windowSize := s.rt.tcpOptions.receiveWindowSize }.advertise s.rt.tcpOptions

/-- A poll of the retry task. Giving up replaces whatever result there is. -/
def background (s : ActiveOpenSocket) (poll : RetryPoll) : ActiveOpenSocket :=
  let (handle, action) := s.handle.poll s.rt.tcpOptions.handshakeRetries poll
  let s := { s with handle := handle }
  match action with
  | .nothing => s
  | .transmit remoteLinkAddr =>
    { s with rt := s.rt.transmit (bareSegment s.rt s.localAddr s.remoteAddr s.synHeader
        remoteLinkAddr) }
  | .giveUp => s.setResult (.error { errno := .ETIMEDOUT, cause := "handshake timeout" })

/-- One event of a connect attempt. -/
def step (fallbackMss : Nat) (s : ActiveOpenSocket) : ConnectEvent → Except Fault ActiveOpenSocket
  | .receive header env => s.receive fallbackMss env header
  | .retry poll => .ok (s.background poll)
  | .pollResult => .ok s.pollResult.2

end ActiveOpenSocket

end Inetstack.Tcp
