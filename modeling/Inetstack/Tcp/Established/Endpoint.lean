import Inetstack.Tcp.Established.Background
import Inetstack.Lib.Machine

/-!
# One end of a connection as a machine

An endpoint is a control block with its background sender, and a history of what has gone over its
interface. Its events are the calls of the user, the polls of the background tasks, and the segments
that arrive. The order of events is arbitrary, so a run of the machine is any interleaving the
single-threaded scheduler can produce, and it ends at the first panic.

The history is not in the code. It records what the laws speak about: the buffers `send` accepted,
the buffers `poll_recv` returned, the segments that carry data or a FIN for the first time, how many
sequence numbers have been used, and whether a FIN of the peer has been consumed.
-/

namespace Inetstack.Tcp

/-- A poll of the background sender. A poll that does not fit where the task stands does nothing. -/
inductive SenderPoll where
  /-- Run an iteration from `'top`. -/
  | iterate
  /-- The ARP query the task waits for has an answer. -/
  | arpReply (reply : Except Fail MacAddress)
  /-- The persist timer has run out. -/
  | probeTimeout
  /-- The send window has been set while the task was in the persist loop. -/
  | windowChanged

/-- The calls on an endpoint other than the arrival of a segment. -/
inductive Call where
  | send (buf : Buffer)
  | close
  | pollRecv
  | sender (poll : SenderPoll)
  | acknowledger
  | retransmitter

inductive Event where
  | call (call : Call) (env : Env)
  | receive (header : TcpHeader) (data : Buffer) (env : Env)

structure History where
  accepted : List Buffer
  delivered : List Buffer
  firstTransmissions : List TcpSegment
  used : Nat
  peerFin : Bool

/-- What a handshake hands over to `ControlBlock::new`. -/
structure Opening where
  localAddr : SocketAddrV4
  remoteAddr : SocketAddrV4
  rt : Runtime
  receiverSeqNo : SeqNumber
  ackDelayTimeout : Duration
  receiverWindowSize : UInt32
  receiverWindowScale : UInt32
  senderSeqNo : SeqNumber
  senderWindowSize : UInt32
  senderWindowScale : UInt8
  senderMss : Nat

/-- The control block a handshake ends with. -/
def Opening.block {σ : Type} [CongestionControl σ] (o : Opening) : ControlBlock σ :=
  ControlBlock.new o.localAddr o.remoteAddr o.rt o.receiverSeqNo o.ackDelayTimeout o.receiverWindowSize
    o.receiverWindowScale o.senderSeqNo o.senderWindowSize o.senderWindowScale o.senderMss

structure Endpoint (σ : Type) where
  cb : ControlBlock σ
  task : SenderTask
  history : History

/-- A segment that takes up sequence space: it carries data or a FIN. -/
def TcpSegment.carriesText (segment : TcpSegment) : Bool :=
  !segment.data.isEmpty || segment.tcpHdr.fin

/-- The states that follow a FIN of the peer. -/
def State.afterPeerFin : State → Bool
  | .closing | .timeWait | .closeWait | .lastAck => true
  | _ => false

namespace Endpoint

variable {σ : Type}

/-- A new control block with its tasks started. -/
def start (cb : ControlBlock σ) : Endpoint σ where
  cb := cb
  task := .top
  history :=
    { accepted := [], delivered := [], firstTransmissions := [], used := 0, peerFin := false }

/-- One end of a new connection. -/
def opened [CongestionControl σ] (o : Opening) : Endpoint σ := start o.block

/-- Record a call in the history: the segments with text it transmitted, when `first` says they are
first transmissions, the sequence numbers it used, and the peer's FIN. -/
def record (e : Endpoint σ) (first : Bool) (cb : ControlBlock σ) : History :=
  let new := (cb.rt.transmitted.drop e.cb.rt.transmitted.length).filter TcpSegment.carriesText
  { e.history with
    firstTransmissions := e.history.firstTransmissions ++ (if first then new else [])
    used := e.history.used + (cb.sender.sendNext - e.cb.sender.sendNext).toNat
    peerFin := e.history.peerFin || cb.state.afterPeerFin }

/-- The endpoint after a call that changed the control block and the task. -/
def after (e : Endpoint σ) (first : Bool) (cb : ControlBlock σ) (task : SenderTask) : Endpoint σ where
  cb := cb
  task := task
  history := e.record first cb

variable [CongestionControl σ]

/-- Poll the background sender where it stands. -/
def senderStep (e : Endpoint σ) (env : Env) (poll : SenderPoll) : Except Fault (Endpoint σ) := do
  match e.task, poll with
  | .top, .iterate =>
    let (task, cb) ← e.cb.senderIterate env.now
    .ok (e.after true cb task)
  | .awaitProbe sendNext, .arpReply (.ok remoteLinkAddr) =>
    let (task, cb) ← e.cb.senderProbe env.now sendNext remoteLinkAddr
    .ok (e.after true cb task)
  | .awaitSend sendNext winSz effectiveCwnd sentData, .arpReply (.ok remoteLinkAddr) =>
    let (task, cb) ←
      e.cb.senderTransmit env.now sendNext winSz effectiveCwnd sentData remoteLinkAddr
    .ok (e.after true cb task)
  | .awaitProbe _, .arpReply (.error fail) | .awaitSend _ _ _ _, .arpReply (.error fail) =>
    .ok { e with task := .terminated fail }
  | .probing sendNext buf remoteLinkAddr timeout, .probeTimeout =>
    let (task, cb) ← e.cb.senderProbeAgain sendNext buf remoteLinkAddr timeout
    .ok (e.after false cb task)
  | .probing _ _ _ _, .windowChanged => .ok { e with task := .top }
  | _, _ => .ok e

/-- One call. When the sender task has ended, so have the other two. -/
def call (e : Endpoint σ) (env : Env) : Call → Except Fault (Endpoint σ)
  | .send buf => do
    match ← e.cb.send env buf with
    | (.ok (), cb) =>
      let e := e.after true cb e.task
      .ok { e with history := { e.history with accepted := e.history.accepted ++ [buf] } }
    | (.error _, cb) => .ok (e.after true cb e.task)
  | .close => do
    let cb ← e.cb.close env
    .ok (e.after true cb e.task)
  | .pollRecv =>
    match e.cb.pollRecv with
    | none => .ok e
    | some (buf, cb) =>
      let e := e.after false cb e.task
      .ok { e with history := { e.history with delivered := e.history.delivered ++ [buf] } }
  | .sender poll => e.senderStep env poll
  | .acknowledger =>
    match e.task with
    | .terminated _ => .ok e
    | _ => do
      let cb ← e.cb.sendAck env
      .ok (e.after false cb e.task)
  | .retransmitter =>
    match e.task with
    | .terminated _ => .ok e
    | _ => .ok (e.after false (e.cb.retransmitTimeout env.now) e.task)

/-- One event. -/
def step (e : Endpoint σ) : Event → Except Fault (Endpoint σ)
  | .call c env => e.call env c
  | .receive header data env => do
    let cb ← e.cb.receive env header data
    .ok (e.after false cb e.task)

/-- A run of an endpoint. -/
def run (e : Endpoint σ) (events : List Event) : Except Fault (Endpoint σ) :=
  Machine.run step e events

end Endpoint

end Inetstack.Tcp
