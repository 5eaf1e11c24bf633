import Inetstack.InetStack
import Inetstack.Lib.Network
import Inetstack.Packet
import Inetstack.Peer

/-!
# The whole stack (`lib.rs`, `operations.rs`, `protocols/tcp/operations.rs`)

A host is the stack with all that happens to it: the calls of the user, the frames that arrive, and the
polls of the futures and of the background tasks, in any order. The ICMPv4 peer, which no socket call
reaches, stands beside the stack.

A future has the place in `scheduled` that its call was given. One that has completed keeps its result until
it is taken; `wait2` and `wait_any2` poll until there is one to take. The pop future of a UDP socket is
polled as the UDP peer has it, on the queue of an address.

What an ARP query answers to a task that waits for it, and whether a timer has run out, is told to the poll.

`overflowChecks` says how the build adds. The socket calls stop at the sums that a build with checks does not
finish. The frames that arrive and the background tasks are those of a release build: a build with checks may
stop at a frame or in a task where this one goes on, and does the same where it does not stop.
-/

namespace Inetstack

open Arp (ArpEvent ArpConfig ArpPeer QueryId Select)
open Icmpv4 (Icmpv4Event Icmpv4Peer PingId)
open Tcp (Buffer Call Fail Fault Instant Ipv4Addr MacAddress RetryPoll SocketAddrV4)

/-- What is outside the repository: how the build adds, the tables of the runtime, and what `TcpPeer` is
given of third-party crates. -/
structure Platform where
  overflowChecks : Bool
  alloc : IoQueueTable → QDesc
  intoRaw : List FutureOperation → QToken
  eof : Fail
  crc : List UInt8 → UInt32
  fallbackMss : Nat

inductive OperationResult where
  | connect
  | accept (newQd : QDesc)
  | push
  | pop (addr : Option SocketAddrV4) (bytes : Buffer)
  | failed (fail : Fail)
  deriving DecidableEq

/-- A future that is no longer polled: it has its result, or had it taken. -/
inductive Completed where
  | ready (result : OperationResult)
  | taken

structure Host where
  stack : InetStack
  icmpv4 : Icmpv4Peer
  completed : AList fun _ : Nat => Completed
  localLinkAddr : MacAddress
  localIpv4Addr : Ipv4Addr

/-! ## Futures -/

/-- What `expect_result` and `get_result` make of what a future returns. -/
def OperationResult.of {α : Type} (result : α → OperationResult) : Except Fail α → OperationResult
  | .ok a => result a
  | .error fail => .failed fail

/-- A poll of a future. `none` is a pending one. -/
def InetStack.pollFuture (s : InetStack) (now : Instant) :
    FutureOperation → Except Fault (Option OperationResult × InetStack)
  | .accept qd newQd => do
    let (result, tcp) ← s.tcp.pollAccept qd newQd
    .ok (result.map (.of .accept), { s with tcp := tcp })
  | .connect qd => do
    let (result, tcp) ← s.tcp.pollConnectFinished qd
    .ok (result.map (.of fun _ => .connect), { s with tcp := tcp })
  | .push _ none => .ok (some .push, s)
  | .push _ (some fail) => .ok (some (.failed fail), s)
  | .pop qd => do
    let (result, tcp) ← s.tcp.pollRecv qd (s.envFor qd now)
    .ok (result.map (.of (.pop none)), { s with tcp := tcp })
  | .udpPushto _ result => .ok (some (.of (fun _ => .push) result), s)
  | .udpPop _ => .ok (none, s)

namespace Host

/-- The scheduler polls a future that is not over. -/
def pollFuture (h : Host) (task : Nat) (now : Instant) : Except Fault Host := do
  match h.stack.scheduled[task]?, h.completed.lookup task with
  | some future, none =>
    match ← h.stack.pollFuture now future with
    | (none, stack) => .ok { h with stack := stack }
    | (some result, stack) =>
      .ok { h with stack := stack, completed := h.completed.insert task (.ready result) }
  | _, _ => .ok h

/-- Take the result of a future, if it has completed. The descriptor booked for an accept that failed is
released. -/
def takeOperation (h : Host) (task : Nat) : Option (QDesc × OperationResult) × Host :=
  match h.stack.scheduled[task]?, h.completed.lookup task with
  | some future, some (.ready result) =>
    let h := { h with completed := h.completed.insert task .taken }
    match future, result with
    | .accept qd newQd, .failed fail =>
      (some (qd, .failed fail),
        { h with stack := { h.stack with fileTable := h.stack.fileTable.erase newQd } })
    | .accept qd _, result | .connect qd, result | .push qd _, result | .pop qd, result
    | .udpPushto qd _, result => (some (qd, result), h)
    | .udpPop _, _ => (none, h)
  | _, _ => (none, h)

/-! ## Frames -/

/-- The stack without the parts that datagrams do not reach. -/
def peer (h : Host) : Peer where
  localIpv4Addr := h.localIpv4Addr
  icmpv4 := h.icmpv4
  tcp := h.stack.tcp
  udp := h.stack.udp

def withPeer (h : Host) (peer : Peer) : Host :=
  { h with icmpv4 := peer.icmpv4, stack := { h.stack with tcp := peer.tcp, udp := peer.udp } }

variable (env : Platform)

/-- What a release build does with a frame. It reads nothing of the platform's `overflowChecks`. -/
def doReceive (h : Host) (bytes : Buffer) (now : Instant) : Except Fault (Except Fail Unit × Host) := do
  match ← (Ethernet2.Ethernet2Header.parse bytes).run with
  | .error fail => .ok (.error fail, h)
  | .ok (header, payload) =>
    -- a frame for another link address is only noted
    match header.etherType with
    | .arp =>
      let (result, arp) ← h.stack.arp.receive payload
      .ok (result, { h with stack := { h.stack with arp := arp } })
    | .ipv4 =>
      let (result, peer) ← h.peer.receive env.eof env.crc env.fallbackMss h.stack.arp now payload
      .ok (result, h.withPeer peer)
    | .ipv6 => .ok (.ok (), h)

/-- Everything handed to `transmit` so far. -/
def messages (h : Host) : List Message :=
  h.stack.arp.transmitted.map .arp ++ h.icmpv4.transmitted.map .icmpv4 ++
    h.stack.udp.transmitted.map .udp ++ h.stack.tcp.rt.transmitted.map .tcp

end Host

/-! ## The host as a machine -/

/-- What happens to the queries and to the cache of ARP besides the packets that arrive. -/
inductive ArpTask where
  | query (query : QueryId) (ipv4Addr : Ipv4Addr)
  | poll (query : QueryId) (s : Select)
  | drop (query : QueryId)
  | background (now : Instant)

def ArpTask.event : ArpTask → ArpEvent
  | .query name ipv4Addr => .query name ipv4Addr
  | .poll name s => .poll name s
  | .drop name => .drop name
  | .background now => .background now

/-- What happens to pings and to the background task of ICMPv4. -/
inductive Icmpv4Task where
  | background (answer : Except Fail MacAddress)
  | ping (ping : PingId) (dstIpv4Addr : Ipv4Addr) (timeout : Option Tcp.Duration) (processId : UInt32)
      (nonce : UInt16)
  | pollPing (ping : PingId) (now : Instant) (answer : Option (Except Fail MacAddress))
      (timerFirst : Bool)
  | dropPing (ping : PingId)

def Icmpv4Task.event : Icmpv4Task → Icmpv4Event
  | .background answer => .background answer
  | .ping name dstIpv4Addr timeout processId nonce => .ping name dstIpv4Addr timeout processId nonce
  | .pollPing name now answer timerFirst => .pollPing name now answer timerFirst
  | .dropPing name => .dropPing name

/-- A poll of a pop future of a UDP socket, or of the background sender. -/
inductive UdpTask where
  | pollPop (localAddr : SocketAddrV4)
  | sender (reply : Except Fail MacAddress)

def UdpTask.event : UdpTask → Udp.PeerEvent
  | .pollPop localAddr => .pollPop localAddr
  | .sender reply => .sender reply

/-- A poll of the retry task of a handshake on either side, or of a task of a connection. -/
inductive TcpTask where
  | retryConnect (key : SocketAddrV4 × SocketAddrV4) (poll : RetryPoll)
  | retryAccept (localAddr remoteAddr : SocketAddrV4) (poll : RetryPoll)
  | background (key : SocketAddrV4 × SocketAddrV4) (call : Call) (now : Instant)

inductive HostEvent where
  | call (call : StackCall)
  | pollFuture (task : Nat) (now : Instant)
  | takeOperation (task : Nat)
  | arp (task : ArpTask)
  | icmpv4 (task : Icmpv4Task)
  | udp (task : UdpTask)
  | tcp (task : TcpTask)

/-- What a host takes in: an event of its own, or any frame at all. -/
inductive HostInput where
  | event (event : HostEvent)
  | frame (bytes : Buffer) (now : Instant)

namespace Host

def new (setup : Setup) : Except Fault Host := do
  let stack ← InetStack.new setup
  .ok {
    stack := stack
    icmpv4 := .new setup.localLinkAddr setup.localIpv4Addr
    completed := ∅
    localLinkAddr := setup.localLinkAddr
    localIpv4Addr := setup.localIpv4Addr }

def stepTcp (h : Host) : TcpTask → Except Fault Tcp.TcpPeer
  | .retryConnect key poll => .ok (h.stack.tcp.retryConnect key poll)
  | .retryAccept localAddr remoteAddr poll => .ok (h.stack.tcp.retryAccept localAddr remoteAddr poll)
  | .background key call now => h.stack.tcp.background key call (h.stack.arp.envFor key.2.ip now)

variable (env : Platform)

/-- One event of a host, besides the arrival of a frame. -/
def step (h : Host) : HostEvent → Except Fault Host
  | .call call => do
    let stack ← h.stack.step env.overflowChecks env.alloc env.intoRaw env.crc call
    .ok { h with stack := stack }
  | .pollFuture task now => h.pollFuture task now
  | .takeOperation task => .ok (h.takeOperation task).2
  | .arp task => do
    let arp ← h.stack.arp.step task.event
    .ok { h with stack := { h.stack with arp := arp } }
  | .icmpv4 task => do
    let icmpv4 ← h.icmpv4.step task.event
    .ok { h with icmpv4 := icmpv4 }
  | .udp task => do
    let udp ← h.stack.udp.step task.event
    .ok { h with stack := { h.stack with udp := udp } }
  | .tcp task => do
    let tcp ← h.stepTcp task
    .ok { h with stack := { h.stack with tcp := tcp } }

/-- The arrival of a frame at a time. Whether it is taken or dropped, the host goes on. -/
def arrive (h : Host) (bytes : Buffer) (now : Instant) : Except Fault Host := do
  let (_, h) ← h.doReceive env bytes now
  .ok h

/-- An event of a host, or the arrival of a frame. -/
def input (h : Host) : HostInput → Except Fault Host
  | .event event => h.step env event
  | .frame bytes now => h.arrive env bytes now

/-- The most bytes a link carries at once: a frame with the longest datagram IPv4 can say. -/
def MAX_FRAME_SIZE : Nat := 14 + 65535

/-- The frames a link can carry of those transmitted so far. -/
def frames (h : Host) : List Buffer :=
  (h.messages.filterMap fun message => message.packet.frame.toOption).filter fun frame =>
    frame.length ≤ MAX_FRAME_SIZE

/-- When a frame arrives, and what the link has put behind it. -/
structure Arrival where
  now : Instant
  padding : Buffer

/-- A host as a node of a network of frames. -/
def node : Network.Node Host HostEvent Buffer Arrival Fault where
  step := step env
  arrive h bytes x := h.arrive env (bytes ++ x.padding) x.now
  sent := frames

end Host

end Inetstack
