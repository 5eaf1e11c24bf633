import Inetstack.Arp.Peer
import Inetstack.Tcp.Peer
import Inetstack.Udp.Peer

/-!
# Socket calls (`lib.rs`)

A socket call looks its descriptor up in the table of descriptors and goes on with the TCP peer or the
UDP peer, each of which has a table of its own. A call that has to wait makes a future and hands it to the
scheduler.

The table of descriptors and the scheduler are those of the runtime. The descriptor a new entry gets, and
the token of a future, are parameters here; the scheduler takes every future. The runtime's `transmit`
writes a frame into a new buffer, as that of the tests does. Sums that do not fit panic in a build with
overflow checks (`profile.dev`), and wrap in one without (`profile.release`).
-/

namespace Inetstack

open Arp (ArpConfig ArpPeer)
open Tcp (Buffer Env Errno Fail Fault Instant Ipv4Addr MacAddress SocketAddrV4 TcpPeer)
open Udp (SharedQueue UdpDatagram UdpPeer)

abbrev QDesc := Nat

abbrev QToken := Nat

/-- The types of descriptors that are ever entered. -/
inductive QType where
  | tcpSocket
  | udpSocket
  deriving DecidableEq, Repr

/-- The runtime's table of open descriptors. -/
abbrev IoQueueTable := AList fun _ : QDesc => QType

def AF_INET : Int := 2

def SOCK_STREAM : Int := 1

def SOCK_DGRAM : Int := 2

/-- What a future was made with. -/
inductive FutureOperation where
  | accept (qd newQd : QDesc)
  | connect (qd : QDesc)
  | push (qd : QDesc) (err : Option Fail)
  | pop (qd : QDesc)
  | udpPushto (qd : QDesc) (result : Except Fail Unit)
  | udpPop (queue : SharedQueue)

/-- What `new` reads from the runtime, and the nonce it draws from the seed it is given. -/
structure Setup where
  shuffle : List UInt16 → List UInt16
  now : Instant
  localLinkAddr : MacAddress
  localIpv4Addr : Ipv4Addr
  arpOptions : ArpConfig
  nonce : UInt32
  rt : Tcp.Runtime
  udpOffloadChecksum : Bool

/-- The peers, the table of descriptors, the futures the scheduler has been given, and the frames of
datagrams that have gone out. -/
structure InetStack where
  arp : ArpPeer
  tcp : TcpPeer
  udp : UdpPeer
  fileTable : IoQueueTable
  scheduled : List FutureOperation
  outgoing : List Buffer

/-- The local address `connect` gets as far as an initial sequence number with. -/
def Tcp.TcpPeer.connectFrom (p : TcpPeer) (qd : QDesc) : Option SocketAddrV4 :=
  match p.sockets.lookup qd with
  | some (.inactive none) =>
    match p.ephemeralPorts.allocAny with
    | .ok (localPort, _) => some { ip := p.localIpv4Addr, port := localPort }
    | .error _ => none
  | some (.inactive (some localAddr)) => some localAddr
  | _ => none

def badQueueDescriptor : Fail := { errno := .EBADF, cause := "bad queue descriptor" }

def invalidQueueType : Fail := { errno := .EINVAL, cause := "invalid queue type" }

namespace InetStack

def new (setup : Setup) : Except Fault InetStack := do
  let arp ← ArpPeer.new setup.now setup.localLinkAddr setup.localIpv4Addr setup.arpOptions
  .ok {
    arp := arp
    tcp := .new setup.shuffle setup.nonce setup.rt setup.localIpv4Addr
    udp := .new setup.shuffle setup.localLinkAddr setup.localIpv4Addr setup.udpOffloadChecksum
    fileTable := ∅
    scheduled := []
    outgoing := [] }

/-- The runtime writes a frame. -/
def transmit (overflowChecks : Bool) (datagram : UdpDatagram) : Except Fault Buffer :=
  if overflowChecks && datagram.overflows then .error .arithmeticOverflow
  else do
    let header ← datagram.writeHeader (List.replicate datagram.headerSize 0)
    .ok (header ++ datagram.data)

/-- What the runtime answers to a call on the connection of a descriptor. -/
def envFor (s : InetStack) (qd : QDesc) (now : Instant) : Env where
  now := now
  remoteLinkAddr :=
    match s.tcp.sockets.lookup qd with
    | some (.established _ remoteAddr) => s.arp.tryQuery remoteAddr.ip
    | _ => none

section

variable (overflowChecks : Bool) (alloc : IoQueueTable → QDesc) (intoRaw : List FutureOperation → QToken)
  (crc : List UInt8 → UInt32)

/-- The token is the scheduler's; the future is polled later. -/
def schedule (s : InetStack) (future : FutureOperation) : Except Fail QToken × InetStack :=
  (.ok (intoRaw s.scheduled), { s with scheduled := s.scheduled ++ [future] })

/-- A descriptor is allocated before the peer is asked, and given back if the peer refuses it. -/
def socket (s : InetStack) (domain socketType _protocol : Int) : Except Fail QDesc × InetStack :=
  if domain ≠ AF_INET then
    (.error { errno := .ENOTSUP, cause := "address family not supported" }, s)
  else if socketType = SOCK_STREAM then
    let qd := alloc s.fileTable
    let fileTable := s.fileTable.insert qd .tcpSocket
    match s.tcp.doSocket qd with
    | (.error e, tcp) => (.error e, { s with tcp := tcp, fileTable := fileTable.erase qd })
    | (.ok (), tcp) => (.ok qd, { s with tcp := tcp, fileTable := fileTable })
  else if socketType = SOCK_DGRAM then
    let qd := alloc s.fileTable
    let fileTable := s.fileTable.insert qd .udpSocket
    match s.udp.doSocket qd with
    | (.error e, udp) => (.error e, { s with udp := udp, fileTable := fileTable.erase qd })
    | (.ok (), udp) => (.ok qd, { s with udp := udp, fileTable := fileTable })
  else (.error { errno := .ENOTSUP, cause := "socket type not supported" }, s)

/-- Both kinds of sockets are bound by their peer. -/
def bind (s : InetStack) (qd : QDesc) (localAddr : SocketAddrV4) : Except Fail Unit × InetStack :=
  match s.fileTable.lookup qd with
  | some .tcpSocket =>
    let (result, tcp) := s.tcp.bind qd localAddr
    (result, { s with tcp := tcp })
  | some .udpSocket =>
    let (result, udp) := s.udp.doBind qd localAddr
    (result, { s with udp := udp })
  | none => (.error badQueueDescriptor, s)

/-- The nonce is the one drawn for the listener's sequence numbers. -/
def listen (s : InetStack) (qd : QDesc) (backlog : Nat) (nonce : UInt32) :
    Except Fail Unit × InetStack :=
  if backlog = 0 then (.error { errno := .EINVAL, cause := "invalid backlog length" }, s)
  else
    match s.fileTable.lookup qd with
    | some .tcpSocket =>
      let (result, tcp) := s.tcp.listen qd backlog nonce
      (result, { s with tcp := tcp })
    | some .udpSocket => (.error invalidQueueType, s)
    | none => (.error badQueueDescriptor, s)

/-- The descriptor of the new connection is allocated here and entered in the table, long before there is a
connection. -/
def accept (s : InetStack) (qd : QDesc) : Except Fail QToken × InetStack :=
  match s.fileTable.lookup qd with
  | some .tcpSocket =>
    let newQd := alloc s.fileTable
    { s with fileTable := s.fileTable.insert newQd .tcpSocket }.schedule intoRaw (.accept qd newQd)
  | some .udpSocket => (.error invalidQueueType, s)
  | none => (.error badQueueDescriptor, s)

/-- In a build with overflow checks the sum of the initial sequence number may panic. -/
def connect (s : InetStack) (qd : QDesc) (remoteAddr : SocketAddrV4) :
    Except Fault (Except Fail QToken × InetStack) :=
  match s.fileTable.lookup qd with
  | some .tcpSocket =>
    let overflows := (s.tcp.connectFrom qd).any fun localAddr =>
      s.tcp.isnGenerator.overflows crc localAddr remoteAddr
    if overflowChecks && overflows then .error .arithmeticOverflow
    else
      match s.tcp.connect crc qd remoteAddr with
      | (.error fail, tcp) => .ok (.error fail, { s with tcp := tcp })
      | (.ok (), tcp) => .ok ({ s with tcp := tcp }.schedule intoRaw (.connect qd))
  | some .udpSocket => .ok (.error invalidQueueType, s)
  | none => .ok (.error badQueueDescriptor, s)

/-- The descriptor is freed only if the peer has closed it. -/
def close (s : InetStack) (qd : QDesc) (now : Instant) : Except Fault (Except Fail Unit × InetStack) := do
  let (result, s) ←
    match s.fileTable.lookup qd with
    | some .tcpSocket => do
      let (result, tcp) ← s.tcp.doClose qd (s.envFor qd now)
      .ok (result, { s with tcp := tcp })
    | some .udpSocket =>
      let (result, udp) := s.udp.doClose qd
      .ok (result, { s with udp := udp })
    | none => .ok (.error badQueueDescriptor, s)
  match result with
  | .error fail => .ok (.error fail, s)
  | .ok () => .ok (.ok (), { s with fileTable := s.fileTable.erase qd })

/-- What `send` of the peer fails with becomes the result of the future; only a wrong descriptor fails at
once. -/
def doPush (s : InetStack) (qd : QDesc) (buf : Buffer) (now : Instant) :
    Except Fault (Except Fail FutureOperation × InetStack) := do
  match s.fileTable.lookup qd with
  | some .tcpSocket =>
    let (result, tcp) ← s.tcp.send qd buf (s.envFor qd now)
    let err := match result with
      | .ok () => none
      | .error e => some e
    .ok (.ok (.push qd err), { s with tcp := tcp })
  | some .udpSocket => .ok (.error invalidQueueType, s)
  | none => .ok (.error badQueueDescriptor, s)

/-- Hand the future of a call to the scheduler, if there is one. -/
def issue (made : Except Fail FutureOperation × InetStack) : Except Fail QToken × InetStack :=
  match made with
  | (.error fail, s) => (.error fail, s)
  | (.ok future, s) => s.schedule intoRaw future

/-- An empty buffer is refused here: to the sender it would be the end-of-send marker. -/
def push2 (s : InetStack) (qd : QDesc) (data : Buffer) (now : Instant) :
    Except Fault (Except Fail QToken × InetStack) := do
  if data.isEmpty then .ok (.error { errno := .EINVAL, cause := "zero-length buffer" }, s)
  else
    let made ← s.doPush qd data now
    .ok (issue intoRaw made)

/-- The datagram, if it goes out at once, is written here; in a build with overflow checks a length may
panic. -/
def doPushto (s : InetStack) (qd : QDesc) (buf : Buffer) (remoteAddr : SocketAddrV4)
    (now : Instant) : Except Fault (Except Fail FutureOperation × InetStack) := do
  match s.fileTable.lookup qd with
  | some .udpSocket =>
    let (result, udp) ← s.udp.doPushto qd buf remoteAddr
      { now := now, remoteLinkAddr := s.arp.tryQuery remoteAddr.ip }
    let frames ← (udp.transmitted.drop s.udp.transmitted.length).mapM (transmit overflowChecks)
    .ok (.ok (.udpPushto qd result), { s with udp := udp, outgoing := s.outgoing ++ frames })
  | some .tcpSocket => .ok (.error invalidQueueType, s)
  | none => .ok (.error badQueueDescriptor, s)

def pushto2 (s : InetStack) (qd : QDesc) (data : Buffer) (remoteAddr : SocketAddrV4) (now : Instant) :
    Except Fault (Except Fail QToken × InetStack) := do
  if data.isEmpty then .ok (.error { errno := .EINVAL, cause := "zero-length buffer" }, s)
  else
    let made ← s.doPushto overflowChecks qd data remoteAddr now
    .ok (issue intoRaw made)

/-- A UDP descriptor is looked up now, and `do_pop` panics if it has no address; a TCP descriptor is looked
up by the poll. -/
def pop (s : InetStack) (qd : QDesc) : Except Fault (Except Fail QToken × InetStack) := do
  match s.fileTable.lookup qd with
  | some .tcpSocket => .ok (s.schedule intoRaw (.pop qd))
  | some .udpSocket =>
    let queue ← s.udp.doPop qd
    .ok (s.schedule intoRaw (.udpPop queue))
  | none => .ok (.error badQueueDescriptor, s)

end

end InetStack

/-! ## The stack as a machine -/

/-- The socket calls. `now` is the clock, and a nonce is drawn from the random number generator. -/
inductive StackCall where
  | socket (domain socketType protocol : Int)
  | bind (qd : QDesc) (localAddr : SocketAddrV4)
  | listen (qd : QDesc) (backlog : Nat) (nonce : UInt32)
  | accept (qd : QDesc)
  | connect (qd : QDesc) (remoteAddr : SocketAddrV4)
  | close (qd : QDesc) (now : Instant)
  | doPush (qd : QDesc) (buf : Buffer) (now : Instant)
  | push2 (qd : QDesc) (data : Buffer) (now : Instant)
  | doPushto (qd : QDesc) (buf : Buffer) (remoteAddr : SocketAddrV4) (now : Instant)
  | pushto2 (qd : QDesc) (data : Buffer) (remoteAddr : SocketAddrV4) (now : Instant)
  | pop (qd : QDesc)

namespace InetStack

/-- One socket call. Whether it answers `Ok` or `Err`, the stack goes on. -/
def step (overflowChecks : Bool) (alloc : IoQueueTable → QDesc) (intoRaw : List FutureOperation → QToken)
    (crc : List UInt8 → UInt32) (s : InetStack) : StackCall → Except Fault InetStack
  | .socket domain socketType protocol => .ok (s.socket alloc domain socketType protocol).2
  | .bind qd localAddr => .ok (s.bind qd localAddr).2
  | .listen qd backlog nonce => .ok (s.listen qd backlog nonce).2
  | .accept qd => .ok (s.accept alloc intoRaw qd).2
  | .connect qd remoteAddr => (s.connect overflowChecks intoRaw crc qd remoteAddr).map (·.2)
  | .close qd now => (s.close qd now).map (·.2)
  | .doPush qd buf now => (s.doPush qd buf now).map (·.2)
  | .push2 qd data now => (s.push2 intoRaw qd data now).map (·.2)
  | .doPushto qd buf remoteAddr now => (s.doPushto overflowChecks qd buf remoteAddr now).map (·.2)
  | .pushto2 qd data remoteAddr now =>
    (s.pushto2 overflowChecks intoRaw qd data remoteAddr now).map (·.2)
  | .pop qd => (s.pop intoRaw qd).map (·.2)

end InetStack

end Inetstack
