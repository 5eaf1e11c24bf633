import Inetstack.Ip.EphemeralPorts
import Inetstack.Tcp.Established.Endpoint
import Inetstack.Tcp.PassiveOpen
import Inetstack.Tcp.Wire

/-!
# The TCP peer (`protocols/tcp/peer.rs`)

The peer owns the sockets. A socket is a descriptor with its state; the listeners, the connect attempts
and the connections are in three more tables, which the code updates one by one. The tables are
association lists without duplicate keys.

The runtime is shared: what a listener, a connect attempt or a connection transmits goes out where the
peer's own segments do. So the peer hands its runtime to the part it calls and takes it back after.

A call that the source polls until it is ready returns `none` while it is pending. The tasks that run in
the background are polled by the scheduler, so their polls are events of their own.
-/

namespace Inetstack.Tcp

open Ip (EphemeralPorts)

/-- A queue descriptor. -/
abbrev QDesc := Nat

/-- Where a socket of the user stands, with its addresses. -/
inductive Socket where
  | inactive (localAddr : Option SocketAddrV4)
  | listening (localAddr : SocketAddrV4)
  | connecting (localAddr remoteAddr : SocketAddrV4)
  | established (localAddr remoteAddr : SocketAddrV4)
  deriving DecidableEq, Repr

/-- The local address of a socket, if it has one. -/
def Socket.localAddr : Socket → Option SocketAddrV4
  | .inactive localAddr => localAddr
  | .listening localAddr => some localAddr
  | .connecting localAddr _ => some localAddr
  | .established localAddr _ => some localAddr

namespace Ipv4Addr

/-- 255.255.255.255. -/
def isBroadcast (ip : Ipv4Addr) : Bool := ip == 0xffffffff

/-- 224.0.0.0/4. -/
def isMulticast (ip : Ipv4Addr) : Bool := ip >>> 28 == 0xe

/-- 0.0.0.0. -/
def isUnspecified (ip : Ipv4Addr) : Bool := ip == 0

end Ipv4Addr

/-- The tables of the peer: the sockets of the user, the listeners, the connect attempts and the
connections. The two addresses of a connection are its key. -/
structure TcpPeer where
  isnGenerator : IsnGenerator
  ephemeralPorts : EphemeralPorts
  sockets : AList fun _ : QDesc => Socket
  passive : AList fun _ : SocketAddrV4 => PassiveSocket
  connecting : AList fun _ : SocketAddrV4 × SocketAddrV4 => ActiveOpenSocket
  established : AList fun _ : SocketAddrV4 × SocketAddrV4 => Endpoint CongestionControl.None
  rt : Runtime
  localIpv4Addr : Ipv4Addr

namespace TcpPeer

def new (shuffle : List UInt16 → List UInt16) (nonce : UInt32) (rt : Runtime)
    (localIpv4Addr : Ipv4Addr) : TcpPeer where
  isnGenerator := IsnGenerator.new nonce
  ephemeralPorts := EphemeralPorts.new shuffle
  sockets := ∅
  passive := ∅
  connecting := ∅
  established := ∅
  rt := rt
  localIpv4Addr := localIpv4Addr

/-! ## The calls of the user -/

/-- A descriptor that is in use is refused. -/
def doSocket (p : TcpPeer) (qd : QDesc) : Except Fail Unit × TcpPeer :=
  match p.sockets.lookup qd with
  | none => (.ok (), { p with sockets := p.sockets.insert qd (.inactive none) })
  | some _ => (.error { errno := .EBUSY, cause := "queue descriptor in use" }, p)

/-- The ports after taking the one an address asks for, and the address with it: a private port is taken
from the pool, and port 0 asks for any. -/
def allocFor (ports : EphemeralPorts) (addr : SocketAddrV4) :
    Except Fail (SocketAddrV4 × EphemeralPorts) := do
  let ports ← if EphemeralPorts.isPrivate addr.port then ports.allocPort addr.port else .ok ports
  if addr.port = 0 then
    let (newPort, ports) ← ports.allocAny
    .ok ({ addr with port := newPort }, ports)
  else .ok (addr, ports)

/-- Give the port of an address back, if it is private. -/
def rollback (ports : EphemeralPorts) (addr : SocketAddrV4) : EphemeralPorts :=
  if EphemeralPorts.isPrivate addr.port then ports.free addr.port else ports

/-- The address is compared with that of every socket before a port is taken. A port taken for a call that
fails is given back. -/
def bind (p : TcpPeer) (qd : QDesc) (addr : SocketAddrV4) : Except Fail Unit × TcpPeer :=
  if p.sockets.entries.any fun entry => entry.2.localAddr == some addr then
    (.error { errno := .EADDRINUSE, cause := "address already in use" }, p)
  else
    match allocFor p.ephemeralPorts addr with
    | .error fail => (.error fail, p)
    | .ok (addr, ports) =>
      match p.sockets.lookup qd with
      | some (.inactive none) =>
        (.ok (), { p with
          ephemeralPorts := ports
          sockets := p.sockets.insert qd (.inactive (some addr)) })
      | some (.inactive (some _)) =>
        (.error { errno := .EINVAL, cause := "socket is already bound to an address" },
          { p with ephemeralPorts := rollback ports addr })
      | _ =>
        (.error { errno := .EBADF, cause := "invalid queue descriptor" },
          { p with ephemeralPorts := rollback ports addr })

/-- The nonce is drawn from the random number generator. -/
def listen (p : TcpPeer) (qd : QDesc) (backlog : Nat) (nonce : UInt32) :
    Except Fail Unit × TcpPeer :=
  match p.sockets.lookup qd with
  | some (.inactive (some localAddr)) =>
    match p.passive.lookup localAddr with
    | some _ =>
      (.error {
        errno := .EADDRINUSE
        cause := "another socket is already listening on the same address/port pair" }, p)
    | none =>
      (.ok (), { p with
        passive := p.passive.insert localAddr (PassiveSocket.new localAddr backlog p.rt nonce)
        sockets := p.sockets.insert qd (.listening localAddr) })
  | some (.listening _) => (.error { errno := .EINVAL, cause := "socket is already listening" }, p)
  | some (.inactive none) =>
    (.error { errno := .EDESTADDRREQ, cause := "socket is not bound to a local address" }, p)
  | some (.connecting _ _) => (.error { errno := .EINVAL, cause := "socket is connecting" }, p)
  | some (.established _ _) => (.error { errno := .EINVAL, cause := "socket is connected" }, p)
  | none => (.error { errno := .EBADF, cause := "invalid queue descriptor" }, p)

/-- Enter an accepted connection under a new descriptor. -/
def enterAccepted (p : TcpPeer) (newQd : QDesc) (cb : ControlBlock CongestionControl.None) :
    Except Fault TcpPeer :=
  let key := (cb.localAddr, cb.remoteAddr)
  match p.sockets.lookup newQd with
  | some _ => .error .duplicateDescriptor
  | none =>
    match p.established.lookup key with
    | some _ => .error .duplicateEstablished
    | none =>
      .ok { p with
        sockets := p.sockets.insert newQd (.established cb.localAddr cb.remoteAddr)
        established := p.established.insert key (Endpoint.start cb) }

/-- A poll of an accept future, which enters the connection under the descriptor the future was made with.
`none` is a pending one. -/
def pollAccept (p : TcpPeer) (qd newQd : QDesc) :
    Except Fault (Option (Except Fail QDesc) × TcpPeer) := do
  match p.sockets.lookup qd with
  | some (.listening localAddr) =>
    match p.passive.lookup localAddr with
    | none => .error .socketsInconsistency
    | some passive =>
      let (result, passive) ← passive.pollAccept
      let p := { p with passive := p.passive.insert localAddr passive }
      match result with
      | none => .ok (none, p)
      | some (.error fail) => .ok (some (.error fail), p)
      | some (.ok cb) =>
        let p ← p.enterAccepted newQd cb
        .ok (some (.ok newQd), p)
  | some _ => .ok (some (.error { errno := .EOPNOTSUPP, cause := "socket not listening" }), p)
  | none => .ok (some (.error { errno := .EBADF, cause := "bad file descriptor" }), p)

/-- Start to connect a socket from `localAddr`. A connect attempt between the same addresses that is
still in the table is replaced, and the call fails after that. -/
def startConnecting (crc : List UInt8 → UInt32) (p : TcpPeer) (qd : QDesc)
    (localAddr remoteAddr : SocketAddrV4) : Except Fail Unit × TcpPeer :=
  let (localIsn, isnGenerator) := p.isnGenerator.generate crc localAddr remoteAddr
  let socket := ActiveOpenSocket.new localIsn localAddr remoteAddr p.rt
  let result : Except Fail Unit :=
    match p.connecting.lookup (localAddr, remoteAddr) with
    | some _ => .error { errno := .EALREADY, cause := "socket is connecting" }
    | none => .ok ()
  (result, { p with
    sockets := p.sockets.insert qd (.connecting localAddr remoteAddr)
    isnGenerator := isnGenerator
    connecting := p.connecting.insert (localAddr, remoteAddr) socket })

/-- A socket without an address gets a private port of this host. The listeners cannot connect. -/
def connect (crc : List UInt8 → UInt32) (p : TcpPeer) (qd : QDesc) (remoteAddr : SocketAddrV4) :
    Except Fail Unit × TcpPeer :=
  match p.sockets.lookup qd with
  | some (.inactive none) =>
    match p.ephemeralPorts.allocAny with
    | .error fail => (.error fail, p)
    | .ok (localPort, ports) =>
      startConnecting crc { p with ephemeralPorts := ports } qd
        { ip := p.localIpv4Addr, port := localPort } remoteAddr
  | some (.inactive (some localAddr)) => startConnecting crc p qd localAddr remoteAddr
  | some (.connecting _ _) => (.error { errno := .EALREADY, cause := "socket is connecting" }, p)
  | some (.established _ _) => (.error { errno := .EISCONN, cause := "socket is connected" }, p)
  | _ => (.error { errno := .EBADF, cause := "invalid queue descriptor" }, p)

/-- A poll of a connect future. `none` is a pending one. The attempt leaves its table when it is over. -/
def pollConnectFinished (p : TcpPeer) (fd : QDesc) :
    Except Fault (Option (Except Fail Unit) × TcpPeer) :=
  match p.sockets.lookup fd with
  | some (.connecting localAddr remoteAddr) =>
    let key := (localAddr, remoteAddr)
    match p.connecting.lookup key with
    | none => .ok (some (.error { errno := .EAGAIN, cause := "socket not connecting" }), p)
    | some socket =>
      match socket.pollResult.1 with
      | none => .ok (none, p)
      | some result =>
        let p := { p with connecting := p.connecting.erase key }
        match result with
        | .error fail => .ok (some (.error fail), p)
        | .ok cb =>
          match p.established.lookup key with
          | some _ => .error .duplicateEstablished
          | none =>
            .ok (some (.ok ()), { p with
              established := p.established.insert key (Endpoint.start cb)
              sockets := p.sockets.insert fd (.established localAddr remoteAddr) })
  | some _ => .ok (some (.error { errno := .EAGAIN, cause := "socket not connecting" }), p)
  | none => .ok (some (.error { errno := .EBADF, cause := "bad queue descriptor" }), p)

/-! ## Connections -/

/-- One event of an established connection, with the peer's runtime. -/
def stepEstablished (p : TcpPeer) (key : SocketAddrV4 × SocketAddrV4)
    (e : Endpoint CongestionControl.None) (event : Event) : Except Fault TcpPeer := do
  let e ← { e with cb := { e.cb with rt := p.rt } }.step event
  .ok { p with established := p.established.insert key e, rt := e.cb.rt }

/-- The descriptor is gone before anything can fail. Only a connection can be closed. -/
def doClose (p : TcpPeer) (qd : QDesc) (env : Env) : Except Fault (Except Fail Unit × TcpPeer) := do
  let closed := { p with sockets := p.sockets.erase qd }
  match p.sockets.lookup qd with
  | some (.established localAddr remoteAddr) =>
    match p.established.lookup (localAddr, remoteAddr) with
    | some e =>
      let closed ← closed.stepEstablished (localAddr, remoteAddr) e (.call .close env)
      .ok (.ok (), closed)
    | none =>
      .ok (.error { errno := .ENOTCONN, cause := "connection not established" }, closed)
  | some _ =>
    .ok (.error { errno := .ENOTSUP, cause := "close not implemented for listening sockets" },
      closed)
  | none => .ok (.error { errno := .EBADF, cause := "bad queue descriptor" }, p)

/-- The connection of a descriptor, for a read or a write. -/
def connection (p : TcpPeer) (fd : QDesc) (other : Socket → Fail) :
    Except Fail ((SocketAddrV4 × SocketAddrV4) × Endpoint CongestionControl.None) :=
  match p.sockets.lookup fd with
  | some (.established localAddr remoteAddr) =>
    match p.established.lookup (localAddr, remoteAddr) with
    | some e => .ok ((localAddr, remoteAddr), e)
    | none => .error { errno := .ENOTCONN, cause := "connection not established" }
  | some socket => .error (other socket)
  | none => .error { errno := .EBADF, cause := "bad queue descriptor" }

/-- The socket's buffer goes to its connection. What the connection answers to it is in its history. -/
def send (p : TcpPeer) (fd : QDesc) (buf : Buffer) (env : Env) :
    Except Fault (Except Fail Unit × TcpPeer) :=
  match p.connection fd fun _ => { errno := .ENOTCONN, cause := "connection not established" } with
  | .error fail => .ok (.error fail, p)
  | .ok (key, e) => do
    let (result, _) ← { e.cb with rt := p.rt }.send env buf
    let p ← p.stepEstablished key e (.call (.send buf) env)
    .ok (result, p)

/-- `none` is a pending read. -/
def pollRecv (p : TcpPeer) (fd : QDesc) (env : Env) :
    Except Fault (Option (Except Fail Buffer) × TcpPeer) :=
  let other : Socket → Fail
    | .connecting _ _ => { errno := .EINPROGRESS, cause := "socket connecting" }
    | .listening _ => { errno := .ENOTCONN, cause := "socket listening" }
    | _ => { errno := .EBADF, cause := "socket inactive" }
  match p.connection fd other with
  | .error fail => .ok (some (.error fail), p)
  | .ok (key, e) => do
    let read := e.cb.pollRecv.map fun (buf, _) => Except.ok buf
    let p ← p.stepEstablished key e (.call .pollRecv env)
    .ok (read, p)

/-! ## Segments -/

/-- The segment sent for one that no socket is there for. -/
def rstSegment (p : TcpPeer) (localAddr remoteAddr : SocketAddrV4) (remoteLinkAddr : MacAddress) :
    TcpSegment :=
  bareSegment p.rt localAddr remoteAddr
    { TcpHeader.new localAddr.port remoteAddr.port with rst := true } remoteLinkAddr

/-- The RST is sent only if the link address of the remote is known. -/
def sendRst (p : TcpPeer) (env : Env) (localAddr remoteAddr : SocketAddrV4) :
    Except Fail Unit × TcpPeer :=
  match env.remoteLinkAddr with
  | none => (.error { errno := .EINVAL, cause := "detination not in ARP cache" }, p)
  | some remoteLinkAddr =>
    (.ok (), { p with rt := p.rt.transmit (p.rstSegment localAddr remoteAddr remoteLinkAddr) })

/-- A segment between two addresses, for the connection between them, the connect attempt between them
or the listener on the local one. -/
def route (crc : List UInt8 → UInt32) (fallbackMss : Nat) (p : TcpPeer) (env : Env)
    (localAddr remoteAddr : SocketAddrV4) (header : TcpHeader) (data : Buffer) :
    Except Fault (Except Fail Unit × TcpPeer) := do
  match p.established.lookup (localAddr, remoteAddr) with
  | some e =>
    let p ← p.stepEstablished (localAddr, remoteAddr) e (.receive header data env)
    .ok (.ok (), p)
  | none =>
    match p.connecting.lookup (localAddr, remoteAddr) with
    | some socket =>
      let socket ← { socket with rt := p.rt }.receive fallbackMss env header
      .ok (.ok (), { p with
        connecting := p.connecting.insert (localAddr, remoteAddr) socket
        rt := socket.rt })
    | none =>
      match p.passive.lookup localAddr with
      | some socket =>
        let (result, socket) ← { socket with rt := p.rt }.receive crc fallbackMss remoteAddr header
        .ok (result, { p with
          passive := p.passive.insert localAddr socket
          rt := socket.rt })
      | none => .ok (p.sendRst env localAddr remoteAddr)

/-- The two ends a segment is for. -/
def ends (ipHdr : Ipv4.Ipv4Header) (header : TcpHeader) : SocketAddrV4 × SocketAddrV4 :=
  ({ ip := ipHdr.dstAddr, port := header.dstPort }, { ip := ipHdr.srcAddr, port := header.srcPort })

/-- An address nothing can come from. -/
def isInvalidSource (ip : Ipv4Addr) : Bool :=
  Ipv4Addr.isBroadcast ip || Ipv4Addr.isMulticast ip || Ipv4Addr.isUnspecified ip

/-- A segment that parses is routed unless its source is no address to answer. -/
def receive (eof : Fail) (crc : List UInt8 → UInt32) (fallbackMss : Nat) (p : TcpPeer) (env : Env)
    (ipHdr : Ipv4.Ipv4Header) (buf : Buffer) : Except Fault (Except Fail Unit × TcpPeer) := do
  match ← (TcpHeader.parse eof ipHdr buf p.rt.tcpOptions.rxChecksumOffload).run with
  | .error fail => .ok (.error fail, p)
  | .ok (header, data) =>
    let (localAddr, remoteAddr) := ends ipHdr header
    if isInvalidSource remoteAddr.ip then
      .ok (.error { errno := .EINVAL, cause := "invalid address type" }, p)
    else p.route crc fallbackMss env localAddr remoteAddr header data

/-! ## Background tasks -/

/-- A poll of the retry task of a connect attempt. -/
def retryConnect (p : TcpPeer) (key : SocketAddrV4 × SocketAddrV4) (poll : RetryPoll) : TcpPeer :=
  match p.connecting.lookup key with
  | none => p
  | some socket =>
    let socket := { socket with rt := p.rt }.background poll
    { p with connecting := p.connecting.insert key socket, rt := socket.rt }

/-- A poll of the retry task of a handshake in flight. -/
def retryAccept (p : TcpPeer) (localAddr remoteAddr : SocketAddrV4) (poll : RetryPoll) : TcpPeer :=
  match p.passive.lookup localAddr with
  | none => p
  | some socket =>
    let socket := { socket with rt := p.rt }.background remoteAddr poll
    { p with passive := p.passive.insert localAddr socket, rt := socket.rt }

/-- A poll of the background tasks of a connection. -/
def background (p : TcpPeer) (key : SocketAddrV4 × SocketAddrV4) (call : Call) (env : Env) :
    Except Fault TcpPeer :=
  match p.established.lookup key with
  | none => .ok p
  | some e => p.stepEstablished key e (.call call env)

end TcpPeer

/-! ## The peer as a machine -/

/-- What happens to a peer: a call of the user, a poll of a future or of a background task, or a segment
that arrives. -/
inductive PeerEvent where
  | socket (qd : QDesc)
  | bind (qd : QDesc) (addr : SocketAddrV4)
  | listen (qd : QDesc) (backlog : Nat) (nonce : UInt32)
  | accept (qd newQd : QDesc)
  | connect (qd : QDesc) (remoteAddr : SocketAddrV4)
  | connectFinished (qd : QDesc)
  | close (qd : QDesc) (env : Env)
  | send (qd : QDesc) (buf : Buffer) (env : Env)
  | recv (qd : QDesc) (env : Env)
  | receive (ipHdr : Ipv4.Ipv4Header) (buf : Buffer) (env : Env)
  | retryConnect (key : SocketAddrV4 × SocketAddrV4) (poll : RetryPoll)
  | retryAccept (localAddr remoteAddr : SocketAddrV4) (poll : RetryPoll)
  | background (key : SocketAddrV4 × SocketAddrV4) (call : Call) (env : Env)

/-- A peer, and the descriptors that were opened by accepting a connection, which is not in the code. -/
structure PeerRun where
  peer : TcpPeer
  accepted : Finset QDesc

namespace PeerRun

def start (peer : TcpPeer) : PeerRun where
  peer := peer
  accepted := ∅

variable (eof : Fail) (crc : List UInt8 → UInt32) (fallbackMss : Nat)

/-- One event of a peer. -/
def step (r : PeerRun) : PeerEvent → Except Fault PeerRun
  | .socket qd => .ok { r with peer := (r.peer.doSocket qd).2 }
  | .bind qd addr => .ok { r with peer := (r.peer.bind qd addr).2 }
  | .listen qd backlog nonce => .ok { r with peer := (r.peer.listen qd backlog nonce).2 }
  | .accept qd newQd => do
    match ← r.peer.pollAccept qd newQd with
    | (some (.ok qd), peer) => .ok { peer := peer, accepted := insert qd r.accepted }
    | (_, peer) => .ok { r with peer := peer }
  | .connect qd remoteAddr => .ok { r with peer := (r.peer.connect crc qd remoteAddr).2 }
  | .connectFinished qd => do
    let (_, peer) ← r.peer.pollConnectFinished qd
    .ok { r with peer := peer }
  | .close qd env => do
    let (_, peer) ← r.peer.doClose qd env
    .ok { peer := peer, accepted := r.accepted.erase qd }
  | .send qd buf env => do
    let (_, peer) ← r.peer.send qd buf env
    .ok { r with peer := peer }
  | .recv qd env => do
    let (_, peer) ← r.peer.pollRecv qd env
    .ok { r with peer := peer }
  | .receive ipHdr buf env => do
    let (_, peer) ← r.peer.receive eof crc fallbackMss env ipHdr buf
    .ok { r with peer := peer }
  | .retryConnect key poll => .ok { r with peer := r.peer.retryConnect key poll }
  | .retryAccept localAddr remoteAddr poll =>
    .ok { r with peer := r.peer.retryAccept localAddr remoteAddr poll }
  | .background key call env => do
    let peer ← r.peer.background key call env
    .ok { r with peer := peer }

end PeerRun

end Inetstack.Tcp
