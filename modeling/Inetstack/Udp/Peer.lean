import Mathlib.Data.List.AList
import Inetstack.Ip.EphemeralPorts
import Inetstack.Udp.Datagram
import Inetstack.Udp.Queue

/-!
# The UDP peer (`protocols/udp/peer.rs`)

A socket is a descriptor with the address it is bound to, if any; a bound address has a queue of received
datagrams. A datagram to a remote whose link address is not known waits in the send queue for a
background task. The task is cut at its two waits, for a message and for the ARP query, and while it
waits for a message it holds the receiving end of the queue.

A pop future keeps the queue it was made with. Its polls are on the queue of an address here: the queue
of a binding that has been closed is out of the tables.
-/

namespace Inetstack.Udp

open Ip (EphemeralPorts)
open Tcp (Buffer Env Fail Fault Ipv4Addr MacAddress SocketAddrV4)

/-- A queue descriptor. -/
abbrev QDesc := Nat

/-- The size of the queue of a bound address. -/
def RECV_QUEUE_MAX_SIZE : Nat := 1024

/-- The size of the queue of the background sender. -/
def SEND_QUEUE_MAX_SIZE : Nat := 1024

/-- Where the background sender stands: not polled yet or between two messages, waiting for a message, or
for the link address of a message's remote. -/
inductive SenderTask where
  | top
  | awaitPop
  | awaitArp (slot : SharedQueueSlot)
  deriving DecidableEq, Repr

/-- The sockets of the user, the queues of the bound addresses, and the queue of the background sender. -/
structure UdpPeer where
  ephemeralPorts : EphemeralPorts
  sockets : AList fun _ : QDesc => Option SocketAddrV4
  bound : AList fun _ : SocketAddrV4 => SharedQueue
  sendQueue : SharedQueue
  background : SenderTask
  localLinkAddr : MacAddress
  localIpv4Addr : Ipv4Addr
  checksumOffload : Bool
  transmitted : List UdpDatagram

namespace UdpPeer

def new (shuffle : List UInt16 → List UInt16) (localLinkAddr : MacAddress) (localIpv4Addr : Ipv4Addr)
    (checksumOffload : Bool) : UdpPeer where
  ephemeralPorts := EphemeralPorts.new shuffle
  sockets := ∅
  bound := ∅
  sendQueue := SharedQueue.new SEND_QUEUE_MAX_SIZE
  background := .top
  localLinkAddr := localLinkAddr
  localIpv4Addr := localIpv4Addr
  checksumOffload := checksumOffload
  transmitted := []

/-- A descriptor that is in use is refused. -/
def doSocket (p : UdpPeer) (qd : QDesc) : Except Fail Unit × UdpPeer :=
  match p.sockets.lookup qd with
  | none => (.ok (), { p with sockets := p.sockets.insert qd none })
  | some _ => (.error { errno := .EEXIST, cause := "queue descriptor in use" }, p)

/-- The ports after taking the one an address asks for, and the address with it. -/
def allocFor (ports : EphemeralPorts) (addr : SocketAddrV4) :
    Except Fail (SocketAddrV4 × EphemeralPorts) :=
  if EphemeralPorts.isPrivate addr.port then do
    let ports ← ports.allocPort addr.port
    .ok (addr, ports)
  else if addr.port = 0 then do
    let (newPort, ports) ← ports.allocAny
    .ok ({ addr with port := newPort }, ports)
  else .ok (addr, ports)

/-- Enter an address under a descriptor that has none, with an empty queue. A queue that is there for the
address is replaced, and the call fails after that. -/
def register (p : UdpPeer) (qd : QDesc) (addr : SocketAddrV4) : Except Fail Unit × UdpPeer :=
  match p.sockets.lookup qd with
  | some none =>
    let result : Except Fail Unit :=
      match p.bound.lookup addr with
      | some _ => .error { errno := .EADDRINUSE, cause := "address in use" }
      | none => .ok ()
    (result, { p with
      sockets := p.sockets.insert qd (some addr)
      bound := p.bound.insert addr (SharedQueue.new RECV_QUEUE_MAX_SIZE) })
  | _ => (.error { errno := .EBADF, cause := "invalid queue descriptor" }, p)

/-- A private port is given back if the address cannot be entered under the descriptor. -/
def doBind (p : UdpPeer) (qd : QDesc) (addr : SocketAddrV4) : Except Fail Unit × UdpPeer :=
  match p.bound.lookup addr with
  | some _ => (.error { errno := .EADDRINUSE, cause := "address in use" }, p)
  | none =>
    match allocFor p.ephemeralPorts addr with
    | .error fail => (.error fail, p)
    | .ok (addr, ports) =>
      match { p with ephemeralPorts := ports }.register qd addr with
      | (.ok (), p) => (.ok (), p)
      | (.error fail, p) =>
        if EphemeralPorts.isPrivate addr.port then
          (.error fail, { p with ephemeralPorts := p.ephemeralPorts.free addr.port })
        else (.error fail, p)

/-- The descriptor is gone before anything can fail. -/
def doClose (p : UdpPeer) (qd : QDesc) : Except Fail Unit × UdpPeer :=
  match p.sockets.lookup qd with
  | none => (.error { errno := .EBADF, cause := "invalid queue descriptor" }, p)
  | some socket =>
    let p := { p with sockets := p.sockets.erase qd }
    match socket with
    | none => (.error { errno := .EBADF, cause := "invalid queue descriptor" }, p)
    | some localAddr =>
      match p.bound.lookup localAddr with
      | some _ => (.ok (), { p with bound := p.bound.erase localAddr })
      | none => (.error { errno := .EBADF, cause := "invalid queue descriptor" }, p)

/-! ## Datagrams -/

/-- The datagram goes out from the port of its socket and the address of this host. -/
def doSend (p : UdpPeer) (slot : SharedQueueSlot) (remoteLinkAddr : MacAddress) : UdpPeer :=
  let datagram :=
    { ethernet2Hdr := .new remoteLinkAddr p.localLinkAddr .ipv4
      ipv4Hdr := .new p.localIpv4Addr slot.remoteAddr.ip .udp
      udpHdr := .new slot.localAddr.port slot.remoteAddr.port
      data := slot.data
      checksumOffload := p.checksumOffload }
  { p with transmitted := p.transmitted ++ [datagram] }

/-- A datagram whose link address is not known waits for the background sender. -/
def doPushto (p : UdpPeer) (qd : QDesc) (data : Buffer) (remoteAddr : SocketAddrV4) (env : Env) :
    Except Fault (Except Fail Unit × UdpPeer) := do
  match p.sockets.lookup qd with
  | some (some localAddr) =>
    let slot := { localAddr := localAddr, remoteAddr := remoteAddr, data := data }
    match env.remoteLinkAddr with
    | some remoteLinkAddr => .ok (.ok (), p.doSend slot remoteLinkAddr)
    | none =>
      let (result, sendQueue) ← p.sendQueue.push slot
      .ok (result, { p with sendQueue := sendQueue })
  | _ => .ok (.error { errno := .EBADF, cause := "invalid queue descriptor" }, p)

/-- The queue a pop future is made with. -/
def doPop (p : UdpPeer) (qd : QDesc) : Except Fault SharedQueue :=
  match p.sockets.lookup qd with
  | some (some localAddr) =>
    match p.bound.lookup localAddr with
    | some queue => .ok queue
    | none => .error .invalidQueueDescriptor
  | _ => .error .invalidQueueDescriptor

/-- A poll of a pop future on the queue of an address. `none` is a pending one. -/
def pollPop (p : UdpPeer) (localAddr : SocketAddrV4) :
    Except Fault (Option (SocketAddrV4 × Buffer) × UdpPeer) :=
  match p.bound.lookup localAddr with
  | none => .ok (none, p)
  | some queue => do
    let (msg, queue) ← queue.tryPop
    .ok (msg.map fun msg => (msg.remoteAddr, msg.data),
      { p with bound := p.bound.insert localAddr queue })

/-- The datagram goes to the queue of the address it is for. A queue that refuses it panics. -/
def doReceive (p : UdpPeer) (ipv4Hdr : Ipv4.Ipv4Header) (buf : Buffer) :
    Except Fault (Except Fail Unit × UdpPeer) := do
  match ← (UdpHeader.parse ipv4Hdr buf p.checksumOffload).run with
  | .error fail => .ok (.error fail, p)
  | .ok (hdr, data) =>
    let localAddr := { ip := ipv4Hdr.dstAddr, port := hdr.destPort }
    let remoteAddr := { ip := ipv4Hdr.srcAddr, port := hdr.srcPort }
    match p.bound.lookup localAddr with
    | none => .ok (.error { errno := .ENOTCONN, cause := "port not bound" }, p)
    | some queue =>
      match ← queue.push { localAddr := localAddr, remoteAddr := remoteAddr, data := data } with
      | (.ok (), queue) => .ok (.ok (), { p with bound := p.bound.insert localAddr queue })
      | (.error _, _) => .error .pushFailed

/-! ## The background sender -/

/-- Run the sender from the top of its loop to its next wait. -/
def senderIterate (p : UdpPeer) : UdpPeer :=
  match p.sendQueue.pop with
  | (some slot, sendQueue) => { p with sendQueue := sendQueue, background := .awaitArp slot }
  | (none, sendQueue) => { p with sendQueue := sendQueue, background := .awaitPop }

/-- A poll of the sender: `reply` is the answer to the ARP query, if it waits for one. -/
def senderPoll (p : UdpPeer) (reply : Except Fail MacAddress) : UdpPeer :=
  match p.background, reply with
  | .top, _ | .awaitPop, _ => p.senderIterate
  | .awaitArp slot, .ok remoteLinkAddr => (p.doSend slot remoteLinkAddr).senderIterate
  | .awaitArp _, .error _ => p.senderIterate

end UdpPeer

/-! ## The peer as a machine -/

/-- What happens to a peer: a call of the user, a poll of a future or of the background sender, or a
datagram that arrives. -/
inductive PeerEvent where
  | socket (qd : QDesc)
  | bind (qd : QDesc) (addr : SocketAddrV4)
  | close (qd : QDesc)
  | pushto (qd : QDesc) (data : Buffer) (remoteAddr : SocketAddrV4) (env : Env)
  | pop (qd : QDesc)
  | pollPop (localAddr : SocketAddrV4)
  | receive (ipv4Hdr : Ipv4.Ipv4Header) (buf : Buffer)
  | sender (reply : Except Fail MacAddress)

namespace UdpPeer

/-- One event of a peer. -/
def step (p : UdpPeer) : PeerEvent → Except Fault UdpPeer
  | .socket qd => .ok (p.doSocket qd).2
  | .bind qd addr => .ok (p.doBind qd addr).2
  | .close qd => .ok (p.doClose qd).2
  | .pushto qd data remoteAddr env => do
    let (_, p) ← p.doPushto qd data remoteAddr env
    .ok p
  | .pop qd => do
    let _ ← p.doPop qd
    .ok p
  | .pollPop localAddr => do
    let (_, p) ← p.pollPop localAddr
    .ok p
  | .receive ipv4Hdr buf => do
    let (_, p) ← p.doReceive ipv4Hdr buf
    .ok p
  | .sender reply => .ok (p.senderPoll reply)

end UdpPeer

end Inetstack.Udp
