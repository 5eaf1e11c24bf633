import Inetstack.Arp.Peer
import Inetstack.Icmpv4.Peer
import Inetstack.Tcp.Peer
import Inetstack.Udp.Peer

/-!
# The protocols over IPv4 (`protocols/peer.rs`)

The CRC, the error of a read past the end, and the MSS of a peer that names none are parameters of the TCP
peer.
-/

namespace Inetstack

open Arp (ArpPeer)
open Icmpv4 (Icmpv4Peer)
open Ipv4 (Ipv4Header)
open Tcp (Buffer Env Fail Fault Instant Ipv4Addr TcpPeer)
open Udp (UdpPeer)

structure Peer where
  localIpv4Addr : Ipv4Addr
  icmpv4 : Icmpv4Peer
  tcp : TcpPeer
  udp : UdpPeer

/-- What the runtime answers while a datagram from a host is taken in. -/
def Arp.ArpPeer.envFor (arp : ArpPeer) (ip : Ipv4Addr) (now : Instant) : Env where
  now := now
  remoteLinkAddr := arp.tryQuery ip

namespace Peer

variable (eof : Fail) (crc : List UInt8 → UInt32) (fallbackMss : Nat)

def receive (p : Peer) (arp : ArpPeer) (now : Instant) (buf : Buffer) :
    Except Fault (Except Fail Unit × Peer) := do
  match ← (Ipv4Header.parse buf).run with
  | .error fail => .ok (.error fail, p)
  | .ok (header, payload) =>
    if header.dstAddr ≠ p.localIpv4Addr ∧ !Tcp.Ipv4Addr.isBroadcast header.dstAddr then
      .ok (.error { errno := .ENOTCONN, cause := "invalid destination address" }, p)
    else
      match header.protocol with
      | .icmpv4 =>
        let (result, icmpv4) ← p.icmpv4.receive header payload
        .ok (result, { p with icmpv4 := icmpv4 })
      | .tcp =>
        let (result, tcp) ←
          p.tcp.receive eof crc fallbackMss (arp.envFor header.srcAddr now) header payload
        .ok (result, { p with tcp := tcp })
      | .udp =>
        let (result, udp) ← p.udp.doReceive header payload
        .ok (result, { p with udp := udp })

end Peer

end Inetstack
