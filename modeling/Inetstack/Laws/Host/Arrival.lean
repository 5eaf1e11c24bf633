import Inetstack.Laws.Host.Steps

/-!
# What a frame is to a host

A frame that is taken in is one event of one peer: the one its type and its protocol name. Any other frame
changes nothing.
-/

namespace Inetstack

open Arp (ArpPeer)
open Ethernet2 (Ethernet2Header)
open Icmpv4 (Icmpv4Peer)
open Ipv4 (Ipv4Header)
open Machine (bind_eq_ok)
open Tcp (Buffer Fail Instant PeerRun TcpPeer)
open Udp (UdpPeer)

namespace Host

variable {env : Platform} {h h' : Host} {bytes : Buffer} {now : Instant}

/-- The frame carries a datagram for the host. -/
structure Carries (h : Host) (bytes : Buffer) (ipHdr : Ipv4Header) (data : Buffer) : Prop where
  ethernet2 : ∃ header payload, Ethernet2Header.parse bytes = pure (header, payload) ∧
    header.etherType = .ipv4 ∧ Ipv4Header.parse payload = pure (ipHdr, data)
  dstAddr : ipHdr.dstAddr = h.localIpv4Addr ∨ Tcp.Ipv4Addr.isBroadcast ipHdr.dstAddr = true

/-- **What the arrival of a frame can do.** -/
inductive Arrives (env : Platform) (h : Host) (bytes : Buffer) (now : Instant) : Host → Prop where
  | ignored : Arrives env h bytes now h
  | arp {header : Ethernet2Header} {payload : Buffer} {arp : ArpPeer}
      (read : Ethernet2Header.parse bytes = pure (header, payload)) (etherType : header.etherType = .arp)
      (stepped : h.stack.arp.step (.receive payload) = .ok arp) :
      Arrives env h bytes now { h with stack := { h.stack with arp := arp } }
  | icmpv4 {ipHdr : Ipv4Header} {data : Buffer} {icmpv4 : Icmpv4Peer} (carries : h.Carries bytes ipHdr data)
      (protocol : ipHdr.protocol = .icmpv4) (stepped : h.icmpv4.step (.receive ipHdr data) = .ok icmpv4) :
      Arrives env h bytes now { h with icmpv4 := icmpv4 }
  | udp {ipHdr : Ipv4Header} {data : Buffer} {udp : UdpPeer} (carries : h.Carries bytes ipHdr data)
      (protocol : ipHdr.protocol = .udp) (stepped : h.stack.udp.step (.receive ipHdr data) = .ok udp) :
      Arrives env h bytes now { h with stack := { h.stack with udp := udp } }
  | tcp {ipHdr : Ipv4Header} {data : Buffer} {tcp : TcpPeer} (carries : h.Carries bytes ipHdr data)
      (protocol : ipHdr.protocol = .tcp)
      (stepped : ∀ accepted, PeerRun.step env.eof env.crc env.fallbackMss ⟨h.stack.tcp, accepted⟩
        (.receive ipHdr data (h.stack.arp.envFor ipHdr.srcAddr now)) = .ok ⟨tcp, accepted⟩) :
      Arrives env h bytes now { h with stack := { h.stack with tcp := tcp } }

/-- A datagram. -/
theorem datagram_arrives {payload : Buffer} {header : Ethernet2Header}
    (read : Ethernet2Header.parse bytes = pure (header, payload)) (etherType : header.etherType = .ipv4)
    {result : Except Fail Unit} {peer : Peer}
    (ran : h.peer.receive env.eof env.crc env.fallbackMss h.stack.arp now payload = .ok (result, peer)) :
    Arrives env h bytes now (h.withPeer peer) := by
  obtain ⟨parsed, parses, ran⟩ := bind_eq_ok.mp ran
  cases parsed with
  | error fail =>
    cases ran
    exact .ignored
  | ok parsed =>
  obtain ⟨ipHdr, data⟩ := parsed
  dsimp only at ran
  split at ran
  · cases ran
    exact .ignored
  next mine =>
  have carries : h.Carries bytes ipHdr data := by
    refine ⟨⟨header, payload, read, etherType, parses⟩, ?_⟩
    by_cases own : ipHdr.dstAddr = h.localIpv4Addr
    · exact .inl own
    · refine .inr ?_
      by_contra other
      exact mine ⟨own, by rw [Bool.eq_false_of_not_eq_true other]; rfl⟩
  split at ran
  next protocol =>
    obtain ⟨⟨answer, icmpv4⟩, received, ran⟩ := bind_eq_ok.mp ran
    cases ran
    exact .icmpv4 carries protocol (bind_eq_ok.mpr ⟨_, received, rfl⟩)
  next protocol =>
    obtain ⟨⟨answer, tcp⟩, received, ran⟩ := bind_eq_ok.mp ran
    cases ran
    exact .tcp carries protocol fun accepted => bind_eq_ok.mpr ⟨_, received, rfl⟩
  next protocol =>
    obtain ⟨⟨answer, udp⟩, received, ran⟩ := bind_eq_ok.mp ran
    cases ran
    exact .udp carries protocol (bind_eq_ok.mpr ⟨_, received, rfl⟩)

/-- **A frame is one event of one peer, or nothing.** -/
theorem arrive_arrives (ran : h.arrive env bytes now = .ok h') : Arrives env h bytes now h' := by
  obtain ⟨⟨result, after⟩, received, ran⟩ := bind_eq_ok.mp ran
  cases ran
  obtain ⟨parsed, parses, received⟩ := bind_eq_ok.mp received
  cases parsed with
  | error fail =>
    cases received
    exact .ignored
  | ok parsed =>
  obtain ⟨header, payload⟩ := parsed
  dsimp only at received
  split at received
  next etherType =>
    obtain ⟨⟨answer, arp⟩, taken, received⟩ := bind_eq_ok.mp received
    cases received
    exact .arp parses etherType (bind_eq_ok.mpr ⟨_, taken, rfl⟩)
  next etherType =>
    obtain ⟨⟨answer, peer⟩, taken, received⟩ := bind_eq_ok.mp received
    cases received
    exact datagram_arrives parses etherType taken
  next =>
    cases received
    exact .ignored

end Host

end Inetstack
