import Inetstack.Laws.Arp.Packet
import Inetstack.Laws.Icmpv4.Datagram
import Inetstack.Laws.Udp.Datagram

/-!
# Frames of the datagram protocols

The frames of the three protocols without connections are read back by the decoders of the layers they
were written by. The payload of a UDP datagram is the longest an IPv4 length can say.
-/

namespace Inetstack

open Arp (ArpMessage)
open Icmpv4 (Icmpv4Message)
open Tcp (Buffer)
open Udp (UdpDatagram)

/-- The two IPv4 headers agree in all that the protocols above read. -/
structure Ipv4.Ipv4Header.SameAddresses (sent received : Ipv4.Ipv4Header) : Prop where
  srcAddr : received.srcAddr = sent.srcAddr
  dstAddr : received.dstAddr = sent.dstAddr
  protocol : received.protocol = sent.protocol

theorem Ipv4.Ipv4Header.sameAddresses_delivered (h : Ipv4.Ipv4Header) (totalLength : UInt16) :
    h.SameAddresses (h.delivered totalLength) := ⟨rfl, rfl, rfl⟩

/-- Frame round trips. Over any previous contents of the buffer and before any padding. -/
theorem datagram_frames_round_trip (buf padding : Buffer) :
    (∀ datagram : UdpDatagram, datagram.ipv4Hdr.Built → datagram.checksumOffload = false →
      datagram.data.length ≤ 65507 → datagram.headerSize ≤ buf.length →
      ∃ out ipv4Hdr, datagram.writeHeader buf = .ok out ∧ datagram.ipv4Hdr.SameAddresses ipv4Hdr ∧
        Udp.parseFrame (out.take datagram.headerSize ++ datagram.data ++ padding) =
          pure (datagram.ethernet2Hdr, ipv4Hdr, datagram.udpHdr, datagram.data)) ∧
    (∀ message : Icmpv4Message, message.ipv4Hdr.Built → message.headerSize ≤ buf.length →
      ∃ out ipv4Hdr, message.writeHeader buf = .ok out ∧ message.ipv4Hdr.SameAddresses ipv4Hdr ∧
        Icmpv4.parseFrame (out.take message.headerSize ++ padding) =
          pure (message.ethernet2Hdr, ipv4Hdr, message.icmpv4Hdr, [])) ∧
    (∀ message : ArpMessage, message.headerSize ≤ buf.length →
      ∃ out, message.writeHeader buf = .ok out ∧
        Arp.parseFrame (out.take message.headerSize ++ padding) =
          pure (message.ethernet2Hdr, message.header)) := by
  refine ⟨?_, ?_, ?_⟩
  · intro datagram built checksummed small room
    obtain ⟨out, wrote, read⟩ :=
      UdpDatagram.parseFrame_writeHeader built checksummed small room padding
    exact ⟨out, _, wrote, datagram.ipv4Hdr.sameAddresses_delivered _, read⟩
  · intro message built room
    obtain ⟨out, wrote, read⟩ := Icmpv4Message.parseFrame_writeHeader built room padding
    exact ⟨out, _, wrote, message.ipv4Hdr.sameAddresses_delivered _, read⟩
  · intro message room
    exact message.parseFrame_writeHeader room padding

/-- An odd payload, and padding that is not zero. -/
def sampleDatagram : UdpDatagram where
  ethernet2Hdr := { dstAddr := 0x0a0b0c0d0e0f, srcAddr := 0x010203040506, etherType := .ipv4 }
  ipv4Hdr := Ipv4.Ipv4Header.new 0x0a000001 0x0a000002 .udp
  udpHdr := { srcPort := 49152, destPort := 53 }
  data := [1, 2, 3]
  checksumOffload := false

def sampleEcho : Icmpv4Message where
  ethernet2Hdr := { dstAddr := 0x0a0b0c0d0e0f, srcAddr := 0x010203040506, etherType := .ipv4 }
  ipv4Hdr := Ipv4.Ipv4Header.new 0x0a000001 0x0a000002 .icmpv4
  icmpv4Hdr := Icmpv4.Icmpv4Header.new (.echoRequest 7 0xffff) 0

theorem datagram_frames_round_trip_sample :
    (∃ out ipv4Hdr, sampleDatagram.writeHeader (List.replicate 60 0xff) = .ok out ∧
      sampleDatagram.ipv4Hdr.SameAddresses ipv4Hdr ∧
      Udp.parseFrame (out.take 42 ++ [1, 2, 3] ++ [7, 0]) =
        pure (sampleDatagram.ethernet2Hdr, ipv4Hdr, sampleDatagram.udpHdr, [1, 2, 3])) ∧
    ∃ out ipv4Hdr, sampleEcho.writeHeader (List.replicate 60 0xff) = .ok out ∧
      sampleEcho.ipv4Hdr.SameAddresses ipv4Hdr ∧
      Icmpv4.parseFrame (out.take 42 ++ [7, 0]) =
        pure (sampleEcho.ethernet2Hdr, ipv4Hdr, sampleEcho.icmpv4Hdr, []) := by
  obtain ⟨udp, icmp, -⟩ := datagram_frames_round_trip (List.replicate 60 0xff) [7, 0]
  constructor
  · exact udp sampleDatagram (.inl ⟨_, _, _, rfl⟩) rfl (by decide) (by decide)
  · exact icmp sampleEcho (.inl ⟨_, _, _, rfl⟩) (by decide)

end Inetstack
