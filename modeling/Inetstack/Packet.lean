import Inetstack.Arp.Packet
import Inetstack.Icmpv4.Datagram
import Inetstack.Tcp.Wire
import Inetstack.Udp.Datagram

/-!
# What `transmit` is handed (`PacketBuf`)

The runtime allocates a buffer for the header, has the packet write it, and puts the body after it. The
buffer is new, as that of the tests is.
-/

namespace Inetstack

open Arp (ArpMessage)
open Icmpv4 (Icmpv4Message)
open Tcp (Buffer Fault TcpSegment)
open Udp (UdpDatagram)

structure PacketBuf where
  headerSize : Nat
  writeHeader : Buffer → Except Fault Buffer
  body : Buffer

/-- The frame of a packet. -/
def PacketBuf.frame (pkt : PacketBuf) : Except Fault Buffer := do
  let header ← pkt.writeHeader (List.replicate pkt.headerSize 0)
  .ok (header ++ pkt.body)

def Tcp.TcpSegment.packet (segment : TcpSegment) : PacketBuf where
  headerSize := segment.headerSize
  writeHeader := segment.writeHeader
  body := segment.data

def Udp.UdpDatagram.packet (datagram : UdpDatagram) : PacketBuf where
  headerSize := datagram.headerSize
  writeHeader := datagram.writeHeader
  body := datagram.data

def Icmpv4.Icmpv4Message.packet (message : Icmpv4Message) : PacketBuf where
  headerSize := message.headerSize
  writeHeader := message.writeHeader
  body := []

def Arp.ArpMessage.packet (message : ArpMessage) : PacketBuf where
  headerSize := message.headerSize
  writeHeader := message.writeHeader
  body := []

/-- What there is to transmit. -/
inductive Message where
  | arp (message : ArpMessage)
  | icmpv4 (message : Icmpv4Message)
  | udp (datagram : UdpDatagram)
  | tcp (segment : TcpSegment)

def Message.packet : Message → PacketBuf
  | .arp message => message.packet
  | .icmpv4 message => message.packet
  | .udp datagram => datagram.packet
  | .tcp segment => segment.packet

end Inetstack
