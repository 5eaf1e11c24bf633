import Inetstack.Ethernet2.Frame
import Inetstack.Ipv4.Datagram

/-!
# UDP datagrams (`protocols/udp/datagram`)
-/

namespace Inetstack.Udp

open Tcp (Buffer Fail Fault Outcome toBeBytes)

/-- The two ports, the length and the checksum, two octets each. -/
def UDP_HEADER_SIZE : Nat := 8

/-- The length and the checksum of a header are computed when it is written, so it holds neither. -/
structure UdpHeader where
  srcPort : UInt16
  destPort : UInt16
  deriving DecidableEq, Repr

namespace UdpHeader

def new (srcPort destPort : UInt16) : UdpHeader where
  srcPort := srcPort
  destPort := destPort

/-- The checksum of a datagram: over the pseudo header, the header without its checksum, and the data. -/
def checksum (ipv4Hdr : Ipv4.Ipv4Header) (udpHdr data : Buffer) : Except Fault UInt16 :=
  let state : UInt32 := 0xffff
  let state := Bytes.sumWords state (Tcp.Ipv4Addr.octets ipv4Hdr.srcAddr)
  let state := Bytes.sumWords state (Tcp.Ipv4Addr.octets ipv4Hdr.dstAddr)
  let state := Bytes.sumWords state [0, Ip.IpProtocol.udp.toU8]
  let state := state + UInt32.ofNat (udpHdr.length + data.length)
  if udpHdr.length ≠ UDP_HEADER_SIZE then .error .wrongBufferSize
  else
    let state := Bytes.sumWords state (udpHdr.take 6)
    let state := Bytes.sumWords state data
    .ok (Bytes.checksum state)

/-- The length has to be that of the whole buffer. The checksum is checked unless the device does it. -/
def parse (ipv4Hdr : Ipv4.Ipv4Header) (buf : Buffer) (checksumOffload : Bool) :
    Outcome (UdpHeader × Buffer) := do
  if buf.length < UDP_HEADER_SIZE then
    throw { errno := .EBADMSG, cause := "UDP segment too small" }
  let hdrBuf := buf.take UDP_HEADER_SIZE
  let srcPort ← Buffer.readU16 hdrBuf 0
  let destPort ← Buffer.readU16 hdrBuf 2
  let length ← Buffer.readU16 hdrBuf 4
  if length.toNat ≠ buf.length then
    throw { errno := .EBADMSG, cause := "UDP length mismatch" }
  if !checksumOffload then
    let payloadBuf := buf.drop UDP_HEADER_SIZE
    let sum ← Buffer.readU16 hdrBuf 6
    if sum ≠ (← checksum ipv4Hdr hdrBuf payloadBuf) then
      throw { errno := .EBADMSG, cause := "UDP checksum mismatch" }
  return (new srcPort destPort, buf.drop UDP_HEADER_SIZE)

/-- The length is cut to sixteen bits. -/
def serialize (h : UdpHeader) (buf : Buffer) (ipv4Hdr : Ipv4.Ipv4Header) (data : Buffer)
    (checksumOffload : Bool) : Except Fault Buffer := do
  if buf.length < UDP_HEADER_SIZE then .error .indexOutOfBounds
  else
    let fixedBuf := buf.take UDP_HEADER_SIZE
    let fixedBuf ← Buffer.write fixedBuf 0 (toBeBytes 2 h.srcPort.toNat)
    let fixedBuf ← Buffer.write fixedBuf 2 (toBeBytes 2 h.destPort.toNat)
    let fixedBuf ← Buffer.write fixedBuf 4
      (toBeBytes 2 (UInt16.ofNat (UDP_HEADER_SIZE + data.length)).toNat)
    let sum ← if checksumOffload then .ok 0 else checksum ipv4Hdr fixedBuf data
    let fixedBuf ← Buffer.write fixedBuf 6 (toBeBytes 2 sum.toNat)
    .ok (fixedBuf ++ buf.drop UDP_HEADER_SIZE)

/-- The sum of `checksum` does not fit, which a build with overflow checks panics on. -/
def overflows (h : UdpHeader) (ipv4Hdr : Ipv4.Ipv4Header) (data : Buffer) : Bool :=
  let ports := toBeBytes 2 h.srcPort.toNat ++ toBeBytes 2 h.destPort.toNat
  let length := toBeBytes 2 (UInt16.ofNat (UDP_HEADER_SIZE + data.length)).toNat
  decide (2 ^ 32 ≤ 0xffff + Bytes.wordSum (Tcp.Ipv4Addr.octets ipv4Hdr.srcAddr) +
    Bytes.wordSum (Tcp.Ipv4Addr.octets ipv4Hdr.dstAddr) + Bytes.wordSum [0, Ip.IpProtocol.udp.toU8] +
    (UDP_HEADER_SIZE + data.length) % 2 ^ 32 + Bytes.wordSum (ports ++ length) + Bytes.wordSum data)

end UdpHeader

/-- What `transmit` is handed. -/
structure UdpDatagram where
  ethernet2Hdr : Ethernet2.Ethernet2Header
  ipv4Hdr : Ipv4.Ipv4Header
  udpHdr : UdpHeader
  data : Buffer
  checksumOffload : Bool
  deriving DecidableEq, Repr

namespace UdpDatagram

/-- The three headers in front of the data. -/
def headerSize (datagram : UdpDatagram) : Nat :=
  datagram.ethernet2Hdr.computeSize + datagram.ipv4Hdr.computeSize + UDP_HEADER_SIZE

/-- The three headers, each into its own part of the buffer. -/
def writeHeader (datagram : UdpDatagram) (buf : Buffer) : Except Fault Buffer := do
  let ethHdrSize := datagram.ethernet2Hdr.computeSize
  let ipv4HdrSize := datagram.ipv4Hdr.computeSize
  let ipv4PayloadLen := UDP_HEADER_SIZE + datagram.data.length
  let buf ← Buffer.writeSlice buf 0 ethHdrSize datagram.ethernet2Hdr.serialize
  let buf ← Buffer.writeSlice buf ethHdrSize ipv4HdrSize fun slice =>
    datagram.ipv4Hdr.serialize slice ipv4PayloadLen
  Buffer.writeSlice buf (ethHdrSize + ipv4HdrSize) UDP_HEADER_SIZE fun slice =>
    datagram.udpHdr.serialize slice datagram.ipv4Hdr datagram.data datagram.checksumOffload

/-- One of the sums of `writeHeader` does not fit. -/
def overflows (datagram : UdpDatagram) : Bool :=
  Ipv4.Ipv4Header.overflows (UDP_HEADER_SIZE + datagram.data.length) ||
    !datagram.checksumOffload && datagram.udpHdr.overflows datagram.ipv4Hdr datagram.data

end UdpDatagram

end Inetstack.Udp
