import Inetstack.Ethernet2.Frame
import Inetstack.Ipv4.Datagram

/-!
# ICMPv4 messages (`protocols/icmpv4/datagram`)

A message is a header of eight bytes. The encoder takes the checksum of the header alone, the decoder
that of the header and whatever follows it.
-/

namespace Inetstack.Icmpv4

open Tcp (Buffer Fail Fault Outcome toBeBytes)

def ICMPV4_HEADER_SIZE : Nat := 8

/-- The messages that are told apart. Only the echo messages carry what stands in the rest of the header. -/
inductive Icmpv4Type2 where
  | echoReply (id seqNum : UInt16)
  | destinationUnreachable
  | sourceQuench
  | redirectMessage
  | echoRequest (id seqNum : UInt16)
  | routerAdvertisement
  | routerSolicitation
  | timeExceeded
  | badIpHeader
  | timestamp
  | timestampReply
  deriving DecidableEq, Repr

namespace Icmpv4Type2

/-- The rest of the header is read for the echo messages only. -/
def parse (typeByte : UInt8) (restOfHeader : Buffer) : Outcome Icmpv4Type2 := do
  if typeByte = 0 then
    let id ← Buffer.readU16 restOfHeader 0
    let seqNum ← Buffer.readU16 restOfHeader 2
    return .echoReply id seqNum
  else if typeByte = 3 then return .destinationUnreachable
  else if typeByte = 4 then return .sourceQuench
  else if typeByte = 5 then return .redirectMessage
  else if typeByte = 8 then
    let id ← Buffer.readU16 restOfHeader 0
    let seqNum ← Buffer.readU16 restOfHeader 2
    return .echoRequest id seqNum
  else if typeByte = 9 then return .routerAdvertisement
  else if typeByte = 10 then return .routerSolicitation
  else if typeByte = 11 then return .timeExceeded
  else if typeByte = 12 then return .badIpHeader
  else if typeByte = 13 then return .timestamp
  else if typeByte = 14 then return .timestampReply
  else throw { errno := .EBADMSG, cause := "invalid type byte" }

/-- The type byte, and the last four bytes of the header. -/
def serialize : Icmpv4Type2 → UInt8 × Buffer
  | .echoReply id seqNum => (0, toBeBytes 2 id.toNat ++ toBeBytes 2 seqNum.toNat)
  | .destinationUnreachable => (3, [0, 0, 0, 0])
  | .sourceQuench => (4, [0, 0, 0, 0])
  | .redirectMessage => (5, [0, 0, 0, 0])
  | .echoRequest id seqNum => (8, toBeBytes 2 id.toNat ++ toBeBytes 2 seqNum.toNat)
  | .routerAdvertisement => (9, [0, 0, 0, 0])
  | .routerSolicitation => (10, [0, 0, 0, 0])
  | .timeExceeded => (11, [0, 0, 0, 0])
  | .badIpHeader => (12, [0, 0, 0, 0])
  | .timestamp => (13, [0, 0, 0, 0])
  | .timestampReply => (14, [0, 0, 0, 0])

end Icmpv4Type2

/-- The checksum is computed when the header is written, so it is not held. -/
structure Icmpv4Header where
  protocol : Icmpv4Type2
  code : UInt8
  deriving DecidableEq, Repr

namespace Icmpv4Header

def new (icmpv4Type : Icmpv4Type2) (code : UInt8) : Icmpv4Header where
  protocol := icmpv4Type
  code := code

def size (_ : Icmpv4Header) : Nat := ICMPV4_HEADER_SIZE

/-- The checksum of a header and a body. Bytes 2 and 3 hold the checksum itself and are skipped. -/
def checksum (buf body : Buffer) : UInt16 :=
  let state := Bytes.sumWords 0xffff (buf.take 2)
  let state := Bytes.sumWords state (buf.drop 4)
  Bytes.checksum (Bytes.sumWords state body)

/-- The checksum is checked before the type byte is looked at. -/
def parse (buf : Buffer) : Outcome (Icmpv4Header × Buffer) := do
  if buf.length < ICMPV4_HEADER_SIZE then
    throw { errno := .EBADMSG, cause := "ICMPv4 datagram too small for header" }
  let hdrBuf := buf.take ICMPV4_HEADER_SIZE
  let typeByte ← Buffer.readU8 hdrBuf 0
  let code ← Buffer.readU8 hdrBuf 1
  let sum ← Buffer.readU16 hdrBuf 2
  if sum ≠ checksum hdrBuf (buf.drop ICMPV4_HEADER_SIZE) then
    throw { errno := .EBADMSG, cause := "ICMPv4 checksum mismatch" }
  let icmpv4Type ← Icmpv4Type2.parse typeByte (hdrBuf.drop 4)
  let buf ← Buffer.adjust buf ICMPV4_HEADER_SIZE
  return ({ protocol := icmpv4Type, code := code }, buf)

/-- The checksum is that of the header alone, without a body. -/
def serialize (h : Icmpv4Header) (buf : Buffer) : Except Fault Buffer := do
  if buf.length < ICMPV4_HEADER_SIZE then .error .indexOutOfBounds
  else
    let fixedBuf := buf.take ICMPV4_HEADER_SIZE
    let (typeByte, restOfHeader) := h.protocol.serialize
    let fixedBuf ← Buffer.write fixedBuf 0 [typeByte]
    let fixedBuf ← Buffer.write fixedBuf 1 [h.code]
    let fixedBuf ← Buffer.write fixedBuf 4 restOfHeader
    let fixedBuf ← Buffer.write fixedBuf 2 (toBeBytes 2 (checksum fixedBuf []).toNat)
    .ok (fixedBuf ++ buf.drop ICMPV4_HEADER_SIZE)

end Icmpv4Header

/-- What `transmit` is handed. It has no body. -/
structure Icmpv4Message where
  ethernet2Hdr : Ethernet2.Ethernet2Header
  ipv4Hdr : Ipv4.Ipv4Header
  icmpv4Hdr : Icmpv4Header
  deriving DecidableEq, Repr

namespace Icmpv4Message

/-- The three headers, which are the whole message. -/
def headerSize (message : Icmpv4Message) : Nat :=
  message.ethernet2Hdr.computeSize + message.ipv4Hdr.computeSize + message.icmpv4Hdr.size

/-- The length in the IPv4 header is that of the ICMPv4 header. -/
def writeHeader (message : Icmpv4Message) (buf : Buffer) : Except Fault Buffer := do
  let ethHdrSize := message.ethernet2Hdr.computeSize
  let ipv4HdrSize := message.ipv4Hdr.computeSize
  let icmpv4HdrSize := message.icmpv4Hdr.size
  let buf ← Buffer.writeSlice buf 0 ethHdrSize message.ethernet2Hdr.serialize
  let buf ← Buffer.writeSlice buf ethHdrSize ipv4HdrSize fun slice =>
    message.ipv4Hdr.serialize slice icmpv4HdrSize
  Buffer.writeSlice buf (ethHdrSize + ipv4HdrSize) icmpv4HdrSize message.icmpv4Hdr.serialize

end Icmpv4Message

end Inetstack.Icmpv4
