import Inetstack.Ip.Protocol
import Inetstack.Tcp.Buffer

/-!
# IPv4 datagrams (`protocols/ipv4/datagram.rs`)

The header with all its fields. The four-bit, two-bit and three-bit fields are the bytes the source
keeps them in; shifts and sums wrap.
-/

namespace Inetstack.Ipv4

open Ip (IpProtocol)
open Tcp (Buffer Fail Fault Ipv4Addr Outcome toBeBytes)

/-- `IPV4_DATAGRAM_MIN_SIZE` and `IPV4_HEADER_DEFAULT_SIZE` are the same number. -/
def IPV4_HEADER_MIN_SIZE : UInt16 := 20

/-- The header length, in words of four octets, of a header without options. -/
def IPV4_IHL_NO_OPTIONS : UInt8 := 5

/-- The time to live of every datagram that is sent. -/
def DEFAULT_IPV4_TTL : UInt8 := 255

/-- The only version that is understood. -/
def IPV4_VERSION : UInt8 := 4

/-- The evil bit, the first of the three flags. -/
def IPV4_CTRL_FLAG_EVIL : UInt8 := 0x4

/-- Don't fragment. -/
def IPV4_CTRL_FLAG_DF : UInt8 := 0x2

/-- More fragments. -/
def IPV4_CTRL_FLAG_MF : UInt8 := 0x1

/-- The fields of a header without options. -/
structure Ipv4Header where
  version : UInt8
  ihl : UInt8
  dscp : UInt8
  ecn : UInt8
  totalLength : UInt16
  identification : UInt16
  flags : UInt8
  fragmentOffset : UInt16
  ttl : UInt8
  protocol : IpProtocol
  headerChecksum : UInt16
  srcAddr : Ipv4Addr
  dstAddr : Ipv4Addr
  deriving DecidableEq, Repr

namespace Ipv4Header

/-- The header of a datagram that is sent. Its length and its checksum are computed when it is written. -/
def new (srcAddr dstAddr : Ipv4Addr) (protocol : IpProtocol) : Ipv4Header where
  version := IPV4_VERSION
  ihl := IPV4_IHL_NO_OPTIONS
  dscp := 0
  ecn := 0
  totalLength := IPV4_HEADER_MIN_SIZE
  identification := 0
  flags := IPV4_CTRL_FLAG_DF
  fragmentOffset := 0
  ttl := DEFAULT_IPV4_TTL
  protocol := protocol
  headerChecksum := 0
  srcAddr := srcAddr
  dstAddr := dstAddr

def computeSize (_ : Ipv4Header) : Nat := IPV4_HEADER_MIN_SIZE.toNat

/-- The checksum of a header. Bytes 10 and 11 hold the checksum itself and are skipped. -/
def computeChecksum (buf : Buffer) : Except Fault UInt16 :=
  if buf.length ≠ IPV4_HEADER_MIN_SIZE.toNat then .error .wrongBufferSize
  else
    let state := Bytes.sumWords 0xffff (buf.take 10)
    let state := Bytes.sumWords state (buf.drop 12)
    .ok (Bytes.checksum state)

/-- The checks stand in the order of the code. The octets behind the total length are padding, and are cut
off. -/
def parse (buf : Buffer) : Outcome (Ipv4Header × Buffer) := do
  if buf.length < IPV4_HEADER_MIN_SIZE.toNat then
    throw { errno := .EBADMSG, cause := "ipv4 datagram too small" }
  let hdrBuf := buf.take IPV4_HEADER_MIN_SIZE.toNat
  let byte0 ← Buffer.readU8 hdrBuf 0
  let version := byte0 >>> 4
  if version ≠ IPV4_VERSION then
    throw { errno := .ENOTSUP, cause := "unsupported IP version" }
  let ihl := byte0 &&& 0xf
  if ihl < IPV4_IHL_NO_OPTIONS then
    throw { errno := .EBADMSG, cause := "IPv4 IHL is too small" }
  if ihl > IPV4_IHL_NO_OPTIONS then
    throw { errno := .ENOTSUP, cause := "ipv4 options are not supported" }
  let byte1 ← Buffer.readU8 hdrBuf 1
  let dscp := byte1 >>> 2
  let ecn := byte1 &&& 3
  let totalLength ← Buffer.readU16 hdrBuf 2
  if totalLength < IPV4_HEADER_MIN_SIZE then
    throw { errno := .EBADMSG, cause := "ipv4 datagram too small" }
  if buf.length < totalLength.toNat then
    throw { errno := .EBADMSG, cause := "ipv4 datagram size mismatch" }
  let identification ← Buffer.readU16 hdrBuf 4
  let flags := (← Buffer.readU8 hdrBuf 6) >>> 5
  if flags &&& IPV4_CTRL_FLAG_EVIL ≠ 0 then
    throw { errno := .EBADMSG, cause := "ipv4 datagram is marked as evil" }
  if flags &&& IPV4_CTRL_FLAG_MF ≠ 0 then
    throw { errno := .ENOTSUP, cause := "ipv4 fragmentation is not supported" }
  let fragmentOffset := (← Buffer.readU16 hdrBuf 6) &&& 0x1fff
  if fragmentOffset ≠ 0 then
    throw { errno := .ENOTSUP, cause := "ipv4 fragmentation is not supported" }
  let timeToLive ← Buffer.readU8 hdrBuf 8
  if timeToLive = 0 then
    throw { errno := .EBADMSG, cause := "ipv4 datagram too old" }
  let protocol ← (IpProtocol.tryFrom (← Buffer.readU8 hdrBuf 9) : Except Fail IpProtocol)
  let headerChecksum ← Buffer.readU16 hdrBuf 10
  if headerChecksum = 0xffff then
    throw { errno := .EBADMSG, cause := "ipv4 checksum invalid" }
  if headerChecksum ≠ (← computeChecksum hdrBuf) then
    throw { errno := .EBADMSG, cause := "ipv4 checksum mismatch" }
  let srcAddr : Ipv4Addr := (← Buffer.readU32 hdrBuf 12).toBitVec
  let dstAddr : Ipv4Addr := (← Buffer.readU32 hdrBuf 16).toBitVec
  let paddingBytes := buf.length - totalLength.toNat
  let buf ← Buffer.adjust buf IPV4_HEADER_MIN_SIZE.toNat
  let buf ← Buffer.trim buf paddingBytes
  return ({
    version := version
    ihl := ihl
    dscp := dscp
    ecn := ecn
    totalLength := totalLength
    identification := identification
    flags := flags
    fragmentOffset := fragmentOffset
    ttl := timeToLive
    protocol := protocol
    headerChecksum := headerChecksum
    srcAddr := srcAddr
    dstAddr := dstAddr }, buf)

/-- Write all fields but the checksum. -/
def serializeFields (h : Ipv4Header) (buf : Buffer) (payloadLen : Nat) : Except Fault Buffer := do
  let buf ← Buffer.write buf 0 [(h.version <<< 4) ||| h.ihl]
  let buf ← Buffer.write buf 1 [(h.dscp <<< 2) ||| (h.ecn &&& 3)]
  let buf ← Buffer.write buf 2
    (toBeBytes 2 (IPV4_HEADER_MIN_SIZE + UInt16.ofNat payloadLen).toNat)
  let buf ← Buffer.write buf 4 (toBeBytes 2 h.identification.toNat)
  let buf ← Buffer.write buf 6
    (toBeBytes 2 ((h.flags.toUInt16 <<< 13) ||| (h.fragmentOffset &&& 0x1fff)).toNat)
  let buf ← Buffer.write buf 8 [h.ttl]
  let buf ← Buffer.write buf 9 [h.protocol.toU8]
  let buf ← Buffer.write buf 12 (Tcp.Ipv4Addr.octets h.srcAddr)
  Buffer.write buf 16 (Tcp.Ipv4Addr.octets h.dstAddr)

/-- The checksum is computed over the fields that have been written. -/
def serialize (h : Ipv4Header) (buf : Buffer) (payloadLen : Nat) : Except Fault Buffer := do
  if buf.length ≠ IPV4_HEADER_MIN_SIZE.toNat then .error .wrongBufferSize
  else
    let buf ← h.serializeFields buf payloadLen
    let checksum ← computeChecksum buf
    Buffer.write buf 10 (toBeBytes 2 checksum.toNat)

/-- The total length of `serialize` does not fit, which a build with overflow checks panics on. The sum of
a header's checksum always fits. -/
def overflows (payloadLen : Nat) : Bool :=
  decide (2 ^ 16 ≤ IPV4_HEADER_MIN_SIZE.toNat + payloadLen % 2 ^ 16)

end Ipv4Header

end Inetstack.Ipv4
