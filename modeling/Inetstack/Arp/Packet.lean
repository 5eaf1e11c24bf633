import Inetstack.Ethernet2.Frame

/-!
# ARP messages (`protocols/arp/packet`)

Only Ethernet and IPv4 are supported, so the types and lengths of the addresses are constants on the
wire. The decoder reads the first 28 bytes and leaves what follows.
-/

namespace Inetstack.Arp

open Tcp (Buffer Fail Fault Ipv4Addr MacAddress Outcome toBeBytes)
open Ethernet2 (fromBytes octets)

/-- The hardware type of Ethernet. -/
def ARP_HTYPE_ETHER2 : UInt16 := 1

/-- A link address has six octets. -/
def ARP_HLEN_ETHER2 : UInt8 := 6

/-- The protocol type of IPv4. -/
def ARP_PTYPE_IPV4 : UInt16 := 0x800

/-- A protocol address has four octets. -/
def ARP_PLEN_IPV4 : UInt8 := 4

/-- The size of a packet, which has no data behind its header. -/
def ARP_MESSAGE_SIZE : Nat := 28

inductive ArpOperation where
  | request
  | reply
  deriving DecidableEq, Repr

namespace ArpOperation

def toU16 : ArpOperation → UInt16
  | .request => 1
  | .reply => 2

/-- There is no operation for any other number. -/
def fromU16 (n : UInt16) : Option ArpOperation :=
  if n = 1 then some .request else if n = 2 then some .reply else none

end ArpOperation

/-- The fields of a packet that are not fixed to Ethernet and IPv4. -/
structure ArpHeader where
  operation : ArpOperation
  senderHardwareAddr : MacAddress
  senderProtocolAddr : Ipv4Addr
  targetHardwareAddr : MacAddress
  targetProtocolAddr : Ipv4Addr
  deriving DecidableEq, Repr

namespace ArpHeader

def new (op : ArpOperation) (localLinkAddr : MacAddress) (localIpv4Addr : Ipv4Addr)
    (remoteLinkAddr : MacAddress) (remoteIpv4Addr : Ipv4Addr) : ArpHeader where
  operation := op
  senderHardwareAddr := localLinkAddr
  senderProtocolAddr := localIpv4Addr
  targetHardwareAddr := remoteLinkAddr
  targetProtocolAddr := remoteIpv4Addr

def computeSize (_ : ArpHeader) : Nat := ARP_MESSAGE_SIZE

/-- The types, the lengths and the operation are checked in the order in which they stand. What follows the
first twenty-eight octets is not looked at. -/
def parse (buf : Buffer) : Outcome ArpHeader := do
  if buf.length < ARP_MESSAGE_SIZE then
    throw { errno := .EBADMSG, cause := "ARP message too short" }
  let buf := buf.take ARP_MESSAGE_SIZE
  let hardwareType ← Buffer.readU16 buf 0
  if hardwareType ≠ ARP_HTYPE_ETHER2 then
    throw { errno := .ENOTSUP, cause := "unsupported HTYPE" }
  let protocolType ← Buffer.readU16 buf 2
  if protocolType ≠ ARP_PTYPE_IPV4 then
    throw { errno := .ENOTSUP, cause := "unsupported PTYPE" }
  let hardwareAddressLen ← Buffer.readU8 buf 4
  if hardwareAddressLen ≠ ARP_HLEN_ETHER2 then
    throw { errno := .ENOTSUP, cause := "unsupported HLEN" }
  let protocolAddressLen ← Buffer.readU8 buf 5
  if protocolAddressLen ≠ ARP_PLEN_IPV4 then
    throw { errno := .ENOTSUP, cause := "unsupported PLEN" }
  match ArpOperation.fromU16 (← Buffer.readU16 buf 6) with
  | none => throw { errno := .ENOTSUP, cause := "unsupported OPER" }
  | some operation =>
    let senderHardwareAddr := fromBytes ((buf.drop 8).take 6)
    let senderProtocolAddr : Ipv4Addr := (← Buffer.readU32 buf 14).toBitVec
    let targetHardwareAddr := fromBytes ((buf.drop 18).take 6)
    let targetProtocolAddr : Ipv4Addr := (← Buffer.readU32 buf 24).toBitVec
    return {
      operation := operation
      senderHardwareAddr := senderHardwareAddr
      senderProtocolAddr := senderProtocolAddr
      targetHardwareAddr := targetHardwareAddr
      targetProtocolAddr := targetProtocolAddr }

/-- Only the first twenty-eight octets of the buffer are written. -/
def serialize (h : ArpHeader) (buf : Buffer) : Except Fault Buffer := do
  if buf.length < ARP_MESSAGE_SIZE then .error .indexOutOfBounds
  else
    let fixedBuf := buf.take ARP_MESSAGE_SIZE
    let fixedBuf ← Buffer.write fixedBuf 0 (toBeBytes 2 ARP_HTYPE_ETHER2.toNat)
    let fixedBuf ← Buffer.write fixedBuf 2 (toBeBytes 2 ARP_PTYPE_IPV4.toNat)
    let fixedBuf ← Buffer.write fixedBuf 4 [ARP_HLEN_ETHER2]
    let fixedBuf ← Buffer.write fixedBuf 5 [ARP_PLEN_IPV4]
    let fixedBuf ← Buffer.write fixedBuf 6 (toBeBytes 2 h.operation.toU16.toNat)
    let fixedBuf ← Buffer.write fixedBuf 8 (octets h.senderHardwareAddr)
    let fixedBuf ← Buffer.write fixedBuf 14 (Tcp.Ipv4Addr.octets h.senderProtocolAddr)
    let fixedBuf ← Buffer.write fixedBuf 18 (octets h.targetHardwareAddr)
    let fixedBuf ← Buffer.write fixedBuf 24 (Tcp.Ipv4Addr.octets h.targetProtocolAddr)
    .ok (fixedBuf ++ buf.drop ARP_MESSAGE_SIZE)

end ArpHeader

/-- What `transmit` is handed. It has no body. -/
structure ArpMessage where
  ethernet2Hdr : Ethernet2.Ethernet2Header
  header : ArpHeader
  deriving DecidableEq, Repr

namespace ArpMessage

def headerSize (message : ArpMessage) : Nat :=
  message.ethernet2Hdr.computeSize + message.header.computeSize

/-- The Ethernet header, and behind it the packet. -/
def writeHeader (message : ArpMessage) (buf : Buffer) : Except Fault Buffer := do
  let ethHdrSize := message.ethernet2Hdr.computeSize
  let arpPduSize := message.header.computeSize
  let buf ← Buffer.writeSlice buf 0 ethHdrSize message.ethernet2Hdr.serialize
  Buffer.writeSlice buf ethHdrSize arpPduSize message.header.serialize

end ArpMessage

end Inetstack.Arp
