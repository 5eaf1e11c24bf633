import Inetstack.Tcp.Buffer

/-!
# Ethernet frames (`protocols/ethernet2/frame.rs` and `protocol.rs`)
-/

namespace Inetstack.Ethernet2

open Tcp (Buffer Fail Fault MacAddress Outcome toBeBytes)

/-- The two link addresses and the type of what follows. -/
def ETHERNET2_HEADER_SIZE : Nat := 14

/-- What a frame can carry. -/
inductive EtherType2 where
  | arp
  | ipv4
  | ipv6
  deriving DecidableEq, Repr

namespace EtherType2

def toU16 : EtherType2 → UInt16
  | .arp => 0x806
  | .ipv4 => 0x800
  | .ipv6 => 0x86dd

/-- Any other type is refused. -/
def tryFrom (n : UInt16) : Except Fail EtherType2 :=
  if n = 0x806 then .ok .arp
  else if n = 0x800 then .ok .ipv4
  else if n = 0x86dd then .ok .ipv6
  else .error { errno := .ENOTSUP, cause := "unsupported ETHERTYPE" }

end EtherType2

/-- The header of a frame. -/
structure Ethernet2Header where
  dstAddr : MacAddress
  srcAddr : MacAddress
  etherType : EtherType2
  deriving DecidableEq, Repr

/-- The six bytes of a link address. -/
def octets (addr : MacAddress) : Buffer := toBeBytes 6 addr.toNat

/-- The link address of six bytes. -/
def fromBytes (bytes : Buffer) : MacAddress := BitVec.ofNat 48 (Bytes.ofBe bytes)

namespace Ethernet2Header

def new (dstAddr srcAddr : MacAddress) (etherType : EtherType2) : Ethernet2Header where
  dstAddr := dstAddr
  srcAddr := srcAddr
  etherType := etherType

def computeSize (_ : Ethernet2Header) : Nat := ETHERNET2_HEADER_SIZE

/-- The type is the only field that is checked. -/
def parse (buf : Buffer) : Outcome (Ethernet2Header × Buffer) := do
  if buf.length < ETHERNET2_HEADER_SIZE then
    throw { errno := .EBADMSG, cause := "frame too small" }
  let hdrBuf := buf.take ETHERNET2_HEADER_SIZE
  let dstAddr := fromBytes (hdrBuf.take 6)
  let srcAddr := fromBytes ((hdrBuf.drop 6).take 6)
  let etherType ← (EtherType2.tryFrom (← Buffer.readU16 hdrBuf 12) : Except Fail EtherType2)
  let buf ← Buffer.adjust buf ETHERNET2_HEADER_SIZE
  return ({ dstAddr := dstAddr, srcAddr := srcAddr, etherType := etherType }, buf)

/-- The buffer has to have the size of the header. -/
def serialize (h : Ethernet2Header) (buf : Buffer) : Except Fault Buffer := do
  if buf.length ≠ ETHERNET2_HEADER_SIZE then .error .wrongBufferSize
  else
    let buf ← Buffer.write buf 0 (octets h.dstAddr)
    let buf ← Buffer.write buf 6 (octets h.srcAddr)
    Buffer.write buf 12 (toBeBytes 2 h.etherType.toU16.toNat)

end Ethernet2Header

end Inetstack.Ethernet2
