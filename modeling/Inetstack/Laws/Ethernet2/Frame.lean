import Inetstack.Ethernet2.Frame
import Inetstack.Laws.Tcp.Buffer

/-!
# Ethernet headers on the wire
-/

namespace Inetstack.Ethernet2

open Tcp (Buffer Fail Fault MacAddress Outcome toBeBytes)

theorem fromBytes_octets (addr : MacAddress) : fromBytes (octets addr) = addr := by
  apply BitVec.eq_of_toNat_eq
  rw [fromBytes, octets, Tcp.ofBe_toBeBytes_of_lt addr.isLt, BitVec.toNat_ofNat,
    Nat.mod_eq_of_lt addr.isLt]

theorem EtherType2.tryFrom_toU16 (etherType : EtherType2) :
    EtherType2.tryFrom etherType.toU16 = .ok etherType := by
  cases etherType <;> rfl

namespace Ethernet2Header

/-- The bytes of a header. -/
def bytes (h : Ethernet2Header) : Buffer :=
  octets h.dstAddr ++ octets h.srcAddr ++ toBeBytes 2 h.etherType.toU16.toNat

theorem length_bytes (h : Ethernet2Header) : h.bytes.length = 14 := rfl

/-- A header is written over whatever the buffer held. -/
theorem serialize_eq (h : Ethernet2Header) {buf : Buffer} (size : buf.length = 14) :
    h.serialize buf = .ok h.bytes := by
  match buf, size with
  | [_, _, _, _, _, _, _, _, _, _, _, _, _, _], _ => rfl

/-- A header is read back off the front of a frame. -/
theorem parse_bytes (h : Ethernet2Header) (payload : Buffer) :
    parse (h.bytes ++ payload) = pure (h, payload) := by
  have long : ¬(h.bytes ++ payload).length < ETHERNET2_HEADER_SIZE := by
    rw [List.length_append, length_bytes]
    exact Nat.not_lt.mpr (Nat.le_add_right _ _)
  have front : (h.bytes ++ payload).take ETHERNET2_HEADER_SIZE = h.bytes :=
    List.take_left' (length_bytes h)
  have dst : fromBytes (h.bytes.take 6) = h.dstAddr := fromBytes_octets h.dstAddr
  have src : fromBytes ((h.bytes.drop 6).take 6) = h.srcAddr := fromBytes_octets h.srcAddr
  have kind : Buffer.readU16 h.bytes 12 = .ok h.etherType.toU16 :=
    congrArg Except.ok (Tcp.ofNat_ofBe_u16 h.etherType.toU16)
  have rest : Buffer.adjust (h.bytes ++ payload) ETHERNET2_HEADER_SIZE = .ok payload :=
    Buffer.adjust_append (length_bytes h)
  simp only [parse, long, if_false, front, dst, src, kind, rest, Tcp.Outcome.lift_ok,
    EtherType2.tryFrom_toU16, Tcp.Outcome.lift_result, pure_bind]

end Ethernet2Header

end Inetstack.Ethernet2
