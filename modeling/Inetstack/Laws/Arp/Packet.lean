import Inetstack.Arp.Packet
import Inetstack.Lib.Machine
import Inetstack.Laws.Ethernet2.Frame

/-!
# ARP messages on the wire
-/

namespace Inetstack.Arp

open Tcp (Buffer Fail Fault Outcome toBeBytes)
open Ethernet2 (fromBytes octets)

theorem ArpOperation.fromU16_toU16 (operation : ArpOperation) :
    fromU16 operation.toU16 = some operation := by
  cases operation <;> rfl

namespace ArpHeader

/-- The bytes of a message. -/
def bytes (h : ArpHeader) : Buffer :=
  toBeBytes 2 ARP_HTYPE_ETHER2.toNat ++ toBeBytes 2 ARP_PTYPE_IPV4.toNat ++ [ARP_HLEN_ETHER2] ++
    [ARP_PLEN_IPV4] ++ toBeBytes 2 h.operation.toU16.toNat ++ octets h.senderHardwareAddr ++
    Tcp.Ipv4Addr.octets h.senderProtocolAddr ++ octets h.targetHardwareAddr ++
    Tcp.Ipv4Addr.octets h.targetProtocolAddr

theorem length_bytes (h : ArpHeader) : h.bytes.length = 28 := rfl

/-- A message is written over whatever the buffer held. -/
theorem serialize_eq (h : ArpHeader) {buf : Buffer} (size : buf.length = 28) :
    h.serialize buf = .ok h.bytes := by
  have whole : buf.take ARP_MESSAGE_SIZE = buf := List.take_of_length_le (Nat.le_of_eq size)
  have done : buf.drop 28 = [] := List.drop_eq_nil_of_le (Nat.le_of_eq size)
  have long : ¬buf.length < ARP_MESSAGE_SIZE := Nat.not_lt.mpr (Nat.le_of_eq size.symm)
  rw [serialize, if_neg long, whole]
  refine Machine.bind_eq_ok.mpr ⟨_, Buffer.write_first 2 rfl (by omega), ?_⟩
  refine Machine.bind_eq_ok.mpr ⟨_, Buffer.write_next 4 rfl rfl (by omega), ?_⟩
  refine Machine.bind_eq_ok.mpr ⟨_, Buffer.write_next 5 rfl rfl (by omega), ?_⟩
  refine Machine.bind_eq_ok.mpr ⟨_, Buffer.write_next 6 rfl rfl (by omega), ?_⟩
  refine Machine.bind_eq_ok.mpr ⟨_, Buffer.write_next 8 rfl rfl (by omega), ?_⟩
  refine Machine.bind_eq_ok.mpr ⟨_, Buffer.write_next 14 rfl rfl (by omega), ?_⟩
  refine Machine.bind_eq_ok.mpr ⟨_, Buffer.write_next 18 rfl rfl (by omega), ?_⟩
  refine Machine.bind_eq_ok.mpr ⟨_, Buffer.write_next 24 rfl rfl (by omega), ?_⟩
  refine Machine.bind_eq_ok.mpr ⟨_, Buffer.write_next 28 rfl rfl (by omega), ?_⟩
  rw [ARP_MESSAGE_SIZE, done, List.append_nil, List.append_nil]
  rfl

/-- A message is read back off the front of a frame. -/
theorem parse_bytes (h : ArpHeader) (padding : Buffer) : parse (h.bytes ++ padding) = pure h := by
  have long : ¬(h.bytes ++ padding).length < ARP_MESSAGE_SIZE := by
    rw [List.length_append, length_bytes]
    exact Nat.not_lt.mpr (Nat.le_add_right _ _)
  have front : (h.bytes ++ padding).take ARP_MESSAGE_SIZE = h.bytes := List.take_left' h.length_bytes
  have hardwareType : Buffer.readU16 h.bytes 0 = .ok ARP_HTYPE_ETHER2 := rfl
  have protocolType : Buffer.readU16 h.bytes 2 = .ok ARP_PTYPE_IPV4 := rfl
  have hardwareLen : Buffer.readU8 h.bytes 4 = .ok ARP_HLEN_ETHER2 := rfl
  have protocolLen : Buffer.readU8 h.bytes 5 = .ok ARP_PLEN_IPV4 := rfl
  have operation : Buffer.readU16 h.bytes 6 = .ok h.operation.toU16 :=
    congrArg Except.ok (Tcp.ofNat_ofBe_u16 h.operation.toU16)
  have sender : fromBytes ((h.bytes.drop 8).take 6) = h.senderHardwareAddr :=
    Ethernet2.fromBytes_octets h.senderHardwareAddr
  have senderIp : Buffer.readU32 h.bytes 14 =
      .ok (UInt32.ofNat (Bytes.ofBe (Tcp.Ipv4Addr.octets h.senderProtocolAddr))) := rfl
  have target : fromBytes ((h.bytes.drop 18).take 6) = h.targetHardwareAddr :=
    Ethernet2.fromBytes_octets h.targetHardwareAddr
  have targetIp : Buffer.readU32 h.bytes 24 =
      .ok (UInt32.ofNat (Bytes.ofBe (Tcp.Ipv4Addr.octets h.targetProtocolAddr))) := rfl
  simp only [parse, long, if_false, front, hardwareType, protocolType, hardwareLen, protocolLen,
    operation, ArpOperation.fromU16_toU16, sender, senderIp, target, targetIp, Tcp.ofNat_ofBe_octets,
    Tcp.Outcome.lift_ok, pure_bind, ne_eq, not_true_eq_false]

end ArpHeader

/-! ## Frames -/

/-- The two decoders, one after another. -/
def parseFrame (frame : Buffer) : Outcome (Ethernet2.Ethernet2Header × ArpHeader) := do
  let (ethernet2Hdr, buf) ← Ethernet2.Ethernet2Header.parse frame
  let header ← ArpHeader.parse buf
  return (ethernet2Hdr, header)

namespace ArpMessage

/-- The two headers are written one after another, over whatever the buffer held. -/
theorem writeHeader_eq (message : ArpMessage) {buf : Buffer}
    (room : message.headerSize ≤ buf.length) :
    message.writeHeader buf = .ok (message.ethernet2Hdr.bytes ++ message.header.bytes ++
      buf.drop message.headerSize) := by
  have size : message.headerSize = 42 := rfl
  refine Machine.bind_eq_ok.mpr ⟨_, Buffer.writeSlice_first 14 (by omega) rfl
    fun old length => message.ethernet2Hdr.serialize_eq length, ?_⟩
  exact Buffer.writeSlice_next message.headerSize rfl rfl room message.header.length_bytes
    fun old length => message.header.serialize_eq length

/-- What the encoder writes, followed by any padding, is decoded to the same headers. -/
theorem parseFrame_writeHeader (message : ArpMessage) {buf : Buffer}
    (room : message.headerSize ≤ buf.length) (padding : Buffer) :
    ∃ out, message.writeHeader buf = .ok out ∧
      parseFrame (out.take message.headerSize ++ padding) =
        pure (message.ethernet2Hdr, message.header) := by
  refine ⟨_, message.writeHeader_eq room, ?_⟩
  have size : (message.ethernet2Hdr.bytes ++ message.header.bytes).length = message.headerSize := rfl
  rw [List.take_left' size, List.append_assoc, parseFrame, Ethernet2.Ethernet2Header.parse_bytes,
    pure_bind]
  dsimp only
  rw [ArpHeader.parse_bytes, pure_bind]

end ArpMessage

end Inetstack.Arp
