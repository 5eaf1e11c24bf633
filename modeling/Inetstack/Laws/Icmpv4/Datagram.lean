import Inetstack.Icmpv4.Datagram
import Inetstack.Laws.Ethernet2.Frame
import Inetstack.Laws.Ipv4.Datagram

/-!
# ICMPv4 messages on the wire

The encoder sums the header alone. The decoder sums what IPv4 hands it, so the padding of the frame has
to be gone by then.
-/

namespace Inetstack.Icmpv4

open Tcp (Buffer Fail Fault Outcome toBeBytes)

theorem Icmpv4Type2.length_serialize (icmpv4Type : Icmpv4Type2) :
    icmpv4Type.serialize.2.length = 4 := by
  cases icmpv4Type <;> rfl

/-- A type is read back from its type byte and its four bytes. -/
theorem Icmpv4Type2.parse_serialize (icmpv4Type : Icmpv4Type2) :
    parse icmpv4Type.serialize.1 icmpv4Type.serialize.2 = pure icmpv4Type := by
  have pair (id seqNum : UInt16) :
      Buffer.readU16 (toBeBytes 2 id.toNat ++ toBeBytes 2 seqNum.toNat) 0 = .ok id ∧
      Buffer.readU16 (toBeBytes 2 id.toNat ++ toBeBytes 2 seqNum.toNat) 2 = .ok seqNum :=
    ⟨congrArg Except.ok (Tcp.ofNat_ofBe_u16 id), congrArg Except.ok (Tcp.ofNat_ofBe_u16 seqNum)⟩
  cases icmpv4Type with
  | echoReply id seqNum =>
    simp only [parse, serialize, if_true, pair id seqNum, Tcp.Outcome.lift_ok, pure_bind]
  | echoRequest id seqNum =>
    have three : ¬(8 : UInt8) = 0 ∧ ¬(8 : UInt8) = 3 ∧ ¬(8 : UInt8) = 4 ∧ ¬(8 : UInt8) = 5 := by decide
    simp only [parse, serialize, three, if_false, if_true, pair id seqNum, Tcp.Outcome.lift_ok,
      pure_bind]
  | _ => rfl

namespace Icmpv4Header

/-- The two bytes before the checksum. -/
def front (h : Icmpv4Header) : Buffer := [h.protocol.serialize.1, h.code]

def wireSum (h : Icmpv4Header) : UInt16 :=
  Bytes.checksum (Bytes.sumWords (Bytes.sumWords 0xffff h.front) h.protocol.serialize.2)

/-- The bytes of a header. -/
def bytes (h : Icmpv4Header) : Buffer :=
  h.front ++ toBeBytes 2 h.wireSum.toNat ++ h.protocol.serialize.2

theorem length_bytes (h : Icmpv4Header) : h.bytes.length = 8 := by
  rw [bytes, List.length_append, h.protocol.length_serialize]
  rfl

/-- The checksum does not depend on the two bytes it is written to. -/
theorem checksum_hole (h : Icmpv4Header) {hole : Buffer} (two : hole.length = 2) :
    checksum (h.front ++ hole ++ h.protocol.serialize.2) [] = h.wireSum := by
  have before : (h.front ++ hole ++ h.protocol.serialize.2).take 2 = h.front := rfl
  have after : (h.front ++ hole ++ h.protocol.serialize.2).drop 4 = h.protocol.serialize.2 := by
    apply List.drop_left'
    rw [List.length_append, two]
    rfl
  simp only [checksum, before, after, wireSum, Bytes.sumWords]

/-- A header is written over whatever the buffer held. -/
theorem serialize_eq (h : Icmpv4Header) {buf : Buffer} (size : buf.length = 8) :
    h.serialize buf = .ok h.bytes := by
  have whole : buf.take ICMPV4_HEADER_SIZE = buf := List.take_of_length_le (Nat.le_of_eq size)
  have done : buf.drop 8 = [] := List.drop_eq_nil_of_le (Nat.le_of_eq size)
  have long : ¬buf.length < ICMPV4_HEADER_SIZE := Nat.not_lt.mpr (Nat.le_of_eq size.symm)
  obtain ⟨hole, two, gap⟩ : ∃ hole, hole.length = 2 ∧ buf.drop 2 = hole ++ buf.drop 4 := by
    refine ⟨(buf.drop 2).take 2, ?_, ?_⟩
    · rw [List.length_take, List.length_drop, size]
      rfl
    · have split := List.take_append_drop 2 (buf.drop 2)
      rw [List.drop_drop] at split
      exact split.symm
  rw [serialize, if_neg long, whole]
  refine Machine.bind_eq_ok.mpr ⟨_, Buffer.write_first 1 rfl (by omega), ?_⟩
  refine Machine.bind_eq_ok.mpr ⟨_, Buffer.write_next 2 rfl rfl (by omega), ?_⟩
  change (Buffer.write (h.front ++ buf.drop 2) 4 h.protocol.serialize.2 >>= _) = _
  have four : (h.front ++ hole).length = 4 := by
    rw [List.length_append, two]
    rfl
  rw [gap, ← List.append_assoc]
  refine Machine.bind_eq_ok.mpr ⟨_, Buffer.write_next 8 four
    (by rw [h.protocol.length_serialize]) (by omega), ?_⟩
  rw [done, List.append_nil, h.checksum_hole two]
  refine Machine.bind_eq_ok.mpr ⟨_, Buffer.write_middle rfl (by rw [Tcp.length_toBeBytes, two]), ?_⟩
  rw [ICMPV4_HEADER_SIZE, done, List.append_nil]
  rfl

/-- A header is read back if nothing follows it. -/
theorem parse_bytes (h : Icmpv4Header) : parse h.bytes = pure (h, []) := by
  have size : h.bytes.length = ICMPV4_HEADER_SIZE := h.length_bytes
  have long : ¬h.bytes.length < ICMPV4_HEADER_SIZE := Nat.not_lt.mpr (Nat.le_of_eq size.symm)
  have front : h.bytes.take ICMPV4_HEADER_SIZE = h.bytes := List.take_of_length_le (Nat.le_of_eq size)
  have body : h.bytes.drop ICMPV4_HEADER_SIZE = [] := List.drop_eq_nil_of_le (Nat.le_of_eq size)
  have typeByte : Buffer.readU8 h.bytes 0 = .ok h.protocol.serialize.1 := rfl
  have code : Buffer.readU8 h.bytes 1 = .ok h.code := rfl
  have sum : Buffer.readU16 h.bytes 2 = .ok h.wireSum :=
    congrArg Except.ok (Tcp.ofNat_ofBe_u16 h.wireSum)
  have summed : checksum h.bytes [] = h.wireSum := h.checksum_hole (Tcp.length_toBeBytes 2 _)
  have rest : h.bytes.drop 4 = h.protocol.serialize.2 := List.drop_left' rfl
  have adjusted : Buffer.adjust h.bytes ICMPV4_HEADER_SIZE = .ok [] := by
    rw [Buffer.adjust, if_pos (Nat.le_of_eq size.symm), body]
  simp only [parse, long, if_false, front, body, typeByte, code, sum, summed, rest,
    Icmpv4Type2.parse_serialize, adjusted, Tcp.Outcome.lift_ok, pure_bind, ne_eq, not_true_eq_false]

end Icmpv4Header

/-! ## Frames -/

/-- The three decoders, one after another. -/
def parseFrame (frame : Buffer) :
    Outcome (Ethernet2.Ethernet2Header × Ipv4.Ipv4Header × Icmpv4Header × Buffer) := do
  let (ethernet2Hdr, buf) ← Ethernet2.Ethernet2Header.parse frame
  let (ipv4Hdr, buf) ← Ipv4.Ipv4Header.parse buf
  let (icmpv4Hdr, data) ← Icmpv4Header.parse buf
  return (ethernet2Hdr, ipv4Hdr, icmpv4Hdr, data)

namespace Icmpv4Message

/-- The total length in the IPv4 header of a message. -/
def totalLength : UInt16 := 28

/-- The three headers are written one after another, over whatever the buffer held. -/
theorem writeHeader_eq (message : Icmpv4Message) {buf : Buffer}
    (room : message.headerSize ≤ buf.length) :
    message.writeHeader buf = .ok (message.ethernet2Hdr.bytes ++ message.ipv4Hdr.wire totalLength ++
      message.icmpv4Hdr.bytes ++ buf.drop message.headerSize) := by
  have size : message.headerSize = 42 := rfl
  refine Machine.bind_eq_ok.mpr ⟨_, Buffer.writeSlice_first 14 (by omega) rfl
    fun old length => message.ethernet2Hdr.serialize_eq length, ?_⟩
  refine Machine.bind_eq_ok.mpr ⟨_, Buffer.writeSlice_next 34 rfl rfl (by omega) rfl
    fun old length => message.ipv4Hdr.serialize_wire length _, ?_⟩
  exact Buffer.writeSlice_next message.headerSize rfl rfl room message.icmpv4Hdr.length_bytes
    fun old length => message.icmpv4Hdr.serialize_eq length

/-- What the encoder writes, followed by any padding, is decoded to the same headers and no data. -/
theorem parseFrame_writeHeader {message : Icmpv4Message} (built : message.ipv4Hdr.Built)
    {buf : Buffer} (room : message.headerSize ≤ buf.length) (padding : Buffer) :
    ∃ out, message.writeHeader buf = .ok out ∧
      parseFrame (out.take message.headerSize ++ padding) =
        pure (message.ethernet2Hdr, message.ipv4Hdr.delivered totalLength, message.icmpv4Hdr, []) := by
  refine ⟨_, message.writeHeader_eq room, ?_⟩
  set icmp := message.icmpv4Hdr.bytes with icmp_eq
  set ip := message.ipv4Hdr.wire totalLength
  have eight : icmp.length = 8 := message.icmpv4Hdr.length_bytes
  have size : (message.ethernet2Hdr.bytes ++ ip ++ icmp).length = message.headerSize := by
    rw [List.length_append, eight]
    rfl
  have length : totalLength.toNat = 20 + icmp.length := by
    rw [eight]
    rfl
  have frame : (message.ethernet2Hdr.bytes ++ ip ++ icmp ++ buf.drop message.headerSize).take
      message.headerSize ++ padding = message.ethernet2Hdr.bytes ++ (ip ++ icmp ++ padding) := by
    rw [List.take_left' size]
    simp only [List.append_assoc]
  have ethernet := Ethernet2.Ethernet2Header.parse_bytes message.ethernet2Hdr (ip ++ icmp ++ padding)
  have ipv4 : Ipv4.Ipv4Header.parse (ip ++ icmp ++ padding) =
      pure (message.ipv4Hdr.delivered totalLength, icmp) :=
    Ipv4.Ipv4Header.parse_wire built.sendable padding length
  rw [frame, parseFrame, ethernet, pure_bind]
  dsimp only
  rw [ipv4, pure_bind]
  dsimp only
  rw [icmp_eq, Icmpv4Header.parse_bytes, pure_bind]

end Icmpv4Message

end Inetstack.Icmpv4
