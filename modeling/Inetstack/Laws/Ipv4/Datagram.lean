import Inetstack.Ipv4.Datagram
import Inetstack.Lib.Machine
import Inetstack.Laws.Tcp.Buffer

/-!
# IPv4 headers on the wire

A header is written with a length and a checksum of its own: the checksum is taken over the other
eighteen bytes, so it does not depend on what the buffer held before; and it is never `0xffff`, which the
decoder refuses. The headers that are read back are those the two constructors of the source return.
-/

namespace Inetstack.Ipv4

open Ip (IpProtocol)
open Tcp (Buffer Fail Fault Ipv4Addr Outcome toBeBytes)
open Tcp.Outcome (bind_eq_pure guard_eq_pure)

/-- A protocol is read back from its number. -/
theorem IpProtocol.tryFrom_toU8 (protocol : IpProtocol) :
    IpProtocol.tryFrom protocol.toU8 = .ok protocol := by
  cases protocol <;> rfl

namespace Ipv4Header

/-- What the decoder asks of the fields that the encoder copies. -/
structure Sendable (h : Ipv4Header) : Prop where
  version : h.version = IPV4_VERSION
  ihl : h.ihl = IPV4_IHL_NO_OPTIONS
  dscp : h.dscp.toNat < 64
  ecn : h.ecn.toNat < 4
  flags : h.flags = 0 ∨ h.flags = IPV4_CTRL_FLAG_DF
  fragmentOffset : h.fragmentOffset = 0
  ttl : h.ttl ≠ 0

/-- The headers the code builds can be sent. -/
theorem new_sendable (srcAddr dstAddr : Ipv4Addr) (protocol : IpProtocol) :
    (new srcAddr dstAddr protocol).Sendable where
  version := rfl
  ihl := rfl
  dscp := Nat.zero_lt_succ 63
  ecn := Nat.zero_lt_succ 3
  flags := .inr rfl
  fragmentOffset := rfl
  ttl := show DEFAULT_IPV4_TTL ≠ 0 by decide

/-- Every header that is decoded is one. -/
theorem parse_sendable {buf rest : Buffer} {h : Ipv4Header} (ran : parse buf = pure (h, rest)) :
    h.Sendable := by
  unfold parse at ran
  obtain ⟨-, ran⟩ := guard_eq_pure.mp ran
  obtain ⟨byte0, -, ran⟩ := bind_eq_pure.mp ran
  obtain ⟨version, ran⟩ := guard_eq_pure.mp ran
  obtain ⟨notLess, ran⟩ := guard_eq_pure.mp ran
  obtain ⟨notMore, ran⟩ := guard_eq_pure.mp ran
  obtain ⟨byte1, -, ran⟩ := bind_eq_pure.mp ran
  obtain ⟨totalLength, -, ran⟩ := bind_eq_pure.mp ran
  obtain ⟨-, ran⟩ := guard_eq_pure.mp ran
  obtain ⟨-, ran⟩ := guard_eq_pure.mp ran
  obtain ⟨identification, -, ran⟩ := bind_eq_pure.mp ran
  obtain ⟨byte6, -, ran⟩ := bind_eq_pure.mp ran
  obtain ⟨notEvil, ran⟩ := guard_eq_pure.mp ran
  obtain ⟨last, ran⟩ := guard_eq_pure.mp ran
  obtain ⟨word6, -, ran⟩ := bind_eq_pure.mp ran
  obtain ⟨noOffset, ran⟩ := guard_eq_pure.mp ran
  obtain ⟨ttl, -, ran⟩ := bind_eq_pure.mp ran
  obtain ⟨alive, ran⟩ := guard_eq_pure.mp ran
  obtain ⟨byte9, -, ran⟩ := bind_eq_pure.mp ran
  obtain ⟨protocol, -, ran⟩ := bind_eq_pure.mp ran
  obtain ⟨checksum, -, ran⟩ := bind_eq_pure.mp ran
  obtain ⟨-, ran⟩ := guard_eq_pure.mp ran
  obtain ⟨computed, -, ran⟩ := bind_eq_pure.mp ran
  obtain ⟨-, ran⟩ := guard_eq_pure.mp ran
  obtain ⟨src, -, ran⟩ := bind_eq_pure.mp ran
  obtain ⟨dst, -, ran⟩ := bind_eq_pure.mp ran
  obtain ⟨adjusted, -, ran⟩ := bind_eq_pure.mp ran
  obtain ⟨trimmed, -, ran⟩ := bind_eq_pure.mp ran
  cases ran
  have services : ∀ byte : UInt8, (byte >>> 2).toNat < 64 ∧ (byte &&& 3).toNat < 4 :=
    Bytes.forall_byte (by decide +kernel)
  have flags : ∀ byte : UInt8, byte >>> 5 &&& IPV4_CTRL_FLAG_EVIL = 0 →
      byte >>> 5 &&& IPV4_CTRL_FLAG_MF = 0 → byte >>> 5 = 0 ∨ byte >>> 5 = IPV4_CTRL_FLAG_DF :=
    Bytes.forall_byte (by decide +kernel)
  exact {
    version := not_not.mp version
    ihl := UInt8.le_antisymm (UInt8.not_lt.mp notMore) (UInt8.not_lt.mp notLess)
    dscp := (services byte1).1
    ecn := (services byte1).2
    flags := flags byte6 (not_not.mp notEvil) (not_not.mp last)
    fragmentOffset := not_not.mp noOffset
    ttl := alive }

/-- The headers there can be: the fields are private, and only these two functions return one. -/
def Built (h : Ipv4Header) : Prop :=
  (∃ srcAddr dstAddr protocol, h = new srcAddr dstAddr protocol) ∨
    ∃ buf rest, parse buf = pure (h, rest)

theorem Built.sendable {h : Ipv4Header} (built : h.Built) : h.Sendable := by
  obtain ⟨srcAddr, dstAddr, protocol, rfl⟩ | ⟨buf, rest, ran⟩ := built
  · exact new_sendable srcAddr dstAddr protocol
  · exact parse_sendable ran

/-! ## Bytes -/

/-- The bytes of a header before its checksum. -/
def wireFront (h : Ipv4Header) (totalLength : UInt16) : Buffer :=
  [(h.version <<< 4) ||| h.ihl] ++ [(h.dscp <<< 2) ||| (h.ecn &&& 3)] ++
    toBeBytes 2 totalLength.toNat ++ toBeBytes 2 h.identification.toNat ++
    toBeBytes 2 ((h.flags.toUInt16 <<< 13) ||| (h.fragmentOffset &&& 0x1fff)).toNat ++
    [h.ttl] ++ [h.protocol.toU8]

/-- The bytes of a header after its checksum. -/
def addresses (srcAddr dstAddr : Ipv4Addr) : Buffer :=
  Tcp.Ipv4Addr.octets srcAddr ++ Tcp.Ipv4Addr.octets dstAddr

/-- The checksum of a header, over the words on both sides of it. -/
def wireSum (h : Ipv4Header) (totalLength : UInt16) : UInt16 :=
  Bytes.checksum
    (Bytes.sumWords (Bytes.sumWords 0xffff (h.wireFront totalLength)) (addresses h.srcAddr h.dstAddr))

/-- The bytes of a header. -/
def wire (h : Ipv4Header) (totalLength : UInt16) : Buffer :=
  h.wireFront totalLength ++ toBeBytes 2 (h.wireSum totalLength).toNat ++ addresses h.srcAddr h.dstAddr

theorem length_wireFront (h : Ipv4Header) (totalLength : UInt16) :
    (h.wireFront totalLength).length = 10 := rfl

theorem length_addresses (srcAddr dstAddr : Ipv4Addr) :
    (addresses srcAddr dstAddr).length = 8 := rfl

/-! ## Writing -/

/-- The checksum does not depend on the two bytes it is written to. -/
theorem computeChecksum_eq (h : Ipv4Header) (totalLength : UInt16) {hole : Buffer}
    (size : hole.length = 2) :
    computeChecksum (h.wireFront totalLength ++ hole ++ addresses h.srcAddr h.dstAddr) =
      .ok (h.wireSum totalLength) := by
  set front := h.wireFront totalLength with front_eq
  have ten : front.length = 10 := rfl
  have total : (front ++ hole ++ addresses h.srcAddr h.dstAddr).length = 20 := by
    rw [List.length_append, List.length_append, ten, size, length_addresses]
  have before : (front ++ hole ++ addresses h.srcAddr h.dstAddr).take 10 = front := by
    rw [List.append_assoc]
    exact List.take_left' ten
  have after : (front ++ hole ++ addresses h.srcAddr h.dstAddr).drop 12 =
      addresses h.srcAddr h.dstAddr := by
    apply List.drop_left'
    rw [List.length_append, ten, size]
  have right : ¬(front ++ hole ++ addresses h.srcAddr h.dstAddr).length ≠
      IPV4_HEADER_MIN_SIZE.toNat := not_not_intro total
  simp only [computeChecksum, right, if_false, before, after, wireSum, ← front_eq]

/-- The fields are written from both sides of the checksum, which is written last. -/
theorem serializeFields_eq (h : Ipv4Header) {buf : Buffer} (size : buf.length = 20)
    (payloadLen : Nat) :
    ∃ hole : Buffer, hole.length = 2 ∧
      h.serializeFields buf payloadLen =
        .ok (h.wireFront (IPV4_HEADER_MIN_SIZE + UInt16.ofNat payloadLen) ++ hole ++
          addresses h.srcAddr h.dstAddr) := by
  obtain ⟨hole, two, gap⟩ : ∃ hole, hole.length = 2 ∧ buf.drop 10 = hole ++ buf.drop 12 := by
    refine ⟨(buf.drop 10).take 2, ?_, ?_⟩
    · rw [List.length_take, List.length_drop, size]
      rfl
    · have split := List.take_append_drop 2 (buf.drop 10)
      rw [List.drop_drop] at split
      exact split.symm
  refine ⟨hole, two, ?_⟩
  dsimp only [serializeFields]
  refine Machine.bind_eq_ok.mpr ⟨_, Buffer.write_first 1 rfl (by omega), ?_⟩
  refine Machine.bind_eq_ok.mpr ⟨_, Buffer.write_next 2 rfl rfl (by omega), ?_⟩
  refine Machine.bind_eq_ok.mpr ⟨_, Buffer.write_next 4 rfl rfl (by omega), ?_⟩
  refine Machine.bind_eq_ok.mpr ⟨_, Buffer.write_next 6 rfl rfl (by omega), ?_⟩
  refine Machine.bind_eq_ok.mpr ⟨_, Buffer.write_next 8 rfl rfl (by omega), ?_⟩
  refine Machine.bind_eq_ok.mpr ⟨_, Buffer.write_next 9 rfl rfl (by omega), ?_⟩
  refine Machine.bind_eq_ok.mpr ⟨_, Buffer.write_next 10 rfl rfl (by omega), ?_⟩
  change (Buffer.write (h.wireFront _ ++ _) 12 _ >>= _) = _
  rw [gap, ← List.append_assoc]
  have twelve :
      (h.wireFront (IPV4_HEADER_MIN_SIZE + UInt16.ofNat payloadLen) ++ hole).length = 12 := by
    rw [List.length_append, length_wireFront, two]
  refine Machine.bind_eq_ok.mpr ⟨_, Buffer.write_next 16 twelve rfl (by omega), ?_⟩
  have sixteen : (h.wireFront (IPV4_HEADER_MIN_SIZE + UInt16.ofNat payloadLen) ++ hole ++
      Tcp.Ipv4Addr.octets h.srcAddr).length = 16 := by
    rw [List.length_append, twelve]
    rfl
  have done : buf.drop 20 = [] := List.drop_eq_nil_of_le (Nat.le_of_eq size)
  rw [Buffer.write_next 20 sixteen rfl (Nat.le_of_eq size.symm), done, List.append_nil, addresses,
    ← List.append_assoc]

/-- A header is written over whatever the buffer held. -/
theorem serialize_wire (h : Ipv4Header) {buf : Buffer} (size : buf.length = 20) (payloadLen : Nat) :
    h.serialize buf payloadLen = .ok (h.wire (IPV4_HEADER_MIN_SIZE + UInt16.ofNat payloadLen)) := by
  obtain ⟨hole, two, fields⟩ := h.serializeFields_eq size payloadLen
  have right : ¬buf.length ≠ IPV4_HEADER_MIN_SIZE.toNat := not_not_intro size
  rw [serialize, if_neg right]
  refine Machine.bind_eq_ok.mpr ⟨_, fields, ?_⟩
  refine Machine.bind_eq_ok.mpr ⟨_, h.computeChecksum_eq _ two, ?_⟩
  exact Buffer.write_middle rfl (by rw [Tcp.length_toBeBytes, two])

/-! ## Reading -/

/-- The checksum of a header is never all ones, since the words it is of are not all zero. -/
theorem wireSum_ne (h : Ipv4Header) (totalLength : UInt16) : h.wireSum totalLength ≠ 0xffff := by
  apply Bytes.checksum_ne
  rw [← Bytes.sumWords_append (by rw [length_wireFront])]
  refine UInt32.lt_of_lt_of_le (show (0 : UInt32) < 0xffff by decide) (Bytes.le_sumWords ?_)
  rw [List.length_append, length_wireFront, length_addresses]
  decide

/-- The header that is read back: the one written, with its length and its checksum. -/
def delivered (h : Ipv4Header) (totalLength : UInt16) : Ipv4Header :=
  { h with totalLength := totalLength, headerChecksum := h.wireSum totalLength }

/-- The two fields of the second byte are read back. -/
theorem services_byte {dscp ecn : UInt8} (d : dscp.toNat < 64) (e : ecn.toNat < 4) :
    ((dscp <<< 2) ||| (ecn &&& 3)) >>> 2 = dscp ∧ ((dscp <<< 2) ||| (ecn &&& 3)) &&& 3 = ecn := by
  have checked : ∀ m < 64, ∀ n < 4,
      ((UInt8.ofNat m <<< 2) ||| (UInt8.ofNat n &&& 3)) >>> 2 = UInt8.ofNat m ∧
      ((UInt8.ofNat m <<< 2) ||| (UInt8.ofNat n &&& 3)) &&& 3 = UInt8.ofNat n := by
    decide +kernel
  simpa only [UInt8.ofNat_toNat] using checked dscp.toNat d ecn.toNat e

/-- The flags of a datagram that is not a fragment are read back. -/
theorem flags_byte {h : Ipv4Header} (sendable : h.Sendable) (totalLength : UInt16) :
    ∃ high, Buffer.readU8 (h.wire totalLength) 6 = .ok high ∧ high >>> 5 = h.flags ∧
      h.flags &&& IPV4_CTRL_FLAG_EVIL = 0 ∧ h.flags &&& IPV4_CTRL_FLAG_MF = 0 ∧
      ∃ word, Buffer.readU16 (h.wire totalLength) 6 = .ok word ∧ word &&& 0x1fff = 0 := by
  have high : Buffer.readU8 (h.wire totalLength) 6 = .ok (UInt8.ofNat
      (((h.flags.toUInt16 <<< 13) ||| (h.fragmentOffset &&& 0x1fff)).toNat >>> 8)) := rfl
  have word : Buffer.readU16 (h.wire totalLength) 6 =
      .ok ((h.flags.toUInt16 <<< 13) ||| (h.fragmentOffset &&& 0x1fff)) :=
    congrArg Except.ok (Tcp.ofNat_ofBe_u16 _)
  rw [sendable.fragmentOffset] at high word
  refine ⟨_, high, ?_⟩
  obtain flags | flags := sendable.flags
  · rw [flags] at word ⊢
    exact ⟨by decide, by decide, by decide, _, word, by decide⟩
  · rw [flags] at word ⊢
    exact ⟨by decide, by decide, by decide, _, word, by decide⟩

/-- What stands at the places of a header that need no decoding. -/
structure Fields (h : Ipv4Header) (totalLength : UInt16) (hdr : Buffer) : Prop where
  services : Buffer.readU8 hdr 1 = .ok ((h.dscp <<< 2) ||| (h.ecn &&& 3))
  length : Buffer.readU16 hdr 2 = .ok totalLength
  identification : Buffer.readU16 hdr 4 = .ok h.identification
  ttl : Buffer.readU8 hdr 8 = .ok h.ttl
  protocol : Buffer.readU8 hdr 9 = .ok h.protocol.toU8
  checksum : Buffer.readU16 hdr 10 = .ok (h.wireSum totalLength)
  src : Buffer.readU32 hdr 12 = .ok (UInt32.ofNat (Bytes.ofBe (Tcp.Ipv4Addr.octets h.srcAddr)))
  dst : Buffer.readU32 hdr 16 = .ok (UInt32.ofNat (Bytes.ofBe (Tcp.Ipv4Addr.octets h.dstAddr)))

/-- Every field of the header stands at its place. -/
theorem wire_fields (h : Ipv4Header) (totalLength : UInt16) :
    Fields h totalLength (h.wire totalLength) where
  services := rfl
  length := congrArg Except.ok (Tcp.ofNat_ofBe_u16 totalLength)
  identification := congrArg Except.ok (Tcp.ofNat_ofBe_u16 h.identification)
  ttl := rfl
  protocol := rfl
  checksum := by
    rw [wire, List.append_assoc]
    exact Buffer.readU16_middle (h.length_wireFront totalLength) (h.wireSum totalLength)
  src := rfl
  dst := rfl

/-- A header is read back off the front of a datagram, and the padding after the datagram is cut. -/
theorem parse_wire {h : Ipv4Header} (sendable : h.Sendable) {totalLength : UInt16} {payload : Buffer}
    (padding : Buffer) (size : totalLength.toNat = 20 + payload.length) :
    parse (h.wire totalLength ++ payload ++ padding) = pure (h.delivered totalLength, payload) := by
  obtain ⟨high, flags, shifted, notEvil, last, word, fragmentOffset, noOffset⟩ :=
    flags_byte sendable totalLength
  obtain ⟨dscp, ecn⟩ := services_byte sendable.dscp sendable.ecn
  have fields := h.wire_fields totalLength
  have hdr_length : (h.wire totalLength).length = 20 := rfl
  have byte0 : Buffer.readU8 (h.wire totalLength) 0 = .ok 0x45 := by
    have first : Buffer.readU8 (h.wire totalLength) 0 = .ok ((h.version <<< 4) ||| h.ihl) := rfl
    rw [first, sendable.version, sendable.ihl]
    rfl
  have computed : computeChecksum (h.wire totalLength) = .ok (h.wireSum totalLength) :=
    h.computeChecksum_eq totalLength (Tcp.length_toBeBytes 2 _)
  -- from here on only the fields of the header matter
  generalize h.wire totalLength = hdr at *
  have total : (hdr ++ payload ++ padding).length = totalLength.toNat + padding.length := by
    rw [List.length_append, List.length_append, hdr_length, size]
  have long : ¬(hdr ++ payload ++ padding).length < IPV4_HEADER_MIN_SIZE.toNat := by
    rw [total, size]
    exact Nat.not_lt.mpr (by change 20 ≤ _; omega)
  have front : (hdr ++ payload ++ padding).take IPV4_HEADER_MIN_SIZE.toNat = hdr := by
    rw [List.append_assoc]
    exact List.take_left' hdr_length
  have whole : ¬totalLength < IPV4_HEADER_MIN_SIZE := by
    rw [UInt16.lt_iff_toNat_lt, size]
    exact Nat.not_lt.mpr (Nat.le_add_right 20 _)
  have fits : ¬(hdr ++ payload ++ padding).length < totalLength.toNat := by
    rw [total]
    exact Nat.not_lt.mpr (Nat.le_add_right _ _)
  have rest : Buffer.adjust (hdr ++ payload ++ padding) IPV4_HEADER_MIN_SIZE.toNat =
      .ok (payload ++ padding) := by
    rw [List.append_assoc]
    exact Buffer.adjust_append hdr_length
  have trimmed : Buffer.trim (payload ++ padding)
      ((hdr ++ payload ++ padding).length - totalLength.toNat) = .ok payload := by
    rw [total, Nat.add_sub_cancel_left]
    exact Buffer.trim_append payload padding
  have version : (0x45 : UInt8) >>> 4 = IPV4_VERSION := by decide
  have ihl : (0x45 : UInt8) &&& 0xf = IPV4_IHL_NO_OPTIONS := by decide
  have noOptions : ¬IPV4_IHL_NO_OPTIONS < IPV4_IHL_NO_OPTIONS := by decide
  simp only [parse, long, if_false, front, byte0, version, ihl, noOptions, fields.services, fields.length,
    whole, fits, fields.identification, flags, shifted, notEvil, last, fragmentOffset, noOffset, fields.ttl,
    sendable.ttl, fields.protocol, fields.checksum, computed, fields.src, fields.dst, rest, trimmed,
    gt_iff_lt, Tcp.Outcome.lift_ok, IpProtocol.tryFrom_toU8, Tcp.Outcome.lift_result, pure_bind,
    Tcp.ofNat_ofBe_octets, wireSum_ne, ne_eq, not_true_eq_false, dscp, ecn]
  rw [delivered, ← sendable.version, ← sendable.ihl, ← sendable.fragmentOffset]

/-! ## The header of `Ipv4Header::new` -/

/-- The bytes of the header before its checksum. -/
def front (protocol : IpProtocol) (totalLength : UInt16) : Buffer :=
  [0x45, 0] ++ toBeBytes 2 totalLength.toNat ++ [0, 0, 0x40, 0, 255, protocol.toU8]

/-- The checksum of a header the code builds, in closed form. -/
def wireChecksum (srcAddr dstAddr : Ipv4Addr) (protocol : IpProtocol) (totalLength : UInt16) :
    UInt16 :=
  Bytes.checksum
    (Bytes.sumWords (Bytes.sumWords 0xffff (front protocol totalLength)) (addresses srcAddr dstAddr))

/-- The bytes of the header. -/
def bytes (srcAddr dstAddr : Ipv4Addr) (protocol : IpProtocol) (totalLength : UInt16) : Buffer :=
  front protocol totalLength ++
    toBeBytes 2 (wireChecksum srcAddr dstAddr protocol totalLength).toNat ++
    addresses srcAddr dstAddr

/-- The header that is read back: the one written, with its length and its checksum. -/
def sent (srcAddr dstAddr : Ipv4Addr) (protocol : IpProtocol) (totalLength : UInt16) : Ipv4Header :=
  { new srcAddr dstAddr protocol with
    totalLength := totalLength
    headerChecksum := wireChecksum srcAddr dstAddr protocol totalLength }

variable {srcAddr dstAddr : Ipv4Addr} {protocol : IpProtocol}

/-- The bytes the constants of `Ipv4Header::new` come out as. -/
theorem wireFront_new (totalLength : UInt16) :
    (new srcAddr dstAddr protocol).wireFront totalLength = front protocol totalLength := by
  have version : (IPV4_VERSION <<< 4) ||| IPV4_IHL_NO_OPTIONS = 0x45 := by decide
  have services : ((0 : UInt8) <<< 2) ||| (0 &&& 3) = 0 := by decide
  have identification : toBeBytes 2 (0 : UInt16).toNat = [0, 0] := by decide
  have flags : toBeBytes 2
      ((IPV4_CTRL_FLAG_DF.toUInt16 <<< 13) ||| ((0 : UInt16) &&& 0x1fff)).toNat = [0x40, 0] := by
    decide
  simp only [wireFront, new, version, services, identification, flags]
  rfl

theorem wireSum_new (totalLength : UInt16) :
    (new srcAddr dstAddr protocol).wireSum totalLength =
      wireChecksum srcAddr dstAddr protocol totalLength := by
  rw [wireSum, wireFront_new]
  rfl

theorem wire_new (totalLength : UInt16) :
    (new srcAddr dstAddr protocol).wire totalLength = bytes srcAddr dstAddr protocol totalLength := by
  rw [wire, wireFront_new, wireSum_new]
  rfl

theorem delivered_new (totalLength : UInt16) :
    (new srcAddr dstAddr protocol).delivered totalLength =
      sent srcAddr dstAddr protocol totalLength := by
  rw [delivered, wireSum_new]
  rfl

theorem length_bytes (srcAddr dstAddr : Ipv4Addr) (protocol : IpProtocol) (totalLength : UInt16) :
    (bytes srcAddr dstAddr protocol totalLength).length = 20 := rfl

/-- The octets of a header the code builds. -/
theorem serialize_eq {buf : Buffer} (size : buf.length = 20) (payloadLen : Nat) :
    (new srcAddr dstAddr protocol).serialize buf payloadLen =
      .ok (bytes srcAddr dstAddr protocol (IPV4_HEADER_MIN_SIZE + UInt16.ofNat payloadLen)) := by
  rw [serialize_wire _ size, wire_new]

/-- They are read back, with padding behind the data. -/
theorem parse_bytes {totalLength : UInt16} {payload : Buffer} (padding : Buffer)
    (size : totalLength.toNat = 20 + payload.length) :
    parse (bytes srcAddr dstAddr protocol totalLength ++ payload ++ padding) =
      pure (sent srcAddr dstAddr protocol totalLength, payload) := by
  rw [← wire_new, parse_wire (new_sendable srcAddr dstAddr protocol) padding size, delivered_new]

end Ipv4Header

end Inetstack.Ipv4
