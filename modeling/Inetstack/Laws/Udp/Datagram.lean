import Inetstack.Udp.Datagram
import Inetstack.Laws.Ethernet2.Frame
import Inetstack.Laws.Ipv4.Datagram

/-!
# UDP datagrams on the wire
-/

namespace Inetstack.Udp

open Tcp (Buffer Fail Fault Outcome toBeBytes)

namespace UdpHeader

/-- The bytes of a header before its checksum. -/
def front (h : UdpHeader) (length : UInt16) : Buffer :=
  toBeBytes 2 h.srcPort.toNat ++ toBeBytes 2 h.destPort.toNat ++ toBeBytes 2 length.toNat

/-- The length field of a datagram. -/
def wireLength (data : Buffer) : UInt16 := UInt16.ofNat (UDP_HEADER_SIZE + data.length)

theorem length_front (h : UdpHeader) (length : UInt16) : (h.front length).length = 6 := rfl

/-- The checksum is over the addresses and everything but the two bytes it is written to. -/
theorem checksum_hole {ip ip' : Ipv4.Ipv4Header} {front hole hole' : Buffer} (data : Buffer)
    (src : ip.srcAddr = ip'.srcAddr) (dst : ip.dstAddr = ip'.dstAddr) (size : front.length = 6)
    (two : hole.length = 2) (two' : hole'.length = 2) :
    checksum ip (front ++ hole) data = checksum ip' (front ++ hole') data := by
  have length : (front ++ hole).length = (front ++ hole').length := by
    simp only [List.length_append, two, two']
  have before (hole : Buffer) : (front ++ hole).take 6 = front := List.take_left' size
  simp only [checksum, src, dst, length, before]

theorem checksum_ok (ip : Ipv4.Ipv4Header) (header data : Buffer)
    (size : header.length = UDP_HEADER_SIZE) : ∃ sum, checksum ip header data = .ok sum := by
  simp only [checksum, ne_eq, size, not_true_eq_false, if_false]
  exact ⟨_, rfl⟩

/-- What is written to the checksum's place: the checksum of what is written, or zero if the hardware
fills it in. -/
theorem sum_ok (h : UdpHeader) (ip : Ipv4.Ipv4Header) (data : Buffer) (checksumOffload : Bool) :
    ∃ sum : UInt16, (checksumOffload = true → sum = 0) ∧
      (checksumOffload = false → ∀ hole : Buffer, hole.length = 2 →
        checksum ip (h.front (wireLength data) ++ hole) data = .ok sum) := by
  cases checksumOffload with
  | true => exact ⟨0, fun _ => rfl, nofun⟩
  | false =>
    obtain ⟨sum, summed⟩ := checksum_ok ip (h.front (wireLength data) ++ [0, 0]) data rfl
    refine ⟨sum, nofun, fun _ hole two => ?_⟩
    rw [← summed]
    exact checksum_hole data rfl rfl (h.length_front _) two rfl

/-- A header is written over whatever the buffer held, with the checksum of what is written. -/
theorem serialize_eq (h : UdpHeader) (ip : Ipv4.Ipv4Header) (data : Buffer) (checksumOffload : Bool) :
    ∃ sum : UInt16,
      (checksumOffload = false →
        checksum ip (h.front (wireLength data) ++ toBeBytes 2 sum.toNat) data = .ok sum) ∧
      ∀ buf : Buffer, buf.length = UDP_HEADER_SIZE →
        h.serialize buf ip data checksumOffload =
          .ok (h.front (wireLength data) ++ toBeBytes 2 sum.toNat) := by
  obtain ⟨sum, zero, everywhere⟩ := h.sum_ok ip data checksumOffload
  refine ⟨sum, fun computed => everywhere computed _ (Tcp.length_toBeBytes 2 _), fun buf size => ?_⟩
  have whole : buf.take UDP_HEADER_SIZE = buf := List.take_of_length_le (Nat.le_of_eq size)
  have done : buf.drop UDP_HEADER_SIZE = [] := List.drop_eq_nil_of_le (Nat.le_of_eq size)
  have long : ¬buf.length < UDP_HEADER_SIZE := Nat.not_lt.mpr (Nat.le_of_eq size.symm)
  have eight : buf.length = 8 := size
  have two : (buf.drop 6).length = 2 := by
    rw [List.length_drop, eight]
  rw [serialize, if_neg long, whole, done]
  refine Machine.bind_eq_ok.mpr ⟨_, Buffer.write_first 2 rfl (by omega), ?_⟩
  refine Machine.bind_eq_ok.mpr ⟨_, Buffer.write_next 4 rfl rfl (by omega), ?_⟩
  refine Machine.bind_eq_ok.mpr ⟨_, Buffer.write_next 6 rfl rfl (by omega), ?_⟩
  have last : (Buffer.write (h.front (wireLength data) ++ buf.drop 6) 6 (toBeBytes 2 sum.toNat) >>=
      fun fixedBuf => .ok (fixedBuf ++ [])) =
        (.ok (h.front (wireLength data) ++ toBeBytes 2 sum.toNat) : Except Fault Buffer) := by
    refine Machine.bind_eq_ok.mpr ⟨_, Buffer.write_next 8 rfl rfl (by omega), ?_⟩
    rw [List.drop_eq_nil_of_le (Nat.le_of_eq eight), List.append_nil, List.append_nil]
  cases checksumOffload with
  | true =>
    cases zero rfl
    exact last
  | false => exact Machine.bind_eq_ok.mpr ⟨sum, everywhere rfl _ two, last⟩

/-- A header is read back off the front of a datagram, whatever stands in the place of its checksum. Where
the checksum is looked at and does not match, it is refused for it. -/
theorem parse_checked {h : UdpHeader} {ip : Ipv4.Ipv4Header} {data : Buffer} {sum computed : UInt16}
    (small : UDP_HEADER_SIZE + data.length ≤ 65535)
    (summed : checksum ip (h.front (wireLength data) ++ toBeBytes 2 sum.toNat) data = .ok computed)
    (checksumOffload : Bool) :
    parse ip (h.front (wireLength data) ++ toBeBytes 2 sum.toNat ++ data) checksumOffload =
      if !checksumOffload && sum != computed then
        throw { errno := .EBADMSG, cause := "UDP checksum mismatch" }
      else pure (h, data) := by
  set hdr := h.front (wireLength data) ++ toBeBytes 2 sum.toNat with hdr_eq
  have size : hdr.length = UDP_HEADER_SIZE := rfl
  have total : (hdr ++ data).length = UDP_HEADER_SIZE + data.length := by
    rw [List.length_append, size]
  have long : ¬(hdr ++ data).length < UDP_HEADER_SIZE := by omega
  have front : (hdr ++ data).take UDP_HEADER_SIZE = hdr := List.take_left' size
  have rest : (hdr ++ data).drop UDP_HEADER_SIZE = data := List.drop_left' size
  have srcPort : Buffer.readU16 hdr 0 = .ok h.srcPort :=
    congrArg Except.ok (Tcp.ofNat_ofBe_u16 h.srcPort)
  have destPort : Buffer.readU16 hdr 2 = .ok h.destPort :=
    congrArg Except.ok (Tcp.ofNat_ofBe_u16 h.destPort)
  have length : Buffer.readU16 hdr 4 = .ok (wireLength data) :=
    congrArg Except.ok (Tcp.ofNat_ofBe_u16 (wireLength data))
  have exact_ : (wireLength data).toNat = (hdr ++ data).length := by
    rw [total, wireLength, UInt16.toNat_ofNat', Nat.mod_eq_of_lt (by omega)]
  have read : Buffer.readU16 hdr 6 = .ok sum := congrArg Except.ok (Tcp.ofNat_ofBe_u16 sum)
  simp only [parse, long, if_false, front, rest, srcPort, destPort, length, exact_, read, summed,
    Tcp.Outcome.lift_ok, pure_bind, ne_eq, not_true_eq_false]
  cases checksumOffload with
  | true => rfl
  | false =>
    by_cases same : sum = computed
    · subst same
      simp only [Bool.not_false, if_true, not_true_eq_false, if_false, bne_self_eq_false, Bool.and_false,
        Bool.false_eq_true]
      rfl
    · have differ : (sum != computed) = true := bne_iff_ne.mpr same
      simp only [differ, Bool.not_false, Bool.and_self, if_true, same, not_false_eq_true]
      rfl

/-- A header with the checksum of what was written is read back. -/
theorem parse_front {h : UdpHeader} {ip : Ipv4.Ipv4Header} {data : Buffer} {sum : UInt16}
    (small : UDP_HEADER_SIZE + data.length ≤ 65535)
    (summed : checksum ip (h.front (wireLength data) ++ toBeBytes 2 sum.toNat) data = .ok sum) :
    parse ip (h.front (wireLength data) ++ toBeBytes 2 sum.toNat ++ data) false = pure (h, data) := by
  rw [parse_checked small summed false, bne_self_eq_false, Bool.and_false, if_neg Bool.false_ne_true]

end UdpHeader

/-! ## Frames -/

/-- The three decoders, one after another. -/
def parseFrame (frame : Buffer) :
    Outcome (Ethernet2.Ethernet2Header × Ipv4.Ipv4Header × UdpHeader × Buffer) := do
  let (ethernet2Hdr, buf) ← Ethernet2.Ethernet2Header.parse frame
  let (ipv4Hdr, buf) ← Ipv4.Ipv4Header.parse buf
  let (udpHdr, data) ← UdpHeader.parse ipv4Hdr buf false
  return (ethernet2Hdr, ipv4Hdr, udpHdr, data)

namespace UdpDatagram

/-- The total length in the IPv4 header of a datagram. -/
def totalLength (datagram : UdpDatagram) : UInt16 :=
  Ipv4.IPV4_HEADER_MIN_SIZE + UInt16.ofNat (UDP_HEADER_SIZE + datagram.data.length)

theorem toNat_totalLength {datagram : UdpDatagram} (small : datagram.data.length ≤ 65507) :
    datagram.totalLength.toNat = 20 + (UDP_HEADER_SIZE + datagram.data.length) := by
  rw [totalLength, UInt16.toNat_add, UInt16.toNat_ofNat']
  change (20 + (8 + datagram.data.length) % 65536) % 65536 = 20 + (8 + datagram.data.length)
  omega

/-- The three headers are written one after another, over whatever the buffer held. -/
theorem writeHeader_eq {datagram : UdpDatagram} {buf : Buffer}
    (room : datagram.headerSize ≤ buf.length) :
    ∃ sum : UInt16,
      (datagram.checksumOffload = false → UdpHeader.checksum datagram.ipv4Hdr
        (datagram.udpHdr.front (UdpHeader.wireLength datagram.data) ++ toBeBytes 2 sum.toNat)
          datagram.data = .ok sum) ∧
      datagram.writeHeader buf = .ok (datagram.ethernet2Hdr.bytes ++
        datagram.ipv4Hdr.wire datagram.totalLength ++
        (datagram.udpHdr.front (UdpHeader.wireLength datagram.data) ++ toBeBytes 2 sum.toNat) ++
        buf.drop datagram.headerSize) := by
  obtain ⟨sum, summed, wrote⟩ :=
    datagram.udpHdr.serialize_eq datagram.ipv4Hdr datagram.data datagram.checksumOffload
  refine ⟨sum, summed, ?_⟩
  have size : datagram.headerSize = 42 := rfl
  refine Machine.bind_eq_ok.mpr ⟨_, Buffer.writeSlice_first 14 (by omega) rfl
    fun old length => datagram.ethernet2Hdr.serialize_eq length, ?_⟩
  refine Machine.bind_eq_ok.mpr ⟨_, Buffer.writeSlice_next 34 rfl rfl (by omega) rfl
    fun old length => datagram.ipv4Hdr.serialize_wire length _, ?_⟩
  exact Buffer.writeSlice_next datagram.headerSize rfl rfl room rfl fun old length => wrote old length

/-- What the encoder writes, followed by the data and any padding, is decoded to the same headers and
exactly the data. -/
theorem parseFrame_writeHeader {datagram : UdpDatagram} (built : datagram.ipv4Hdr.Built)
    (checksummed : datagram.checksumOffload = false) (small : datagram.data.length ≤ 65507)
    {buf : Buffer} (room : datagram.headerSize ≤ buf.length) (padding : Buffer) :
    ∃ out, datagram.writeHeader buf = .ok out ∧
      parseFrame (out.take datagram.headerSize ++ datagram.data ++ padding) =
        pure (datagram.ethernet2Hdr, datagram.ipv4Hdr.delivered datagram.totalLength,
          datagram.udpHdr, datagram.data) := by
  obtain ⟨sum, summed, wrote⟩ := writeHeader_eq room
  refine ⟨_, wrote, ?_⟩
  set udp := datagram.udpHdr.front (UdpHeader.wireLength datagram.data) ++ toBeBytes 2 sum.toNat
    with udp_eq
  set ip := datagram.ipv4Hdr.wire datagram.totalLength
  have size : (datagram.ethernet2Hdr.bytes ++ ip ++ udp).length = datagram.headerSize := rfl
  have length : datagram.totalLength.toNat = 20 + (udp ++ datagram.data).length := by
    rw [toNat_totalLength small, List.length_append]
    rfl
  have frame : (datagram.ethernet2Hdr.bytes ++ ip ++ udp ++ buf.drop datagram.headerSize).take
      datagram.headerSize ++ datagram.data ++ padding =
        datagram.ethernet2Hdr.bytes ++ (ip ++ (udp ++ datagram.data) ++ padding) := by
    rw [List.take_left' size]
    simp only [List.append_assoc]
  have sum_eq : UdpHeader.checksum (datagram.ipv4Hdr.delivered datagram.totalLength) udp
      datagram.data = .ok sum := by
    rw [← summed checksummed]
    exact UdpHeader.checksum_hole datagram.data rfl rfl (UdpHeader.length_front _ _)
      (Tcp.length_toBeBytes 2 _) (Tcp.length_toBeBytes 2 _)
  have ethernet := Ethernet2.Ethernet2Header.parse_bytes datagram.ethernet2Hdr
    (ip ++ (udp ++ datagram.data) ++ padding)
  have ipv4 : Ipv4.Ipv4Header.parse (ip ++ (udp ++ datagram.data) ++ padding) =
      pure (datagram.ipv4Hdr.delivered datagram.totalLength, udp ++ datagram.data) :=
    Ipv4.Ipv4Header.parse_wire built.sendable padding length
  have header : UdpHeader.parse (datagram.ipv4Hdr.delivered datagram.totalLength)
      (udp ++ datagram.data) false = pure (datagram.udpHdr, datagram.data) :=
    UdpHeader.parse_front (by change 8 + _ ≤ _; omega) sum_eq
  rw [frame, parseFrame, ethernet, pure_bind]
  dsimp only
  rw [ipv4, pure_bind]
  dsimp only
  rw [header, pure_bind]

end UdpDatagram

end Inetstack.Udp
