import Inetstack.Laws.Tcp.Wire
import Inetstack.Laws.Udp.Datagram

/-!
# The three checksums

An IPv4 header, a TCP segment and a UDP datagram are summed by three routines of the same plan: start
from `0xffff`, add the words, leave out the checksum's own, and take multiples of `0xffff` off. Each gives
the checksum of RFC 1071, because no sum is of zeros only: a header has its version, and a pseudo header
its protocol.
-/

namespace Inetstack

open Tcp (Buffer Ipv4Addr toBeBytes length_toBeBytes)
open Bytes (wordSum sumWords)

/-- The pseudo header of a segment or datagram of `length` bytes. -/
def pseudoHeader (ipv4Hdr : Ipv4.Ipv4Header) (protocol : Ip.IpProtocol) (length : Nat) : Buffer :=
  Ipv4Addr.octets ipv4Hdr.srcAddr ++ Ipv4Addr.octets ipv4Hdr.dstAddr ++ [0, protocol.toU8] ++
    toBeBytes 2 length

theorem length_pseudoHeader (ipv4Hdr : Ipv4.Ipv4Header) (protocol : Ip.IpProtocol) (length : Nat) :
    (pseudoHeader ipv4Hdr protocol length).length = 12 := rfl

theorem sumWords_toBeBytes (state : UInt32) {n : Nat} (small : n < 65536) :
    sumWords state (toBeBytes 2 n) = state + UInt32.ofNat n := by
  have value : Bytes.ofBe (toBeBytes 2 n) = n := Tcp.ofBe_toBeBytes_of_lt (by simpa using small)
  exact congrArg (fun word => state + UInt32.ofNat word) value

/-- The sum over a pseudo header, as both routines take it. -/
theorem sumWords_pseudoHeader (ipv4Hdr : Ipv4.Ipv4Header) (protocol : Ip.IpProtocol) {length : Nat}
    (small : length < 65536) :
    sumWords 0xffff (pseudoHeader ipv4Hdr protocol length) =
      sumWords (sumWords (sumWords 0xffff (Ipv4Addr.octets ipv4Hdr.srcAddr))
        (Ipv4Addr.octets ipv4Hdr.dstAddr)) [0, protocol.toU8] + UInt32.ofNat length := by
  unfold pseudoHeader
  rw [Bytes.sumWords_append (by simp [Ipv4Addr.octets]), Bytes.sumWords_append (by simp [Ipv4Addr.octets]),
    Bytes.sumWords_append (by simp [Ipv4Addr.octets]), sumWords_toBeBytes _ small]

/-- A pseudo header is not of zeros only: it has a protocol. -/
theorem wordSum_pseudoHeader_pos (ipv4Hdr : Ipv4.Ipv4Header) (protocol : Ip.IpProtocol) (length : Nat) :
    0 < wordSum (pseudoHeader ipv4Hdr protocol length) := by
  have named : 0 < wordSum [0, protocol.toU8] := by cases protocol <;> decide
  unfold pseudoHeader
  rw [Bytes.wordSum_append _ (by simp [Ipv4Addr.octets]), Bytes.wordSum_append _ (by simp [Ipv4Addr.octets])]
  omega

/-- Words of at most as many bytes as a datagram and a pseudo header have do not wrap a sum. -/
theorem sum_fits {front back : Buffer} (few : front.length + back.length ≤ 65535 + 12) :
    0xffff + (wordSum front + wordSum back) < 2 ^ 32 := by
  have first := Bytes.wordSum_le front
  have second := Bytes.wordSum_le back
  omega

/-! ## IPv4 -/

theorem Ipv4.Ipv4Header.computeChecksum_checks {buf : Buffer} (size : buf.length = 20)
    (version : buf.getD 0 0 >>> 4 = Ipv4.IPV4_VERSION) :
    ∃ sum, computeChecksum buf = .ok sum ∧ Bytes.Checks (buf.take 10) (buf.drop 12) sum := by
  have front : (buf.take 10).length = 10 := by
    rw [List.length_take]
    omega
  have back : (buf.drop 12).length = 8 := by
    rw [List.length_drop]
    omega
  have pos : 0 < wordSum (buf.take 10) := by
    match buf with
    | [] | [_] => cases size
    | byte0 :: byte1 :: rest =>
      have first : 0 < byte0.toNat := by
        rw [Nat.pos_iff_ne_zero]
        intro zero
        have version : byte0 >>> 4 = Ipv4.IPV4_VERSION := version
        rw [show byte0 = 0 from UInt8.toNat_inj.mp zero] at version
        cases version
      change 0 < Bytes.ofBe [byte0, byte1] + wordSum (rest.take 8)
      rw [Bytes.ofBe_cons]
      simp only [List.length_singleton]
      omega
  refine ⟨_, if_neg (not_not_intro size), ?_⟩
  rw [← Bytes.sumWords_append (by omega)]
  exact Bytes.checks_of_sum (by omega) (by omega) (sum_fits (by omega))

/-! ## TCP -/

theorem Tcp.tcpChecksum_checks (ipv4Hdr : Ipv4.Ipv4Header) {header data : Buffer}
    (least : MIN_TCP_HEADER_SIZE ≤ header.length) (aligned : header.length % 4 = 0)
    (fits : header.length + data.length ≤ 65515) :
    ∃ sum, tcpChecksum ipv4Hdr header data = .ok sum ∧
      Bytes.Checks (pseudoHeader ipv4Hdr .tcp (header.length + data.length) ++ header.take 16)
        (header.drop 18 ++ data) sum := by
  have long : 20 ≤ header.length := least
  have pos := wordSum_pseudoHeader_pos ipv4Hdr .tcp (header.length + data.length)
  have pseudo := length_pseudoHeader ipv4Hdr .tcp (header.length + data.length)
  have front : (header.take 16).length = 16 := by
    rw [List.length_take]
    omega
  have back : (header.drop 18).length = header.length - 18 := List.length_drop
  have urgent : ((header.drop 18).take 2).length = 2 := by
    rw [List.length_take]
    omega
  -- the routine reads the urgent pointer and the options apart
  have split : header.drop 18 = (header.drop 18).take 2 ++ header.drop MIN_TCP_HEADER_SIZE := by
    have both := List.take_append_drop 2 (header.drop 18)
    rw [List.drop_drop] at both
    exact both.symm
  set words := pseudoHeader ipv4Hdr .tcp (header.length + data.length) with words_eq
  have computed : tcpChecksum ipv4Hdr header data =
      .ok (Bytes.checksum (sumWords 0xffff (words ++ header.take 16 ++ (header.drop 18 ++ data)))) := by
    have evenFront : (words ++ header.take 16).length % 2 = 0 := by
      rw [List.length_append]
      omega
    have evenPseudo : words.length % 2 = 0 := by omega
    have evenBack : (header.drop 18).length % 2 = 0 := by omega
    have evenUrgent : ((header.drop 18).take 2).length % 2 = 0 := by omega
    have even : header.length % 2 = 0 := by omega
    rw [Bytes.sumWords_append evenFront, Bytes.sumWords_append evenPseudo, words_eq,
      sumWords_pseudoHeader ipv4Hdr .tcp (by omega), Bytes.sumWords_append evenBack, split,
      Bytes.sumWords_append evenUrgent]
    simp only [tcpChecksum, Nat.not_lt.mpr least, if_false, even, bne_self_eq_false, Bool.and_false,
      Bool.false_eq_true]
  refine ⟨_, computed, Bytes.checks_of_sum ?_ ?_ (sum_fits ?_)⟩
  · rw [List.length_append]
    omega
  · rw [Bytes.wordSum_append _ (by omega)]
    omega
  · rw [List.length_append, List.length_append]
    omega

/-! ## UDP -/

theorem Udp.UdpHeader.checksum_checks (ipv4Hdr : Ipv4.Ipv4Header) {udpHdr data : Buffer}
    (size : udpHdr.length = UDP_HEADER_SIZE) (fits : udpHdr.length + data.length ≤ 65535) :
    ∃ sum, checksum ipv4Hdr udpHdr data = .ok sum ∧
      Bytes.Checks (pseudoHeader ipv4Hdr .udp (udpHdr.length + data.length) ++ udpHdr.take 6) data sum := by
  have eight : udpHdr.length = 8 := size
  have pos := wordSum_pseudoHeader_pos ipv4Hdr .udp (udpHdr.length + data.length)
  have pseudo := length_pseudoHeader ipv4Hdr .udp (udpHdr.length + data.length)
  have front : (udpHdr.take 6).length = 6 := by
    rw [List.length_take]
    omega
  set words := pseudoHeader ipv4Hdr .udp (udpHdr.length + data.length) with words_eq
  have computed : checksum ipv4Hdr udpHdr data =
      .ok (Bytes.checksum (sumWords 0xffff (words ++ udpHdr.take 6 ++ data))) := by
    have evenFront : (words ++ udpHdr.take 6).length % 2 = 0 := by
      rw [List.length_append]
      omega
    have evenPseudo : words.length % 2 = 0 := by omega
    rw [Bytes.sumWords_append evenFront, Bytes.sumWords_append evenPseudo, words_eq,
      sumWords_pseudoHeader ipv4Hdr .udp (by omega)]
    simp only [checksum, ne_eq, size, not_true_eq_false, if_false]
  refine ⟨_, computed, Bytes.checks_of_sum ?_ ?_ (sum_fits ?_)⟩
  · rw [List.length_append]
    omega
  · rw [Bytes.wordSum_append _ (by omega)]
    omega
  · rw [List.length_append]
    omega

/-- **The checksums are those of RFC 1071**, for every IPv4 header and for every segment and datagram that
fits an IPv4 datagram. -/
theorem checksums_follow_rfc1071 :
    (∀ buf : Buffer, buf.length = 20 → buf.getD 0 0 >>> 4 = Ipv4.IPV4_VERSION →
      ∃ sum, Ipv4.Ipv4Header.computeChecksum buf = .ok sum ∧
        Bytes.Checks (buf.take 10) (buf.drop 12) sum) ∧
    (∀ (ipv4Hdr : Ipv4.Ipv4Header) (header data : Buffer), Tcp.MIN_TCP_HEADER_SIZE ≤ header.length →
      header.length % 4 = 0 → header.length + data.length ≤ 65515 →
      ∃ sum, Tcp.tcpChecksum ipv4Hdr header data = .ok sum ∧
        Bytes.Checks (pseudoHeader ipv4Hdr .tcp (header.length + data.length) ++ header.take 16)
          (header.drop 18 ++ data) sum) ∧
    (∀ (ipv4Hdr : Ipv4.Ipv4Header) (udpHdr data : Buffer), udpHdr.length = Udp.UDP_HEADER_SIZE →
      udpHdr.length + data.length ≤ 65515 →
      ∃ sum, Udp.UdpHeader.checksum ipv4Hdr udpHdr data = .ok sum ∧
        Bytes.Checks (pseudoHeader ipv4Hdr .udp (udpHdr.length + data.length) ++ udpHdr.take 6)
          data sum) := by
  refine ⟨?_, ?_, ?_⟩
  · intro buf size version
    exact Ipv4.Ipv4Header.computeChecksum_checks size version
  · intro ipv4Hdr header data least aligned fits
    exact Tcp.tcpChecksum_checks ipv4Hdr least aligned fits
  · intro ipv4Hdr udpHdr data size fits
    exact Udp.UdpHeader.checksum_checks ipv4Hdr size (by omega)

/-- A header from 10.0.0.1 to 10.0.0.2, and a segment and a datagram of three bytes. -/
theorem checksums_follow_rfc1071_small :
    (∃ sum, Ipv4.Ipv4Header.computeChecksum
        [0x45, 0, 0, 20, 0, 0, 0x40, 0, 64, 17, 0, 0, 10, 0, 0, 1, 10, 0, 0, 2] = .ok sum ∧
      Bytes.Checks [0x45, 0, 0, 20, 0, 0, 0x40, 0, 64, 17] [10, 0, 0, 1, 10, 0, 0, 2] sum) ∧
    (∃ sum, Tcp.tcpChecksum (.new 0x0a000001 0x0a000002 .tcp)
        [0, 1, 0, 2, 0, 0, 0, 3, 0, 0, 0, 4, 0x50, 0x10, 0, 9, 0, 0, 0, 0] [1, 2, 3] = .ok sum ∧
      Bytes.Checks (pseudoHeader (.new 0x0a000001 0x0a000002 .tcp) .tcp 23 ++
        [0, 1, 0, 2, 0, 0, 0, 3, 0, 0, 0, 4, 0x50, 0x10, 0, 9]) [0, 0, 1, 2, 3] sum) ∧
    (∃ sum, Udp.UdpHeader.checksum (.new 0x0a000001 0x0a000002 .udp)
        [0, 1, 0, 2, 0, 11, 0, 0] [1, 2, 3] = .ok sum ∧
      Bytes.Checks (pseudoHeader (.new 0x0a000001 0x0a000002 .udp) .udp 11 ++ [0, 1, 0, 2, 0, 11])
        [1, 2, 3] sum) := by
  obtain ⟨ipv4, tcp, udp⟩ := checksums_follow_rfc1071
  refine ⟨?_, ?_, ?_⟩
  · exact ipv4 [0x45, 0, 0, 20, 0, 0, 0x40, 0, 64, 17, 0, 0, 10, 0, 0, 1, 10, 0, 0, 2] rfl (by decide)
  · exact tcp (.new 0x0a000001 0x0a000002 .tcp)
      [0, 1, 0, 2, 0, 0, 0, 3, 0, 0, 0, 4, 0x50, 0x10, 0, 9, 0, 0, 0, 0] [1, 2, 3] (by decide) (by decide)
      (by decide)
  · exact udp (.new 0x0a000001 0x0a000002 .udp) [0, 1, 0, 2, 0, 11, 0, 0] [1, 2, 3] rfl (by decide)

end Inetstack
