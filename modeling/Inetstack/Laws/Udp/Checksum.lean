import Inetstack.Laws.InternetChecksum

/-!
# The checksum rules of UDP

RFC 768, which the module refers to and whose definition of the checksum it quotes, has two rules for the
two zeros of a one's complement sum: a computed zero is sent as all ones, and a field of zero says that no
checksum was computed. The encoder and the decoder have neither. They agree with the RFC on all datagrams
but those whose words add up to all ones without the checksum, and those that come with a field of zero.
-/

namespace Inetstack.Udp

open Tcp (Buffer Fault Outcome toBeBytes)
open Bytes (fold wordSum)

namespace UdpHeader

/-- The one's complement sum over the pseudo header, a header and the payload. -/
def onesSum (ipv4Hdr : Ipv4.Ipv4Header) (header data : Buffer) : Nat :=
  fold (wordSum (pseudoHeader ipv4Hdr .udp (header.length + data.length) ++ header ++ data))

/-- The header RFC 768 has a sender write: the complement of the sum, or all ones if that is zero. -/
def rfc768Header (h : UdpHeader) (ipv4Hdr : Ipv4.Ipv4Header) (data : Buffer) : Buffer :=
  let checksum := 0xffff - onesSum ipv4Hdr (h.front (wireLength data) ++ [0, 0]) data
  h.front (wireLength data) ++ toBeBytes 2 (if checksum = 0 then 0xffff else checksum)

/-- The length field of a datagram. -/
def lengthField (buf : Buffer) : Nat := Bytes.ofBe [buf.getD 4 0, buf.getD 5 0]

/-- The checksum field of a datagram. -/
def checksumField (buf : Buffer) : Nat := Bytes.ofBe [buf.getD 6 0, buf.getD 7 0]

/-- The length of a datagram is right. -/
def Sized (buf : Buffer) : Prop := UDP_HEADER_SIZE ≤ buf.length ∧ lengthField buf = buf.length

/-- The datagrams RFC 768 has a receiver accept: those without a checksum, and those whose words add up to
all ones. -/
def Rfc768 (ipv4Hdr : Ipv4.Ipv4Header) (buf : Buffer) : Prop :=
  Sized buf ∧ (checksumField buf = 0 ∨
    onesSum ipv4Hdr (buf.take UDP_HEADER_SIZE) (buf.drop UDP_HEADER_SIZE) = 0xffff)

/-- The sum over a datagram with zeros in place of its checksum. -/
def sumWithout (ipv4Hdr : Ipv4.Ipv4Header) (buf : Buffer) : Nat :=
  onesSum ipv4Hdr (buf.take 6 ++ [0, 0]) (buf.drop UDP_HEADER_SIZE)

variable {ipv4Hdr : Ipv4.Ipv4Header} {front data : Buffer}

/-- The sum over a datagram with a field in the checksum's place. -/
theorem onesSum_field (ipv4Hdr : Ipv4.Ipv4Header) (data : Buffer) (six : front.length = 6)
    (high low : UInt8) :
    onesSum ipv4Hdr (front ++ [high, low]) data =
      fold (wordSum (pseudoHeader ipv4Hdr .udp (8 + data.length) ++ front) + wordSum data +
        Bytes.ofBe [high, low]) := by
  have length : (front ++ [high, low]).length = 8 := by
    rw [List.length_append, six]
    rfl
  have even : (pseudoHeader ipv4Hdr .udp (8 + data.length) ++ front).length % 2 = 0 := by
    rw [List.length_append, length_pseudoHeader, six]
  rw [onesSum, length, ← List.append_assoc, Bytes.wordSum_field data even]

theorem words_pos (ipv4Hdr : Ipv4.Ipv4Header) (front data : Buffer) :
    0 < wordSum (pseudoHeader ipv4Hdr .udp (8 + data.length) ++ front) + wordSum data := by
  have pos := wordSum_pseudoHeader_pos ipv4Hdr .udp (8 + data.length)
  rw [Bytes.wordSum_append _ (by rw [length_pseudoHeader])]
  omega

/-- The sum with zeros in the checksum's place is not zero, and fits sixteen bits. -/
theorem onesSum_zero (ipv4Hdr : Ipv4.Ipv4Header) (data : Buffer) (six : front.length = 6) :
    0 < onesSum ipv4Hdr (front ++ [0, 0]) data ∧ onesSum ipv4Hdr (front ++ [0, 0]) data ≤ 0xffff := by
  have pos := words_pos ipv4Hdr front data
  have zero : Bytes.ofBe [0, 0] = 0 := rfl
  rw [onesSum_field ipv4Hdr data six, zero, Nat.add_zero]
  exact ⟨Bytes.fold_pos pos, Bytes.fold_le pos⟩

/-- All ones in the checksum's place sum as zeros do. -/
theorem onesSum_allOnes (ipv4Hdr : Ipv4.Ipv4Header) (data : Buffer) (six : front.length = 6)
    {high low : UInt8} (all : Bytes.ofBe [high, low] = 0xffff) :
    onesSum ipv4Hdr (front ++ [high, low]) data = onesSum ipv4Hdr (front ++ [0, 0]) data := by
  have zero : Bytes.ofBe [0, 0] = 0 := rfl
  rw [onesSum_field ipv4Hdr data six, onesSum_field ipv4Hdr data six, all, zero,
    Bytes.fold_allOnes (words_pos ipv4Hdr front data), Nat.add_zero]

/-- What `checksum` computes, in the sums of RFC 768. -/
theorem checksum_onesSum (ipv4Hdr : Ipv4.Ipv4Header) {hole : Buffer} (six : front.length = 6)
    (two : hole.length = 2) (small : 8 + data.length ≤ 65535) :
    ∃ sum, checksum ipv4Hdr (front ++ hole) data = .ok sum ∧
      sum.toNat = 0xffff - onesSum ipv4Hdr (front ++ [0, 0]) data ∧
      ∀ high low : UInt8, Bytes.ofBe [high, low] ≠ 0xffff →
        (Bytes.ofBe [high, low] = sum.toNat ↔
          onesSum ipv4Hdr (front ++ [high, low]) data = 0xffff) := by
  have length : (front ++ hole).length = 8 := by rw [List.length_append, six, two]
  have first : (front ++ hole).take 6 = front := List.take_left' six
  have fits : (front ++ hole).length + data.length ≤ 65535 := by
    rw [length]
    exact small
  obtain ⟨sum, summed, checks⟩ := checksum_checks ipv4Hdr length fits
  rw [length, first] at checks
  have even : (pseudoHeader ipv4Hdr .udp (8 + data.length) ++ front).length % 2 = 0 := by
    rw [List.length_append, length_pseudoHeader, six]
  refine ⟨sum, summed, ?_, ?_⟩
  · rw [checks.value, Bytes.wordSum_field data even, onesSum_field ipv4Hdr data six]
  · intro high low other
    rw [checks.verifies high low other, Bytes.wordSum_field data even, onesSum_field ipv4Hdr data six]

/-! ## Writing -/

/-- **The encoder follows RFC 768 exactly if the words of the datagram do not add up to all ones.** -/
theorem serialize_rfc768_iff (h : UdpHeader) (ipv4Hdr : Ipv4.Ipv4Header) {data buf : Buffer}
    (small : UDP_HEADER_SIZE + data.length ≤ 65535) (size : buf.length = UDP_HEADER_SIZE) :
    h.serialize buf ipv4Hdr data false = .ok (h.rfc768Header ipv4Hdr data) ↔
      onesSum ipv4Hdr (h.front (wireLength data) ++ [0, 0]) data ≠ 0xffff := by
  obtain ⟨sum, summed, wrote⟩ := h.serialize_eq ipv4Hdr data false
  obtain ⟨sum', summed', value, -⟩ := checksum_onesSum ipv4Hdr (h.length_front (wireLength data))
    (Tcp.length_toBeBytes 2 sum.toNat) small
  rw [summed rfl] at summed'
  cases summed'
  obtain ⟨pos, le⟩ := onesSum_zero ipv4Hdr data (h.length_front (wireLength data))
  rw [wrote buf size, rfc768Header, ← value, Except.ok.injEq, List.append_cancel_left_eq]
  by_cases zero : sum.toNat = 0
  · rw [if_pos zero, zero]
    exact iff_of_false (by decide) (fun other => by omega)
  · rw [if_neg zero]
    exact iff_of_true rfl (by omega)

/-! ## Reading -/

/-- The decoder accepts a datagram whose length is right and whose field is the computed checksum. -/
theorem parse_accepts_iff (ipv4Hdr : Ipv4.Ipv4Header) (buf : Buffer) :
    (∃ result, parse ipv4Hdr buf false = pure result) ↔
      Sized buf ∧ checksum ipv4Hdr (buf.take UDP_HEADER_SIZE) (buf.drop UDP_HEADER_SIZE) =
        .ok (UInt16.ofNat (checksumField buf)) := by
  by_cases small : buf.length < UDP_HEADER_SIZE
  · simp only [parse, small, if_true]
    refine iff_of_false ?_ (fun sized => absurd sized.1.1 (Nat.not_le.mpr small))
    rintro ⟨result, ran⟩
    cases ran
  have long : 8 ≤ buf.length := Nat.not_lt.mp small
  have read {pos : Nat} (inside : pos + 1 < UDP_HEADER_SIZE) :
      Buffer.readU16 (buf.take UDP_HEADER_SIZE) pos =
        .ok (UInt16.ofNat (Bytes.ofBe [buf.getD pos 0, buf.getD (pos + 1) 0])) := by
    rw [Buffer.readU16_take buf inside]
    exact Buffer.readU16_of_lt buf pos (Nat.lt_of_lt_of_le inside long)
  have length : (UInt16.ofNat (Bytes.ofBe [buf.getD 4 0, buf.getD (4 + 1) 0])).toNat = lengthField buf := by
    rw [UInt16.toNat_ofNat']
    exact Nat.mod_eq_of_lt (Bytes.ofBe_pair_lt _ _)
  obtain ⟨sum, summed⟩ := checksum_ok ipv4Hdr (buf.take UDP_HEADER_SIZE) (buf.drop UDP_HEADER_SIZE)
    (List.length_take_of_le long)
  have field : UInt16.ofNat (Bytes.ofBe [buf.getD 6 0, buf.getD (6 + 1) 0]) =
    UInt16.ofNat (checksumField buf) := rfl
  simp only [parse, small, if_false, read (show 0 + 1 < UDP_HEADER_SIZE by decide),
    read (show 2 + 1 < UDP_HEADER_SIZE by decide), read (show 4 + 1 < UDP_HEADER_SIZE by decide),
    read (show 6 + 1 < UDP_HEADER_SIZE by decide), length, field, summed, Tcp.Outcome.lift_ok, pure_bind,
    Bool.not_false, if_true, Except.ok.injEq]
  constructor
  · rintro ⟨result, ran⟩
    obtain ⟨sized, ran⟩ := Tcp.Outcome.guard_eq_pure.mp ran
    obtain ⟨right, -⟩ := Tcp.Outcome.guard_eq_pure.mp ran
    exact ⟨⟨long, not_ne_iff.mp sized⟩, (not_ne_iff.mp right).symm⟩
  · rintro ⟨⟨-, sized⟩, right⟩
    rw [if_neg (not_ne_iff.mpr sized), if_neg (not_ne_iff.mpr right.symm)]
    exact ⟨_, rfl⟩

/-- The header of a datagram, with the checksum apart. -/
theorem take_header {buf : Buffer} (long : UDP_HEADER_SIZE ≤ buf.length) :
    buf.take UDP_HEADER_SIZE = buf.take 6 ++ [buf.getD 6 0, buf.getD 7 0] := by
  have long : 8 ≤ buf.length := long
  have seventh := List.take_succ_eq_append_getElem (show 7 < buf.length by omega)
  have sixth := List.take_succ_eq_append_getElem (show 6 < buf.length by omega)
  rw [UDP_HEADER_SIZE, seventh, sixth, List.append_assoc]
  simp [List.getD_eq_getElem?_getD, show 6 < buf.length by omega, show 7 < buf.length by omega]

/-- **The decoder follows RFC 768** on every datagram of a wrong length, and on one of the right length
exactly if its field is not zero or zero is the computed checksum, and its field is not all ones or the
computed checksum is not zero. -/
theorem parse_rfc768_iff (ipv4Hdr : Ipv4.Ipv4Header) (buf : Buffer) :
    ((∃ result, parse ipv4Hdr buf false = pure result) ↔ Rfc768 ipv4Hdr buf) ↔
      (Sized buf → (checksumField buf = 0 → sumWithout ipv4Hdr buf = 0xffff) ∧
        (checksumField buf = 0xffff → sumWithout ipv4Hdr buf ≠ 0xffff)) := by
  rw [parse_accepts_iff]
  by_cases sized : Sized buf
  swap
  · have accepts : ¬(Sized buf ∧ checksum ipv4Hdr (buf.take UDP_HEADER_SIZE)
        (buf.drop UDP_HEADER_SIZE) = .ok (UInt16.ofNat (checksumField buf))) := fun both => sized both.1
    have allowed : ¬Rfc768 ipv4Hdr buf := fun both => sized both.1
    exact iff_of_true (iff_of_false accepts allowed) (fun right => absurd right sized)
  have long : 8 ≤ buf.length := sized.1
  have bound := Bytes.ofBe_pair_lt (buf.getD 4 0) (buf.getD 5 0)
  have word : checksumField buf < 65536 := Bytes.ofBe_pair_lt _ _
  have right := sized.2
  unfold lengthField at right
  have six : (buf.take 6).length = 6 := List.length_take_of_le (by omega)
  have header := take_header sized.1
  obtain ⟨sum, summed, value, verifies⟩ := @checksum_onesSum (buf.take 6) (buf.drop UDP_HEADER_SIZE) ipv4Hdr
    [buf.getD 6 0, buf.getD 7 0] six rfl (by
      rw [List.length_drop, UDP_HEADER_SIZE]
      omega)
  obtain ⟨pos, le⟩ := onesSum_zero ipv4Hdr (buf.drop UDP_HEADER_SIZE) six
  have computed : checksum ipv4Hdr (buf.take UDP_HEADER_SIZE) (buf.drop UDP_HEADER_SIZE) =
      .ok (UInt16.ofNat (checksumField buf)) ↔ checksumField buf = sum.toNat := by
    rw [header, summed, Except.ok.injEq, ← UInt16.toNat_inj, UInt16.toNat_ofNat', Nat.mod_eq_of_lt word]
    exact eq_comm
  have same : sumWithout ipv4Hdr buf =
    onesSum ipv4Hdr (buf.take 6 ++ [0, 0]) (buf.drop UDP_HEADER_SIZE) := rfl
  rw [computed, Rfc768, header, same]
  simp only [sized, true_and, true_imp_iff]
  by_cases all : checksumField buf = 0xffff
  · rw [onesSum_allOnes ipv4Hdr _ six all]
    omega
  · have verified := verifies (buf.getD 6 0) (buf.getD 7 0) all
    change checksumField buf = sum.toNat ↔ _ at verified
    rw [← verified]
    omega

/-- **The checksum rules of RFC 768**, and exactly which datagrams the encoder and the decoder keep them
for. -/
theorem rfc768_iff (h : UdpHeader) (ipv4Hdr : Ipv4.Ipv4Header) (data buf datagram : Buffer) :
    (UDP_HEADER_SIZE + data.length ≤ 65535 → buf.length = UDP_HEADER_SIZE →
      (h.serialize buf ipv4Hdr data false = .ok (h.rfc768Header ipv4Hdr data) ↔
        onesSum ipv4Hdr (h.front (wireLength data) ++ [0, 0]) data ≠ 0xffff)) ∧
    (((∃ result, parse ipv4Hdr datagram false = pure result) ↔ Rfc768 ipv4Hdr datagram) ↔
      (Sized datagram → (checksumField datagram = 0 → sumWithout ipv4Hdr datagram = 0xffff) ∧
        (checksumField datagram = 0xffff → sumWithout ipv4Hdr datagram ≠ 0xffff))) := by
  constructor
  · intro small size
    exact h.serialize_rfc768_iff ipv4Hdr small size
  · exact parse_rfc768_iff ipv4Hdr datagram

/-- From 10.0.0.1 to 10.0.0.2. -/
def sampleIpv4 : Ipv4.Ipv4Header := .new 0x0a000001 0x0a000002 .udp

/-- Two bytes from port 1 to port 2. -/
theorem rfc768_iff_two :
    (new 1 2).serialize [7, 7, 7, 7, 7, 7, 7, 7] sampleIpv4 [1, 2] false =
        .ok ((new 1 2).rfc768Header sampleIpv4 [1, 2]) ∧
      ((∃ result, parse sampleIpv4 [0, 1, 0, 2, 0, 10, 0xea, 0xd2, 1, 2] false = pure result) ↔
        Rfc768 sampleIpv4 [0, 1, 0, 2, 0, 10, 0xea, 0xd2, 1, 2]) := by
  obtain ⟨sends, receives⟩ := rfc768_iff (new 1 2) sampleIpv4 [1, 2] [7, 7, 7, 7, 7, 7, 7, 7]
    [0, 1, 0, 2, 0, 10, 0xea, 0xd2, 1, 2]
  constructor
  · apply (sends (by decide) rfl).mpr
    rw [onesSum, Bytes.fold_eq (by decide)]
    decide
  · apply receives.mpr
    intro _
    exact ⟨fun none => absurd none (by decide), fun all => absurd all (by decide)⟩

/-- Two bytes with which the words add up to all ones: a checksum of zero is written, and one of all ones,
as RFC 768 has it, is refused. A datagram without a checksum is refused too. -/
theorem rfc768_not_followed :
    (new 1 2).serialize [7, 7, 7, 7, 7, 7, 7, 7] sampleIpv4 [0xeb, 0xd4] false =
        .ok [0, 1, 0, 2, 0, 10, 0, 0] ∧
      (new 1 2).rfc768Header sampleIpv4 [0xeb, 0xd4] = [0, 1, 0, 2, 0, 10, 0xff, 0xff] ∧
      Rfc768 sampleIpv4 [0, 1, 0, 2, 0, 10, 0xff, 0xff, 0xeb, 0xd4] ∧
      (¬∃ result, parse sampleIpv4 [0, 1, 0, 2, 0, 10, 0xff, 0xff, 0xeb, 0xd4] false = pure result) ∧
      Rfc768 sampleIpv4 [0, 1, 0, 2, 0, 10, 0, 0, 1, 2] ∧
      ¬∃ result, parse sampleIpv4 [0, 1, 0, 2, 0, 10, 0, 0, 1, 2] false = pure result := by
  refine ⟨by decide, ?_, ⟨⟨by decide, by decide⟩, .inr ?_⟩, ?_,
    ⟨⟨by decide, by decide⟩, .inl (by decide)⟩, ?_⟩
  · rw [rfc768Header, onesSum, Bytes.fold_eq (by decide)]
    decide
  · rw [onesSum, Bytes.fold_eq (by decide)]
    decide
  · rintro ⟨result, ran⟩
    have refused : parse sampleIpv4 [0, 1, 0, 2, 0, 10, 0xff, 0xff, 0xeb, 0xd4] false =
      throw { errno := .EBADMSG, cause := "UDP checksum mismatch" } := rfl
    rw [refused] at ran
    cases ran
  · rintro ⟨result, ran⟩
    have refused : parse sampleIpv4 [0, 1, 0, 2, 0, 10, 0, 0, 1, 2] false =
      throw { errno := .EBADMSG, cause := "UDP checksum mismatch" } := rfl
    rw [refused] at ran
    cases ran

end UdpHeader

end Inetstack.Udp
