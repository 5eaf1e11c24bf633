import Inetstack.Tcp.Wire
import Inetstack.Laws.Ethernet2.Frame
import Inetstack.Laws.Ipv4.Datagram

/-!
# TCP segments on the wire

A segment is written as its three headers, and the three decoders, one after another, give it back. The
options are read one by one in front of whatever follows; the rest of a header is at fixed places. The
checksum skips the two bytes it is written to, so the decoder computes the number that the encoder
computed over a buffer that held something else there.
-/

namespace Inetstack.Tcp

/-! ## Options -/

namespace TcpOptions2

/-- The options that are read back as they are written: a no-operation is skipped, and a selective
acknowledgement has one to four blocks. -/
def WellFormed : TcpOptions2 → Prop
  | .noOperation => False
  | .selectiveAcknowlegement sacks => 1 ≤ sacks.length ∧ sacks.length ≤ 4
  | _ => True

/-- Two numbers a block. -/
theorem length_sacks (sacks : List SelectiveAcknowlegement) :
    (sacks.flatMap fun sack =>
      toBeBytes 4 sack.begin.value.toNat ++ toBeBytes 4 sack.end_.value.toNat).length =
        8 * sacks.length := by
  induction sacks with
  | nil => rfl
  | cons sack sacks ih =>
    rw [List.flatMap_cons, List.length_append, ih, List.length_append, length_toBeBytes,
      length_toBeBytes, List.length_cons]
    omega

/-- The bytes of an option are as many as the code reckons. -/
theorem length_bytes (option : TcpOptions2) : option.bytes.length = option.computeSize := by
  cases option with
  | selectiveAcknowlegement sacks =>
    rw [bytes, List.length_append, length_sacks]
    rfl
  | _ => rfl

/-- No option is empty, so each pass over the options gets on. -/
theorem computeSize_pos (option : TcpOptions2) : 0 < option.computeSize := by
  cases option <;> simp [computeSize]

end TcpOptions2

namespace TcpHeader

variable {eof : Fail}

/-- The blocks are read back, and what follows is left. -/
theorem parseSacks_append (sacks : List SelectiveAcknowlegement) (rest : Buffer) :
    parseSacks eof sacks.length ((sacks.flatMap fun sack =>
      toBeBytes 4 sack.begin.value.toNat ++ toBeBytes 4 sack.end_.value.toNat) ++ rest) =
        .ok (sacks, rest) := by
  induction sacks with
  | nil => rfl
  | cons sack sacks ih =>
    rw [List.flatMap_cons, List.length_cons, parseSacks, List.append_assoc, List.append_assoc]
    refine Machine.bind_eq_ok.mpr ⟨_, Cursor.readU32_append _ _, ?_⟩
    refine Machine.bind_eq_ok.mpr ⟨_, Cursor.readU32_append _ _, ?_⟩
    exact Machine.bind_eq_ok.mpr ⟨_, ih, rfl⟩

/-- The length byte of a selective acknowledgement is one the decoder accepts, and gives the number of
blocks back. -/
theorem sackLength {n : Nat} (some : 1 ≤ n) (few : n ≤ 4) :
    let optionLength : UInt8 := 2 + 8 * UInt8.ofNat n
    (optionLength = 10 ∨ optionLength = 18 ∨ optionLength = 26 ∨ optionLength = 34) ∧
      (optionLength.toNat - 2) / 8 = n := by
  obtain rfl | rfl | rfl | rfl : n = 1 ∨ n = 2 ∨ n = 3 ∨ n = 4 := by omega
  all_goals decide

/-- An option starts with its kind, which does not end the list, and the rest of it is read off the
front of what follows. -/
theorem parseOption_append {option : TcpOptions2} (wf : option.WellFormed) :
    ∃ kind tail, option.bytes = kind :: tail ∧ kind ≠ 0 ∧ kind ≠ 1 ∧
      ∀ rest, parseOption eof kind (tail ++ rest) = .ok (option, rest) := by
  cases option with
  | noOperation => exact wf.elim
  | maximumSegmentSize mss =>
    refine ⟨2, 4 :: toBeBytes 2 mss.toNat, rfl, by decide, by decide, fun rest => ?_⟩
    simp [parseOption, Cursor.readU8_cons, Cursor.readU16_append, bind, Except.bind]
  | windowScale scale =>
    refine ⟨3, [3, scale], rfl, by decide, by decide, fun rest => ?_⟩
    simp [parseOption, Cursor.readU8_cons, bind, Except.bind]
  | selectiveAcknowlegementPermitted =>
    refine ⟨4, [2], rfl, by decide, by decide, fun rest => ?_⟩
    simp [parseOption, Cursor.readU8_cons, bind, Except.bind]
  | selectiveAcknowlegement sacks =>
    obtain ⟨known, count⟩ := sackLength wf.1 wf.2
    refine ⟨5, _, rfl, by decide, by decide, fun rest => ?_⟩
    refine Machine.bind_eq_ok.mpr ⟨_, Cursor.readU8_cons _ _, ?_⟩
    dsimp only
    rw [if_pos known, count]
    exact Machine.bind_eq_ok.mpr ⟨_, parseSacks_append sacks rest, rfl⟩
  | timestamp senderTimestamp echoTimestamp =>
    refine ⟨8, 10 :: (toBeBytes 4 senderTimestamp.toNat ++ toBeBytes 4 echoTimestamp.toNat), rfl,
      by decide, by decide, fun rest => ?_⟩
    simp [parseOption, Cursor.readU8_cons, Cursor.readU32_append, bind, Except.bind]

/-- The option loop reads the options off the front, one a pass. -/
theorem parseOptions_append {options read : List TcpOptions2} {rest : Buffer} {passes : Nat}
    (wf : ∀ option ∈ options, option.WellFormed)
    (few : read.length + options.length ≤ MAX_TCP_OPTIONS) :
    parseOptions eof (options.length + passes) read (options.flatMap TcpOptions2.bytes ++ rest) =
      parseOptions eof passes (read ++ options) rest := by
  induction options generalizing read with
  | nil => simp
  | cons option options ih =>
    obtain ⟨kind, tail, bytes_eq, more, proper, reads⟩ := parseOption_append (wf option (by simp))
    rw [List.length_cons] at few
    have next := @ih (read ++ [option]) (fun option mem => wf option (List.mem_cons_of_mem _ mem))
      (by rw [List.length_append, List.length_singleton]; omega)
    have room : ¬MAX_TCP_OPTIONS ≤ read.length := by omega
    rw [List.append_assoc, List.singleton_append] at next
    rw [List.flatMap_cons, bytes_eq, List.length_cons, Nat.add_right_comm, List.append_assoc,
      List.cons_append, parseOptions, if_neg more, if_neg proper, reads, ← next]
    simp only [bind, Except.bind, if_neg room]

/-- The zeros that fill a header up end the options. -/
theorem parseOptions_zeros (passes n : Nat) (options : List TcpOptions2) :
    parseOptions eof passes options (List.replicate n 0) = .ok options := by
  cases passes with
  | zero => rfl
  | succ passes => cases n <;> rfl

/-! ## Sizes -/

/-- The options as bytes. -/
def optionBytes (h : TcpHeader) : Buffer := h.optionList.flatMap TcpOptions2.bytes

/-- How many zeros follow the options. -/
def zeros (h : TcpHeader) : Nat := h.computeSize - (MIN_TCP_HEADER_SIZE + h.optionBytes.length)

/-- The code adds the sizes up; the bytes are as long. -/
theorem foldl_computeSize (options : List TcpOptions2) (size : Nat) :
    options.foldl (fun size option => size + option.computeSize) size =
      size + (options.flatMap TcpOptions2.bytes).length := by
  induction options generalizing size with
  | nil => simp
  | cons option options ih =>
    rw [List.foldl_cons, ih, List.flatMap_cons, List.length_append, TcpOptions2.length_bytes,
      Nat.add_assoc]

/-- There are no more options than bytes. -/
theorem length_le_flatMap (options : List TcpOptions2) :
    options.length ≤ (options.flatMap TcpOptions2.bytes).length := by
  induction options with
  | nil => simp
  | cons option options ih =>
    have pos := TcpOptions2.computeSize_pos option
    rw [List.flatMap_cons, List.length_append, TcpOptions2.length_bytes, List.length_cons]
    omega

/-- The header is filled up with zeros to four bytes. -/
theorem computeSize_eq (h : TcpHeader) :
    h.computeSize = MIN_TCP_HEADER_SIZE + h.optionBytes.length + h.zeros := by
  have size : MIN_TCP_HEADER_SIZE + h.optionBytes.length ≤ h.computeSize := by
    rw [computeSize, foldl_computeSize]
    dsimp only [optionBytes]
    split <;> omega
  exact (Nat.add_sub_cancel' size).symm

theorem four_dvd_computeSize (h : TcpHeader) : 4 ∣ h.computeSize := Nat.dvd_mul_left 4 _

/-- There is room for the end of the option list. -/
theorem zeros_pos {h : TcpHeader} (some : 0 < h.optionList.length) : 0 < h.zeros := by
  have size : MIN_TCP_HEADER_SIZE + h.optionBytes.length < h.computeSize := by
    rw [computeSize, foldl_computeSize, if_pos some]
    dsimp only [optionBytes]
    omega
  exact Nat.sub_pos_of_lt size

/-! ## The first twenty bytes -/

/-- The bytes before the checksum. -/
def front (h : TcpHeader) : Buffer :=
  toBeBytes 2 h.srcPort.toNat ++ toBeBytes 2 h.dstPort.toNat ++ toBeBytes 4 h.seqNum.value.toNat ++
    toBeBytes 4 h.ackNum.value.toNat ++ [h.offsetByte] ++ [h.flagsByte] ++
    toBeBytes 2 h.windowSize.toNat

/-- The bytes after the checksum. -/
def back (h : TcpHeader) : Buffer :=
  toBeBytes 2 h.urgentPointer.toNat ++ h.optionBytes ++ List.replicate h.zeros 0

theorem length_front (h : TcpHeader) : h.front.length = 16 := rfl

theorem length_back (h : TcpHeader) : 18 + h.back.length = h.computeSize := by
  rw [back, List.length_append, List.length_append, List.length_replicate, length_toBeBytes,
    computeSize_eq, MIN_TCP_HEADER_SIZE]
  omega

/-- A header with two bytes where the checksum stands. -/
theorem length_hole {h : TcpHeader} {hole : Buffer} (two : hole.length = 2) :
    (h.front ++ hole ++ h.back).length = h.computeSize := by
  rw [List.length_append, List.length_append, length_front, two, ← length_back]

/-- Eight flags in one byte are read back. -/
theorem isSet_flagsByte (h : TcpHeader) :
    isSet h.flagsByte 7 = h.cwr ∧ isSet h.flagsByte 6 = h.ece ∧ isSet h.flagsByte 5 = h.urg ∧
      isSet h.flagsByte 4 = h.ack ∧ isSet h.flagsByte 3 = h.psh ∧ isSet h.flagsByte 2 = h.rst ∧
      isSet h.flagsByte 1 = h.syn ∧ isSet h.flagsByte 0 = h.fin := by
  unfold flagsByte
  generalize h.cwr = cwr, h.ece = ece, h.urg = urg, h.ack = ack, h.psh = psh, h.rst = rst,
    h.syn = syn, h.fin = fin
  revert cwr ece urg ack psh rst syn fin
  decide +kernel

/-- The data offset fits its four bits, and NS has a bit of its own. -/
theorem offsetByte_spec {h : TcpHeader} (small : h.computeSize ≤ MAX_TCP_HEADER_SIZE) :
    (h.offsetByte >>> 4).toNat * 4 = h.computeSize ∧ isSet h.offsetByte 0 = h.ns := by
  obtain ⟨words, size⟩ := four_dvd_computeSize h
  have few : words < 16 := by
    rw [MAX_TCP_HEADER_SIZE] at small
    omega
  have bits : ∀ ns, ∀ words < 16,
      (((UInt8.ofNat words <<< 4) ||| flag ns 0) >>> 4).toNat = words ∧
        isSet ((UInt8.ofNat words <<< 4) ||| flag ns 0) 0 = ns := by
    decide
  rw [offsetByte, size, Nat.mul_div_cancel_left words (by decide), (bits h.ns words few).1]
  exact ⟨Nat.mul_comm words 4, (bits h.ns words few).2⟩

/-- The fixed fields are read back, whatever the checksum is. -/
theorem parseFixed_eq {h : TcpHeader} (small : h.computeSize ≤ MAX_TCP_HEADER_SIZE)
    (checksum : UInt16) :
    parseFixed (h.front ++ toBeBytes 2 checksum.toNat ++ h.back) =
      .ok { h with optionList := [] } := by
  obtain ⟨p0, p1, src, srcPort⟩ := u16_bytes h.srcPort
  obtain ⟨q0, q1, dst, dstPort⟩ := u16_bytes h.dstPort
  obtain ⟨s0, s1, s2, s3, seq, seqNum⟩ := u32_bytes h.seqNum.value
  obtain ⟨a0, a1, a2, a3, acked, ackNum⟩ := u32_bytes h.ackNum.value
  obtain ⟨w0, w1, window, windowSize⟩ := u16_bytes h.windowSize
  obtain ⟨c0, c1, sum, _⟩ := u16_bytes checksum
  obtain ⟨u0, u1, urgent, urgentPointer⟩ := u16_bytes h.urgentPointer
  obtain ⟨cwr, ece, urg, ack, psh, rst, syn, fin⟩ := isSet_flagsByte h
  have ns := (offsetByte_spec small).2
  rw [front, back, src, dst, seq, acked, window, sum, urgent]
  calc parseFixed _
    _ = .ok {
        srcPort := UInt16.ofNat (Bytes.ofBe [p0, p1])
        dstPort := UInt16.ofNat (Bytes.ofBe [q0, q1])
        seqNum := ⟨UInt32.ofNat (Bytes.ofBe [s0, s1, s2, s3])⟩
        ackNum := ⟨UInt32.ofNat (Bytes.ofBe [a0, a1, a2, a3])⟩
        ns := isSet h.offsetByte 0
        cwr := isSet h.flagsByte 7
        ece := isSet h.flagsByte 6
        urg := isSet h.flagsByte 5
        ack := isSet h.flagsByte 4
        psh := isSet h.flagsByte 3
        rst := isSet h.flagsByte 2
        syn := isSet h.flagsByte 1
        fin := isSet h.flagsByte 0
        windowSize := UInt16.ofNat (Bytes.ofBe [w0, w1])
        urgentPointer := UInt16.ofNat (Bytes.ofBe [u0, u1])
        optionList := [] } := rfl
    _ = .ok { h with optionList := [] } := by
      rw [srcPort, dstPort, seqNum, ackNum, ns, cwr, ece, urg, ack, psh, rst, syn, fin, windowSize,
        urgentPointer]

/-! ## Writing -/

/-- The options are written one behind the other. -/
theorem serializeOptions_eq {options : List TcpOptions2} {written old : Buffer} {curPos : Nat}
    (at_ : written.length = curPos)
    (fits : (options.flatMap TcpOptions2.bytes).length ≤ old.length) :
    serializeOptions options curPos (written ++ old) =
      .ok (curPos + (options.flatMap TcpOptions2.bytes).length,
        written ++ options.flatMap TcpOptions2.bytes ++
          old.drop (options.flatMap TcpOptions2.bytes).length) := by
  induction options generalizing written old curPos with
  | nil => simp [serializeOptions]
  | cons option options ih =>
    rw [List.flatMap_cons, List.length_append] at fits
    have slice : (written ++ old).drop curPos = old := List.drop_left' at_
    have kept : (written ++ old).take curPos = written := List.take_left' at_
    have wrote : option.serialize old =
        .ok (option.computeSize, option.bytes ++ old.drop option.bytes.length) :=
      Machine.bind_eq_ok.mpr ⟨_, Buffer.write_first _ rfl (by omega), rfl⟩
    rw [serializeOptions, slice, kept]
    refine Machine.bind_eq_ok.mpr ⟨_, wrote, ?_⟩
    dsimp only
    rw [← List.append_assoc, ← TcpOptions2.length_bytes, ih (by rw [List.length_append, at_])
      (by rw [List.length_drop]; omega)]
    simp [List.drop_drop, Nat.add_assoc]

/-- What is left of the header is set to zero. -/
theorem zeroFrom_append {written old : Buffer} {curPos : Nat} (at_ : written.length = curPos) :
    zeroFrom curPos (written ++ old) = written ++ List.replicate old.length 0 := by
  rw [zeroFrom, List.take_left' at_, List.length_append, at_, Nat.add_sub_cancel_left]

/-- The end of the option list is one of the zeros. -/
theorem serializeRest_eq {h : TcpHeader} {written old : Buffer} (at_ : written.length = 20)
    (size : old.length = h.optionBytes.length + h.zeros) :
    h.serializeRest (written ++ old) =
      .ok (written ++ h.optionBytes ++ List.replicate h.zeros 0) := by
  have fits : h.optionBytes.length ≤ old.length := by
    rw [size]
    exact Nat.le_add_right _ _
  have wrote : serializeOptions h.optionList MIN_TCP_HEADER_SIZE (written ++ old) =
      .ok (20 + h.optionBytes.length, written ++ h.optionBytes ++ old.drop h.optionBytes.length) :=
    serializeOptions_eq at_ fits
  have stop : (written ++ h.optionBytes).length = 20 + h.optionBytes.length := by
    rw [List.length_append, at_]
  refine Machine.bind_eq_ok.mpr ⟨_, wrote, ?_⟩
  dsimp only
  by_cases some : 0 < h.optionList.length
  · have room := zeros_pos some
    have ended : (written ++ h.optionBytes ++ [0]).length = 20 + h.optionBytes.length + 1 := by
      rw [List.length_append, stop, List.length_singleton]
    obtain ⟨byte, rest, old_eq⟩ : ∃ byte rest, old.drop h.optionBytes.length = byte :: rest :=
      List.exists_cons_of_length_pos (by rw [List.length_drop]; omega)
    have length : rest.length + 1 = h.zeros := by
      rw [← List.length_cons, ← old_eq, List.length_drop, size, Nat.add_sub_cancel_left]
    have closed : Buffer.write (written ++ h.optionBytes ++ byte :: rest)
        (20 + h.optionBytes.length) [0] = .ok (written ++ h.optionBytes ++ [0] ++ rest) := by
      rw [List.append_cons]
      exact Buffer.write_middle stop.symm rfl
    rw [if_pos some, old_eq]
    refine Machine.bind_eq_ok.mpr ⟨_, closed, ?_⟩
    refine Machine.bind_eq_ok.mpr ⟨_, rfl, ?_⟩
    dsimp only
    rw [zeroFrom_append ended, ← length, List.replicate_succ, List.append_assoc,
      List.singleton_append]
  · have left : (old.drop h.optionBytes.length).length = h.zeros := by
      rw [List.length_drop, size, Nat.add_sub_cancel_left]
    rw [if_neg some]
    refine Machine.bind_eq_ok.mpr ⟨_, rfl, ?_⟩
    dsimp only
    rw [zeroFrom_append stop, left]

/-- The fixed fields are written over whatever the buffer held; the checksum is left. -/
theorem serializeFixed_eq {h : TcpHeader} {buf : Buffer} (size : 20 ≤ buf.length) :
    ∃ hole : Buffer, hole.length = 2 ∧
      h.serializeFixed buf =
        .ok (h.front ++ hole ++ toBeBytes 2 h.urgentPointer.toNat ++ buf.drop 20) := by
  obtain ⟨hole, two, gap⟩ : ∃ hole, hole.length = 2 ∧ buf.drop 16 = hole ++ buf.drop 18 := by
    refine ⟨(buf.drop 16).take 2, ?_, ?_⟩
    · rw [List.length_take, List.length_drop]
      omega
    · have split := List.take_append_drop 2 (buf.drop 16)
      rw [List.drop_drop] at split
      exact split.symm
  refine ⟨hole, two, ?_⟩
  refine Machine.bind_eq_ok.mpr ⟨_, Buffer.write_first 2 rfl (by omega), ?_⟩
  refine Machine.bind_eq_ok.mpr ⟨_, Buffer.write_next 4 rfl rfl (by omega), ?_⟩
  refine Machine.bind_eq_ok.mpr ⟨_, Buffer.write_next 8 rfl rfl (by omega), ?_⟩
  refine Machine.bind_eq_ok.mpr ⟨_, Buffer.write_next 12 rfl rfl (by omega), ?_⟩
  refine Machine.bind_eq_ok.mpr ⟨_, Buffer.write_next 13 rfl rfl (by omega), ?_⟩
  refine Machine.bind_eq_ok.mpr ⟨_, Buffer.write_next 14 rfl rfl (by omega), ?_⟩
  refine Machine.bind_eq_ok.mpr ⟨_, Buffer.write_next 16 rfl rfl (by omega), ?_⟩
  rw [gap, ← List.append_assoc]
  have eighteen : (h.front ++ hole).length = 18 := by
    rw [List.length_append, length_front, two]
  exact Buffer.write_next 20 eighteen rfl size

/-- The checksum is over the addresses and everything but the two bytes it is written to. -/
theorem tcpChecksum_hole {ip ip' : Ipv4.Ipv4Header} {front hole hole' back : Buffer} (data : Buffer)
    (src : ip.srcAddr = ip'.srcAddr) (dst : ip.dstAddr = ip'.dstAddr) (size : front.length = 16)
    (two : hole.length = 2) (two' : hole'.length = 2) :
    tcpChecksum ip (front ++ hole ++ back) data = tcpChecksum ip' (front ++ hole' ++ back) data := by
  have length : (front ++ hole ++ back).length = (front ++ hole' ++ back).length := by
    simp only [List.length_append, two, two']
  have before (hole : Buffer) : (front ++ hole ++ back).take 16 = front := by
    rw [List.append_assoc]
    exact List.take_left' size
  have after {hole : Buffer} (two : hole.length = 2) : (front ++ hole ++ back).drop 18 = back :=
    List.drop_left' (by rw [List.length_append, size, two])
  have options {hole : Buffer} (two : hole.length = 2) :
      (front ++ hole ++ back).drop MIN_TCP_HEADER_SIZE = back.drop 2 := by
    have split : (front ++ hole ++ back).drop MIN_TCP_HEADER_SIZE =
        ((front ++ hole ++ back).drop 18).drop 2 := by
      rw [List.drop_drop, MIN_TCP_HEADER_SIZE]
    rw [split, after two]
  simp only [tcpChecksum, src, dst, length, before, after two, after two', options two, options two']

/-- The checksum of a header whose length is even does not panic. -/
theorem tcpChecksum_ok (ip : Ipv4.Ipv4Header) {header : Buffer} (data : Buffer)
    (size : MIN_TCP_HEADER_SIZE ≤ header.length) (even : header.length % 2 = 0) :
    ∃ checksum, tcpChecksum ip header data = .ok checksum := by
  have long : ¬header.length < MIN_TCP_HEADER_SIZE := Nat.not_lt.mpr size
  simp only [tcpChecksum, if_neg long, even, bne_self_eq_false, Bool.and_false, Bool.false_eq_true,
    if_false]
  exact ⟨_, rfl⟩

/-- What is written to the checksum's place: the checksum of what is written, or zero if the device fills it
in. -/
theorem checksum_field (h : TcpHeader) (ip : Ipv4.Ipv4Header) (data : Buffer) (txChecksumOffload : Bool) :
    ∃ checksum : UInt16, (txChecksumOffload = true → checksum = 0) ∧
      (txChecksumOffload = false → ∀ hole : Buffer, hole.length = 2 →
        tcpChecksum ip (h.front ++ hole ++ h.back) data = .ok checksum) := by
  cases txChecksumOffload with
  | true => exact ⟨0, fun _ => rfl, nofun⟩
  | false =>
    -- the checksum over zeros in its own place is the one over anything else there
    have length := @length_hole h [0, 0] rfl
    have words := four_dvd_computeSize h
    have total := computeSize_eq h
    obtain ⟨checksum, summed⟩ := @tcpChecksum_ok ip (h.front ++ [0, 0] ++ h.back) data (by omega) (by omega)
    refine ⟨checksum, nofun, fun _ hole two => ?_⟩
    rw [← summed]
    exact tcpChecksum_hole data rfl rfl (length_front h) two rfl

/-- A header is written over whatever the buffer held, with the checksum of what is written. -/
theorem serialize_eq (h : TcpHeader) (ip : Ipv4.Ipv4Header) (data : Buffer) (txChecksumOffload : Bool) :
    ∃ checksum : UInt16,
      (txChecksumOffload = false →
        tcpChecksum ip (h.front ++ toBeBytes 2 checksum.toNat ++ h.back) data = .ok checksum) ∧
      ∀ buf : Buffer, buf.length = h.computeSize →
        h.serialize buf ip data txChecksumOffload =
          .ok (h.front ++ toBeBytes 2 checksum.toNat ++ h.back) := by
  obtain ⟨checksum, zero, everywhere⟩ := h.checksum_field ip data txChecksumOffload
  refine ⟨checksum, fun computed => everywhere computed _ (length_toBeBytes 2 _), fun buf size => ?_⟩
  have total := computeSize_eq h
  rw [MIN_TCP_HEADER_SIZE] at total
  have long : ¬buf.length < MIN_TCP_HEADER_SIZE := by
    rw [MIN_TCP_HEADER_SIZE]
    omega
  obtain ⟨hole, two, fixed⟩ := @serializeFixed_eq h buf (Nat.not_lt.mp long)
  have twenty : (h.front ++ hole ++ toBeBytes 2 h.urgentPointer.toNat).length = 20 := by
    rw [List.length_append, List.length_append, length_front, two, length_toBeBytes]
  have rest := @serializeRest_eq h _ (buf.drop 20) twenty (by rw [List.length_drop]; omega)
  have whole : h.front ++ hole ++ toBeBytes 2 h.urgentPointer.toNat ++ h.optionBytes ++
      List.replicate h.zeros 0 = h.front ++ hole ++ h.back := by
    simp only [back, List.append_assoc]
  have last : Buffer.write (h.front ++ hole ++ h.back) 16 (toBeBytes 2 checksum.toNat) =
      .ok (h.front ++ toBeBytes 2 checksum.toNat ++ h.back) :=
    Buffer.write_middle rfl (by rw [length_toBeBytes, two])
  rw [serialize, if_neg long]
  refine Machine.bind_eq_ok.mpr ⟨_, fixed, ?_⟩
  refine Machine.bind_eq_ok.mpr ⟨_, rest, ?_⟩
  rw [whole]
  cases txChecksumOffload with
  | true =>
    cases zero rfl
    exact last
  | false => exact Machine.bind_eq_ok.mpr ⟨checksum, everywhere rfl _ two, last⟩

/-! ## Reading -/

/-- A header is read back off the front of a segment, whatever stands in the place of its checksum. Where the
checksum is looked at and does not match, it is refused for it. -/
theorem parse_checked {h : TcpHeader} {ip : Ipv4.Ipv4Header} {data : Buffer} {checksum computed : UInt16}
    (small : h.computeSize ≤ MAX_TCP_HEADER_SIZE) (few : h.optionList.length ≤ MAX_TCP_OPTIONS)
    (wf : ∀ option ∈ h.optionList, option.WellFormed)
    (summed : tcpChecksum ip (h.front ++ toBeBytes 2 checksum.toNat ++ h.back) data = .ok computed)
    (rxChecksumOffload : Bool) :
    parse eof ip (h.front ++ toBeBytes 2 checksum.toNat ++ h.back ++ data) rxChecksumOffload =
      if !rxChecksumOffload && checksum != computed then
        throw { errno := .EBADMSG, cause := "TCP checksum mismatch" }
      else pure (h, data) := by
  have fixed := parseFixed_eq small checksum
  set hdr := h.front ++ toBeBytes 2 checksum.toNat ++ h.back with hdr_eq
  have size : hdr.length = h.computeSize := length_hole (length_toBeBytes 2 _)
  have least : MIN_TCP_HEADER_SIZE ≤ h.computeSize := by
    rw [computeSize_eq, Nat.add_assoc]
    exact Nat.le_add_right _ _
  have total : (hdr ++ data).length = h.computeSize + data.length := by
    rw [List.length_append, size]
  have long : ¬(hdr ++ data).length < MIN_TCP_HEADER_SIZE := by
    omega
  have byte12 : Buffer.readU8 (hdr ++ data) 12 = .ok h.offsetByte := rfl
  have offset := (offsetByte_spec small).1
  have fits : ¬(hdr ++ data).length < h.computeSize := by omega
  have front : (hdr ++ data).take h.computeSize = hdr := List.take_left' size
  have rest : (hdr ++ data).drop h.computeSize = data := List.drop_left' size
  have sum : Buffer.readU16 hdr 16 = .ok checksum := congrArg Except.ok (ofNat_ofBe_u16 checksum)
  -- the options are what stands between the fixed part and the data
  have rdr : hdr.drop MIN_TCP_HEADER_SIZE = h.optionBytes ++ List.replicate h.zeros 0 := by
    have split : hdr = h.front ++ toBeBytes 2 checksum.toNat ++ toBeBytes 2 h.urgentPointer.toNat ++
        (h.optionBytes ++ List.replicate h.zeros 0) := by
      simp only [hdr_eq, back, List.append_assoc]
    rw [split]
    exact List.drop_left' rfl
  have options : parseOptions eof (h.optionBytes ++ List.replicate h.zeros 0).length []
      (h.optionBytes ++ List.replicate h.zeros 0) = .ok h.optionList := by
    -- every option takes an octet at least, so the passes suffice
    obtain ⟨passes, enough⟩ : ∃ passes,
        (h.optionBytes ++ List.replicate h.zeros 0).length = h.optionList.length + passes := by
      refine Nat.exists_eq_add_of_le ?_
      rw [List.length_append]
      exact Nat.le_add_right_of_le (length_le_flatMap h.optionList)
    rw [enough, optionBytes, parseOptions_append wf (by rwa [List.length_nil, Nat.zero_add]),
      parseOptions_zeros, List.nil_append]
  have body : Buffer.adjust (hdr ++ data) h.computeSize = .ok data := Buffer.adjust_append size
  simp only [parse, long, if_false, byte12, offset, fits, Nat.not_lt.mpr least, Nat.not_lt.mpr small,
    front, rest, fixed, sum, summed, rdr, options, body, Outcome.lift_ok, Outcome.lift_result, pure_bind]
  cases rxChecksumOffload with
  | true => rfl
  | false =>
    by_cases same : checksum = computed
    · subst same
      simp
    · have differ : (checksum != computed) = true := bne_iff_ne.mpr same
      simp only [differ, Bool.not_false, Bool.and_self, if_true, ne_eq, same, not_false_eq_true]
      rfl

/-- A header with the checksum of what was written is read back. -/
theorem parse_bytes {h : TcpHeader} {ip : Ipv4.Ipv4Header} {data : Buffer} {checksum : UInt16}
    (small : h.computeSize ≤ MAX_TCP_HEADER_SIZE) (few : h.optionList.length ≤ MAX_TCP_OPTIONS)
    (wf : ∀ option ∈ h.optionList, option.WellFormed)
    (summed : tcpChecksum ip (h.front ++ toBeBytes 2 checksum.toNat ++ h.back) data = .ok checksum) :
    parse eof ip (h.front ++ toBeBytes 2 checksum.toNat ++ h.back ++ data) false = pure (h, data) := by
  rw [parse_checked small few wf summed false, bne_self_eq_false, Bool.and_false, if_neg Bool.false_ne_true]

end TcpHeader

/-! ## Frames -/

/-- The three decoders, one after another. -/
def parseFrame (eof : Fail) (frame : Buffer) :
    Outcome (Ethernet2.Ethernet2Header × Ipv4.Ipv4Header × TcpHeader × Buffer) := do
  let (ethernet2Hdr, buf) ← Ethernet2.Ethernet2Header.parse frame
  let (ipv4Hdr, buf) ← Ipv4.Ipv4Header.parse buf
  let (tcpHdr, data) ← TcpHeader.parse eof ipv4Hdr buf false
  return (ethernet2Hdr, ipv4Hdr, tcpHdr, data)

namespace TcpSegment

/-- The total length in the IPv4 header of a segment. -/
def totalLength (segment : TcpSegment) : UInt16 :=
  Ipv4.IPV4_HEADER_MIN_SIZE + UInt16.ofNat (segment.tcpHdr.computeSize + segment.data.length)

/-- The IPv4 header of a segment as it is read back. -/
def sentIpv4 (segment : TcpSegment) : Ipv4.Ipv4Header :=
  .sent segment.ipv4Hdr.srcAddr segment.ipv4Hdr.dstAddr .tcp segment.totalLength

/-- The segments the encoder and the decoder agree on. -/
structure Encodable (segment : TcpSegment) : Prop where
  wellFormed : ∀ option ∈ segment.tcpHdr.optionList, option.WellFormed
  few : segment.tcpHdr.optionList.length ≤ MAX_TCP_OPTIONS
  small : segment.tcpHdr.computeSize ≤ MAX_TCP_HEADER_SIZE
  fits : 20 + segment.tcpHdr.computeSize + segment.data.length ≤ 65535
  checksummed : segment.txChecksumOffload = false

/-- The total length of an IPv4 datagram does not wrap if it fits. -/
theorem toNat_totalLength {segment : TcpSegment}
    (fits : 20 + segment.tcpHdr.computeSize + segment.data.length ≤ 65535) :
    segment.totalLength.toNat = 20 + (segment.tcpHdr.computeSize + segment.data.length) := by
  rw [totalLength, UInt16.toNat_add, UInt16.toNat_ofNat']
  change (20 + (segment.tcpHdr.computeSize + segment.data.length) % 65536) % 65536 = _
  omega

/-- The three headers are written one after another, over whatever the buffer held. -/
theorem writeHeader_eq {segment : TcpSegment} {buf : Buffer} (room : segment.headerSize ≤ buf.length) :
    ∃ checksum : UInt16,
      (segment.txChecksumOffload = false → tcpChecksum segment.ipv4
        (segment.tcpHdr.front ++ toBeBytes 2 checksum.toNat ++ segment.tcpHdr.back) segment.data =
          .ok checksum) ∧
      segment.writeHeader buf = .ok (segment.ethernet2.bytes ++
        Ipv4.Ipv4Header.bytes segment.ipv4Hdr.srcAddr segment.ipv4Hdr.dstAddr .tcp
          segment.totalLength ++
        (segment.tcpHdr.front ++ toBeBytes 2 checksum.toNat ++ segment.tcpHdr.back) ++
        buf.drop segment.headerSize) := by
  obtain ⟨checksum, summed, wrote⟩ :=
    TcpHeader.serialize_eq segment.tcpHdr segment.ipv4 segment.data segment.txChecksumOffload
  refine ⟨checksum, summed, ?_⟩
  have size : segment.headerSize = 34 + segment.tcpHdr.computeSize := rfl
  refine Machine.bind_eq_ok.mpr ⟨_, Buffer.writeSlice_first 14 (by omega) rfl
    fun old length => segment.ethernet2.serialize_eq length, ?_⟩
  refine Machine.bind_eq_ok.mpr ⟨_, Buffer.writeSlice_next 34 rfl rfl (by omega) rfl
    fun old length => Ipv4.Ipv4Header.serialize_eq length _, ?_⟩
  refine Buffer.writeSlice_next segment.headerSize rfl rfl room ?_ fun old length => wrote old length
  exact TcpHeader.length_hole (length_toBeBytes 2 _)

/-- Whatever the encoder writes, followed by the data and any padding, is decoded to the same headers and
exactly the data. -/
theorem parseFrame_written (eof : Fail) {segment : TcpSegment} (encodable : segment.Encodable)
    {buf out : Buffer} (room : segment.headerSize ≤ buf.length)
    (wrote : segment.writeHeader buf = .ok out) (padding : Buffer) :
    parseFrame eof (out.take segment.headerSize ++ segment.data ++ padding) =
      pure (segment.ethernet2, segment.sentIpv4, segment.tcpHdr, segment.data) := by
  obtain ⟨checksum, summed, wrote'⟩ := writeHeader_eq room
  cases wrote.symm.trans wrote'
  set tcp := segment.tcpHdr.front ++ toBeBytes 2 checksum.toNat ++ segment.tcpHdr.back with tcp_eq
  set ip := Ipv4.Ipv4Header.bytes segment.ipv4Hdr.srcAddr segment.ipv4Hdr.dstAddr .tcp
    segment.totalLength
  have tcp_length : tcp.length = segment.tcpHdr.computeSize :=
    TcpHeader.length_hole (length_toBeBytes 2 _)
  have size : (segment.ethernet2.bytes ++ ip ++ tcp).length = segment.headerSize := by
    rw [List.length_append, tcp_length]
    rfl
  have length : segment.totalLength.toNat = 20 + (tcp ++ segment.data).length := by
    rw [toNat_totalLength encodable.fits, List.length_append, tcp_length]
  have frame : (segment.ethernet2.bytes ++ ip ++ tcp ++ buf.drop segment.headerSize).take
      segment.headerSize ++ segment.data ++ padding =
        segment.ethernet2.bytes ++ (ip ++ (tcp ++ segment.data) ++ padding) := by
    rw [List.take_left' size]
    simp only [List.append_assoc]
  have sum : tcpChecksum segment.sentIpv4 tcp segment.data = .ok checksum := by
    rw [← summed encodable.checksummed]
    exact TcpHeader.tcpChecksum_hole segment.data rfl rfl (TcpHeader.length_front _)
      (length_toBeBytes 2 _) (length_toBeBytes 2 _)
  have ethernet := Ethernet2.Ethernet2Header.parse_bytes segment.ethernet2
    (ip ++ (tcp ++ segment.data) ++ padding)
  have ipv4 : Ipv4.Ipv4Header.parse (ip ++ (tcp ++ segment.data) ++ padding) =
      pure (segment.sentIpv4, tcp ++ segment.data) :=
    Ipv4.Ipv4Header.parse_bytes padding length
  have header : TcpHeader.parse eof segment.sentIpv4 (tcp ++ segment.data) false =
      pure (segment.tcpHdr, segment.data) :=
    TcpHeader.parse_bytes encodable.small encodable.few encodable.wellFormed sum
  rw [frame, parseFrame, ethernet, pure_bind]
  dsimp only
  rw [ipv4, pure_bind]
  dsimp only
  rw [header, pure_bind]

/-- Frame round trip. What the encoder writes, over any previous contents of the buffer, followed by the
data and any padding, is decoded to the same headers and exactly the data. -/
theorem frame_round_trip (eof : Fail) {segment : TcpSegment} (encodable : segment.Encodable)
    {buf : Buffer} (room : segment.headerSize ≤ buf.length) (padding : Buffer) :
    ∃ out, segment.writeHeader buf = .ok out ∧
      parseFrame eof (out.take segment.headerSize ++ segment.data ++ padding) =
        pure (segment.ethernet2, segment.sentIpv4, segment.tcpHdr, segment.data) := by
  obtain ⟨checksum, -, wrote⟩ := writeHeader_eq room
  exact ⟨_, wrote, parseFrame_written eof encodable room wrote padding⟩

/-- Three options of which one has two blocks, NS and urgent data, and an odd number of bytes. -/
def sampleSegment : TcpSegment where
  ethernet2Hdr := { dstAddr := 0x0a0b0c0d0e0f, srcAddr := 0x010203040506 }
  ipv4Hdr := { srcAddr := 0x0a000001, dstAddr := 0x0a000002 }
  tcpHdr := { TcpHeader.new 49152 80 with
    seqNum := ⟨0xfffffffe⟩
    ackNum := ⟨7⟩
    ns := true
    urg := true
    ack := true
    windowSize := 65535
    urgentPointer := 2
    optionList := [.windowScale 7, .selectiveAcknowlegement [⟨⟨9⟩, ⟨10⟩⟩, ⟨⟨12⟩, ⟨20⟩⟩],
      .timestamp 5 0] }
  data := [1, 2, 3]
  txChecksumOffload := false

/-- A segment with two blocks, read back from a longer frame with padding. -/
theorem frame_round_trip_sack :
    ∃ out, sampleSegment.writeHeader (List.replicate 90 0xff) = .ok out ∧
      parseFrame { errno := .EINVAL, cause := "I/O error" } (out.take 86 ++ [1, 2, 3] ++ [0, 0, 0, 0]) =
        pure (sampleSegment.ethernet2, sampleSegment.sentIpv4, sampleSegment.tcpHdr, [1, 2, 3]) := by
  have encodable : sampleSegment.Encodable := by
    refine ⟨?_, by decide, by decide, by decide, rfl⟩
    intro option mem
    simp only [sampleSegment, List.mem_cons, List.not_mem_nil, or_false] at mem
    obtain rfl | rfl | rfl := mem
    · trivial
    · exact ⟨by decide, by decide⟩
    · trivial
  exact @frame_round_trip _ sampleSegment encodable (List.replicate 90 0xff) (by decide) [0, 0, 0, 0]

end TcpSegment

end Inetstack.Tcp
