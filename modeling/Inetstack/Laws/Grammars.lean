import Inetstack.Laws.Arp.Packet
import Inetstack.Laws.Icmpv4.Datagram
import Inetstack.Laws.Udp.Datagram

/-!
# The grammars of the other headers

The decoders of Ethernet, ARP, IPv4, ICMPv4 and UDP do not panic, and each accepts exactly what its encoder
writes, with the checksums looked at where they are not left to the device. ICMPv4 is the exception: its
encoder leaves four bytes zero where the decoder does not look.
-/

namespace Inetstack

open Tcp (Buffer Fail Fault Outcome toBeBytes)

/-! ## Running a decoder backwards -/

namespace Tcp

namespace Outcome

variable {α β : Type} {x : Outcome α} {f : α → Outcome β}

/-- A decoder that does not panic. -/
def Returns (x : Outcome α) : Prop := ∃ result : Except Fail α, x = (.ok result : Except Fault _)

theorem Returns.pure (a : α) : Returns (pure a) := ⟨.ok a, rfl⟩

/-- What comes after a parser has to return only on what the parser gives. -/
theorem Returns.bind (h : x.Returns) (rest : ∀ a, x = Pure.pure a → (f a).Returns) : (x >>= f).Returns := by
  obtain ⟨result, rfl⟩ := h
  cases result with
  | ok a => exact rest a rfl
  | error fail => exact ⟨.error fail, rfl⟩

/-- A check that fails is a refusal, and a refusal returns. -/
theorem Returns.guard {c : Prop} [Decidable c] {fail : Fail} {k : PUnit → Outcome β}
    (rest : ¬c → (k PUnit.unit).Returns) :
    (if c then MonadExcept.throw fail >>= k else k PUnit.unit).Returns := by
  by_cases h : c
  · rw [if_pos h]
    exact ⟨.error fail, rfl⟩
  · rw [if_neg h]
    exact rest h

theorem Returns.ite {c : Prop} [Decidable c] {y : Outcome α} (h : x.Returns) (h' : y.Returns) :
    (if c then x else y).Returns := by
  by_cases found : c
  · rwa [if_pos found]
  · rwa [if_neg found]

/-- Which branch of a test gave the value. -/
theorem ite_eq_pure {c : Prop} [Decidable c] {y : Outcome α} {a : α}
    (ran : (if c then x else y) = Pure.pure a) : c ∧ x = Pure.pure a ∨ ¬c ∧ y = Pure.pure a := by
  by_cases found : c
  · exact .inl ⟨found, by rwa [if_pos found] at ran⟩
  · exact .inr ⟨found, by rwa [if_neg found] at ran⟩

/-- A step that may panic returns if it does not. -/
theorem Returns.lift {e : Except Fault α} (h : ∃ a, e = .ok a) : (liftM e : Outcome α).Returns := by
  obtain ⟨a, rfl⟩ := h
  exact ⟨.ok a, rfl⟩

/-- A step that may fail returns either way. -/
theorem Returns.result (e : Except Fail α) : (liftM e : Outcome α).Returns := by
  cases e with
  | ok a => exact ⟨.ok a, rfl⟩
  | error fail => exact ⟨.error fail, rfl⟩

theorem lift_eq_pure {e : Except Fault α} {a : α} : (liftM e : Outcome α) = Pure.pure a ↔ e = .ok a := by
  cases e with
  | ok b => exact ⟨fun same => by cases same; rfl, fun same => by cases same; rfl⟩
  | error fault => exact ⟨fun same => (by cases same), fun same => (by cases same)⟩

theorem result_eq_pure {e : Except Fail α} {a : α} : (liftM e : Outcome α) = Pure.pure a ↔ e = .ok a := by
  cases e with
  | ok b => exact ⟨fun same => by cases same; rfl, fun same => by cases same; rfl⟩
  | error fail => exact ⟨fun same => (by cases same), fun same => (by cases same)⟩

end Outcome

namespace Buffer

variable {buf : Buffer} {pos : Nat}

/-- A byte that is read is there. -/
theorem drop_of_readU8 {byte : UInt8} (read : readU8 buf pos = .ok byte) :
    buf.drop pos = [byte] ++ buf.drop (pos + 1) := by
  unfold readU8 at read
  split at read
  next found =>
    cases read
    obtain ⟨inside, same⟩ := List.getElem?_eq_some_iff.mp found
    rw [List.drop_eq_getElem_cons inside, same]
    rfl
  next => cases read

/-- The two bytes of a number that is read. -/
theorem readU16_cases {n : UInt16} (read : readU16 buf pos = .ok n) :
    ∃ high low, readU8 buf pos = .ok high ∧ readU8 buf (pos + 1) = .ok low ∧
      n = UInt16.ofNat (Bytes.ofBe [high, low]) := by
  obtain ⟨high, first, read⟩ := Machine.bind_eq_ok.mp read
  obtain ⟨low, second, read⟩ := Machine.bind_eq_ok.mp read
  cases read
  exact ⟨high, low, first, second, rfl⟩

/-- What is read at a place stands there: two octets, the high one first. -/
theorem drop_of_readU16 {n : UInt16} (read : readU16 buf pos = .ok n) :
    buf.drop pos = toBeBytes 2 n.toNat ++ buf.drop (pos + 2) := by
  obtain ⟨high, low, first, second, rfl⟩ := readU16_cases read
  have small : Bytes.ofBe [high, low] < 2 ^ 16 := by simpa using Bytes.ofBe_lt [high, low]
  have bytes : toBeBytes 2 (Bytes.ofBe [high, low]) = [high, low] := toBeBytes_ofBe [high, low]
  rw [UInt16.toNat_ofNat', Nat.mod_eq_of_lt small, bytes, drop_of_readU8 first, drop_of_readU8 second]
  rfl

/-- And four octets. -/
theorem drop_of_readU32 {n : UInt32} (read : readU32 buf pos = .ok n) :
    buf.drop pos = Ipv4Addr.octets n.toBitVec ++ buf.drop (pos + 4) := by
  obtain ⟨b0, first, read⟩ := Machine.bind_eq_ok.mp read
  obtain ⟨b1, second, read⟩ := Machine.bind_eq_ok.mp read
  obtain ⟨b2, third, read⟩ := Machine.bind_eq_ok.mp read
  obtain ⟨b3, fourth, read⟩ := Machine.bind_eq_ok.mp read
  cases read
  have small : Bytes.ofBe [b0, b1, b2, b3] < 2 ^ 32 := by simpa using Bytes.ofBe_lt [b0, b1, b2, b3]
  have bytes : toBeBytes 4 (Bytes.ofBe [b0, b1, b2, b3]) = [b0, b1, b2, b3] :=
    toBeBytes_ofBe [b0, b1, b2, b3]
  rw [Ipv4Addr.octets, UInt32.toNat_toBitVec, UInt32.toNat_ofNat', Nat.mod_eq_of_lt small, bytes,
    drop_of_readU8 first, drop_of_readU8 second, drop_of_readU8 third, drop_of_readU8 fourth]
  rfl

/-- A slice and what follows it. -/
theorem drop_slice (buf : Buffer) (pos len : Nat) :
    buf.drop pos = (buf.drop pos).take len ++ buf.drop (pos + len) := by
  have split := List.take_append_drop len (buf.drop pos)
  rw [List.drop_drop] at split
  exact split.symm

/-- A buffer that is long enough can be read. -/
theorem readU8_returns (inside : pos < buf.length) : ∃ byte, readU8 buf pos = .ok byte :=
  ⟨_, readU8_of_lt buf pos inside⟩

/-- A read inside the buffer does not panic. -/
theorem readU16_returns (inside : pos + 1 < buf.length) : ∃ n, readU16 buf pos = .ok n :=
  ⟨_, readU16_of_lt buf pos inside⟩

theorem readU32_returns (inside : pos + 3 < buf.length) : ∃ n, readU32 buf pos = .ok n :=
  readU32_of_lt buf pos inside

theorem adjust_returns {n : Nat} (inside : n ≤ buf.length) : adjust buf n = .ok (buf.drop n) :=
  if_pos inside

end Buffer

end Tcp

/-! ## Ethernet -/

namespace Ethernet2

/-- A link address is its six octets. -/
theorem octets_fromBytes {bytes : Buffer} (six : bytes.length = 6) : octets (fromBytes bytes) = bytes := by
  have small : Bytes.ofBe bytes < 2 ^ 48 := by
    have := Bytes.ofBe_lt bytes
    rwa [six] at this
  have bytes' := Tcp.toBeBytes_ofBe bytes
  rw [six] at bytes'
  rw [octets, fromBytes, BitVec.toNat_ofNat, Nat.mod_eq_of_lt small, bytes']

/-- A type that is read is written as the same number. -/
theorem EtherType2.tryFrom_ok {n : UInt16} {etherType : EtherType2} (read : tryFrom n = .ok etherType) :
    n = etherType.toU16 := by
  unfold tryFrom at read
  split at read
  next same =>
    cases read
    exact same
  split at read
  next same =>
    cases read
    exact same
  split at read
  next same =>
    cases read
    exact same
  · cases read

namespace Ethernet2Header

/-- A frame of any length is parsed or refused. The length is checked before anything is read. -/
theorem parse_returns (buf : Buffer) : (parse buf).Returns := by
  unfold parse
  refine .guard fun long => ?_
  have size : (buf.take ETHERNET2_HEADER_SIZE).length = 14 :=
    List.length_take_of_le (Nat.not_lt.mp long)
  refine .bind (.lift (Buffer.readU16_returns (by omega))) fun kind _ => ?_
  refine .bind (.result _) fun etherType _ => ?_
  exact .bind (.lift ⟨_, Buffer.adjust_returns (Nat.not_lt.mp long)⟩) fun rest _ => .pure _

/-- A frame is a header and a payload. -/
theorem parse_ok_iff (buf : Buffer) (h : Ethernet2Header) (payload : Buffer) :
    parse buf = pure (h, payload) ↔ buf = h.bytes ++ payload := by
  refine ⟨fun ran => ?_, fun same => same ▸ h.parse_bytes payload⟩
  unfold parse at ran
  obtain ⟨long, ran⟩ := Outcome.guard_eq_pure.mp ran
  obtain ⟨kind, read, ran⟩ := Outcome.bind_eq_pure.mp ran
  obtain ⟨etherType, typed, ran⟩ := Outcome.bind_eq_pure.mp ran
  obtain ⟨rest, cut, ran⟩ := Outcome.bind_eq_pure.mp ran
  cases ran
  have cut := Outcome.lift_eq_pure.mp cut
  rw [Buffer.adjust_returns (Nat.not_lt.mp long)] at cut
  cases cut
  set hdr := buf.take ETHERNET2_HEADER_SIZE with hdr_eq
  have size : hdr.length = 14 := List.length_take_of_le (Nat.not_lt.mp long)
  have kind' := Buffer.drop_of_readU16 (Outcome.lift_eq_pure.mp read)
  rw [EtherType2.tryFrom_ok (Outcome.result_eq_pure.mp typed), List.drop_eq_nil_of_le (i := 14) (by omega),
    List.append_nil] at kind'
  have whole : hdr = hdr.take 6 ++ ((hdr.drop 6).take 6 ++ toBeBytes 2 etherType.toU16.toNat) := by
    rw [← kind', ← Buffer.drop_slice hdr 6 6]
    exact Buffer.drop_slice hdr 0 6
  rw [bytes, octets_fromBytes (List.length_take_of_le (by omega)),
    octets_fromBytes (by rw [List.length_take, List.length_drop, size]; rfl), List.append_assoc (hdr.take 6),
    ← whole, hdr_eq]
  exact (List.take_append_drop _ buf).symm

end Ethernet2Header

end Ethernet2

/-! ## ARP -/

namespace Arp

open Ethernet2 (octets octets_fromBytes)

/-- An operation that is read is written as the same number. -/
theorem ArpOperation.fromU16_some {n : UInt16} {operation : ArpOperation}
    (read : fromU16 n = some operation) : n = operation.toU16 := by
  unfold fromU16 at read
  split at read
  next same =>
    cases read
    exact same
  split at read
  next same =>
    cases read
    exact same
  · cases read

namespace ArpHeader

/-- A packet of any length is parsed or refused. -/
theorem parse_returns (buf : Buffer) : (parse buf).Returns := by
  unfold parse
  refine .guard fun long => ?_
  have size : (buf.take ARP_MESSAGE_SIZE).length = 28 := List.length_take_of_le (Nat.not_lt.mp long)
  refine .bind (.lift (Buffer.readU16_returns (by omega))) fun hardwareType _ => ?_
  refine .guard fun _ => ?_
  refine .bind (.lift (Buffer.readU16_returns (by omega))) fun protocolType _ => ?_
  refine .guard fun _ => ?_
  refine .bind (.lift (Buffer.readU8_returns (by omega))) fun hardwareAddressLen _ => ?_
  refine .guard fun _ => ?_
  refine .bind (.lift (Buffer.readU8_returns (by omega))) fun protocolAddressLen _ => ?_
  refine .guard fun _ => ?_
  refine .bind (.lift (Buffer.readU16_returns (by omega))) fun code _ => ?_
  cases ArpOperation.fromU16 code with
  | none => exact ⟨.error _, rfl⟩
  | some operation =>
    refine .bind (.lift (Buffer.readU32_returns (by omega))) fun sender _ => ?_
    exact .bind (.lift (Buffer.readU32_returns (by omega))) fun target _ => .pure _

/-- A message is the first 28 bytes of what is decoded. -/
theorem parse_ok_iff (buf : Buffer) (h : ArpHeader) :
    parse buf = pure h ↔ ∃ padding, buf = h.bytes ++ padding := by
  refine ⟨fun ran => ⟨buf.drop ARP_MESSAGE_SIZE, ?_⟩, fun ⟨padding, same⟩ => same ▸ h.parse_bytes padding⟩
  unfold parse at ran
  obtain ⟨long, ran⟩ := Outcome.guard_eq_pure.mp ran
  obtain ⟨hardwareType, read0, ran⟩ := Outcome.bind_eq_pure.mp ran
  obtain ⟨ether, ran⟩ := Outcome.guard_eq_pure.mp ran
  obtain ⟨protocolType, read2, ran⟩ := Outcome.bind_eq_pure.mp ran
  obtain ⟨ipv4, ran⟩ := Outcome.guard_eq_pure.mp ran
  obtain ⟨hardwareAddressLen, read4, ran⟩ := Outcome.bind_eq_pure.mp ran
  obtain ⟨six, ran⟩ := Outcome.guard_eq_pure.mp ran
  obtain ⟨protocolAddressLen, read5, ran⟩ := Outcome.bind_eq_pure.mp ran
  obtain ⟨four, ran⟩ := Outcome.guard_eq_pure.mp ran
  obtain ⟨code, read6, ran⟩ := Outcome.bind_eq_pure.mp ran
  split at ran
  · cases ran
  next operation coded =>
    obtain ⟨sender, read14, ran⟩ := Outcome.bind_eq_pure.mp ran
    obtain ⟨target, read24, ran⟩ := Outcome.bind_eq_pure.mp ran
    cases ran
    set hdr := buf.take ARP_MESSAGE_SIZE with hdr_eq
    have size : hdr.length = 28 := List.length_take_of_le (Nat.not_lt.mp long)
    cases not_not.mp ether
    cases not_not.mp ipv4
    cases not_not.mp six
    cases not_not.mp four
    cases ArpOperation.fromU16_some coded
    have at0 := Buffer.drop_of_readU16 (Outcome.lift_eq_pure.mp read0)
    have at2 := Buffer.drop_of_readU16 (Outcome.lift_eq_pure.mp read2)
    have at4 := Buffer.drop_of_readU8 (Outcome.lift_eq_pure.mp read4)
    have at5 := Buffer.drop_of_readU8 (Outcome.lift_eq_pure.mp read5)
    have at6 := Buffer.drop_of_readU16 (Outcome.lift_eq_pure.mp read6)
    have at8 := Buffer.drop_slice hdr 8 6
    have at14 := Buffer.drop_of_readU32 (Outcome.lift_eq_pure.mp read14)
    have at18 := Buffer.drop_slice hdr 18 6
    have at24 := Buffer.drop_of_readU32 (Outcome.lift_eq_pure.mp read24)
    rw [List.drop_eq_nil_of_le (i := 24 + 4) (by omega), List.append_nil] at at24
    have slice (pos : Nat) (inside : pos + 6 ≤ 28) : ((hdr.drop pos).take 6).length = 6 := by
      rw [List.length_take, List.length_drop, size]
      omega
    refine (List.take_append_drop ARP_MESSAGE_SIZE buf).symm.trans (congrArg (· ++ _) ?_)
    simp only [bytes, octets_fromBytes (slice 8 (by omega)),
      octets_fromBytes (slice 18 (by omega)), List.append_assoc]
    rw [← at24, ← at18, ← at14, ← at8, ← at6, ← at5, ← at4, ← at2, ← hdr_eq]
    exact at0

end ArpHeader

end Arp

/-! ## IPv4 -/

namespace Ipv4

open Ip (IpProtocol)

/-- A protocol that is read is written as the same number. -/
theorem IpProtocol.tryFrom_ok {n : UInt8} {protocol : IpProtocol}
    (read : IpProtocol.tryFrom n = .ok protocol) : n = protocol.toU8 := by
  unfold IpProtocol.tryFrom at read
  split at read
  next same =>
    cases read
    exact same
  split at read
  next same =>
    cases read
    exact same
  split at read
  next same =>
    cases read
    exact same
  · cases read

namespace Ipv4Header

/-- A datagram of any length is parsed or refused: the length in the header is checked against the buffer
before the options are read. -/
theorem parse_returns (buf : Buffer) : (parse buf).Returns := by
  unfold parse
  refine .guard fun long => ?_
  have minimum : IPV4_HEADER_MIN_SIZE.toNat = 20 := rfl
  have size : (buf.take IPV4_HEADER_MIN_SIZE.toNat).length = 20 :=
    List.length_take_of_le (Nat.not_lt.mp long)
  refine .bind (.lift (Buffer.readU8_returns (by omega))) fun byte0 _ => ?_
  refine .guard fun _ => .guard fun _ => .guard fun _ => ?_
  refine .bind (.lift (Buffer.readU8_returns (by omega))) fun byte1 _ => ?_
  refine .bind (.lift (Buffer.readU16_returns (by omega))) fun totalLength _ => ?_
  refine .guard fun whole => .guard fun fits => ?_
  refine .bind (.lift (Buffer.readU16_returns (by omega))) fun identification _ => ?_
  refine .bind (.lift (Buffer.readU8_returns (by omega))) fun byte6 _ => ?_
  refine .guard fun _ => .guard fun _ => ?_
  refine .bind (.lift (Buffer.readU16_returns (by omega))) fun word6 _ => ?_
  refine .guard fun _ => ?_
  refine .bind (.lift (Buffer.readU8_returns (by omega))) fun ttl _ => ?_
  refine .guard fun _ => ?_
  refine .bind (.lift (Buffer.readU8_returns (by omega))) fun byte9 _ => ?_
  refine .bind (.result _) fun protocol _ => ?_
  refine .bind (.lift (Buffer.readU16_returns (by omega))) fun sum _ => ?_
  refine .guard fun _ => ?_
  refine .bind (.lift ⟨_, if_neg (not_not_intro size)⟩) fun computed _ => ?_
  refine .guard fun _ => ?_
  refine .bind (.lift (Buffer.readU32_returns (by omega))) fun src _ => ?_
  refine .bind (.lift (Buffer.readU32_returns (by omega))) fun dst _ => ?_
  refine .bind (.lift ⟨_, Buffer.adjust_returns (Nat.not_lt.mp long)⟩) fun adjusted cut => ?_
  have cut := Outcome.lift_eq_pure.mp cut
  rw [Buffer.adjust_returns (Nat.not_lt.mp long)] at cut
  cases cut
  rw [UInt16.lt_iff_toNat_lt] at whole
  have room : buf.length - totalLength.toNat ≤ (buf.drop IPV4_HEADER_MIN_SIZE.toNat).length := by
    rw [List.length_drop]
    omega
  exact .bind (.lift ⟨_, if_pos room⟩) fun trimmed _ => .pure _

/-- The flags and a fragment offset of zero make up their word. -/
theorem fragment_word {high low : UInt8} (noOffset : UInt16.ofNat (Bytes.ofBe [high, low]) &&& 0x1fff = 0) :
    ((high >>> 5).toUInt16 <<< 13) ||| ((0 : UInt16) &&& 0x1fff) = UInt16.ofNat (Bytes.ofBe [high, low]) := by
  have value : Bytes.ofBe [high, low] = 256 * high.toNat + low.toNat := by
    simp [Bytes.ofBe, Nat.mul_comm]
  have high_lt := high.toNat_lt
  have low_lt := low.toNat_lt
  have rest : (256 * high.toNat + low.toNat) % 8192 = 0 := by
    have word := congrArg UInt16.toNat noOffset
    rw [UInt16.toNat_and, UInt16.toNat_ofNat', Nat.mod_eq_of_lt (by omega), value] at word
    exact (Nat.and_two_pow_sub_one_eq_mod _ 13).symm.trans word
  apply UInt16.toNat_inj.mp
  have shifted : ((high >>> 5).toUInt16 <<< 13).toNat = high.toNat / 32 * 8192 := by
    rw [UInt16.toNat_shiftLeft, UInt8.toNat_toUInt16, UInt8.toNat_shiftRight]
    change (high.toNat >>> 5) <<< 13 % 2 ^ 16 = _
    rw [Nat.shiftLeft_eq, Nat.shiftRight_eq_div_pow]
    omega
  have none : (0 : UInt16) &&& 0x1fff = 0 := by decide
  rw [none, UInt16.or_zero, shifted, UInt16.toNat_ofNat', value, Nat.mod_eq_of_lt (by omega)]
  omega

/-- A datagram is a header that can be sent, with its length and its checksum, the payload, and padding. -/
theorem parse_ok_iff (buf : Buffer) (h : Ipv4Header) (payload : Buffer) :
    parse buf = pure (h, payload) ↔
      h.Sendable ∧ h.totalLength.toNat = 20 + payload.length ∧
        h.headerChecksum = h.wireSum h.totalLength ∧
        ∃ padding, buf = h.wire h.totalLength ++ payload ++ padding := by
  refine ⟨fun ran => ⟨parse_sendable ran, ?_⟩, fun ⟨sendable, size, summed, padding, same⟩ => ?_⟩
  · have minimum : IPV4_HEADER_MIN_SIZE.toNat = 20 := rfl
    unfold parse at ran
    obtain ⟨long, ran⟩ := Outcome.guard_eq_pure.mp ran
    obtain ⟨byte0, read0, ran⟩ := Outcome.bind_eq_pure.mp ran
    obtain ⟨-, ran⟩ := Outcome.guard_eq_pure.mp ran
    obtain ⟨-, ran⟩ := Outcome.guard_eq_pure.mp ran
    obtain ⟨-, ran⟩ := Outcome.guard_eq_pure.mp ran
    obtain ⟨byte1, read1, ran⟩ := Outcome.bind_eq_pure.mp ran
    obtain ⟨totalLength, read2, ran⟩ := Outcome.bind_eq_pure.mp ran
    obtain ⟨whole, ran⟩ := Outcome.guard_eq_pure.mp ran
    obtain ⟨fits, ran⟩ := Outcome.guard_eq_pure.mp ran
    obtain ⟨identification, read4, ran⟩ := Outcome.bind_eq_pure.mp ran
    obtain ⟨byte6, flags6, ran⟩ := Outcome.bind_eq_pure.mp ran
    obtain ⟨-, ran⟩ := Outcome.guard_eq_pure.mp ran
    obtain ⟨-, ran⟩ := Outcome.guard_eq_pure.mp ran
    obtain ⟨word6, read6, ran⟩ := Outcome.bind_eq_pure.mp ran
    obtain ⟨noOffset, ran⟩ := Outcome.guard_eq_pure.mp ran
    obtain ⟨ttl, read8, ran⟩ := Outcome.bind_eq_pure.mp ran
    obtain ⟨-, ran⟩ := Outcome.guard_eq_pure.mp ran
    obtain ⟨byte9, read9, ran⟩ := Outcome.bind_eq_pure.mp ran
    obtain ⟨protocol, known, ran⟩ := Outcome.bind_eq_pure.mp ran
    obtain ⟨sum, read10, ran⟩ := Outcome.bind_eq_pure.mp ran
    obtain ⟨-, ran⟩ := Outcome.guard_eq_pure.mp ran
    obtain ⟨computed, summed, ran⟩ := Outcome.bind_eq_pure.mp ran
    obtain ⟨right, ran⟩ := Outcome.guard_eq_pure.mp ran
    obtain ⟨src, read12, ran⟩ := Outcome.bind_eq_pure.mp ran
    obtain ⟨dst, read16, ran⟩ := Outcome.bind_eq_pure.mp ran
    obtain ⟨adjusted, cut, ran⟩ := Outcome.bind_eq_pure.mp ran
    obtain ⟨trimmed, trim, ran⟩ := Outcome.bind_eq_pure.mp ran
    obtain ⟨header, rfl⟩ : _ = h ∧ trimmed = payload := by
      injection ran with ran
      injection ran with ran
      exact Prod.mk.inj ran
    -- what each read says of the first twenty octets, from the front to the back
    set hdr := buf.take IPV4_HEADER_MIN_SIZE.toNat with hdr_eq
    have size : hdr.length = 20 := List.length_take_of_le (Nat.not_lt.mp long)
    have first : ∀ byte : UInt8, ((byte >>> 4) <<< 4) ||| (byte &&& 0xf) = byte :=
      Bytes.forall_byte (by decide +kernel)
    have second : ∀ byte : UInt8, ((byte >>> 2) <<< 2) ||| ((byte &&& 3) &&& 3) = byte :=
      Bytes.forall_byte (by decide +kernel)
    have at0 := Buffer.drop_of_readU8 (Outcome.lift_eq_pure.mp read0)
    have at1 := Buffer.drop_of_readU8 (Outcome.lift_eq_pure.mp read1)
    have at2 := Buffer.drop_of_readU16 (Outcome.lift_eq_pure.mp read2)
    have at4 := Buffer.drop_of_readU16 (Outcome.lift_eq_pure.mp read4)
    have at6 := Buffer.drop_of_readU16 (Outcome.lift_eq_pure.mp read6)
    have at8 := Buffer.drop_of_readU8 (Outcome.lift_eq_pure.mp read8)
    have at9 := Buffer.drop_of_readU8 (Outcome.lift_eq_pure.mp read9)
    have at10 := Buffer.drop_of_readU16 (Outcome.lift_eq_pure.mp read10)
    have at12 := Buffer.drop_of_readU32 (Outcome.lift_eq_pure.mp read12)
    have at16 := Buffer.drop_of_readU32 (Outcome.lift_eq_pure.mp read16)
    rw [List.drop_eq_nil_of_le (i := 16 + 4) (by omega), List.append_nil] at at16
    -- byte 6 was read twice, for the flags and as part of the fragment word
    obtain ⟨high, low, high6, -, rfl⟩ := Buffer.readU16_cases (Outcome.lift_eq_pure.mp read6)
    cases (Outcome.lift_eq_pure.mp flags6).symm.trans high6
    cases IpProtocol.tryFrom_ok (Outcome.result_eq_pure.mp known)
    have fields :
      hdr = h.wireFront totalLength ++ toBeBytes 2 sum.toNat ++ addresses h.srcAddr h.dstAddr := by
      subst header
      simp only [wireFront, addresses, List.append_assoc, first, second, not_not.mp noOffset]
      rw [fragment_word (not_not.mp noOffset), ← at16, ← at12, ← at10, ← at9, ← at8, ← at6, ← at4, ← at2,
        ← at1]
      exact at0
    have length : h.totalLength = totalLength := by rw [← header]
    have checksum : h.headerChecksum = sum := by rw [← header]
    rw [fields, h.computeChecksum_eq totalLength (Tcp.length_toBeBytes 2 _)] at summed
    cases Outcome.lift_eq_pure.mp summed
    cases not_not.mp right
    rw [Buffer.adjust_returns (Nat.not_lt.mp long)] at cut
    cases Outcome.lift_eq_pure.mp cut
    rw [UInt16.lt_iff_toNat_lt] at whole
    have body : (buf.drop IPV4_HEADER_MIN_SIZE.toNat).length = buf.length - 20 := List.length_drop
    rw [Buffer.trim, if_pos (by omega)] at trim
    cases Outcome.lift_eq_pure.mp trim
    refine ⟨?_, length ▸ checksum, ?_⟩
    · rw [length, List.length_take]
      omega
    -- the padding is what the trim takes off the back
    · set rest := buf.drop IPV4_HEADER_MIN_SIZE.toNat with rest_eq
      refine ⟨rest.drop (rest.length - (buf.length - totalLength.toNat)), ?_⟩
      rw [length, wire, ← fields, hdr_eq, List.append_assoc, List.take_append_drop]
      exact (List.take_append_drop _ buf).symm
  · subst same
    rw [parse_wire sendable padding size, delivered, ← summed]

end Ipv4Header

end Ipv4

/-! ## UDP -/

namespace Udp.UdpHeader

/-- A segment of any length is parsed or refused. -/
theorem parse_returns (ipv4Hdr : Ipv4.Ipv4Header) (buf : Buffer) (checksumOffload : Bool) :
    (parse ipv4Hdr buf checksumOffload).Returns := by
  unfold parse
  refine .guard fun long => ?_
  have size : (buf.take UDP_HEADER_SIZE).length = 8 := List.length_take_of_le (Nat.not_lt.mp long)
  refine .bind (.lift (Buffer.readU16_returns (by omega))) fun srcPort _ => ?_
  refine .bind (.lift (Buffer.readU16_returns (by omega))) fun destPort _ => ?_
  refine .bind (.lift (Buffer.readU16_returns (by omega))) fun length _ => ?_
  refine .guard fun _ => ?_
  cases checksumOffload with
  | true => exact .pure _
  | false =>
    refine .bind (.lift (Buffer.readU16_returns (by omega))) fun sum _ => ?_
    refine .bind (.lift (checksum_ok ipv4Hdr _ _ size)) fun computed _ => ?_
    exact .guard fun _ => .pure _

/-- A header is read back whatever its checksum is, if that is left to the device. -/
theorem parse_unsummed {h : UdpHeader} {ipv4Hdr : Ipv4.Ipv4Header} {data : Buffer} {sum : UInt16}
    (small : UDP_HEADER_SIZE + data.length ≤ 65535) :
    parse ipv4Hdr (h.front (wireLength data) ++ toBeBytes 2 sum.toNat ++ data) true = pure (h, data) := by
  set hdr := h.front (wireLength data) ++ toBeBytes 2 sum.toNat
  have size : hdr.length = UDP_HEADER_SIZE := rfl
  have total : (hdr ++ data).length = UDP_HEADER_SIZE + data.length := by
    rw [List.length_append, size]
  have long : ¬(hdr ++ data).length < UDP_HEADER_SIZE := by omega
  have front : (hdr ++ data).take UDP_HEADER_SIZE = hdr := List.take_left' size
  have rest : (hdr ++ data).drop UDP_HEADER_SIZE = data := List.drop_left' size
  have srcPort : Buffer.readU16 hdr 0 = .ok h.srcPort :=
    congrArg Except.ok (Tcp.ofNat_ofBe_u16 h.srcPort)
  have destPort : Buffer.readU16 hdr 2 = .ok h.destPort :=
    congrArg Except.ok (Tcp.ofNat_ofBe_u16 h.destPort)
  have length : Buffer.readU16 hdr 4 = .ok (wireLength data) :=
    congrArg Except.ok (Tcp.ofNat_ofBe_u16 (wireLength data))
  have whole : (wireLength data).toNat = (hdr ++ data).length := by
    rw [total, wireLength, UInt16.toNat_ofNat', Nat.mod_eq_of_lt (by omega)]
  simp only [parse, long, if_false, front, rest, srcPort, destPort, length, whole, Tcp.Outcome.lift_ok,
    pure_bind, ne_eq, not_true_eq_false, Bool.not_true, Bool.false_eq_true]
  rfl

/-- A datagram is a header with its length, and the data. The checksum, if it is looked at, is that of the
datagram. -/
theorem parse_ok_iff (ipv4Hdr : Ipv4.Ipv4Header) (buf : Buffer) (checksumOffload : Bool) (h : UdpHeader)
    (data : Buffer) :
    parse ipv4Hdr buf checksumOffload = pure (h, data) ↔
      UDP_HEADER_SIZE + data.length ≤ 65535 ∧ ∃ sum : UInt16,
        buf = h.front (wireLength data) ++ toBeBytes 2 sum.toNat ++ data ∧
        (checksumOffload = false →
          checksum ipv4Hdr (h.front (wireLength data) ++ toBeBytes 2 sum.toNat) data = .ok sum) := by
  refine ⟨fun ran => ?_, fun ⟨small, sum, same, summed⟩ => ?_⟩
  · have eight : UDP_HEADER_SIZE = 8 := rfl
    unfold parse at ran
    obtain ⟨long, ran⟩ := Outcome.guard_eq_pure.mp ran
    obtain ⟨srcPort, read0, ran⟩ := Outcome.bind_eq_pure.mp ran
    obtain ⟨destPort, read2, ran⟩ := Outcome.bind_eq_pure.mp ran
    obtain ⟨length, read4, ran⟩ := Outcome.bind_eq_pure.mp ran
    obtain ⟨whole, ran⟩ := Outcome.guard_eq_pure.mp ran
    set hdr := buf.take UDP_HEADER_SIZE with hdr_eq
    have size : hdr.length = 8 := List.length_take_of_le (Nat.not_lt.mp long)
    -- with offload on, the octets of the sum are not read, but they are there
    obtain ⟨sum, read6⟩ := Buffer.readU16_returns (show 6 + 1 < hdr.length by omega)
    have at0 := Buffer.drop_of_readU16 (Outcome.lift_eq_pure.mp read0)
    have at2 := Buffer.drop_of_readU16 (Outcome.lift_eq_pure.mp read2)
    have at4 := Buffer.drop_of_readU16 (Outcome.lift_eq_pure.mp read4)
    have at6 := Buffer.drop_of_readU16 read6
    rw [List.drop_eq_nil_of_le (i := 6 + 2) (by omega), List.append_nil] at at6
    obtain ⟨rfl, rfl, summed⟩ : h = new srcPort destPort ∧ data = buf.drop UDP_HEADER_SIZE ∧
        (checksumOffload = false → checksum ipv4Hdr hdr (buf.drop UDP_HEADER_SIZE) = .ok sum) := by
      cases checksumOffload with
      | true =>
        cases ran
        exact ⟨rfl, rfl, fun no => (by cases no)⟩
      | false =>
        obtain ⟨found, read, ran⟩ := Outcome.bind_eq_pure.mp ran
        obtain ⟨computed, summed, ran⟩ := Outcome.bind_eq_pure.mp ran
        obtain ⟨right, ran⟩ := Outcome.guard_eq_pure.mp ran
        cases ran
        cases (Outcome.lift_eq_pure.mp read).symm.trans read6
        cases not_not.mp right
        exact ⟨rfl, rfl, fun _ => Outcome.lift_eq_pure.mp summed⟩
    have total : UDP_HEADER_SIZE + (buf.drop UDP_HEADER_SIZE).length = buf.length := by
      rw [List.length_drop]
      omega
    have short := length.toNat_lt
    have length_eq : wireLength (buf.drop UDP_HEADER_SIZE) = length := by
      rw [wireLength, total, ← not_not.mp whole, UInt16.ofNat_toNat]
    have fields : (new srcPort destPort).front length ++ toBeBytes 2 sum.toNat = hdr := by
      rw [front, new, List.append_assoc, List.append_assoc, ← at6, ← at4, ← at2]
      exact at0.symm
    refine ⟨by omega, sum, ?_⟩
    rw [length_eq, fields]
    exact ⟨(List.take_append_drop _ buf).symm, summed⟩
  · subst same
    cases checksumOffload with
    | true => exact parse_unsummed small
    | false => exact parse_front small (summed rfl)

end Udp.UdpHeader

/-! ## ICMPv4 -/

namespace Icmpv4

namespace Icmpv4Type2

/-- What may stand in the last four bytes of a header: the decoder looks at them in an echo alone. -/
def Stands : Icmpv4Type2 → Buffer → Prop
  | .echoReply id seqNum, rest => rest = toBeBytes 2 id.toNat ++ toBeBytes 2 seqNum.toNat
  | .echoRequest id seqNum, rest => rest = toBeBytes 2 id.toNat ++ toBeBytes 2 seqNum.toNat
  | _, rest => rest.length = 4

/-- The rest of an ICMP header is four octets, whatever its type. -/
theorem Stands.length {icmpv4Type : Icmpv4Type2} {rest : Buffer} (h : icmpv4Type.Stands rest) :
    rest.length = 4 := by
  cases icmpv4Type with
  | echoReply id seqNum => exact congrArg List.length (show rest = _ from h)
  | echoRequest id seqNum => exact congrArg List.length (show rest = _ from h)
  | _ => exact h

/-- The two halves of the last four bytes. -/
theorem halves {rest : Buffer} (four : rest.length = 4) :
    ∃ id seqNum, Buffer.readU16 rest 0 = .ok id ∧ Buffer.readU16 rest 2 = .ok seqNum ∧
      rest = toBeBytes 2 id.toNat ++ toBeBytes 2 seqNum.toNat := by
  obtain ⟨id, read0⟩ := Buffer.readU16_returns (show 0 + 1 < rest.length by omega)
  obtain ⟨seqNum, read2⟩ := Buffer.readU16_returns (show 2 + 1 < rest.length by omega)
  refine ⟨id, seqNum, read0, read2, ?_⟩
  have at2 := Buffer.drop_of_readU16 read2
  rw [List.drop_eq_nil_of_le (i := 2 + 2) (by omega), List.append_nil] at at2
  rw [← at2]
  exact Buffer.drop_of_readU16 read0

/-- A type with its rest is parsed or refused. -/
theorem parse_returns (typeByte : UInt8) {rest : Buffer} (four : rest.length = 4) :
    (parse typeByte rest).Returns := by
  obtain ⟨id, seqNum, read0, read2, -⟩ := halves four
  simp only [parse, read0, read2, Outcome.lift_ok, pure_bind]
  repeat refine .ite ⟨_, rfl⟩ ?_
  exact ⟨_, rfl⟩

/-- A type is its byte and what may stand in the four bytes. -/
theorem parse_ok_iff (typeByte : UInt8) {rest : Buffer} (four : rest.length = 4)
    (icmpv4Type : Icmpv4Type2) :
    parse typeByte rest = pure icmpv4Type ↔
      typeByte = icmpv4Type.serialize.1 ∧ icmpv4Type.Stands rest := by
  obtain ⟨id, seqNum, read0, read2, same⟩ := halves four
  constructor
  · intro ran
    simp only [parse, read0, read2, Outcome.lift_ok, pure_bind] at ran
    -- Two echoes, whose bytes are those that were read, and the types that are their byte.
    repeat
      obtain ⟨rfl, ran⟩ | ⟨-, ran⟩ := Outcome.ite_eq_pure ran
      · cases ran
        first
          | exact ⟨rfl, same⟩
          | exact ⟨rfl, four⟩
    cases ran
  · rintro ⟨rfl, stands⟩
    cases icmpv4Type with
    | echoReply id' seqNum' =>
      cases (show rest = _ from stands)
      exact parse_serialize (.echoReply id' seqNum')
    | echoRequest id' seqNum' =>
      cases (show rest = _ from stands)
      exact parse_serialize (.echoRequest id' seqNum')
    | _ => rfl

end Icmpv4Type2

namespace Icmpv4Header

/-- A message of any length is parsed or refused. -/
theorem parse_returns (buf : Buffer) : (parse buf).Returns := by
  unfold parse
  refine .guard fun long => ?_
  have size : (buf.take ICMPV4_HEADER_SIZE).length = 8 := List.length_take_of_le (Nat.not_lt.mp long)
  refine .bind (.lift (Buffer.readU8_returns (by omega))) fun typeByte _ => ?_
  refine .bind (.lift (Buffer.readU8_returns (by omega))) fun code _ => ?_
  refine .bind (.lift (Buffer.readU16_returns (by omega))) fun sum _ => ?_
  refine .guard fun _ => ?_
  refine .bind (Icmpv4Type2.parse_returns typeByte (by rw [List.length_drop, size])) fun icmpv4Type _ => ?_
  exact .bind (.lift ⟨_, Buffer.adjust_returns (Nat.not_lt.mp long)⟩) fun rest _ => .pure _

/-- A message is a type, a code, the checksum of the whole message, four bytes and a body. -/
theorem parse_ok_iff (buf : Buffer) (h : Icmpv4Header) (body : Buffer) :
    parse buf = pure (h, body) ↔ ∃ (sum : UInt16) (rest : Buffer), h.protocol.Stands rest ∧
      buf = h.front ++ toBeBytes 2 sum.toNat ++ rest ++ body ∧
      sum = checksum (h.front ++ toBeBytes 2 sum.toNat ++ rest) body := by
  constructor
  · intro ran
    unfold parse at ran
    obtain ⟨long, ran⟩ := Outcome.guard_eq_pure.mp ran
    obtain ⟨typeByte, read0, ran⟩ := Outcome.bind_eq_pure.mp ran
    obtain ⟨code, read1, ran⟩ := Outcome.bind_eq_pure.mp ran
    obtain ⟨sum, read2, ran⟩ := Outcome.bind_eq_pure.mp ran
    obtain ⟨right, ran⟩ := Outcome.guard_eq_pure.mp ran
    obtain ⟨icmpv4Type, typed, ran⟩ := Outcome.bind_eq_pure.mp ran
    obtain ⟨rest, cut, ran⟩ := Outcome.bind_eq_pure.mp ran
    cases ran
    rw [Buffer.adjust_returns (Nat.not_lt.mp long)] at cut
    cases Outcome.lift_eq_pure.mp cut
    set hdr := buf.take ICMPV4_HEADER_SIZE with hdr_eq
    have size : hdr.length = 8 := List.length_take_of_le (Nat.not_lt.mp long)
    have four : (hdr.drop 4).length = 4 := by rw [List.length_drop, size]
    obtain ⟨rfl, stands⟩ := (Icmpv4Type2.parse_ok_iff typeByte four icmpv4Type).mp typed
    -- what the reads say of the first four octets
    have at0 := Buffer.drop_of_readU8 (Outcome.lift_eq_pure.mp read0)
    have at1 := Buffer.drop_of_readU8 (Outcome.lift_eq_pure.mp read1)
    have at2 := Buffer.drop_of_readU16 (Outcome.lift_eq_pure.mp read2)
    have fields : [icmpv4Type.serialize.1, code] ++ toBeBytes 2 sum.toNat ++ hdr.drop 4 = hdr := by
      rw [List.append_assoc, ← at2]
      exact (at0.trans (congrArg _ at1)).symm
    refine ⟨sum, hdr.drop 4, stands, ?_, ?_⟩
    · rw [front, fields]
      exact (List.take_append_drop _ buf).symm
    · rw [front, fields]
      exact not_not.mp right
  · rintro ⟨sum, rest, stands, rfl, summed⟩
    set hdr := h.front ++ toBeBytes 2 sum.toNat ++ rest with hdr_eq
    have four := stands.length
    have size : hdr.length = ICMPV4_HEADER_SIZE := by
      rw [hdr_eq, List.length_append, four]
      rfl
    have long : ¬(hdr ++ body).length < ICMPV4_HEADER_SIZE := by
      rw [List.length_append, size]
      omega
    have front : (hdr ++ body).take ICMPV4_HEADER_SIZE = hdr := List.take_left' size
    have after : (hdr ++ body).drop ICMPV4_HEADER_SIZE = body := List.drop_left' size
    have typeByte : Buffer.readU8 hdr 0 = .ok h.protocol.serialize.1 := rfl
    have code : Buffer.readU8 hdr 1 = .ok h.code := rfl
    have read : Buffer.readU16 hdr 2 = .ok sum := congrArg Except.ok (Tcp.ofNat_ofBe_u16 sum)
    have last : hdr.drop 4 = rest := List.drop_left' rfl
    have typed := (Icmpv4Type2.parse_ok_iff h.protocol.serialize.1 four h.protocol).mpr ⟨rfl, stands⟩
    simp only [parse, long, if_false, front, after, typeByte, code, read, ← summed, last, typed,
      Buffer.adjust_append size, Outcome.lift_ok, pure_bind, ne_eq, not_true_eq_false]

end Icmpv4Header

end Icmpv4

/-- **Grammars.** No bytes make a decoder panic, and what each accepts is exactly what its encoder writes: a
header and a payload for Ethernet; a message and padding for ARP; for IPv4 a header that can be sent, with
the length of the payload and the checksum of the header, the payload and padding; for ICMPv4 a message with
the checksum of all of it, where only an echo fixes the last four bytes of the header; for UDP a header with
the length of the datagram and the data, and the checksum of both unless the device looks at it. -/
theorem decoders_accept_grammars :
    (∀ buf, (Ethernet2.Ethernet2Header.parse buf).Returns ∧ ∀ h payload,
      Ethernet2.Ethernet2Header.parse buf = pure (h, payload) ↔ buf = h.bytes ++ payload) ∧
    (∀ buf, (Arp.ArpHeader.parse buf).Returns ∧ ∀ h,
      Arp.ArpHeader.parse buf = pure h ↔ ∃ padding, buf = h.bytes ++ padding) ∧
    (∀ buf, (Ipv4.Ipv4Header.parse buf).Returns ∧ ∀ h payload,
      Ipv4.Ipv4Header.parse buf = pure (h, payload) ↔
        h.Sendable ∧ h.totalLength.toNat = 20 + payload.length ∧
          h.headerChecksum = h.wireSum h.totalLength ∧
          ∃ padding, buf = h.wire h.totalLength ++ payload ++ padding) ∧
    (∀ buf, (Icmpv4.Icmpv4Header.parse buf).Returns ∧ ∀ h body,
      Icmpv4.Icmpv4Header.parse buf = pure (h, body) ↔
        ∃ (sum : UInt16) (rest : Buffer), h.protocol.Stands rest ∧
          buf = h.front ++ toBeBytes 2 sum.toNat ++ rest ++ body ∧
          sum = Icmpv4.Icmpv4Header.checksum (h.front ++ toBeBytes 2 sum.toNat ++ rest) body) ∧
    (∀ ipv4Hdr buf checksumOffload, (Udp.UdpHeader.parse ipv4Hdr buf checksumOffload).Returns ∧ ∀ h data,
      Udp.UdpHeader.parse ipv4Hdr buf checksumOffload = pure (h, data) ↔
        Udp.UDP_HEADER_SIZE + data.length ≤ 65535 ∧ ∃ sum : UInt16,
          buf = h.front (Udp.UdpHeader.wireLength data) ++ toBeBytes 2 sum.toNat ++ data ∧
          (checksumOffload = false →
            Udp.UdpHeader.checksum ipv4Hdr
              (h.front (Udp.UdpHeader.wireLength data) ++ toBeBytes 2 sum.toNat) data = .ok sum)) :=
  ⟨fun buf => ⟨Ethernet2.Ethernet2Header.parse_returns buf, Ethernet2.Ethernet2Header.parse_ok_iff buf⟩,
    fun buf => ⟨Arp.ArpHeader.parse_returns buf, Arp.ArpHeader.parse_ok_iff buf⟩,
    fun buf => ⟨Ipv4.Ipv4Header.parse_returns buf, Ipv4.Ipv4Header.parse_ok_iff buf⟩,
    fun buf => ⟨Icmpv4.Icmpv4Header.parse_returns buf, Icmpv4.Icmpv4Header.parse_ok_iff buf⟩,
    fun ipv4Hdr buf checksumOffload => ⟨Udp.UdpHeader.parse_returns ipv4Hdr buf checksumOffload,
      Udp.UdpHeader.parse_ok_iff ipv4Hdr buf checksumOffload⟩⟩

end Inetstack
