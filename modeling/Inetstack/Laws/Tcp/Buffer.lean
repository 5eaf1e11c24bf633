import Inetstack.Tcp.Buffer

/-!
# Laws of bytes on the wire

A number that is written and read back is the same number, and a write changes the bytes it covers. The
last group of lemmas runs the do blocks of the decoders: a step that succeeds goes on with its result.
-/

namespace Inetstack.Tcp

/-- The most significant octet comes first. -/
theorem toBeBytes_succ (width n : Nat) :
    toBeBytes (width + 1) n = UInt8.ofNat (n >>> (8 * width)) :: toBeBytes width n := by
  simp only [toBeBytes, List.range_succ, List.reverse_append, List.reverse_singleton,
    List.singleton_append, List.map_cons]

@[simp] theorem length_toBeBytes (width n : Nat) : (toBeBytes width n).length = width := by
  simp only [toBeBytes, List.length_map, List.length_reverse, List.length_range]

/-- What is written in `width` bytes is read back, up to what does not fit. -/
theorem ofBe_toBeBytes (width n : Nat) : Bytes.ofBe (toBeBytes width n) = n % 256 ^ width := by
  induction width with
  | zero => simp [toBeBytes, Bytes.ofBe, Nat.mod_one]
  | succ width ih =>
    rw [toBeBytes_succ, Bytes.ofBe_cons, ih, length_toBeBytes, UInt8.toNat_ofNat',
      Nat.shiftRight_eq_div_pow]
    have pow : (2 : Nat) ^ (8 * width) = 256 ^ width := by rw [Nat.pow_mul]
    have split : n % 256 ^ (width + 1) = n % 256 ^ width + 256 ^ width * (n / 256 ^ width % 256) :=
      Nat.mod_mul
    rw [pow, split, Nat.add_comm, Nat.mul_comm]

/-- A number that fits is read back. -/
theorem ofBe_toBeBytes_of_lt {width n : Nat} (small : n < 256 ^ width) :
    Bytes.ofBe (toBeBytes width n) = n := by
  rw [ofBe_toBeBytes, Nat.mod_eq_of_lt small]

/-- What some bytes stand for is written as those bytes. -/
theorem toBeBytes_ofBe (bytes : List UInt8) : toBeBytes bytes.length (Bytes.ofBe bytes) = bytes := by
  apply Bytes.ofBe_inj (length_toBeBytes _ _)
  exact ofBe_toBeBytes_of_lt (Bytes.ofBe_lt bytes)

theorem ofNat_ofBe_u16 (x : UInt16) : UInt16.ofNat (Bytes.ofBe (toBeBytes 2 x.toNat)) = x := by
  rw [ofBe_toBeBytes_of_lt x.toNat_lt, UInt16.ofNat_toNat]

theorem ofNat_ofBe_u32 (x : UInt32) : UInt32.ofNat (Bytes.ofBe (toBeBytes 4 x.toNat)) = x := by
  rw [ofBe_toBeBytes_of_lt x.toNat_lt, UInt32.ofNat_toNat]

/-- The address of four bytes. -/
theorem ofNat_ofBe_octets (ip : Ipv4Addr) :
    (UInt32.ofNat (Bytes.ofBe (Ipv4Addr.octets ip))).toBitVec = ip := by
  apply BitVec.eq_of_toNat_eq
  rw [UInt32.toNat_toBitVec, UInt32.toNat_ofNat', Ipv4Addr.octets, ofBe_toBeBytes_of_lt ip.isLt,
    Nat.mod_eq_of_lt ip.isLt]

/-- The two bytes of a number. -/
theorem u16_bytes (x : UInt16) :
    ∃ b0 b1, toBeBytes 2 x.toNat = [b0, b1] ∧ UInt16.ofNat (Bytes.ofBe [b0, b1]) = x :=
  ⟨_, _, rfl, ofNat_ofBe_u16 x⟩

/-- The four bytes of a number. -/
theorem u32_bytes (x : UInt32) :
    ∃ b0 b1 b2 b3, toBeBytes 4 x.toNat = [b0, b1, b2, b3] ∧
      UInt32.ofNat (Bytes.ofBe [b0, b1, b2, b3]) = x :=
  ⟨_, _, _, _, rfl, ofNat_ofBe_u32 x⟩

/-! ## Running a decoder -/

namespace Outcome

variable {α β : Type}

@[simp] theorem lift_ok (a : α) : (liftM (.ok a : Except Fault α) : Outcome α) = pure a := rfl

@[simp] theorem lift_result (a : α) : (liftM (.ok a : Except Fail α) : Outcome α) = pure a := rfl

/-- A decoder in two parts gives a result exactly when both parts do. -/
theorem bind_eq_pure {x : Outcome α} {f : α → Outcome β} {b : β} :
    (x >>= f) = pure b ↔ ∃ a, x = pure a ∧ f a = pure b := by
  constructor
  · intro ran
    match x with
    | .error fault => cases ran
    | .ok (.error fail) => cases ran
    | .ok (.ok a) => exact ⟨a, rfl, ran⟩
  · rintro ⟨a, rfl, ran⟩
    exact ran

/-- A check is passed exactly when it does not throw. -/
theorem guard_eq_pure {c : Prop} [Decidable c] {fail : Fail} {k : PUnit → Outcome β} {b : β} :
    (if c then throw fail >>= k else k PUnit.unit) = pure b ↔ ¬c ∧ k PUnit.unit = pure b := by
  by_cases h : c
  · rw [if_pos h]
    constructor
    · intro ran
      cases ran
    · intro ran
      exact (ran.1 h).elim
  · rw [if_neg h]
    exact ⟨fun ran => ⟨h, ran⟩, fun ran => ran.2⟩

end Outcome

/-! ## Reading off the front -/

namespace Cursor

variable {eof : Fail}

/-- A reader takes an octet off the front. -/
theorem readU8_cons (byte : UInt8) (rest : Buffer) : readU8 eof (byte :: rest) = .ok (byte, rest) :=
  rfl

/-- It reads back what was written, and leaves what follows. -/
theorem readU16_append (n : UInt16) (rest : Buffer) :
    readU16 eof (toBeBytes 2 n.toNat ++ rest) = .ok (n, rest) :=
  congrArg (fun n => Except.ok (n, rest)) (ofNat_ofBe_u16 n)

theorem readU32_append (n : UInt32) (rest : Buffer) :
    readU32 eof (toBeBytes 4 n.toNat ++ rest) = .ok (n, rest) :=
  congrArg (fun n => Except.ok (n, rest)) (ofNat_ofBe_u32 n)

/-- What a reader returns was at the front. -/
theorem readU8_ok {rdr rest : Buffer} {byte : UInt8} (ran : readU8 eof rdr = .ok (byte, rest)) :
    rdr = byte :: rest := by
  cases rdr with
  | nil => cases ran
  | cons first more =>
    cases ran
    rfl

theorem readU16_ok {rdr rest : Buffer} {n : UInt16} (ran : readU16 eof rdr = .ok (n, rest)) :
    rdr = toBeBytes 2 n.toNat ++ rest := by
  match rdr with
  | [] | [_] => cases ran
  | b0 :: b1 :: more =>
    cases ran
    have small : Bytes.ofBe [b0, b1] < 2 ^ 16 := by
      simpa using Bytes.ofBe_lt [b0, b1]
    rw [UInt16.toNat_ofNat', Nat.mod_eq_of_lt small]
    exact (congrArg (· ++ rest) (toBeBytes_ofBe [b0, b1])).symm

theorem readU32_ok {rdr rest : Buffer} {n : UInt32} (ran : readU32 eof rdr = .ok (n, rest)) :
    rdr = toBeBytes 4 n.toNat ++ rest := by
  match rdr with
  | [] | [_] | [_, _] | [_, _, _] => cases ran
  | b0 :: b1 :: b2 :: b3 :: more =>
    cases ran
    have small : Bytes.ofBe [b0, b1, b2, b3] < 2 ^ 32 := by
      simpa using Bytes.ofBe_lt [b0, b1, b2, b3]
    rw [UInt32.toNat_ofNat', Nat.mod_eq_of_lt small]
    exact (congrArg (· ++ rest) (toBeBytes_ofBe [b0, b1, b2, b3])).symm

end Cursor

/-! ## Cutting -/

namespace Buffer

/-- A read inside a buffer returns; outside it panics. -/
theorem readU8_of_lt (buf : Buffer) (pos : Nat) (inside : pos < buf.length) :
    readU8 buf pos = .ok (buf.getD pos 0) := by
  unfold readU8
  rw [List.getD_eq_getElem?_getD, List.getElem?_eq_getElem inside]
  rfl

theorem readU16_of_lt (buf : Buffer) (pos : Nat) (inside : pos + 1 < buf.length) :
    readU16 buf pos = .ok (UInt16.ofNat (Bytes.ofBe [buf.getD pos 0, buf.getD (pos + 1) 0])) := by
  unfold readU16
  rw [readU8_of_lt buf pos (by omega), readU8_of_lt buf (pos + 1) inside]
  rfl

theorem readU32_of_lt (buf : Buffer) (pos : Nat) (inside : pos + 3 < buf.length) :
    ∃ n, readU32 buf pos = .ok n := by
  unfold readU32
  rw [readU8_of_lt buf pos (by omega), readU8_of_lt buf (pos + 1) (by omega),
    readU8_of_lt buf (pos + 2) (by omega), readU8_of_lt buf (pos + 3) inside]
  exact ⟨_, rfl⟩

/-- A cut changes no byte before it. -/
theorem readU8_take (buf : Buffer) {pos n : Nat} (before : pos < n) :
    readU8 (buf.take n) pos = readU8 buf pos := by
  unfold readU8
  rw [List.getElem?_take_of_lt before]

/-- A buffer cut behind the place reads the same there. -/
theorem readU16_take (buf : Buffer) {pos n : Nat} (before : pos + 1 < n) :
    readU16 (buf.take n) pos = readU16 buf pos := by
  unfold readU16
  rw [readU8_take buf (by omega), readU8_take buf before]

theorem readU32_take (buf : Buffer) {pos n : Nat} (before : pos + 3 < n) :
    readU32 (buf.take n) pos = readU32 buf pos := by
  unfold readU32
  rw [readU8_take buf (by omega), readU8_take buf (by omega), readU8_take buf (by omega),
    readU8_take buf before]

/-- A number is read back where it was written. -/
theorem readU16_middle {before after : Buffer} {pos : Nat} (at_ : before.length = pos) (n : UInt16) :
    readU16 (before ++ (toBeBytes 2 n.toNat ++ after)) pos = .ok n := by
  subst at_
  obtain ⟨b0, b1, bytes, value⟩ := u16_bytes n
  rw [bytes]
  have high : readU8 (before ++ ([b0, b1] ++ after)) before.length = .ok b0 := by simp [readU8]
  have low : readU8 (before ++ ([b0, b1] ++ after)) (before.length + 1) = .ok b1 := by simp [readU8]
  rw [readU16, high]
  dsimp only [Bind.bind, Except.bind]
  rw [low]
  exact congrArg Except.ok value

/-- Removing a header leaves the data. -/
theorem adjust_append {hdr rest : Buffer} {size : Nat} (length : hdr.length = size) :
    adjust (hdr ++ rest) size = .ok rest := by
  subst length
  rw [adjust, if_pos (by rw [List.length_append]; exact Nat.le_add_right _ _), List.drop_left]

/-- Trimming the padding leaves the rest. -/
theorem trim_append (buf padding : Buffer) : trim (buf ++ padding) padding.length = .ok buf := by
  have fits : padding.length ≤ (buf ++ padding).length := by
    rw [List.length_append]
    exact Nat.le_add_left _ _
  rw [trim, if_pos fits, List.length_append, Nat.add_sub_cancel, List.take_left]

/-! ## Writing -/

/-- A write replaces as many octets as it brings. -/
theorem write_middle {before old bytes after : Buffer} {pos : Nat} (at_ : pos = before.length)
    (same : bytes.length = old.length) :
    write (before ++ old ++ after) pos bytes = .ok (before ++ bytes ++ after) := by
  subst at_
  have fits : before.length + bytes.length ≤ (before ++ old ++ after).length := by
    simp only [List.length_append]
    omega
  rw [write, if_pos fits, Bytes.splice_middle same]

/-- A write to where what is written ends, up to `stop`. -/
theorem write_next (stop : Nat) {written buf bytes : Buffer} {pos : Nat} (at_ : written.length = pos)
    (size : pos + bytes.length = stop) (fits : stop ≤ buf.length) :
    write (written ++ buf.drop pos) pos bytes = .ok (written ++ bytes ++ buf.drop stop) := by
  have same : bytes.length = ((buf.drop pos).take bytes.length).length := by
    rw [List.length_take, List.length_drop, Nat.min_eq_left (by omega)]
  have wrote := @write_middle written _ bytes ((buf.drop pos).drop bytes.length) pos at_.symm same
  rw [List.append_assoc, List.take_append_drop, List.drop_drop, size] at wrote
  exact wrote

/-- A write at the front. -/
theorem write_first (stop : Nat) {buf bytes : Buffer} (size : bytes.length = stop)
    (fits : stop ≤ buf.length) : write buf 0 bytes = .ok (bytes ++ buf.drop stop) :=
  @write_next stop [] buf bytes 0 rfl (by rw [Nat.zero_add, size]) fits

/-- A writer runs where what is written ends, up to `stop`, and writes the same whatever was there. -/
theorem writeSlice_next (stop : Nat) {written buf bytes : Buffer} {pos len : Nat}
    {writer : Buffer → Except Fault Buffer} (at_ : written.length = pos) (size : pos + len = stop)
    (fits : stop ≤ buf.length) (same : bytes.length = len)
    (wrote : ∀ old : Buffer, old.length = len → writer old = .ok bytes) :
    writeSlice (written ++ buf.drop pos) pos len writer = .ok (written ++ bytes ++ buf.drop stop) := by
  have inside : pos + len ≤ (written ++ buf.drop pos).length := by
    rw [List.length_append, List.length_drop]
    omega
  have slice : ((written ++ buf.drop pos).drop pos).take len = (buf.drop pos).take len := by
    rw [List.drop_left' at_]
  have length : ((buf.drop pos).take len).length = len := by
    rw [List.length_take, List.length_drop]
    omega
  have placed := write_next stop at_ (by rw [same, size]) fits
  rw [write, if_pos (by rwa [same])] at placed
  rw [writeSlice, if_pos inside, slice, wrote _ length]
  exact placed

/-- A writer that is given the front of a buffer. -/
theorem writeSlice_first (stop : Nat) {buf bytes : Buffer} {writer : Buffer → Except Fault Buffer}
    (fits : stop ≤ buf.length) (same : bytes.length = stop)
    (wrote : ∀ old : Buffer, old.length = stop → writer old = .ok bytes) :
    writeSlice buf 0 stop writer = .ok (bytes ++ buf.drop stop) :=
  @writeSlice_next stop [] buf bytes 0 stop writer rfl (Nat.zero_add stop) fits same wrote

end Buffer

end Inetstack.Tcp
