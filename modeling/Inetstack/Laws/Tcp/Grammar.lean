import Inetstack.Laws.Tcp.Wire

/-!
# The grammar of a TCP header

The decoder accepts exactly the headers of a grammar. A header has a data offset between its fixed fields
and the end of the segment, a checksum that is right or not looked at, and an option area: options and
no-operations one after another, up to the data or to a byte that ends the list. The option loop counts
what it has read and refuses a sixth option; every pass of it reads at least a byte, so it ends with the
area.
-/

namespace Inetstack.Tcp

namespace TcpHeader

/-- The option area of a header that has these options. -/
inductive OptionArea : List TcpOptions2 → Buffer → Prop where
  | full : OptionArea [] []
  | endOfList (rest : Buffer) : OptionArea [] (0 :: rest)
  | noOperation {options : List TcpOptions2} {rest : Buffer} :
      OptionArea options rest → OptionArea options (1 :: rest)
  | option {option : TcpOptions2} {options : List TcpOptions2} {rest : Buffer} :
      option.WellFormed → OptionArea options rest → OptionArea (option :: options) (option.bytes ++ rest)

/-- The data offset of a segment, in bytes. -/
def dataOffset (buf : Buffer) : Nat := ((buf.getD 12 0) >>> 4).toNat * 4

/-- A segment with this header and this payload. -/
structure Parses (ipv4Header : Ipv4.Ipv4Header) (rxChecksumOffload : Bool) (buf : Buffer)
    (header : TcpHeader) (payload : Buffer) : Prop where
  size : MIN_TCP_HEADER_SIZE ≤ buf.length
  least : MIN_TCP_HEADER_SIZE ≤ dataOffset buf
  most : dataOffset buf ≤ buf.length
  checksum : rxChecksumOffload = false → Buffer.readU16 buf 16 =
    tcpChecksum ipv4Header (buf.take (dataOffset buf)) (buf.drop (dataOffset buf))
  fixed : parseFixed buf = .ok { header with optionList := [] }
  options : OptionArea header.optionList ((buf.take (dataOffset buf)).drop MIN_TCP_HEADER_SIZE)
  few : header.optionList.length ≤ MAX_TCP_OPTIONS
  payload : payload = buf.drop (dataOffset buf)

variable {eof : Fail}

/-! ## One option -/

theorem parseSacks_ok {n : Nat} {rdr rest : Buffer} {sacks : List SelectiveAcknowlegement}
    (ran : parseSacks eof n rdr = .ok (sacks, rest)) :
    sacks.length = n ∧ rdr = (sacks.flatMap fun sack =>
      toBeBytes 4 sack.begin.value.toNat ++ toBeBytes 4 sack.end_.value.toNat) ++ rest := by
  induction n generalizing rdr sacks with
  | zero =>
    cases ran
    exact ⟨rfl, rfl⟩
  | succ n ih =>
    obtain ⟨⟨first, rdr₁⟩, readBegin, ran⟩ := Machine.bind_eq_ok.mp ran
    obtain ⟨⟨last, rdr₂⟩, readEnd, ran⟩ := Machine.bind_eq_ok.mp ran
    obtain ⟨⟨more, rdr₃⟩, readMore, ran⟩ := Machine.bind_eq_ok.mp ran
    cases ran
    obtain ⟨length, rfl⟩ := ih readMore
    have here := Cursor.readU32_ok readEnd
    have start := Cursor.readU32_ok readBegin
    refine ⟨congrArg Nat.succ length, ?_⟩
    rw [start, here, List.flatMap_cons, List.append_assoc, List.append_assoc]

/-- The length of a selective acknowledgement that is accepted is that of its blocks. -/
theorem sackLength_eq {length : UInt8} (known : length = 10 ∨ length = 18 ∨ length = 26 ∨ length = 34) :
    1 ≤ (length.toNat - 2) / 8 ∧ (length.toNat - 2) / 8 ≤ 4 ∧
      length = 2 + 8 * UInt8.ofNat ((length.toNat - 2) / 8) := by
  obtain rfl | rfl | rfl | rfl := known <;> decide

/-- The length of an option that is accepted is the one prescribed for its kind. -/
theorem prescribed_ok {α : Type} {length prescribed : UInt8} {fail : Fail} {body : Except Fail α}
    {result : α} (ran : (if length ≠ prescribed then .error fail else body) = .ok result) :
    length = prescribed ∧ body = .ok result := by
  split at ran
  · cases ran
  next known => exact ⟨not_ne_iff.mp known, ran⟩

/-- **What is read as an option is an option**, and what follows it. -/
theorem parseOption_ok {kind : UInt8} {rdr rest : Buffer} {option : TcpOptions2}
    (ran : parseOption eof kind rdr = .ok (option, rest)) :
    option.WellFormed ∧ kind :: rdr = option.bytes ++ rest := by
  unfold parseOption at ran
  split at ran
  next is =>
    obtain ⟨⟨length, rdr₁⟩, readLength, ran⟩ := Machine.bind_eq_ok.mp ran
    obtain ⟨rfl, ran⟩ := prescribed_ok ran
    obtain ⟨⟨mss, rdr₂⟩, read, ran⟩ := Machine.bind_eq_ok.mp ran
    cases ran
    rw [is, Cursor.readU8_ok readLength, Cursor.readU16_ok read]
    exact ⟨trivial, rfl⟩
  split at ran
  next is =>
    obtain ⟨⟨length, rdr₁⟩, readLength, ran⟩ := Machine.bind_eq_ok.mp ran
    obtain ⟨rfl, ran⟩ := prescribed_ok ran
    obtain ⟨⟨scale, rdr₂⟩, read, ran⟩ := Machine.bind_eq_ok.mp ran
    cases ran
    rw [is, Cursor.readU8_ok readLength, Cursor.readU8_ok read]
    exact ⟨trivial, rfl⟩
  split at ran
  next is =>
    obtain ⟨⟨length, rdr₁⟩, readLength, ran⟩ := Machine.bind_eq_ok.mp ran
    obtain ⟨rfl, ran⟩ := prescribed_ok ran
    cases ran
    rw [is, Cursor.readU8_ok readLength]
    exact ⟨trivial, rfl⟩
  split at ran
  next is =>
    obtain ⟨⟨length, rdr₁⟩, readLength, ran⟩ := Machine.bind_eq_ok.mp ran
    dsimp only at ran
    split at ran
    next known =>
      obtain ⟨⟨sacks, rdr₂⟩, readSacks, ran⟩ := Machine.bind_eq_ok.mp ran
      cases ran
      -- the length octet says how many SACK blocks follow
      obtain ⟨some_, few, eq⟩ := sackLength_eq known
      obtain ⟨count, rfl⟩ := parseSacks_ok readSacks
      rw [← count] at some_ few eq
      rw [is, Cursor.readU8_ok readLength]
      refine ⟨⟨some_, few⟩, ?_⟩
      exact congrArg (fun length => 5 :: length :: _) eq
    · cases ran
  split at ran
  next is =>
    obtain ⟨⟨length, rdr₁⟩, readLength, ran⟩ := Machine.bind_eq_ok.mp ran
    obtain ⟨rfl, ran⟩ := prescribed_ok ran
    obtain ⟨⟨sender, rdr₂⟩, readSender, ran⟩ := Machine.bind_eq_ok.mp ran
    obtain ⟨⟨echo, rdr₃⟩, readEcho, ran⟩ := Machine.bind_eq_ok.mp ran
    cases ran
    rw [is, Cursor.readU8_ok readLength, Cursor.readU32_ok readSender, Cursor.readU32_ok readEcho]
    exact ⟨trivial, rfl⟩
  · cases ran

/-! ## The option area -/

/-- What the option loop reads is an option area. -/
theorem parseOptions_sound {passes : Nat} {read options : List TcpOptions2} {area : Buffer}
    (enough : area.length ≤ passes) (room : read.length ≤ MAX_TCP_OPTIONS)
    (ran : parseOptions eof passes read area = .ok options) :
    ∃ more, options = read ++ more ∧ OptionArea more area ∧ options.length ≤ MAX_TCP_OPTIONS := by
  induction passes generalizing read area with
  | zero =>
    obtain rfl : area = [] := List.length_eq_zero_iff.mp (Nat.le_zero.mp enough)
    cases ran
    exact ⟨[], (List.append_nil _).symm, .full, room⟩
  | succ passes ih =>
    cases area with
    | nil =>
      cases ran
      exact ⟨[], (List.append_nil _).symm, .full, room⟩
    | cons kind rdr =>
      rw [List.length_cons] at enough
      unfold parseOptions at ran
      split at ran
      next isEnd =>
        cases ran
        rw [isEnd]
        exact ⟨[], (List.append_nil _).symm, .endOfList rdr, room⟩
      split at ran
      next isNoOperation =>
        obtain ⟨more, eq, area, few⟩ := ih (by omega) room ran
        rw [isNoOperation]
        exact ⟨more, eq, .noOperation area, few⟩
      obtain ⟨⟨option, rest⟩, parsed, ran⟩ := Machine.bind_eq_ok.mp ran
      dsimp only at ran
      split at ran
      · cases ran
      next left =>
        obtain ⟨wf, bytes⟩ := parseOption_ok parsed
        have length := congrArg List.length bytes
        rw [List.length_cons, List.length_append, TcpOptions2.length_bytes] at length
        have pos := option.computeSize_pos
        obtain ⟨more, rfl, area, few⟩ := ih (by omega)
          (by rw [List.length_append, List.length_singleton]; omega) ran
        rw [bytes]
        exact ⟨option :: more, by simp, .option wf area, few⟩

/-- An option area is read to its end. -/
theorem parseOptions_complete {more : List TcpOptions2} {area : Buffer} (h : OptionArea more area)
    {passes : Nat} {read : List TcpOptions2} (enough : area.length ≤ passes)
    (few : (read ++ more).length ≤ MAX_TCP_OPTIONS) :
    parseOptions eof passes read area = .ok (read ++ more) := by
  induction h generalizing passes read with
  | full => cases passes <;> simp [parseOptions]
  | endOfList rest =>
    cases passes with
    | zero => cases enough
    | succ passes => simp [parseOptions]
  | noOperation h ih =>
    cases passes with
    | zero => cases enough
    | succ passes =>
      rw [List.length_cons] at enough
      exact ih (by omega) few
  | @option option options rest wf h ih =>
    obtain ⟨kind, tail, bytes, more, proper, reads⟩ := @parseOption_append eof option wf
    rw [bytes, List.cons_append, List.length_cons, List.length_append] at enough
    cases passes with
    | zero => omega
    | succ passes =>
      have room : ¬MAX_TCP_OPTIONS ≤ read.length := by
        rw [List.length_append, List.length_cons] at few
        omega
      have next : parseOptions eof passes (read ++ [option]) rest = .ok (read ++ [option] ++ options) :=
        ih (by omega) (by simpa using few)
      rw [List.append_assoc, List.singleton_append] at next
      rw [bytes, List.cons_append, parseOptions, if_neg more, if_neg proper, reads, ← next]
      simp only [bind, Except.bind, if_neg room]

/-- **The option loop ends.** Every pass reads a byte, so more passes than there are bytes change
nothing. -/
theorem parseOptions_enough {passes passes' : Nat} {read : List TcpOptions2} {area : Buffer}
    (enough : area.length ≤ passes) (enough' : area.length ≤ passes') :
    parseOptions eof passes read area = parseOptions eof passes' read area := by
  induction passes generalizing passes' read area with
  | zero =>
    obtain rfl : area = [] := List.length_eq_zero_iff.mp (Nat.le_zero.mp enough)
    cases passes' <;> rfl
  | succ passes ih =>
    cases area with
    | nil => cases passes' <;> rfl
    | cons kind rdr =>
      rw [List.length_cons] at enough enough'
      cases passes' with
      | zero => omega
      | succ passes' =>
        unfold parseOptions
        split
        · rfl
        split
        · exact ih (by omega) (by omega)
        cases parsed : parseOption eof kind rdr with
        | error fail => rfl
        | ok result =>
          obtain ⟨option, rest⟩ := result
          have length := congrArg List.length (parseOption_ok parsed).2
          rw [List.length_cons, List.length_append, TcpOptions2.length_bytes] at length
          have pos := option.computeSize_pos
          simp only [bind, Except.bind]
          split
          · rfl
          · exact ih (by omega) (by omega)

/-! ## The whole header -/

theorem dataOffset_le (buf : Buffer) : dataOffset buf ≤ MAX_TCP_HEADER_SIZE := by
  have bits : ∀ byte : UInt8, (byte >>> 4).toNat * 4 ≤ 60 := Bytes.forall_byte (by decide +kernel)
  exact bits _

theorem dataOffset_even (buf : Buffer) : dataOffset buf % 2 = 0 := by
  unfold dataOffset
  omega

/-- The fixed fields of a header are there. -/
theorem parseFixed_ok {buf : Buffer} (size : MIN_TCP_HEADER_SIZE ≤ buf.length) :
    ∃ fixed, parseFixed buf = .ok fixed ∧ fixed.optionList = [] := by
  have size : 20 ≤ buf.length := size
  obtain ⟨seqNum, h4⟩ := Buffer.readU32_of_lt buf 4 (by omega)
  obtain ⟨ackNum, h8⟩ := Buffer.readU32_of_lt buf 8 (by omega)
  unfold parseFixed
  rw [Buffer.readU16_of_lt buf 0 (by omega), Buffer.readU16_of_lt buf 2 (by omega), h4, h8,
    Buffer.readU8_of_lt buf 12 (by omega), Buffer.readU8_of_lt buf 13 (by omega),
    Buffer.readU16_of_lt buf 14 (by omega), Buffer.readU16_of_lt buf 18 (by omega)]
  exact ⟨_, rfl, rfl⟩

theorem parseFixed_take (buf : Buffer) {n : Nat} (size : MIN_TCP_HEADER_SIZE ≤ n) :
    parseFixed (buf.take n) = parseFixed buf := by
  have size : 20 ≤ n := size
  unfold parseFixed
  rw [Buffer.readU16_take buf (by omega), Buffer.readU16_take buf (by omega),
    Buffer.readU32_take buf (by omega), Buffer.readU32_take buf (by omega),
    Buffer.readU8_take buf (by omega), Buffer.readU8_take buf (by omega),
    Buffer.readU16_take buf (by omega), Buffer.readU16_take buf (by omega)]

/-- What the decoder does once the sizes are right: it looks at the checksum, and then reads the
options. -/
theorem parse_eq (ipv4Header : Ipv4.Ipv4Header) {buf : Buffer} (rxChecksumOffload : Bool)
    (size : MIN_TCP_HEADER_SIZE ≤ buf.length) (least : MIN_TCP_HEADER_SIZE ≤ dataOffset buf)
    (most : dataOffset buf ≤ buf.length) :
    ∃ fixed field sum, parseFixed buf = .ok fixed ∧ fixed.optionList = [] ∧
      Buffer.readU16 buf 16 = .ok field ∧
      tcpChecksum ipv4Header (buf.take (dataOffset buf)) (buf.drop (dataOffset buf)) = .ok sum ∧
      parse eof ipv4Header buf rxChecksumOffload =
        if rxChecksumOffload = false ∧ field ≠ sum then
          throw { errno := .EBADMSG, cause := "TCP checksum mismatch" }
        else match parseOptions eof ((buf.take (dataOffset buf)).drop MIN_TCP_HEADER_SIZE).length []
            ((buf.take (dataOffset buf)).drop MIN_TCP_HEADER_SIZE) with
          | .ok options => pure ({ fixed with optionList := options }, buf.drop (dataOffset buf))
          | .error fail => throw fail := by
  obtain ⟨fixed, fixed_eq, none⟩ := parseFixed_ok size
  have length : (buf.take (dataOffset buf)).length = dataOffset buf := List.length_take_of_le most
  obtain ⟨sum, sum_eq⟩ := tcpChecksum_ok ipv4Header (buf.drop (dataOffset buf))
    (length.symm ▸ least) (length.symm ▸ dataOffset_even buf)
  have field_eq := Buffer.readU16_of_lt buf 16 (Nat.lt_of_lt_of_le (by decide) size)
  refine ⟨fixed, _, sum, fixed_eq, none, field_eq, sum_eq, ?_⟩
  have byte12 := Buffer.readU8_of_lt buf 12 (Nat.lt_of_lt_of_le (by decide) size)
  have front := (parseFixed_take buf least).trans fixed_eq
  have field := (Buffer.readU16_take buf (Nat.lt_of_lt_of_le (by decide) least)).trans field_eq
  have body : Buffer.adjust buf (dataOffset buf) = .ok (buf.drop (dataOffset buf)) := if_pos most
  have offset : (buf.getD 12 0 >>> 4).toNat * 4 = dataOffset buf := rfl
  generalize UInt16.ofNat (Bytes.ofBe [buf.getD 16 0, buf.getD (16 + 1) 0]) = checksum at field
  simp only [parse, Nat.not_lt.mpr size, if_false, byte12, offset, Nat.not_lt.mpr most,
    Nat.not_lt.mpr least, Nat.not_lt.mpr (dataOffset_le buf), front, field, sum_eq, body,
    Outcome.lift_ok, pure_bind]
  cases rxChecksumOffload with
  | true =>
    simp only [Bool.not_true, Bool.false_eq_true, if_false, Bool.true_eq_false, false_and]
    cases parseOptions eof ((buf.take (dataOffset buf)).drop MIN_TCP_HEADER_SIZE).length []
      ((buf.take (dataOffset buf)).drop MIN_TCP_HEADER_SIZE) <;> rfl
  | false =>
    by_cases mismatch : checksum ≠ sum
    · simp only [mismatch, Bool.not_false, if_true, true_and, ne_eq, not_false_eq_true]
      rfl
    · simp only [mismatch, Bool.not_false, if_true, true_and, if_false]
      cases parseOptions eof ((buf.take (dataOffset buf)).drop MIN_TCP_HEADER_SIZE).length []
        ((buf.take (dataOffset buf)).drop MIN_TCP_HEADER_SIZE) <;> rfl

/-- A segment whose sizes are wrong is refused. -/
theorem parse_of_size (ipv4Header : Ipv4.Ipv4Header) {buf : Buffer} (rxChecksumOffload : Bool)
    (wrong : ¬(MIN_TCP_HEADER_SIZE ≤ buf.length ∧ MIN_TCP_HEADER_SIZE ≤ dataOffset buf ∧
      dataOffset buf ≤ buf.length)) :
    ∃ fail, parse eof ipv4Header buf rxChecksumOffload = throw fail := by
  by_cases size : buf.length < MIN_TCP_HEADER_SIZE
  · simp only [parse, size, if_true]
    exact ⟨_, rfl⟩
  have byte12 := Buffer.readU8_of_lt buf 12 (Nat.lt_of_lt_of_le (by decide) (Nat.not_lt.mp size))
  have offset : (buf.getD 12 0 >>> 4).toNat * 4 = dataOffset buf := rfl
  simp only [parse, size, if_false, byte12, offset, Outcome.lift_ok, pure_bind]
  by_cases most : buf.length < dataOffset buf
  · simp only [most, if_true]
    exact ⟨_, rfl⟩
  by_cases least : dataOffset buf < MIN_TCP_HEADER_SIZE
  · simp only [most, least, if_true, if_false]
    exact ⟨_, rfl⟩
  · exact absurd ⟨Nat.not_lt.mp size, Nat.not_lt.mp least, Nat.not_lt.mp most⟩ wrong

/-- The decoder does not panic. -/
theorem parse_returns (ipv4Header : Ipv4.Ipv4Header) (buf : Buffer) (rxChecksumOffload : Bool) :
    ∃ result : Except Fail (TcpHeader × Buffer),
      parse eof ipv4Header buf rxChecksumOffload = (.ok result : Except Fault _) := by
  by_cases sizes : MIN_TCP_HEADER_SIZE ≤ buf.length ∧ MIN_TCP_HEADER_SIZE ≤ dataOffset buf ∧
      dataOffset buf ≤ buf.length
  · obtain ⟨fixed, field, sum, -, -, -, -, parsed⟩ :=
      @parse_eq eof ipv4Header buf rxChecksumOffload sizes.1 sizes.2.1 sizes.2.2
    rw [parsed]
    split
    · exact ⟨_, rfl⟩
    split <;> exact ⟨_, rfl⟩
  · obtain ⟨fail, parsed⟩ := @parse_of_size eof ipv4Header buf rxChecksumOffload sizes
    rw [parsed]
    exact ⟨_, rfl⟩

/-- The decoder gives a header and a payload exactly if the segment has them. -/
theorem parse_ok_iff (ipv4Header : Ipv4.Ipv4Header) (buf : Buffer) (rxChecksumOffload : Bool)
    (header : TcpHeader) (payload : Buffer) :
    parse eof ipv4Header buf rxChecksumOffload = pure (header, payload) ↔
      Parses ipv4Header rxChecksumOffload buf header payload := by
  by_cases sizes : MIN_TCP_HEADER_SIZE ≤ buf.length ∧ MIN_TCP_HEADER_SIZE ≤ dataOffset buf ∧
      dataOffset buf ≤ buf.length
  swap
  · obtain ⟨fail, parsed⟩ := @parse_of_size eof ipv4Header buf rxChecksumOffload sizes
    rw [parsed]
    refine iff_of_false (fun ran => by cases ran) ?_
    intro parses
    exact sizes ⟨parses.size, parses.least, parses.most⟩
  obtain ⟨size, least, most⟩ := sizes
  obtain ⟨fixed, field, sum, fixed_eq, none, field_eq, sum_eq, parsed⟩ :=
    @parse_eq eof ipv4Header buf rxChecksumOffload size least most
  rw [parsed]
  constructor
  · intro ran
    split at ran
    · cases ran
    next right =>
    split at ran
    next options read =>
      cases ran
      obtain ⟨more, rfl, area, few⟩ := parseOptions_sound (Nat.le_refl _) (Nat.zero_le _) read
      refine ⟨size, least, most, ?_, ?_, area, few, rfl⟩
      · intro checked
        rw [field_eq, sum_eq]
        exact congrArg Except.ok (not_ne_iff.mp fun mismatch => right ⟨checked, mismatch⟩)
      · rw [fixed_eq, ← none]
    · cases ran
  · intro parses
    have right : ¬(rxChecksumOffload = false ∧ field ≠ sum) := by
      rintro ⟨checked, mismatch⟩
      have same := parses.checksum checked
      rw [field_eq, sum_eq] at same
      exact mismatch (Except.ok.inj same)
    have read : parseOptions eof ((buf.take (dataOffset buf)).drop MIN_TCP_HEADER_SIZE).length []
        ((buf.take (dataOffset buf)).drop MIN_TCP_HEADER_SIZE) = .ok header.optionList :=
      parseOptions_complete parses.options (Nat.le_refl _) parses.few
    have same : fixed = { header with optionList := [] } := by
      have both := parses.fixed
      rw [fixed_eq] at both
      exact Except.ok.inj both
    rw [if_neg right, read, same, parses.payload]

/-- **The decoder accepts exactly its grammar**: it does not panic, its option loop ends with the option
area, and it returns a header and a payload exactly if the segment has them. -/
theorem parse_accepts_grammar (eof : Fail) (ipv4Header : Ipv4.Ipv4Header) (buf : Buffer)
    (rxChecksumOffload : Bool) :
    (∃ result : Except Fail (TcpHeader × Buffer),
      parse eof ipv4Header buf rxChecksumOffload = (.ok result : Except Fault _)) ∧
    (∀ (options : List TcpOptions2) (area : Buffer) (passes : Nat), area.length ≤ passes →
      parseOptions eof passes options area = parseOptions eof area.length options area) ∧
    ∀ (header : TcpHeader) (payload : Buffer),
      parse eof ipv4Header buf rxChecksumOffload = pure (header, payload) ↔
        Parses ipv4Header rxChecksumOffload buf header payload := by
  refine ⟨parse_returns ipv4Header buf rxChecksumOffload, ?_, ?_⟩
  · intro options area passes enough
    exact parseOptions_enough enough (Nat.le_refl _)
  · exact parse_ok_iff ipv4Header buf rxChecksumOffload

end TcpHeader

end Inetstack.Tcp
