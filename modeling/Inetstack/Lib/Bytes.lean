import Mathlib.Tactic.Ring

/-!
# Bytes: big-endian numbers, writing in place, and the Internet checksum

The number some bytes stand for, most significant first; the replacement of part of a buffer; and the
sum of the sixteen-bit words of a buffer, reduced by its multiples of `0xffff` and complemented. The
sum is kept in 32 bits and wraps.
-/

namespace Bytes

/-- The number some bytes stand for, most significant first. -/
def ofBe (bytes : List UInt8) : Nat := bytes.foldl (fun n byte => n * 256 + byte.toNat) 0

theorem foldl_be (bytes : List UInt8) (n : Nat) :
    bytes.foldl (fun n byte => n * 256 + byte.toNat) n = n * 256 ^ bytes.length + ofBe bytes := by
  induction bytes generalizing n with
  | nil => simp [ofBe]
  | cons byte bytes ih =>
    have first : ofBe (byte :: bytes) = (0 * 256 + byte.toNat) * 256 ^ bytes.length + ofBe bytes :=
      ih (0 * 256 + byte.toNat)
    rw [List.foldl_cons, ih, first, List.length_cons, Nat.pow_succ]
    ring

theorem ofBe_cons (byte : UInt8) (bytes : List UInt8) :
    ofBe (byte :: bytes) = byte.toNat * 256 ^ bytes.length + ofBe bytes := by
  have first : ofBe (byte :: bytes) = _ := foldl_be bytes (0 * 256 + byte.toNat)
  rw [first, Nat.zero_mul, Nat.zero_add]

theorem ofBe_lt (bytes : List UInt8) : ofBe bytes < 256 ^ bytes.length := by
  induction bytes with
  | nil => simp [ofBe]
  | cons byte bytes ih =>
    have less := byte.toNat_lt
    rw [ofBe_cons, List.length_cons, Nat.pow_succ]
    calc byte.toNat * 256 ^ bytes.length + ofBe bytes
      _ < byte.toNat * 256 ^ bytes.length + 256 ^ bytes.length := Nat.add_lt_add_left ih _
      _ = (byte.toNat + 1) * 256 ^ bytes.length := by ring
      _ ≤ 256 * 256 ^ bytes.length := Nat.mul_le_mul_right _ less
      _ = 256 ^ bytes.length * 256 := Nat.mul_comm _ _

/-- As many bytes that stand for the same number are the same bytes. -/
theorem ofBe_inj {bytes bytes' : List UInt8} (length : bytes.length = bytes'.length)
    (same : ofBe bytes = ofBe bytes') : bytes = bytes' := by
  induction bytes generalizing bytes' with
  | nil => exact (List.length_eq_zero_iff.mp length.symm).symm
  | cons byte bytes ih =>
    cases bytes' with
    | nil => cases length
    | cons byte' bytes' =>
      have length : bytes.length = bytes'.length := Nat.succ.inj length
      have pos : 0 < 256 ^ bytes'.length := Nat.pow_pos (by decide)
      have less := ofBe_lt bytes
      have less' := ofBe_lt bytes'
      rw [ofBe_cons, ofBe_cons, length] at same
      rw [length] at less
      have high := congrArg (· / 256 ^ bytes'.length) same
      have low := congrArg (· % 256 ^ bytes'.length) same
      simp only [Nat.mul_comm _ (256 ^ bytes'.length), Nat.mul_add_div pos, Nat.div_eq_of_lt less,
        Nat.div_eq_of_lt less', Nat.add_zero] at high
      simp only [Nat.mul_comm _ (256 ^ bytes'.length), Nat.mul_add_mod, Nat.mod_eq_of_lt less,
        Nat.mod_eq_of_lt less'] at low
      rw [UInt8.toNat_inj.mp high, ih length low]

/-- A fact about a byte is one about the numbers below 256. -/
theorem forall_byte {p : UInt8 → Prop} (h : ∀ n < 256, p (UInt8.ofNat n)) (byte : UInt8) : p byte := by
  have checked := h byte.toNat byte.toNat_lt
  rwa [UInt8.ofNat_toNat] at checked

/-! ## Writing in place -/

/-- Put `bytes` in place of as many from `pos` on. -/
def splice (buf : List UInt8) (pos : Nat) (bytes : List UInt8) : List UInt8 :=
  buf.take pos ++ bytes ++ buf.drop (pos + bytes.length)

theorem splice_middle {before old bytes after : List UInt8} (same : bytes.length = old.length) :
    splice (before ++ old ++ after) before.length bytes = before ++ bytes ++ after := by
  simp only [splice, List.append_assoc, List.take_left, same]
  rw [← List.drop_drop, List.drop_left, List.drop_left]

/-! ## Sums of words -/

/-- Add the sixteen-bit words of a buffer to a sum. A last odd byte is padded with a zero. -/
def sumWords : UInt32 → List UInt8 → UInt32
  | state, [] => state
  | state, [byte] => state + UInt32.ofNat (ofBe [byte, 0])
  | state, high :: low :: rest => sumWords (state + UInt32.ofNat (ofBe [high, low])) rest

/-- Two buffers are summed one after the other when no byte of the first is left alone. -/
theorem sumWords_append {state : UInt32} {bytes rest : List UInt8} (even : bytes.length % 2 = 0) :
    sumWords state (bytes ++ rest) = sumWords (sumWords state bytes) rest := by
  fun_induction sumWords state bytes with
  | case1 state => rfl
  | case2 state byte => simp only [List.length_singleton] at even; omega
  | case3 state high low more ih =>
    simp only [List.length_cons] at even
    exact ih (by omega)

/-- Two bytes are less than 65536. -/
theorem ofBe_pair_lt (high low : UInt8) : ofBe [high, low] < 65536 := by
  have h := high.toNat_lt
  have l := low.toNat_lt
  simp only [ofBe, List.foldl_cons, List.foldl_nil]
  omega

theorem toNat_add_ofNat {state : UInt32} {n : Nat} (room : state.toNat + n < 2 ^ 32) :
    (state + UInt32.ofNat n).toNat = state.toNat + n := by
  rw [UInt32.toNat_add, UInt32.toNat_ofNat', Nat.mod_eq_of_lt (show n < 2 ^ 32 by omega),
    Nat.mod_eq_of_lt room]

theorem toNat_add_word {state : UInt32} {high low : UInt8} (room : state.toNat + 0xffff < 2 ^ 32) :
    (state + UInt32.ofNat (ofBe [high, low])).toNat = state.toNat + ofBe [high, low] := by
  have word := ofBe_pair_lt high low
  exact toNat_add_ofNat (by omega)

/-- A sum that cannot wrap only grows. -/
theorem le_sumWords {state : UInt32} {bytes : List UInt8}
    (room : state.toNat + 0xffff * ((bytes.length + 1) / 2) < 2 ^ 32) :
    state ≤ sumWords state bytes := by
  fun_induction sumWords state bytes with
  | case1 state => exact UInt32.le_refl state
  | case2 state byte =>
    simp only [List.length_singleton] at room
    rw [UInt32.le_iff_toNat_le, toNat_add_word (by omega)]
    exact Nat.le_add_right _ _
  | case3 state high low rest ih =>
    simp only [List.length_cons] at room
    have word := ofBe_pair_lt high low
    have sum : (state + UInt32.ofNat (ofBe [high, low])).toNat = state.toNat + ofBe [high, low] :=
      toNat_add_word (by omega)
    have here : state ≤ state + UInt32.ofNat (ofBe [high, low]) := by
      rw [UInt32.le_iff_toNat_le, sum]
      exact Nat.le_add_right _ _
    exact UInt32.le_trans here (ih (by omega))

/-- The sum of the words of a buffer, as a number. -/
def wordSum : List UInt8 → Nat
  | [] => 0
  | [byte] => ofBe [byte, 0]
  | high :: low :: rest => ofBe [high, low] + wordSum rest

theorem wordSum_le (bytes : List UInt8) : wordSum bytes ≤ 0xffff * ((bytes.length + 1) / 2) := by
  fun_induction wordSum bytes with
  | case1 => exact Nat.zero_le _
  | case2 byte =>
    have word := ofBe_pair_lt byte 0
    simp only [List.length_singleton]
    omega
  | case3 high low rest ih =>
    have word := ofBe_pair_lt high low
    simp only [List.length_cons]
    omega

theorem wordSum_append {bytes : List UInt8} (rest : List UInt8) (even : bytes.length % 2 = 0) :
    wordSum (bytes ++ rest) = wordSum bytes + wordSum rest := by
  fun_induction wordSum bytes with
  | case1 => simp
  | case2 byte => simp only [List.length_singleton] at even; omega
  | case3 high low more ih =>
    simp only [List.length_cons] at even
    simp only [List.cons_append, wordSum]
    rw [ih (by omega), Nat.add_assoc]

/-- A sum that cannot wrap is the sum of the words. -/
theorem toNat_sumWords {state : UInt32} {bytes : List UInt8}
    (room : state.toNat + wordSum bytes < 2 ^ 32) :
    (sumWords state bytes).toNat = state.toNat + wordSum bytes := by
  fun_induction sumWords state bytes with
  | case1 state => rfl
  | case2 state byte => exact toNat_add_ofNat room
  | case3 state high low rest ih =>
    simp only [wordSum] at room ⊢
    have word : (state + UInt32.ofNat (ofBe [high, low])).toNat = state.toNat + ofBe [high, low] :=
      toNat_add_ofNat (by omega)
    rw [ih (by omega), word, Nat.add_assoc]

/-- Subtract `0xffff` as often as it fits, at most `n` times. -/
def reduce : Nat → UInt32 → UInt32
  | 0, state => state
  | n + 1, state => if 0xffff < state then reduce n (state - 0xffff) else state

/-- The low sixteen bits of the complement. -/
def complement (state : UInt32) : UInt16 := (~~~state).toUInt16

/-- The checksum a sum of words ends in. For any sum of 32 bits `65536` subtractions are enough. -/
def checksum (state : UInt32) : UInt16 := complement (reduce 65536 state)

/-- A sum that is not zero stays so. -/
theorem reduce_pos {n : Nat} {state : UInt32} (pos : 0 < state) : 0 < reduce n state := by
  induction n generalizing state with
  | zero => exact pos
  | succ n ih =>
    unfold reduce
    split
    next more =>
      apply ih
      rw [UInt32.lt_iff_toNat_lt] at more ⊢
      rw [UInt32.toNat_sub_of_le _ _ (UInt32.le_iff_toNat_le.mpr (Nat.le_of_lt more))]
      exact Nat.sub_pos_of_lt more
    next => exact pos

/-- A sum is reduced to sixteen bits when `0xffff` can be subtracted often enough. -/
theorem reduce_le {n : Nat} {state : UInt32} (enough : state.toNat ≤ 0xffff * (n + 1)) :
    (reduce n state).toNat ≤ 0xffff := by
  induction n generalizing state with
  | zero => exact enough
  | succ n ih =>
    unfold reduce
    split
    next more =>
      apply ih
      rw [UInt32.lt_iff_toNat_lt] at more
      rw [UInt32.toNat_sub_of_le _ _ (UInt32.le_iff_toNat_le.mpr (Nat.le_of_lt more))]
      change state.toNat - 0xffff ≤ _
      omega
    next less =>
      rw [UInt32.not_lt, UInt32.le_iff_toNat_le] at less
      exact less

/-- The complement of a reduced sum that is not zero is not all ones. -/
theorem complement_ne {state : UInt32} (pos : 0 < state) (small : state.toNat ≤ 0xffff) :
    complement state ≠ 0xffff := by
  intro all
  have value : (complement state).toNat = 0xffff := by rw [all]; rfl
  rw [UInt32.lt_iff_toNat_lt] at pos
  have pos : 0 < state.toNat := pos
  have complemented : (complement state).toNat = (UInt32.size - 1 - state.toNat) % 2 ^ 16 := by
    unfold complement
    rw [UInt32.toNat_toUInt16, UInt32.toNat_not]
  rw [UInt32.size] at complemented
  omega

/-- The checksum of a sum that is not zero is not all ones. -/
theorem checksum_ne {state : UInt32} (pos : 0 < state) : checksum state ≠ 0xffff := by
  have bound := state.toNat_lt
  exact complement_ne (reduce_pos pos) (reduce_le (by omega))

/-! ## RFC 1071

The one's complement sum of sixteen-bit words adds the carries back in. Starting from `0xffff` and
subtracting `0xffff` at the end gives the same number whenever some word is not zero, and the two differ
when all of them are.
-/

/-- The one's complement sum: what does not fit sixteen bits is added back in, until all of it fits. -/
def fold (sum : Nat) : Nat :=
  if sum ≤ 0xffff then sum else fold (sum % 65536 + sum / 65536)
termination_by sum
decreasing_by omega

theorem fold_eq {sum : Nat} (pos : 0 < sum) : fold sum = (sum - 1) % 0xffff + 1 := by
  fun_induction fold sum with
  | case1 sum small => omega
  | case2 sum large ih =>
    rw [ih (by omega)]
    omega

theorem fold_le {sum : Nat} (pos : 0 < sum) : fold sum ≤ 0xffff := by
  rw [fold_eq pos]
  omega

theorem fold_pos {sum : Nat} (pos : 0 < sum) : 0 < fold sum := by
  rw [fold_eq pos]
  omega

/-- A word of all ones is another zero of the one's complement sum. -/
theorem fold_allOnes {sum : Nat} (pos : 0 < sum) : fold (sum + 0xffff) = fold sum := by
  rw [fold_eq pos, fold_eq (by omega)]
  omega

theorem toNat_reduce {n : Nat} {state : UInt32} (pos : 0 < state.toNat)
    (enough : state.toNat ≤ 0xffff * (n + 1)) :
    (reduce n state).toNat = (state.toNat - 1) % 0xffff + 1 := by
  induction n generalizing state with
  | zero =>
    change state.toNat = _
    omega
  | succ n ih =>
    unfold reduce
    split
    next more =>
      rw [UInt32.lt_iff_toNat_lt] at more
      have less : (state - 0xffff).toNat = state.toNat - 0xffff :=
        UInt32.toNat_sub_of_le _ _ (UInt32.le_iff_toNat_le.mpr (Nat.le_of_lt more))
      have more : 0xffff < state.toNat := more
      rw [ih (by omega) (by omega), less]
      omega
    next small =>
      rw [UInt32.not_lt, UInt32.le_iff_toNat_le] at small
      have small : state.toNat ≤ 0xffff := small
      omega

/-- The checksum of a sum that began with `0xffff` is the complement of the one's complement sum. -/
theorem toNat_checksum {state : UInt32} {sum : Nat} (pos : 0 < sum)
    (summed : state.toNat = 0xffff + sum) : (checksum state).toNat = 0xffff - fold sum := by
  have bound := state.toNat_lt
  have reduced : (reduce 65536 state).toNat = (state.toNat - 1) % 0xffff + 1 :=
    toNat_reduce (by omega) (by omega)
  have complemented : (checksum state).toNat =
      (UInt32.size - 1 - (reduce 65536 state).toNat) % 2 ^ 16 := by
    unfold checksum complement
    rw [UInt32.toNat_toUInt16, UInt32.toNat_not]
  rw [UInt32.size] at complemented
  rw [complemented, reduced, fold_eq pos, summed]
  omega

/-- A checksum as RFC 1071 has it, of the bytes before and after its own two: the complement of the one's
complement sum with zeros in its place, computed without a carry out of 32 bits and never all ones; and
any other field but all ones is that checksum exactly if the sum with the field is all ones. -/
structure Checks (front back : List UInt8) (sum : UInt16) : Prop where
  value : sum.toNat = 0xffff - fold (wordSum (front ++ [0, 0] ++ back))
  fits : 0xffff + wordSum (front ++ [0, 0] ++ back) < 2 ^ 32
  notAllOnes : sum ≠ 0xffff
  verifies : ∀ high low : UInt8, ofBe [high, low] ≠ 0xffff →
    (ofBe [high, low] = sum.toNat ↔ fold (wordSum (front ++ [high, low] ++ back)) = 0xffff)

/-- The sum with a field in the checksum's place. -/
theorem wordSum_field {front : List UInt8} (back : List UInt8) (even : front.length % 2 = 0)
    (high low : UInt8) :
    wordSum (front ++ [high, low] ++ back) = wordSum front + wordSum back + ofBe [high, low] := by
  rw [List.append_assoc, wordSum_append _ even, List.cons_append, List.cons_append, List.nil_append,
    wordSum]
  omega

/-- A sum that begins with `0xffff` ends in the checksum of its words, if one of them is not zero. -/
theorem checks_of_sum {front back : List UInt8} (even : front.length % 2 = 0)
    (pos : 0 < wordSum front + wordSum back)
    (fits : 0xffff + (wordSum front + wordSum back) < 2 ^ 32) :
    Checks front back (checksum (sumWords 0xffff (front ++ back))) := by
  have zero : wordSum (front ++ [0, 0] ++ back) = wordSum front + wordSum back :=
    wordSum_field back even 0 0
  have summed : (sumWords 0xffff (front ++ back)).toNat = 0xffff + (wordSum front + wordSum back) := by
    rw [← wordSum_append back even] at fits ⊢
    exact toNat_sumWords fits
  have value := toNat_checksum pos summed
  refine ⟨?_, ?_, ?_, ?_⟩
  · rw [zero]
    exact value
  · rw [zero]
    exact fits
  · intro all
    rw [all, fold_eq pos] at value
    change 0xffff = _ at value
    omega
  · intro high low other
    have word := ofBe_pair_lt high low
    rw [wordSum_field back even, fold_eq (by omega), value, fold_eq pos]
    omega

end Bytes
