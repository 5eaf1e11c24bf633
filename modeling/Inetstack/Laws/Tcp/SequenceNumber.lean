import Mathlib.Data.Int.Cast.Defs
import Mathlib.Algebra.Ring.Int.Defs
import Mathlib.Tactic.Ring
import Inetstack.Tcp.SequenceNumber

/-!
# Laws of sequence numbers

Sequence numbers are a commutative group under the source's addition and subtraction, with a one, so
lengths can be cast into it. Each comparison is read off the natural number of the wrapped
difference: below `2 ^ 31` the first number is at or after the second, from `2 ^ 31` on before it.

The comparisons are not transitive. Counted from a base, though, the numbers of the half of the circle
that follows it are natural numbers below `2 ^ 31`, and on these the comparisons are the usual ones. A
window is shorter than half the circle, so the numbers at or after its start and before its end are those
in it.
-/

namespace Inetstack.Tcp.SeqNumber

/-- A sequence number is its 32 bits. -/
theorem value_injective : Function.Injective SeqNumber.value := by
  rintro ⟨a⟩ ⟨b⟩ h
  exact congrArg SeqNumber.mk h

instance : Zero SeqNumber := ⟨⟨0⟩⟩

instance : One SeqNumber := ⟨⟨1⟩⟩

instance : Neg SeqNumber := ⟨fun a => ⟨-a.value⟩⟩

instance : SMul Nat SeqNumber := ⟨fun n a => ⟨n • a.value⟩⟩

instance : SMul Int SeqNumber := ⟨fun n a => ⟨n • a.value⟩⟩

/-- Sequence numbers are the integers modulo `2 ^ 32`, and what Mathlib knows of groups is used of them. -/
instance : AddCommGroup SeqNumber :=
  Function.Injective.addCommGroup SeqNumber.value value_injective rfl (fun _ _ => rfl)
    (fun _ => rfl) (fun _ _ => rfl) (fun _ _ => rfl) (fun _ _ => rfl)

instance : AddCommMonoidWithOne SeqNumber where
  natCast := ofLen
  natCast_zero := rfl
  natCast_succ n := congrArg SeqNumber.mk (UInt32.ofNat_add n 1)

/-- The offset of a length is its cast. -/
@[simp] theorem ofLen_eq_cast (n : Nat) : ofLen n = (n : SeqNumber) := rfl

@[simp] theorem mk_one : SeqNumber.mk 1 = 1 := rfl

theorem toNat_lt (a : SeqNumber) : a.toNat < 2 ^ 32 := a.value.toNat_lt

theorem toNat_inj {a b : SeqNumber} : a.toNat = b.toNat ↔ a = b :=
  ⟨fun h => value_injective (UInt32.toNat_inj.mp h), fun h => by rw [h]⟩

theorem toNat_add (a b : SeqNumber) : (a + b).toNat = (a.toNat + b.toNat) % 2 ^ 32 :=
  UInt32.toNat_add a.value b.value

/-- Distances wrap around. -/
theorem toNat_sub (a b : SeqNumber) :
    (a - b).toNat = (2 ^ 32 - b.toNat + a.toNat) % 2 ^ 32 :=
  UInt32.toNat_sub a.value b.value

theorem toNat_cast (n : Nat) : (n : SeqNumber).toNat = n % 2 ^ 32 := UInt32.toNat_ofNat'

@[simp] theorem toNat_zero : (0 : SeqNumber).toNat = 0 := rfl

@[simp] theorem toNat_one : (1 : SeqNumber).toNat = 1 := rfl

@[simp] theorem toNat_mk (x : UInt32) : (SeqNumber.mk x).toNat = x.toNat := rfl

theorem cast_toNat (a : SeqNumber) : (a.toNat : SeqNumber) = a := by
  rw [← toNat_inj, toNat_cast, Nat.mod_eq_of_lt a.toNat_lt]

/-- The difference of two lengths. -/
theorem toNat_cast_sub_cast {a b : Nat} (ha : a < 2 ^ 32) (hb : b < 2 ^ 32) :
    ((a : SeqNumber) - (b : SeqNumber)).toNat = if b ≤ a then a - b else 2 ^ 32 - b + a := by
  rw [toNat_sub, toNat_cast, toNat_cast, Nat.mod_eq_of_lt ha, Nat.mod_eq_of_lt hb]
  split <;> omega

/-- A number is another one advanced by the distance between them. -/
theorem eq_add_distance (a b : SeqNumber) : a = b + ((a - b).toNat : SeqNumber) := by
  rw [cast_toNat, add_sub_cancel]

/-- A number below `2 ^ 31` is a non-negative signed integer, any other a negative one. -/
theorem toInt_toInt32 (x : UInt32) :
    x.toInt32.toInt =
      if x.toNat < 2 ^ 31 then (x.toNat : Int) else (x.toNat : Int) - 4294967296 := by
  change x.toBitVec.toInt = _
  rw [BitVec.toInt_eq_toNat_cond]
  have := x.toNat_lt
  change (if 2 * x.toNat < 2 ^ 32 then (x.toNat : Int) else _) = _
  split <;> split <;> first | rfl | omega

/-- The signed difference that every comparison looks at. -/
theorem toInt_signed_sub (a b : SeqNumber) :
    (a.value - b.value).toInt32.toInt =
      if (a - b).toNat < 2 ^ 31 then ((a - b).toNat : Int) else ((a - b).toNat : Int) - 4294967296 :=
  toInt_toInt32 (a.value - b.value)

/-- `a` is before `b` if it is at most half the circle behind it. At exactly half either is before the
other. -/
theorem lt_iff (a b : SeqNumber) : a.lt b = true ↔ 2 ^ 31 ≤ (a - b).toNat := by
  have bound := (a - b).toNat_lt
  rw [lt, decide_eq_true_eq, Int32.lt_iff_toInt_lt, toInt_signed_sub, Int32.toInt_zero]
  split <;> omega

theorem lt_irrefl (a : SeqNumber) : a.lt a = false := by
  rw [Bool.eq_false_iff, Ne, lt_iff, sub_self]
  exact Nat.not_le.mpr (Nat.two_pow_pos 31)

/-- Equal, or before. -/
theorem le_iff (a b : SeqNumber) :
    a.le b = true ↔ (a - b).toNat = 0 ∨ 2 ^ 31 ≤ (a - b).toNat := by
  have bound := (a - b).toNat_lt
  rw [le, decide_eq_true_eq, Int32.le_iff_toInt_le, toInt_signed_sub, Int32.toInt_zero]
  split <;> omega

/-- `>` is not the converse of `<` half a circle away: there `a - b` has its top bit set both ways. -/
theorem gt_iff (a b : SeqNumber) : a.gt b = true ↔ 0 < (a - b).toNat ∧ (a - b).toNat < 2 ^ 31 := by
  have bound := (a - b).toNat_lt
  rw [gt, decide_eq_true_eq, gt_iff_lt, Int32.lt_iff_toInt_lt, toInt_signed_sub, Int32.toInt_zero]
  split <;> omega

/-- Not before. -/
theorem ge_iff (a b : SeqNumber) : a.ge b = true ↔ (a - b).toNat < 2 ^ 31 := by
  have bound := (a - b).toNat_lt
  rw [ge, decide_eq_true_eq, ge_iff_le, Int32.le_iff_toInt_le, toInt_signed_sub, Int32.toInt_zero]
  split <;> omega

/-! ## Numbers counted from a base -/

section Base

variable {b x y : SeqNumber}

/-- A difference is that of the distances from any base. -/
theorem toNat_sub_eq_from (b x y : SeqNumber) :
    (x - y).toNat = (2 ^ 32 - (y - b).toNat + (x - b).toNat) % 2 ^ 32 := by
  rw [← sub_sub_sub_cancel_right x y b, toNat_sub]

/-- From a number `b` that neither `x` nor `y` is half a circle past, order is that of the distances from
`b`. -/
theorem lt_iff_from (hx : (x - b).toNat < 2 ^ 31) (hy : (y - b).toNat < 2 ^ 31) :
    x.lt y = true ↔ (x - b).toNat < (y - b).toNat := by
  rw [lt_iff, toNat_sub_eq_from b]
  omega

theorem le_iff_from (hx : (x - b).toNat < 2 ^ 31) (hy : (y - b).toNat < 2 ^ 31) :
    x.le y = true ↔ (x - b).toNat ≤ (y - b).toNat := by
  rw [le_iff, toNat_sub_eq_from b]
  omega

theorem gt_iff_from (hx : (x - b).toNat < 2 ^ 31) (hy : (y - b).toNat < 2 ^ 31) :
    x.gt y = true ↔ (x - b).toNat > (y - b).toNat := by
  rw [gt_iff, toNat_sub_eq_from b]
  omega

theorem ge_iff_from (hx : (x - b).toNat < 2 ^ 31) (hy : (y - b).toNat < 2 ^ 31) :
    x.ge y = true ↔ (x - b).toNat ≥ (y - b).toNat := by
  rw [ge_iff, toNat_sub_eq_from b]
  omega

/-- And the distance between the two is the difference of the distances. -/
theorem toNat_sub_from (hx : (x - b).toNat < 2 ^ 31) (le : (y - b).toNat ≤ (x - b).toNat) :
    (x - y).toNat = (x - b).toNat - (y - b).toNat := by
  rw [toNat_sub_eq_from b]
  omega

/-- As long as nothing wraps around, a step from `x` is a step further from `b`. -/
theorem toNat_add_from {n : Nat} (near : (x - b).toNat + n < 2 ^ 32) :
    (x + (n : SeqNumber) - b).toNat = (x - b).toNat + n := by
  rw [add_sub_right_comm, toNat_add, toNat_cast]
  omega

/-- The distance from `b` names the number. -/
theorem eq_of_from (same : (x - b).toNat = (y - b).toNat) : x = y :=
  sub_left_inj.mp (toNat_inj.mp same)

/-- A base advanced by less than half the circle is at that distance from it. -/
theorem toNat_offset (b : SeqNumber) {i : Nat} (hi : i < 2 ^ 31) : (b + (i : SeqNumber) - b).toNat = i := by
  rw [add_sub_cancel_left, toNat_cast]
  omega

end Base

/-! ## Windows -/

section Window

variable {r x : SeqNumber} {W : Nat}

/-- The numbers of the window of length `W` from `r` on. -/
def InWindow (r : SeqNumber) (W : Nat) (x : SeqNumber) : Prop := ∃ k < W, x = r + (k : SeqNumber)

/-- Being in a window is a comparison of one distance with its size. -/
theorem inWindow_iff (small : W ≤ 2 ^ 32) : InWindow r W x ↔ (x - r).toNat < W := by
  constructor
  · rintro ⟨k, less, rfl⟩
    rw [add_sub_cancel_left, toNat_cast]
    omega
  · intro less
    exact ⟨(x - r).toNat, less, eq_add_distance x r⟩

/-- A number is at or after another up to the one half the circle ahead of it. -/
theorem le_iff_distance : r.le x = true ↔ (x - r).toNat ≤ 2 ^ 31 := by
  have bound := (x - r).toNat_lt
  rw [le_iff, toNat_sub_eq_from r, sub_self, toNat_zero]
  omega

/-- Before the end of a window. -/
theorem lt_add_iff : x.lt (r + (W : SeqNumber)) = true ↔ 2 ^ 31 ≤ ((x - r) - (W : SeqNumber)).toNat := by
  rw [lt_iff, sub_add_eq_sub_sub]

/-- For a number from the left edge on, the window test of the code is membership, if the window is smaller
than half the circle. -/
theorem lt_window_iff (from_ : r.le x = true) (some_ : 1 ≤ W) (small : W ≤ 2 ^ 31 - 1) :
    x.lt (r + (W : SeqNumber)) = true ↔ InWindow r W x := by
  rw [le_iff_distance] at from_
  rw [lt_add_iff, inWindow_iff (by omega), toNat_sub, toNat_cast]
  omega

end Window

/-! ## Offsets -/

/-- All four comparisons follow the offsets from any base, within half a circle. -/
theorem offsets_ordered (b : SeqNumber) {i j : Nat} (hi : i < 2 ^ 31) (hj : j < 2 ^ 31) :
    ((b + (i : SeqNumber)).lt (b + (j : SeqNumber)) = true ↔ i < j) ∧
      ((b + (i : SeqNumber)).le (b + (j : SeqNumber)) = true ↔ i ≤ j) ∧
      ((b + (i : SeqNumber)).gt (b + (j : SeqNumber)) = true ↔ i > j) ∧
      ((b + (i : SeqNumber)).ge (b + (j : SeqNumber)) = true ↔ i ≥ j) := by
  have fromI := toNat_offset b hi
  have fromJ := toNat_offset b hj
  have nearI : (b + (i : SeqNumber) - b).toNat < 2 ^ 31 := by rwa [fromI]
  have nearJ : (b + (j : SeqNumber) - b).toNat < 2 ^ 31 := by rwa [fromJ]
  rw [lt_iff_from nearI nearJ, le_iff_from nearI nearJ, gt_iff_from nearI nearJ, ge_iff_from nearI nearJ,
    fromI, fromJ]
  exact ⟨Iff.rfl, Iff.rfl, Iff.rfl, Iff.rfl⟩

/-- The difference of two offsets comes back modulo `2 ^ 32`. -/
theorem offsets_distance (b : SeqNumber) (i j : Nat) :
    ((b + (j : SeqNumber) - (b + (i : SeqNumber))).toNat : Int) = ((j : Int) - i) % 2 ^ 32 := by
  rw [add_sub_add_left_eq_sub, toNat_sub, toNat_cast, toNat_cast]
  omega

/-- **The comparisons of sequence numbers are the order of windows.** Offsets below `2 ^ 31` from any base
compare as they do as numbers, with their difference as the distance; and of the numbers at or after the start
of a window, those before its end are the ones in it. -/
theorem comparison_is_window_order (b r x : SeqNumber) {i j W : Nat} (hi : i < 2 ^ 31) (hj : j < 2 ^ 31)
    (some_ : 1 ≤ W) (small : W ≤ 2 ^ 31 - 1) (from_ : r.le x = true) :
    (((b + (i : SeqNumber)).lt (b + (j : SeqNumber)) = true ↔ i < j) ∧
      ((b + (i : SeqNumber)).le (b + (j : SeqNumber)) = true ↔ i ≤ j) ∧
      ((b + (i : SeqNumber)).gt (b + (j : SeqNumber)) = true ↔ i > j) ∧
      ((b + (i : SeqNumber)).ge (b + (j : SeqNumber)) = true ↔ i ≥ j)) ∧
    ((b + (j : SeqNumber) - (b + (i : SeqNumber))).toNat : Int) = ((j : Int) - i) % 2 ^ 32 ∧
    (x.lt (r + (W : SeqNumber)) = true ↔ InWindow r W x) :=
  ⟨offsets_ordered b hi hj, offsets_distance b i j, lt_window_iff from_ some_ small⟩

/-- The base two before the wrap, with the offsets 1 and 5, and a window of four numbers that ends after
it. -/
theorem comparison_is_window_order_wrapping :
    SeqNumber.lt ⟨0xffffffff⟩ ⟨3⟩ = true ∧ InWindow ⟨0xfffffffe⟩ 4 ⟨1⟩ := by
  obtain ⟨⟨before, -⟩, -, window⟩ := comparison_is_window_order ⟨0xfffffffe⟩ ⟨0xfffffffe⟩ ⟨1⟩
    (i := 1) (j := 5) (W := 4) (by decide) (by decide) (by decide) (by decide) (by decide)
  exact ⟨before.mpr (by decide), window.mp (by decide)⟩

/-- What the test of the wrap-around asserts of a few numbers holds of all: each one is before the next, and
before the one half the circle ahead, and after the one behind that. -/
theorem wrap_around (current : SeqNumber) :
    current.lt (current + 1) = true ∧ current.lt (current + ⟨0x80000000⟩) = true ∧
      current.gt (current + 1 + ⟨0x80000000⟩) = true := by
  have next : current - (current + 1) = ⟨0xffffffff⟩ := by
    rw [sub_add_cancel_left]
    rfl
  have half : current - (current + ⟨0x80000000⟩) = ⟨0x80000000⟩ := by
    rw [sub_add_cancel_left]
    rfl
  have behind : current - (current + 1 + ⟨0x80000000⟩) = ⟨0x7fffffff⟩ := by
    rw [add_assoc, sub_add_cancel_left]
    rfl
  rw [lt_iff, lt_iff, gt_iff, next, half, behind]
  decide

end Inetstack.Tcp.SeqNumber
