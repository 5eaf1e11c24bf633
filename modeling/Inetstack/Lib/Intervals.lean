import Mathlib.Order.Bounds.Basic

/-!
# Lists of intervals

An item `x` occupies the `len x` numbers from `first x` on. A list of items is apart when each of them
ends before the next one begins. Draining takes off the front the items that follow one another from a
number on; if no item begins before that number, it ends at the first number no item covers. The numbers
that a list covers do not depend on the order of its items, and an item put in or taken out brings or takes
its own.
-/

namespace Intervals

universe u

variable {α : Type u} (first len : α → Nat)

/-- Each item ends before the later ones begin. -/
def Apart (l : List α) : Prop := l.Pairwise fun x y => first x + len x ≤ first y

/-- The item occupies the number. -/
def Covers (x : α) (n : Nat) : Prop := first x ≤ n ∧ n < first x + len x

/-- The numbers the items of a list occupy. -/
def covered (l : List α) : Set Nat := {n | ∃ x ∈ l, Covers first len x n}

/-- Take off the items that follow one another from `n` on. -/
def drain : Nat → List α → Nat × List α
  | n, [] => (n, [])
  | n, x :: l => if first x = n then drain (n + len x) l else (n, x :: l)

variable {first len} {l : List α} {n : Nat}

theorem mem_covered_singleton {x : α} : n ∈ covered first len [x] ↔ Covers first len x n := by
  simp [covered]

theorem covered_insertIdx {i : Nat} (inRange : i ≤ l.length) (x : α) :
    covered first len (l.insertIdx i x) = covered first len l ∪ covered first len [x] := by
  ext n
  simp only [covered, Set.mem_ofPred_eq, Set.mem_union, List.mem_insertIdx inRange, List.mem_singleton,
    or_and_right, exists_or, exists_eq_left]
  exact or_comm

/-- An item that is not the one taken out is still there. -/
theorem mem_eraseIdx_of_ne {i : Nat} {x y : α} (there : l[i]? = some x) (member : y ∈ l) (other : y ≠ x) :
    y ∈ l.eraseIdx i := by
  obtain ⟨j, at_⟩ := List.mem_iff_getElem?.mp member
  refine List.mem_eraseIdx_iff_getElem?.mpr ⟨j, ?_, at_⟩
  rintro rfl
  exact other (Option.some.inj (at_.symm.trans there))

theorem covered_eraseIdx {i : Nat} {x : α} (there : l[i]? = some x) :
    covered first len l = covered first len (l.eraseIdx i) ∪ covered first len [x] := by
  ext n
  rw [Set.mem_union, mem_covered_singleton]
  constructor
  · rintro ⟨y, member, covers⟩
    by_cases same : y = x
    · rw [same] at covers
      exact .inr covers
    · exact .inl ⟨y, mem_eraseIdx_of_ne there member same, covers⟩
  · rintro (⟨y, member, covers⟩ | covers)
    · exact ⟨y, List.mem_of_mem_eraseIdx member, covers⟩
    · exact ⟨x, List.mem_of_getElem? there, covers⟩

/-- A list that is apart is sorted. -/
theorem Apart.sorted (apart : Apart first len l) : l.Pairwise fun x y => first x ≤ first y :=
  apart.imp fun ends => (Nat.le_add_right _ _).trans ends

/-- Where a condition holds of every item before one it holds of, it holds of a first part of the list
and of nothing after that. -/
theorem exists_split {p : α → Prop} (down : l.Pairwise fun x y => p y → p x) :
    ∃ l₁ l₂, l = l₁ ++ l₂ ∧ (∀ x ∈ l₁, p x) ∧ ∀ x ∈ l₂, ¬p x := by
  induction l with
  | nil => exact ⟨[], [], rfl, by simp, by simp⟩
  | cons x l ih =>
    obtain ⟨head, tail⟩ := List.pairwise_cons.mp down
    by_cases here : p x
    · obtain ⟨l₁, l₂, rfl, yes, no⟩ := ih tail
      refine ⟨x :: l₁, l₂, rfl, ?_, no⟩
      intro y member
      obtain rfl | member := List.mem_cons.mp member
      · exact here
      · exact yes y member
    · refine ⟨[], x :: l, rfl, by simp, ?_⟩
      intro y member
      obtain rfl | member := List.mem_cons.mp member
      · exact here
      · exact fun later => here (head y member later)

/-- **Where a drain ends**: at the first number from `n` on that no item covers, with every item that is
left beyond it. -/
theorem drain_isLeast (apart : Apart first len l) (beyond : ∀ x ∈ l, n ≤ first x) :
    IsLeast {m | n ≤ m ∧ ∀ x ∈ l, ¬Covers first len x m} (drain first len n l).1 ∧
      ∀ x ∈ (drain first len n l).2, (drain first len n l).1 < first x := by
  induction l generalizing n with
  | nil => exact ⟨⟨⟨le_refl n, by simp⟩, fun m reached => reached.1⟩, by simp [drain]⟩
  | cons x l ih =>
    obtain ⟨head, tail⟩ := List.pairwise_cons.mp apart
    have here := beyond x List.mem_cons_self
    unfold drain
    by_cases follows : first x = n
    · rw [if_pos follows]
      obtain ⟨⟨⟨reached, uncovered⟩, least⟩, left⟩ := ih (n := n + len x) tail fun y member => by
        have := head y member
        omega
      refine ⟨⟨⟨by omega, ?_⟩, ?_⟩, left⟩
      · intro y member covers
        obtain rfl | member := List.mem_cons.mp member
        · have := covers.2
          omega
        · exact uncovered y member covers
      · intro m ⟨after, free⟩
        have past : n + len x ≤ m := by
          by_contra short
          exact free x List.mem_cons_self ⟨by omega, by omega⟩
        exact least ⟨past, fun y member => free y (List.mem_cons_of_mem x member)⟩
    · rw [if_neg follows]
      have later : ∀ y ∈ x :: l, n < first y := by
        intro y member
        obtain rfl | member := List.mem_cons.mp member
        · omega
        · have := head y member
          omega
      refine ⟨⟨⟨le_refl n, ?_⟩, fun m reached => reached.1⟩, later⟩
      intro y member covers
      exact absurd covers.1 (Nat.not_le.mpr (later y member))

/-- A list with an item that begins before `n` is left as it is. -/
theorem drain_of_lt (apart : Apart first len l) {x : α} (member : x ∈ l) (before : first x < n) :
    drain first len n l = (n, l) := by
  cases l with
  | nil => rfl
  | cons y l =>
    have sorted := (List.pairwise_cons.mp apart.sorted).1
    have ne : first y ≠ n := by
      obtain rfl | member := List.mem_cons.mp member
      · omega
      · have := sorted x member
        omega
    unfold drain
    rw [if_neg ne]

end Intervals
