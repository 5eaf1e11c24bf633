import Mathlib.Data.Nat.Cast.Defs
import Mathlib.Data.List.Infix

/-!
# Labelled lists

A list is placed at a label: its first element stands there, and each further element at the label
after the one before it. `Labelled allows start xs` says that every element may stand where it
stands. The labels are any additive monoid with a one; they may wrap around.

The rules say how the placing composes: appending continues at the label after the last element,
dropping moves the start, taking keeps it, and a weaker relation is kept. The last part reads a
labelled list back: a list that agrees with a stream wherever the stream has an element, and avoids
the position just past the stream's end, is a prefix of the stream.
-/

universe u v

/-- Every element may stand where it stands. -/
def Labelled {ι : Type u} {β : Type v} [Add ι] [One ι] (allows : ι → β → Prop) :
    ι → List β → Prop
  | _, [] => True
  | start, b :: bs => allows start b ∧ Labelled allows (start + 1) bs

namespace Labelled

variable {ι : Type u} {β : Type v} [AddMonoidWithOne ι] {allows allows' : ι → β → Prop}

@[simp] theorem nil (start : ι) : Labelled allows start [] := trivial

/-- Appending continues at the label after the last element. -/
theorem append_iff {start : ι} {xs ys : List β} :
    Labelled allows start (xs ++ ys) ↔
      Labelled allows start xs ∧ Labelled allows (start + xs.length) ys := by
  induction xs generalizing start with
  | nil => simp only [List.nil_append, nil, List.length_nil, Nat.cast_zero, add_zero, true_and]
  | cons x xs ih =>
    have shift : start + 1 + (xs.length : ι) = start + ((x :: xs).length : ι) := by
      rw [List.length_cons, Nat.cast_succ, add_assoc, ← Nat.cast_one, ← Nat.cast_add,
        ← Nat.cast_add, Nat.add_comm 1]
    simp only [List.cons_append, Labelled, ih, shift, and_assoc]

theorem append {start : ι} {xs ys : List β} (hx : Labelled allows start xs)
    (hy : Labelled allows (start + xs.length) ys) : Labelled allows start (xs ++ ys) :=
  append_iff.mpr ⟨hx, hy⟩

/-- Dropping from the front moves the start. -/
theorem drop {start : ι} {xs : List β} (h : Labelled allows start xs) {n : Nat}
    (hn : n ≤ xs.length) : Labelled allows (start + n) (xs.drop n) := by
  rw [← List.take_append_drop n xs, append_iff, List.length_take, Nat.min_eq_left hn] at h
  exact h.2

/-- Taking from the front keeps the start. -/
theorem take {start : ι} {xs : List β} (h : Labelled allows start xs) (n : Nat) :
    Labelled allows start (xs.take n) := by
  rw [← List.take_append_drop n xs, append_iff] at h
  exact h.1

/-- A weaker relation is kept. -/
theorem mono (weaker : ∀ x b, allows x b → allows' x b) {start : ι} {xs : List β}
    (h : Labelled allows start xs) : Labelled allows' start xs := by
  induction xs generalizing start with
  | nil => trivial
  | cons x xs ih => exact ⟨weaker _ _ h.1, ih h.2⟩

/-- The element at an index stands at the start advanced by the index. -/
theorem get {start : ι} {xs : List β} (h : Labelled allows start xs) {i : Nat} {b : β}
    (hi : xs[i]? = some b) : allows (start + i) b := by
  obtain ⟨hlt, hb⟩ := List.getElem?_eq_some_iff.mp hi
  have hd := h.drop hlt.le
  rw [List.drop_eq_getElem_cons hlt, hb] at hd
  exact hd.1

/-- A list is labelled when each element may stand at its index. -/
theorem of_get {start : ι} {xs : List β}
    (h : ∀ (i : Nat) (b : β), xs[i]? = some b → allows (start + i) b) : Labelled allows start xs := by
  induction xs generalizing start with
  | nil => trivial
  | cons x xs ih =>
    refine ⟨by simpa only [Nat.cast_zero, add_zero] using h 0 x rfl, ih ?_⟩
    intro i b hb
    have := h (i + 1) b hb
    rwa [Nat.add_comm, Nat.cast_add, Nat.cast_one, ← add_assoc] at this

end Labelled

/-- A list that agrees with a stream wherever the stream has an element, and has no element just
past the stream's end, is a prefix of the stream. -/
theorem prefix_of_agrees {β : Type v} {xs stream : List β}
    (h : ∀ i b, xs[i]? = some b → i ≤ stream.length → stream[i]? = some b) :
    xs <+: stream := by
  have hlen : xs.length ≤ stream.length := by
    by_contra hlt
    have hx : xs[stream.length]? = some (xs[stream.length]) :=
      List.getElem?_eq_getElem (by omega)
    have := h _ _ hx le_rfl
    rw [List.getElem?_eq_none le_rfl] at this
    cases this
  rw [List.prefix_iff_getElem?]
  intro i hi
  exact h i _ (List.getElem?_eq_getElem hi) (by omega)
