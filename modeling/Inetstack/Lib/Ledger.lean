import Mathlib.Data.List.Basic

/-!
# Ledgers of items that each come to one end

A ledger has an entry for each item it was given, in order, and an entry is open until its item comes to
its end. `settle` closes some of the open entries, counted from the first. The lemmas say what it does to
a ledger that is cut into entries that are closed and entries that are open; `Grows` says that entries
are only added at the end, and that a closed one stays as it is.
-/

namespace Ledger

universe u v

variable {α : Type u} {φ : Type v}

/-- An item, with what has become of it, if it is over. -/
structure Entry (α : Type u) (φ : Type v) where
  item : α
  fate : Option φ

/-- The entry of an item that has not come to its end. -/
def opened (item : α) : Entry α φ := ⟨item, none⟩

def closed (fate : φ) (item : α) : Entry α φ := ⟨item, some fate⟩

/-- Close `count` open entries, after the first `skip` of them. -/
def settle (fate : φ) : Nat → Nat → List (Entry α φ) → List (Entry α φ)
  | _, _, [] => []
  | skip, count, ⟨item, some old⟩ :: rest => ⟨item, some old⟩ :: settle fate skip count rest
  | skip + 1, count, ⟨item, none⟩ :: rest => ⟨item, none⟩ :: settle fate skip count rest
  | 0, count + 1, ⟨item, none⟩ :: rest => closed fate item :: settle fate 0 count rest
  | 0, 0, ⟨item, none⟩ :: rest => ⟨item, none⟩ :: rest

variable {fate : φ} {skip count : Nat} {ledger ledger' : List (Entry α φ)}

/-- Entries that are closed are passed over. -/
theorem settle_append {done rest : List (Entry α φ)} (ended : ∀ entry ∈ done, entry.fate ≠ none) :
    settle fate skip count (done ++ rest) = done ++ settle fate skip count rest := by
  induction done with
  | nil => rfl
  | cons entry done ih =>
    obtain ⟨item, old⟩ := entry
    cases old with
    | none => exact (ended _ List.mem_cons_self rfl).elim
    | some old =>
      rw [List.cons_append, List.cons_append, settle]
      rw [ih fun entry member => ended entry (List.mem_cons_of_mem _ member)]

/-- The entries that are skipped stay open. -/
theorem settle_skip (items : List α) (rest : List (Entry α φ)) :
    settle fate items.length count (items.map opened ++ rest) =
      items.map opened ++ settle fate 0 count rest := by
  induction items with
  | nil => rfl
  | cons item items ih => exact congrArg (opened item :: ·) ih

/-- The first open entry is the first to be closed. -/
theorem settle_first (item : α) (rest : List (Entry α φ)) :
    settle fate 0 (count + 1) (opened item :: rest) = closed fate item :: settle fate 0 count rest := rfl

theorem settle_zero (ledger : List (Entry α φ)) : settle fate 0 0 ledger = ledger := by
  induction ledger with
  | nil => rfl
  | cons entry rest ih =>
    obtain ⟨item, old⟩ := entry
    cases old with
    | none => rfl
    | some old => rw [settle, ih]

/-- Of entries that are all open, the first ones are closed. -/
theorem settle_opened (items : List α) :
    settle fate 0 count (items.map opened) =
      (items.take count).map (closed fate) ++ (items.drop count).map opened := by
  induction items generalizing count with
  | nil => simp [settle]
  | cons item rest ih =>
    cases count with
    | zero => rw [settle_zero]; rfl
    | succ count => rw [List.map_cons, settle_first, ih]; rfl

/-- Closing entries changes no item. -/
theorem map_item_settle (fate : φ) (skip count : Nat) (ledger : List (Entry α φ)) :
    (settle fate skip count ledger).map Entry.item = ledger.map Entry.item := by
  fun_induction settle fate skip count ledger with
  | case1 => rfl
  | case2 skip count item old rest ih => rw [List.map_cons, List.map_cons, ih]
  | case3 count skip item rest ih => rw [List.map_cons, List.map_cons, ih]
  | case4 count item rest ih =>
    rw [List.map_cons, List.map_cons, ih]
    rfl
  | case5 item rest => rfl

/-! ## Entries over time -/

/-- An entry at two times: the same item, and the same fate if it had one. -/
def Later (entry entry' : Entry α φ) : Prop :=
  entry'.item = entry.item ∧ (entry.fate ≠ none → entry' = entry)

theorem Later.refl (entry : Entry α φ) : Later entry entry := ⟨rfl, fun _ => rfl⟩

/-- What is over stays over. -/
theorem Later.trans {e e' e'' : Entry α φ} (h : Later e e') (h' : Later e' e'') : Later e e'' := by
  refine ⟨h'.1.trans h.1, fun ended => ?_⟩
  have same := h.2 ended
  rw [same] at h'
  exact h'.2 ended

/-- Entries are only added at the end, and each that was there is the same item's. -/
def Grows (ledger ledger' : List (Entry α φ)) : Prop :=
  ∀ (i : Nat) (entry : Entry α φ), ledger[i]? = some entry →
    ∃ entry', ledger'[i]? = some entry' ∧ Later entry entry'

theorem Grows.refl (ledger : List (Entry α φ)) : Grows ledger ledger :=
  fun _ entry found => ⟨entry, found, .refl entry⟩

/-- A ledger that grows and grows. -/
theorem Grows.trans {ledger'' : List (Entry α φ)} (h : Grows ledger ledger')
    (h' : Grows ledger' ledger'') : Grows ledger ledger'' := by
  intro i entry found
  obtain ⟨entry', found', later⟩ := h i entry found
  obtain ⟨entry'', found'', later'⟩ := h' i entry' found'
  exact ⟨entry'', found'', later.trans later'⟩

theorem Grows.cons {entry entry' : Entry α φ} (first : Later entry entry') (h : Grows ledger ledger') :
    Grows (entry :: ledger) (entry' :: ledger') := by
  intro i other found
  cases i with
  | zero =>
    cases found
    exact ⟨entry', rfl, first⟩
  | succ i => exact h i other found

/-- Closing entries makes a ledger grow. -/
theorem grows_settle (fate : φ) (skip count : Nat) (ledger : List (Entry α φ)) :
    Grows ledger (settle fate skip count ledger) := by
  fun_induction settle fate skip count ledger with
  | case1 => exact .refl _
  | case2 skip count item old rest ih => exact .cons (.refl _) ih
  | case3 count skip item rest ih => exact .cons (.refl _) ih
  | case4 count item rest ih => exact .cons ⟨rfl, fun ended => (ended rfl).elim⟩ ih
  | case5 item rest => exact .refl _

/-- And so does entering some. -/
theorem grows_append (ledger more : List (Entry α φ)) : Grows ledger (ledger ++ more) := by
  intro i entry found
  obtain ⟨inside, -⟩ := List.getElem?_eq_some_iff.mp found
  exact ⟨entry, (List.getElem?_append_left inside).trans found, .refl entry⟩

end Ledger
