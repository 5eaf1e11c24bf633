import Mathlib.Data.List.AList

/-!
# Tables

A table is an association list without duplicate keys whose values are all of one type. What a table
is to its users is what it finds under each key, and how many entries it has.
-/

namespace Table

universe u v

variable {K : Type u} {V : Type v} [DecidableEq K] {t : AList fun _ : K => V} {k : K}

/-- Inserting changes what is found under one key. -/
theorem lookup_insert (t : AList fun _ : K => V) (k k' : K) (v : V) :
    (t.insert k v).lookup k' = if k' = k then some v else t.lookup k' := by
  by_cases same : k' = k
  · subst same
    rw [if_pos rfl, AList.lookup_insert]
  · rw [if_neg same, AList.lookup_insert_ne same]

/-- Erasing changes what is found under one key. -/
theorem lookup_erase (t : AList fun _ : K => V) (k k' : K) :
    (t.erase k).lookup k' = if k' = k then none else t.lookup k' := by
  by_cases same : k' = k
  · subst same
    rw [if_pos rfl, AList.lookup_erase]
  · rw [if_neg same, AList.lookup_erase_ne same]

/-- A new entry leaves the others. -/
theorem lookup_insert_of_some {k' : K} {v w : V} (new : t.lookup k = none) (found : t.lookup k' = some v) :
    (t.insert k w).lookup k' = some v := by
  have different : k' ≠ k := by
    rintro rfl
    cases new.symm.trans found
  rw [lookup_insert, if_neg different, found]

/-- What is found once another value was inserted was found before. -/
theorem lookup_of_insert {k' : K} {v w : V} (found : (t.insert k v).lookup k' = some w) (other : v ≠ w) :
    t.lookup k' = some w := by
  rw [lookup_insert] at found
  split at found
  · exact (other (Option.some.inj found)).elim
  · exact found

/-- If every key of a table is of one kind in another, so is one that is entered in both. -/
theorem kind_insert {W : Type v} {s : AList fun _ : K => W} {kind : V}
    (kinds : ∀ k, (s.lookup k).isSome = true → t.lookup k = some kind) (w : W) :
    ∀ k', ((s.insert k w).lookup k').isSome = true → (t.insert k kind).lookup k' = some kind := by
  intro k' known
  rw [lookup_insert] at known ⊢
  split
  next => rfl
  next other =>
    rw [if_neg other] at known
    exact kinds k' known

/-- What holds of all entries and of a new one holds of all of them. -/
theorem forall_insert {P : K → V → Prop} {v : V} (old : ∀ k v, t.lookup k = some v → P k v) (new : P k v) :
    ∀ k' v', (t.insert k v).lookup k' = some v' → P k' v' := by
  intro k' v' found
  rw [lookup_insert] at found
  split at found
  next same =>
    cases found
    exact same ▸ new
  next => exact old k' v' found

/-- What holds of all entries holds of those that are left. -/
theorem forall_erase {P : K → V → Prop} (old : ∀ k v, t.lookup k = some v → P k v) :
    ∀ k' v', (t.erase k).lookup k' = some v' → P k' v' := by
  intro k' v' found
  rw [lookup_erase] at found
  split at found
  · cases found
  · exact old k' v' found

/-- Erasing a key that is not there changes nothing. -/
theorem erase_of_none (absent : t.lookup k = none) : t.erase k = t := by
  have unknown : k ∉ t.keys := AList.mem_keys.not.mp (AList.lookup_eq_none.mp absent)
  exact AList.ext (List.kerase_of_notMem_keys unknown)

/-- Replacing an entry keeps the keys. -/
theorem isSome_insert {old : V} (known : t.lookup k = some old) (new : V) (k' : K) :
    ((t.insert k new).lookup k').isSome = (t.lookup k').isSome := by
  rw [lookup_insert]
  split
  next same => rw [same, known]; rfl
  next => rfl

theorem isSome_insert_self (t : AList fun _ : K => V) (k : K) (v : V) :
    ((t.insert k v).lookup k).isSome = true := by
  rw [AList.lookup_insert]
  rfl

/-- Inserting loses no key. -/
theorem isSome_insert_of_isSome {k' : K} (v : V) (known : (t.lookup k').isSome = true) :
    ((t.insert k v).lookup k').isSome = true := by
  rw [lookup_insert]
  split
  · rfl
  · exact known

omit [DecidableEq K] in
theorem length_keys (t : AList fun _ : K => V) : t.keys.length = t.entries.length :=
  List.length_map _

/-- A new key is one more entry. -/
theorem length_insert_of_none (new : t.lookup k = none) (v : V) :
    (t.insert k v).entries.length = t.entries.length + 1 := by
  have absent : k ∉ t.keys := AList.mem_keys.not.mp (AList.lookup_eq_none.mp new)
  rw [← length_keys, ← length_keys, AList.keys_insert, List.erase_of_not_mem absent,
    List.length_cons]

/-- A known key keeps the number of entries. -/
theorem length_insert_of_some {v' : V} (known : t.lookup k = some v') (v : V) :
    (t.insert k v).entries.length = t.entries.length := by
  have present : k ∈ t.keys :=
    AList.mem_keys.mp (AList.lookup_isSome.mp (by rw [known]; rfl))
  rw [← length_keys, ← length_keys, AList.keys_insert, List.length_cons,
    List.length_erase_of_mem present]
  exact Nat.sub_add_cancel (List.length_pos_of_mem present)

/-- Erasing a known key takes one entry. -/
theorem length_erase_of_some {v : V} (known : t.lookup k = some v) :
    (t.erase k).entries.length + 1 = t.entries.length := by
  have present : k ∈ t.keys :=
    AList.mem_keys.mp (AList.lookup_isSome.mp (by rw [known]; rfl))
  rw [← length_keys, ← length_keys, AList.keys_erase, List.length_erase_of_mem present]
  exact Nat.sub_add_cancel (List.length_pos_of_mem present)

/-! ## Fewer keys -/

/-- No key of `t'` is new. -/
def Within (t t' : AList fun _ : K => V) : Prop := ∀ k, t.lookup k = none → t'.lookup k = none

theorem Within.of_eq {t' : AList fun _ : K => V} (same : t' = t) : Within t t' :=
  fun _ absent => same ▸ absent

/-- A value is replaced. -/
theorem Within.insert {old : V} (known : t.lookup k = some old) (new : V) : Within t (t.insert k new) := by
  intro k' absent
  have different : k' ≠ k := by
    rintro rfl
    cases absent.symm.trans known
  rw [lookup_insert, if_neg different, absent]

theorem Within.erase (t : AList fun _ : K => V) (k : K) : Within t (t.erase k) := by
  intro k' absent
  rw [lookup_erase]
  split
  · rfl
  · exact absent

/-- What holds of every key of a table holds of those that are left. -/
theorem Within.forall {t' : AList fun _ : K => V} {P : K → Prop} (h : Within t t')
    (old : ∀ k, (t.lookup k).isSome = true → P k) : ∀ k, (t'.lookup k).isSome = true → P k := by
  intro k known
  refine old k ?_
  by_contra unknown
  rw [h k (Option.not_isSome_iff_eq_none.mp unknown)] at known
  cases known

/-! ## Values of one kind -/

omit [DecidableEq K] in
/-- Some entry has a value of the kind `f`. -/
def hasValue (t : AList fun _ : K => V) (f : V → Bool) : Bool := t.entries.any fun entry => f entry.2

variable {f : V → Bool}

theorem hasValue_iff : hasValue t f = true ↔ ∃ k v, t.lookup k = some v ∧ f v = true := by
  unfold hasValue
  rw [List.any_eq_true]
  constructor
  · rintro ⟨⟨k, v⟩, member, kind⟩
    exact ⟨k, v, AList.mem_lookup_iff.mpr member, kind⟩
  · rintro ⟨k, v, found, kind⟩
    exact ⟨⟨k, v⟩, AList.mem_lookup_iff.mp found, kind⟩

/-- Inserting a value that is of the kind if the one it replaces was. -/
theorem hasValue_insert {v : V} (older : ∀ old, t.lookup k = some old → f old = true → f v = true) :
    hasValue (t.insert k v) f = true ↔ f v = true ∨ hasValue t f = true := by
  rw [hasValue_iff, hasValue_iff]
  constructor
  · rintro ⟨k', v', found, kind⟩
    rw [lookup_insert] at found
    split at found
    · cases found
      exact .inl kind
    · exact .inr ⟨k', v', found, kind⟩
  · rintro (kind | ⟨k', v', found, kind⟩)
    · exact ⟨k, v, AList.lookup_insert t, kind⟩
    · by_cases same : k' = k
      · subst same
        exact ⟨k', v, AList.lookup_insert t, older v' found kind⟩
      · exact ⟨k', v', by rw [lookup_insert, if_neg same, found], kind⟩

theorem hasValue_of_erase (h : hasValue (t.erase k) f = true) : hasValue t f = true := by
  obtain ⟨k', v, found, kind⟩ := hasValue_iff.mp h
  rw [lookup_erase] at found
  split at found
  · cases found
  · exact hasValue_iff.mpr ⟨k', v, found, kind⟩

/-- An entry that has come and gone leaves the other values. -/
theorem hasValue_of_erase_insert {v : V} (h : hasValue ((t.insert k v).erase k) f = true) :
    hasValue t f = true := by
  obtain ⟨k', v', found, kind⟩ := hasValue_iff.mp h
  rw [lookup_erase] at found
  split at found
  · cases found
  next other =>
    rw [lookup_insert, if_neg other] at found
    exact hasValue_iff.mpr ⟨k', v', found, kind⟩

omit [DecidableEq K] in
/-- What is read off different entries differs wherever different keys make it differ. -/
theorem pairwise_filterMap {W : Type*} (t : AList fun _ : K => V) {f : (Σ _ : K, V) → Option W}
    {R : W → W → Prop}
    (differs : ∀ e e' w w', e.1 ≠ e'.1 → f e = some w → f e' = some w' → R w w') :
    (t.entries.filterMap f).Pairwise R := by
  rw [List.pairwise_filterMap]
  refine (List.nodupKeys_iff_pairwise.mp t.nodupKeys).imp ?_
  intro e e' keys w read w' read'
  exact differs e e' w w' keys read read'

end Table
