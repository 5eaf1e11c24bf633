import Inetstack.Laws.Tcp.Established.OutOfOrder

/-!
# What the out-of-order store covers

The store may be in any order here, and its entries may overlap. A pass cuts the front of the new segment
where an entry that begins no later holds it, and ends in one of three ways: an entry holds all that is left,
or the rest is put in, perhaps without a part that an entry holds, or an entry lies inside what is left and is
taken out.

The cuts of a pass stay when the next one begins, and the entry behind a cut might be taken out by then. It is
not: it begins no later than the segment, the segment only ever begins later, and the entries that are taken
out begin after it. So no pass loses a number.
-/

namespace Inetstack.Tcp

open Intervals (Covers covered covered_insertIdx covered_eraseIdx mem_covered_singleton mem_eraseIdx_of_ne)
open Machine (bind_eq_ok)

/-! ## Slices -/

/-- The entry is a part of the buffer placed at `start`, at its own number. -/
def Slice (start : SeqNumber) (buf : Buffer) (entry : SeqNumber × Buffer) : Prop :=
  ∃ skip count : Nat, entry = (start + (skip : SeqNumber), (buf.drop skip).take count)

section

variable {b start last start' : SeqNumber} {buf buf' : Buffer} {entry : SeqNumber × Buffer}
  {store full : List (SeqNumber × Buffer)} {len index : Nat}

/-- The end of a segment is a part of it. -/
theorem Slice.of_drop (skip : Nat) : Slice start buf (start + (skip : SeqNumber), buf.drop skip) := by
  refine ⟨skip, (buf.drop skip).length, ?_⟩
  rw [List.take_length]

/-- And so is its beginning. -/
theorem Slice.of_take (count : Nat) : Slice start buf (start, buf.take count) := by
  refine ⟨0, count, ?_⟩
  rw [Nat.cast_zero, add_zero, List.drop_zero]

theorem Slice.refl : Slice start buf (start, buf) := by
  have whole : Slice start buf (start, buf.take buf.length) := .of_take buf.length
  rwa [List.take_length] at whole

/-- A part of a part. -/
theorem Slice.trans (h : Slice start buf (start', buf')) (h' : Slice start' buf' entry) :
    Slice start buf entry := by
  obtain ⟨skip, count, same⟩ := h
  obtain ⟨rfl, rfl⟩ := Prod.mk.inj same
  obtain ⟨skip', count', rfl⟩ := h'
  refine ⟨skip + skip', min count' (count - skip'), ?_⟩
  rw [Nat.cast_add, add_assoc, List.drop_take, List.take_take, List.drop_drop]

/-- The entry occupies the number, counted from `b`. -/
def EntryCovers (b : SeqNumber) (entry : SeqNumber × Buffer) (n : Nat) : Prop :=
  Covers (entryFirst b) entryLen entry n

theorem entryCovers_mk {n : Nat} :
    EntryCovers b (start, buf) n ↔ (start - b).toNat ≤ n ∧ n < (start - b).toNat + buf.length := Iff.rfl

theorem Fresh.nearEntry (h : Fresh b start last buf) : Near b (start, buf) := ⟨h.some_, h.near⟩

/-- A slice that is not empty lies in what it is cut from. -/
theorem Slice.from_ (near : Near b (start, buf)) (slice : Slice start buf entry) (some_ : entry.2 ≠ []) :
    entryFirst b (start, buf) ≤ entryFirst b entry ∧
      entryFirst b entry + entryLen entry ≤ entryFirst b (start, buf) + buf.length := by
  obtain ⟨skip, count, rfl⟩ := slice
  have length : ((buf.drop skip).take count).length = min count (buf.length - skip) := by
    rw [List.length_take, List.length_drop]
  have pos := List.length_pos_iff.mpr some_
  have below : (start - b).toNat + buf.length < 2 ^ 31 := near.near
  unfold entryFirst entryLen
  dsimp only at pos ⊢
  rw [SeqNumber.toNat_add_from (by omega)]
  omega

/-- A part covers only what the whole covers. -/
theorem Slice.within (near : Near b (start, buf)) (slice : Slice start buf entry) (some_ : entry.2 ≠ [])
    {n : Nat} (covers : EntryCovers b entry n) : EntryCovers b (start, buf) n := by
  obtain ⟨first, end_⟩ := slice.from_ near some_
  exact ⟨first.trans covers.1, covers.2.trans_le end_⟩

/-! ## One pass -/

/-- **How a pass ends** that looks at `store` from `index` on. -/
inductive PassOutcome (b : SeqNumber) (len index : Nat) (start last : SeqNumber) (buf : Buffer)
    (store : List (SeqNumber × Buffer)) : Pass → Prop
  | discard (held : ∀ n, EntryCovers b (start, buf) n → ∃ entry ∈ store, EntryCovers b entry n) :
    PassOutcome b len index start last buf store .discard
  | insert {place : Nat} {start' : SeqNumber} {buf' : Buffer} (slice : Slice start buf (start', buf'))
    (some_ : buf' ≠ []) (inRange : place = len ∨ place < index + store.length)
    (held : ∀ n, EntryCovers b (start, buf) n → EntryCovers b (start', buf') n ∨
      ∃ entry ∈ store, EntryCovers b entry n) :
    PassOutcome b len index start last buf store (.insert place start' buf')
  | encompass {offset : Nat} {start' : SeqNumber} {buf' : Buffer} {inner : SeqNumber × Buffer}
    (slice : Slice start buf (start', buf')) (fresh : Fresh b start' last buf')
    (there : store[offset]? = some inner) (after : entryFirst b (start', buf') < entryFirst b inner)
    (inside : ∀ n, EntryCovers b inner n → EntryCovers b (start', buf') n)
    (held : ∀ n, EntryCovers b (start, buf) n → EntryCovers b (start', buf') n ∨
      ∃ entry ∈ store, entryFirst b entry ≤ entryFirst b (start', buf') ∧ EntryCovers b entry n) :
    PassOutcome b len index start last buf store (.encompass (index + offset) start' last buf')

/-- The turn before: it leaves the segment as it is, or cuts off a part that its entry has. -/
theorem PassOutcome.cons {pass : Pass} (fresh : Fresh b start' last buf')
    (slice : Slice start buf (start', buf'))
    (cut : ∀ n, EntryCovers b (start, buf) n → EntryCovers b (start', buf') n ∨
      entryFirst b entry ≤ entryFirst b (start', buf') ∧ EntryCovers b entry n)
    (outcome : PassOutcome b len (index + 1) start' last buf' store pass) :
    PassOutcome b len index start last buf (entry :: store) pass := by
  cases outcome with
  | discard held =>
    refine .discard fun n new => ?_
    rcases cut n new with left | ⟨-, covers⟩
    · obtain ⟨x, member, covers⟩ := held n left
      exact ⟨x, List.mem_cons_of_mem _ member, covers⟩
    · exact ⟨entry, List.mem_cons_self, covers⟩
  | insert slice' some_ inRange held =>
    refine .insert (slice.trans slice') some_ ?_ fun n new => ?_
    · rw [List.length_cons]
      omega
    · rcases cut n new with left | ⟨-, covers⟩
      · rcases held n left with put | ⟨x, member, covers⟩
        · exact .inl put
        · exact .inr ⟨x, List.mem_cons_of_mem _ member, covers⟩
      · exact .inr ⟨entry, List.mem_cons_self, covers⟩
  | @encompass offset start'' buf'' inner slice' fresh' there after inside held =>
    have later := (slice'.from_ fresh.nearEntry (List.length_pos_iff.mp fresh'.some_)).1
    have placed : index + 1 + offset = index + (offset + 1) := by omega
    rw [placed]
    refine .encompass (slice.trans slice') fresh' there after inside fun n new => ?_
    rcases cut n new with left | ⟨first, covers⟩
    · rcases held n left with kept | ⟨x, member, first, covers⟩
      · exact .inl kept
      · exact .inr ⟨x, List.mem_cons_of_mem _ member, first, covers⟩
    · exact .inr ⟨entry, List.mem_cons_self, first.trans later, covers⟩

/-- The front of a segment that begins in an entry and ends after it goes, up to the last number of the
entry. -/
theorem Fresh.cut_front (fresh : Fresh b start last buf) (here : Near b entry)
    (from_ : entryFirst b entry ≤ (start - b).toNat)
    (overlaps : (start - b).toNat < entryFirst b entry + entryLen entry)
    (longer : entryFirst b entry + entryLen entry ≤ (last - b).toNat) {cut : Buffer}
    (drop : cut = buf.drop (entryFirst b entry + entryLen entry - 1 - (start - b).toNat)) :
    Fresh b (entryEnd entry) last cut ∧ Slice start buf (entryEnd entry, cut) ∧
      ∀ n, EntryCovers b (start, buf) n → EntryCovers b (entryEnd entry, cut) n ∨
        entryFirst b entry ≤ entryFirst b (entryEnd entry, cut) ∧ EntryCovers b entry n := by
  have newSome := fresh.some_
  have last_ := fresh.last_from
  have entryNear := here.near
  have ends := here.entryEnd_from
  have moved : entryEnd entry =
      start + ((entryFirst b entry + entryLen entry - 1 - (start - b).toNat : Nat) : SeqNumber) := by
    apply SeqNumber.eq_of_from (b := b)
    rw [ends, SeqNumber.toNat_add_from (by omega)]
    omega
  refine ⟨?_, ?_, fun n new => ?_⟩
  · have left : Fresh b (entryEnd entry) last _ := fresh.drop (by omega) (by omega)
    rw [ends, ← drop] at left
    exact left
  · rw [moved, drop]
    exact .of_drop _
  · rw [entryCovers_mk] at new
    by_cases early : n < entryFirst b entry + entryLen entry
    · refine .inr ⟨?_, by omega, early⟩
      change entryFirst b entry ≤ (entryEnd entry - b).toNat
      omega
    · rw [entryCovers_mk, drop, List.length_drop]
      exact .inl (by omega)

/-- The end of a segment that begins before an entry and ends in it goes, and something is left. -/
theorem Fresh.cut_end (fresh : Fresh b start last buf)
    (before : (start - b).toNat < entryFirst b entry) (reaches : entryFirst b entry ≤ (last - b).toNat)
    (overlaps : (last - b).toNat < entryFirst b entry + entryLen entry) {cut : Buffer}
    (take : cut = buf.take (entryFirst b entry - (start - b).toNat)) :
    cut ≠ [] ∧ ∀ n, EntryCovers b (start, buf) n → EntryCovers b (start, cut) n ∨ EntryCovers b entry n := by
  have newSome := fresh.some_
  have last_ := fresh.last_from
  have length := congrArg List.length take
  rw [List.length_take] at length
  refine ⟨List.length_pos_iff.mp (by omega), fun n new => ?_⟩
  rw [entryCovers_mk] at new
  by_cases early : n < entryFirst b entry
  · rw [entryCovers_mk]
    exact .inl (by omega)
  · exact .inr ⟨by omega, by omega⟩

/-- **What a pass does**, whatever the order of the entries: it returns, with one of the three ends. -/
theorem storePass_outcome (fresh : Fresh b start last buf) (near : ∀ x ∈ store, Near b x)
    (len index : Nat) :
    ∃ pass, storePass len index start last buf store = .ok pass ∧
      PassOutcome b len index start last buf store pass := by
  have newSome := List.length_pos_iff.mp fresh.some_
  induction store generalizing start buf index with
  | nil => exact ⟨_, rfl, .insert .refl newSome (.inl rfl) fun n new => .inl new⟩
  | cons x rest ih =>
    have here := near x List.mem_cons_self
    have others : ∀ y ∈ rest, Near b y := fun y member => near y (List.mem_cons_of_mem x member)
    have last_ := fresh.last_from
    rw [storePass_cons fresh here]
    split
    next before =>
      split
      next clear =>
        -- the new entry ends before this one: its place is here
        refine ⟨_, rfl, .insert .refl newSome (.inr ?_) fun n new => .inl new⟩
        rw [List.length_cons]
        omega
      next reaches =>
        split
        next ends =>
          -- this entry lies inside the new one and is dropped
          refine ⟨_, rfl, @PassOutcome.encompass b len index start last buf (x :: rest) 0 start buf x
            .refl fresh rfl before ?_ fun n new => .inl new⟩
          rintro n ⟨first, end_⟩
          rw [entryCovers_mk]
          omega
        next overlaps =>
          -- the back of the new entry is cut at the start of this one
          obtain ⟨some_, held⟩ := fresh.cut_end before (by omega) (by omega) rfl
          refine ⟨_, rfl, .insert (.of_take _) some_ (.inl rfl) fun n new => ?_⟩
          exact (held n new).imp_right fun covers => ⟨x, List.mem_cons_self, covers⟩
    next from_ =>
      split
      next held =>
        -- the new entry lies inside this one
        refine ⟨_, rfl, .discard fun n new => ?_⟩
        rw [entryCovers_mk] at new
        exact ⟨x, List.mem_cons_self, by omega, by omega⟩
      next longer =>
        split
        next past =>
          obtain ⟨pass, ran, outcome⟩ := ih fresh others (index + 1) newSome
          exact ⟨pass, ran, outcome.cons fresh .refl fun n new => .inl new⟩
        next overlaps =>
          -- the front of the new entry is cut at the end of this one
          obtain ⟨cut, slice, held⟩ := fresh.cut_front here (by omega) (by omega) (by omega) rfl
          obtain ⟨pass, ran, outcome⟩ := ih cut others (index + 1) (List.length_pos_iff.mp cut.some_)
          exact ⟨pass, ran, outcome.cons cut slice held⟩

/-! ## The passes -/

/-- **The passes one after another**, each at a place the store has. What they come to is the store before
the limit cuts its end off. -/
inductive Passes : SeqNumber → SeqNumber → Buffer → List (SeqNumber × Buffer) →
    List (SeqNumber × Buffer) → Prop
  | discard {start last : SeqNumber} {buf : Buffer} {store : List (SeqNumber × Buffer)}
    (ran : storePass store.length 0 start last buf store = .ok .discard) :
    Passes start last buf store store
  | insert {start last start' : SeqNumber} {buf buf' : Buffer} {store : List (SeqNumber × Buffer)}
    {place : Nat} (ran : storePass store.length 0 start last buf store = .ok (.insert place start' buf'))
    (inRange : place ≤ store.length) :
    Passes start last buf store (store.insertIdx place (start', buf'))
  | encompass {start last start' last' : SeqNumber} {buf buf' : Buffer}
    {store full : List (SeqNumber × Buffer)} {place : Nat}
    (ran : storePass store.length 0 start last buf store = .ok (.encompass place start' last' buf'))
    (inRange : place < store.length) (rest : Passes start' last' buf' (store.eraseIdx place) full) :
    Passes start last buf store full

/-- With more passes than the store has entries, the loop comes to its end. -/
theorem Passes.ends (h : Passes start last buf store full) (few : store.length ≤ MAX_OUT_OF_ORDER)
    {passes : Nat} (enough : store.length < passes) :
    storePasses passes start last buf store = .ok (full.take MAX_OUT_OF_ORDER) := by
  obtain ⟨passes, rfl⟩ : ∃ n, passes = n + 1 := ⟨passes - 1, by omega⟩
  induction h generalizing passes with
  | discard ran => rw [storePasses_discard ran, List.take_of_length_le few]
  | insert ran => exact storePasses_insert ran
  | encompass ran inRange rest ih =>
    have less := List.length_eraseIdx_of_lt inRange
    rw [storePasses_encompass ran]
    obtain ⟨passes, rfl⟩ : ∃ n, passes = n + 1 := ⟨passes - 1, by omega⟩
    exact ih (by omega) passes (by omega)

/-- What the passes leave: old entries and slices of the new segment, and no number is lost or gained. -/
structure Stored (b start : SeqNumber) (buf : Buffer) (store full : List (SeqNumber × Buffer)) : Prop where
  entries : ∀ x ∈ full, x ∈ store ∨ x.2 ≠ [] ∧ Slice start buf x
  covers : covered (entryFirst b) entryLen full =
    covered (entryFirst b) entryLen store ∪ covered (entryFirst b) entryLen [(start, buf)]

/-- What is discarded was covered already. -/
theorem PassOutcome.discarded (outcome : PassOutcome b len index start last buf store .discard) :
    Stored b start buf store store := by
  cases outcome with
  | discard held =>
    refine ⟨fun x member => .inl member, ?_⟩
    refine (Set.union_eq_self_of_subset_right ?_).symm
    intro n new
    exact held n (mem_covered_singleton.mp new)

/-- What is inserted covers what was not, and takes nothing away. -/
theorem PassOutcome.inserted {place : Nat} (fresh : Fresh b start last buf)
    (outcome : PassOutcome b store.length 0 start last buf store (.insert place start' buf')) :
    place ≤ store.length ∧ Stored b start buf store (store.insertIdx place (start', buf')) := by
  cases outcome with
  | insert slice some_ inRange held =>
    have placed : place ≤ store.length := by omega
    refine ⟨placed, ?_, ?_⟩
    · intro x member
      rcases (List.mem_insertIdx placed).mp member with rfl | member
      · exact .inr ⟨some_, slice⟩
      · exact .inl member
    · rw [covered_insertIdx placed]
      ext n
      simp only [Set.mem_union, mem_covered_singleton]
      constructor
      · rintro (old | new)
        · exact .inl old
        · exact .inr (slice.within fresh.nearEntry some_ new)
      · rintro (old | new)
        · exact .inl old
        · exact (held n new).symm

/-- An entry is taken out and the rest is stored: what was cut off before is still held, since the entry that
is taken out begins later than the cuts. -/
theorem PassOutcome.encompassed {place : Nat} {last' : SeqNumber} (fresh : Fresh b start last buf)
    (outcome : PassOutcome b len 0 start last buf store (.encompass place start' last' buf')) :
    place < store.length ∧ Fresh b start' last' buf' ∧
      ∀ full, Stored b start' buf' (store.eraseIdx place) full → Stored b start buf store full := by
  cases outcome with
  | @encompass offset _ _ inner slice cut there after inside held =>
    rw [Nat.zero_add]
    have erased : covered (entryFirst b) entryLen store = _ := covered_eraseIdx there
    refine ⟨(List.getElem?_eq_some_iff.mp there).1, cut, fun full stored => ⟨?_, ?_⟩⟩
    · intro x member
      rcases stored.entries x member with old | ⟨some_, part⟩
      · exact .inl (List.mem_of_mem_eraseIdx old)
      · exact .inr ⟨some_, slice.trans part⟩
    · rw [stored.covers, erased]
      ext n
      simp only [Set.mem_union, mem_covered_singleton]
      constructor
      · rintro (old | new)
        · exact .inl (.inl old)
        · exact .inr (slice.within fresh.nearEntry (List.length_pos_iff.mp cut.some_) new)
      · rintro ((old | out) | new)
        · exact .inl old
        · exact .inr (inside n out)
        · rcases held n new with left | ⟨x, member, first, covers⟩
          · exact .inr left
          · refine .inl ⟨x, mem_eraseIdx_of_ne there member ?_, covers⟩
            rintro rfl
            exact absurd after (Nat.not_lt.mpr first)

/-- **The passes come to an end and lose nothing**, whatever the order of the store. -/
theorem passes_total (fresh : Fresh b start last buf) (near : ∀ x ∈ store, Near b x) :
    ∃ full, Passes start last buf store full ∧ Stored b start buf store full := by
  induction size : store.length using Nat.strong_induction_on generalizing start last buf store with
  | _ size ih =>
    subst size
    obtain ⟨pass, ran, outcome⟩ := storePass_outcome fresh near store.length 0
    cases pass with
    | discard => exact ⟨store, .discard ran, outcome.discarded⟩
    | insert place start' buf' =>
      obtain ⟨inRange, stored⟩ := outcome.inserted fresh
      exact ⟨_, .insert ran inRange, stored⟩
    | encompass place start' last' buf' =>
      obtain ⟨inRange, cut, carries⟩ := outcome.encompassed fresh
      have less := List.length_eraseIdx_of_lt inRange
      have others : ∀ x ∈ store.eraseIdx place, Near b x := fun x member =>
        near x (List.mem_of_mem_eraseIdx member)
      obtain ⟨full, passes, stored⟩ := ih _ (by omega) cut others rfl
      exact ⟨full, .encompass ran inRange passes, carries full stored⟩

/-! ## Sequence numbers -/

/-- The sequence numbers of which a store has the byte. -/
def storedNumbers (store : List (SeqNumber × Buffer)) : Set SeqNumber :=
  {x | ∃ entry ∈ store, (x - entry.1).toNat < entry.2.length}

/-- Coverage, told by sequence number and by distance from the base. -/
theorem Near.covers_iff (h : Near b entry) (x : SeqNumber) :
    (x - entry.1).toNat < entry.2.length ↔ EntryCovers b entry (x - b).toNat := by
  have near := h.near
  have bound := (x - b).toNat_lt
  unfold entryFirst entryLen at near
  change _ ↔ (entry.1 - b).toNat ≤ (x - b).toNat ∧ (x - b).toNat < (entry.1 - b).toNat + entry.2.length
  rw [SeqNumber.toNat_sub_eq_from b]
  omega

/-- The numbers that are stored are those whose distance is covered. -/
theorem storedNumbers_eq (near : ∀ x ∈ store, Near b x) :
    storedNumbers store =
      Set.preimage (fun x => (x - b).toNat) (covered (entryFirst b) entryLen store) := by
  ext x
  constructor
  · rintro ⟨entry, member, has⟩
    exact ⟨entry, member, ((near entry member).covers_iff x).mp has⟩
  · rintro ⟨entry, member, covers⟩
    exact ⟨entry, member, ((near entry member).covers_iff x).mpr covers⟩

/-- What is stored stays near the base. -/
theorem Stored.near (stored : Stored b start buf store full) (fresh : Fresh b start last buf)
    (near : ∀ x ∈ store, Near b x) : ∀ x ∈ full, Near b x := by
  intro x member
  rcases stored.entries x member with old | ⟨some_, slice⟩
  · exact near x old
  · have end_ := (slice.from_ fresh.nearEntry some_).2
    exact ⟨List.length_pos_iff.mpr some_, end_.trans_lt fresh.near⟩

/-- **The numbers that are stored** are those of the store and those of the segment. -/
theorem Stored.numbers (stored : Stored b start buf store full) (fresh : Fresh b start last buf)
    (near : ∀ x ∈ store, Near b x) :
    storedNumbers full = storedNumbers store ∪ storedNumbers [(start, buf)] := by
  have new : ∀ x ∈ [(start, buf)], Near b x := List.forall_mem_singleton.mpr fresh.nearEntry
  rw [storedNumbers_eq (stored.near fresh near), storedNumbers_eq near, storedNumbers_eq new,
    stored.covers, Set.preimage_union]

end

namespace ControlBlock

variable {σ : Type}

/-- **Storing an out-of-order segment ends and loses nothing**: each pass is at a place the store has, what is
left is old entries and slices of the new segment, at most 16, and unless the limit takes some out they have
the numbers of the old entries and of the new segment. -/
theorem store_loses_nothing (cb : ControlBlock σ) (b newStart newEnd : SeqNumber) (buf : Buffer)
    (near : ∀ entry ∈ cb.outOfOrder, Near b entry) (few : cb.outOfOrder.length ≤ 16)
    (fresh : Fresh b newStart newEnd buf) :
    ∃ full store, Passes newStart newEnd buf cb.outOfOrder full ∧ store = full.take 16 ∧
      cb.storeOutOfOrderSegment newStart newEnd buf = .ok { cb with outOfOrder := store } ∧
      (∀ entry ∈ store, entry.2 ≠ [] ∧ (entry ∈ cb.outOfOrder ∨ Slice newStart buf entry)) ∧
      store.length ≤ 16 ∧
      (store = full →
        storedNumbers store = storedNumbers cb.outOfOrder ∪ storedNumbers [(newStart, buf)]) := by
  obtain ⟨full, passes, stored⟩ := passes_total fresh near
  have ran := passes.ends few (Nat.lt_succ_self _)
  refine ⟨full, _, passes, rfl, bind_eq_ok.mpr ⟨_, ran, rfl⟩, ?_, List.length_take_le _ _, ?_⟩
  · intro entry member
    rcases stored.entries entry (List.mem_of_mem_take member) with old | ⟨some_, slice⟩
    · exact ⟨List.length_pos_iff.mp (near entry old).some_, .inl old⟩
    · exact ⟨some_, .inr slice⟩
  · intro all
    rw [all]
    exact stored.numbers fresh near

/-- Bytes 70 to 72, 60 to 64 and 62 to 63 are stored, in this order. -/
def jumbledStore : ControlBlock CongestionControl.None :=
  { sampleBlock ⟨50⟩ ⟨40⟩ 100 10 1 with
    outOfOrder := [(⟨70⟩, [1, 2, 3]), (⟨60⟩, [4, 5, 6, 7, 8]), (⟨62⟩, [6, 7])] }

/-- Bytes 61 to 75 come: the first entry is taken out, and what comes after the second goes to the end. -/
theorem store_loses_nothing_jumbled :
    ∃ cb', jumbledStore.storeOutOfOrderSegment ⟨61⟩ ⟨75⟩ (List.replicate 15 9) = .ok cb' ∧
      cb'.outOfOrder = [(⟨60⟩, [4, 5, 6, 7, 8]), (⟨62⟩, [6, 7]), (⟨64⟩, List.replicate 12 9)] ∧
      storedNumbers cb'.outOfOrder =
        storedNumbers jumbledStore.outOfOrder ∪ storedNumbers [(⟨61⟩, List.replicate 15 9)] := by
  obtain ⟨full, store, -, cut, ran, -, -, numbers⟩ := store_loses_nothing jumbledStore ⟨50⟩ ⟨61⟩ ⟨75⟩
    (List.replicate 15 9) (by decide) (by decide) ⟨by decide, by decide, by decide⟩
  have outcome : jumbledStore.storeOutOfOrderSegment ⟨61⟩ ⟨75⟩ (List.replicate 15 9) =
      .ok { jumbledStore with
        outOfOrder := [(⟨60⟩, [4, 5, 6, 7, 8]), (⟨62⟩, [6, 7]), (⟨64⟩, List.replicate 12 9)] } := rfl
  have same := congrArg ControlBlock.outOfOrder (Except.ok.inj (ran.symm.trans outcome))
  refine ⟨_, ran, same, numbers ?_⟩
  have three : store.length = 3 := congrArg List.length same
  rw [cut, List.length_take] at three
  rw [cut]
  exact List.take_of_length_le (by omega)

end ControlBlock

end Inetstack.Tcp
