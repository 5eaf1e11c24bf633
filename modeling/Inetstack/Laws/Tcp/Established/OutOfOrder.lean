import Inetstack.Lib.Intervals
import Inetstack.Laws.Tcp.Established.Acceptance

/-!
# The order of the out-of-order store

Counted from a base `b` less than `2 ^ 31` behind all of them, the sequence numbers of a store and of a
new segment are natural numbers and the signed comparisons are the usual ones. `storePass_cons` is one
turn of the loop of `store_out_of_order_segment` in these numbers.

The store is split at the new segment: `pre` begins at or before its start, `mid` lies strictly inside
it, and `post` begins inside or after it and does not end before it. The passes take `mid` out. What the
last pass does with the segment depends on its neighbours. If the last entry of `pre` ends inside the
segment, the cut is one byte too short and the two still share a number. If the first entry of `post`
begins inside it, the segment is cut right and then goes to the end of the store.
-/

namespace Inetstack.Tcp

open Machine (bind_eq_ok)

/-! ## Entries and segments -/

/-- The first number of an entry, counted from `b`. -/
def entryFirst (b : SeqNumber) (entry : SeqNumber × Buffer) : Nat := (entry.1 - b).toNat

/-- The number of bytes of an entry. -/
def entryLen (entry : SeqNumber × Buffer) : Nat := entry.2.length

/-- The last number of an entry, as the code computes it. -/
def entryEnd (entry : SeqNumber × Buffer) : SeqNumber :=
  entry.1 + SeqNumber.mk (UInt32.ofNat entry.2.length - 1)

/-- An entry that is not empty and ends less than `2 ^ 31` after `b`. -/
structure Near (b : SeqNumber) (entry : SeqNumber × Buffer) : Prop where
  some_ : 0 < entryLen entry
  near : entryFirst b entry + entryLen entry < 2 ^ 31

/-- The last byte of an entry that has one. -/
theorem entryEnd_eq {entry : SeqNumber × Buffer} (some_ : 0 < entryLen entry) :
    entryEnd entry = entry.1 + ((entryLen entry - 1 : Nat) : SeqNumber) := by
  unfold entryEnd entryLen at *
  obtain ⟨n, eq⟩ : ∃ n, entry.2.length = n + 1 := ⟨entry.2.length - 1, by omega⟩
  have less : UInt32.ofNat (n + 1) - 1 = UInt32.ofNat n := by
    rw [UInt32.ofNat_add]
    exact add_sub_cancel_right (UInt32.ofNat n) 1
  rw [eq, less]
  rfl

/-- Its distance from the base, which does not wrap. -/
theorem Near.entryEnd_from {b : SeqNumber} {entry : SeqNumber × Buffer} (h : Near b entry) :
    (entryEnd entry - b).toNat = entryFirst b entry + entryLen entry - 1 := by
  have some_ := h.some_
  have near := h.near
  unfold entryFirst at near ⊢
  rw [entryEnd_eq h.some_, SeqNumber.toNat_add_from (by omega)]
  omega

/-- A new segment: its last number is the one of its buffer, and it ends less than `2 ^ 31` after `b`. -/
structure Fresh (b start last : SeqNumber) (buf : Buffer) : Prop where
  some_ : 0 < buf.length
  last_eq : last = start + ((buf.length - 1 : Nat) : SeqNumber)
  near : (start - b).toNat + buf.length < 2 ^ 31

namespace Fresh

variable {b start last : SeqNumber} {buf : Buffer}

/-- And that of the last byte of a new segment. -/
theorem last_from (h : Fresh b start last buf) :
    (last - b).toNat = (start - b).toNat + buf.length - 1 := by
  have some_ := h.some_
  have near := h.near
  rw [h.last_eq, SeqNumber.toNat_add_from (by omega)]
  omega

/-- The segment without what comes before one of its own numbers. -/
theorem drop (h : Fresh b start last buf) {start' : SeqNumber}
    (from_ : (start - b).toNat ≤ (start' - b).toNat) (until_ : (start' - b).toNat ≤ (last - b).toNat) :
    Fresh b start' last (buf.drop ((start' - b).toNat - (start - b).toNat)) := by
  have some_ := h.some_
  have near := h.near
  have last_ := h.last_from
  refine ⟨?_, ?_, ?_⟩
  · rw [List.length_drop]
    omega
  · apply SeqNumber.eq_of_from (b := b)
    rw [List.length_drop, SeqNumber.toNat_add_from (by omega)]
    omega
  · rw [List.length_drop]
    omega

end Fresh

/-! ## One pass -/

section

variable {b start last : SeqNumber} {buf : Buffer} {entry : SeqNumber × Buffer}
  {pre mid post store : List (SeqNumber × Buffer)} {len index : Nat}

/-- **One turn of the loop**, in numbers counted from `b`. -/
theorem storePass_cons (fresh : Fresh b start last buf) (near : Near b entry) (len index : Nat)
    (rest : List (SeqNumber × Buffer)) :
    storePass len index start last buf (entry :: rest) =
      if (start - b).toNat < entryFirst b entry then
        if (last - b).toNat < entryFirst b entry then .ok (.insert index start buf)
        else if entryFirst b entry + entryLen entry ≤ (last - b).toNat then
          .ok (.encompass index start last buf)
        else .ok (.insert len start (buf.take (entryFirst b entry - (start - b).toNat)))
      else if (last - b).toNat < entryFirst b entry + entryLen entry then .ok .discard
      else if entryFirst b entry + entryLen entry ≤ (start - b).toNat then
        storePass len (index + 1) start last buf rest
      else storePass len (index + 1) (entryEnd entry) last
        (buf.drop (entryFirst b entry + entryLen entry - 1 - (start - b).toNat)) rest := by
  have some_ := fresh.some_
  have bufNear := fresh.near
  have last_ := fresh.last_from
  have entrySome := near.some_
  have entryNear := near.near
  have end_ := near.entryEnd_from
  have startLt : start.lt entry.1 = true ↔ (start - b).toNat < entryFirst b entry :=
    SeqNumber.lt_iff_from (by omega) (show entryFirst b entry < 2 ^ 31 by omega)
  have lastLt : last.lt entry.1 = true ↔ (last - b).toNat < entryFirst b entry :=
    SeqNumber.lt_iff_from (by omega) (show entryFirst b entry < 2 ^ 31 by omega)
  have endLtLast : (entryEnd entry).lt last = true ↔
      entryFirst b entry + entryLen entry ≤ (last - b).toNat := by
    rw [SeqNumber.lt_iff_from (b := b) (by omega) (by omega)]
    omega
  have lastLeEnd : last.le (entryEnd entry) = true ↔
      (last - b).toNat < entryFirst b entry + entryLen entry := by
    rw [SeqNumber.le_iff_from (b := b) (by omega) (by omega)]
    omega
  have endLtStart : (entryEnd entry).lt start = true ↔
      entryFirst b entry + entryLen entry ≤ (start - b).toNat := by
    rw [SeqNumber.lt_iff_from (b := b) (by omega) (by omega)]
    omega
  obtain ⟨storedStart, stored⟩ := entry
  rw [storePass]
  change (if start.lt storedStart = true then if last.lt storedStart = true then _ else
      if (entryEnd (storedStart, stored)).lt last = true then _ else
        Buffer.trim buf ((last - storedStart).value + 1).toNat >>= _
    else if last.le (entryEnd (storedStart, stored)) = true then _ else
      if (entryEnd (storedStart, stored)).lt start = true then _ else
        Buffer.adjust buf (entryEnd (storedStart, stored) - start).toNat >>= _) = _
  rw [if_congr startLt rfl rfl, if_congr lastLt rfl rfl, if_congr endLtLast rfl rfl,
    if_congr lastLeEnd rfl rfl, if_congr endLtStart rfl rfl]
  refine if_ctx_congr Iff.rfl (fun before => ?_) (fun notBefore => ?_)
  · refine if_ctx_congr Iff.rfl (fun _ => rfl) (fun reaches => ?_)
    refine if_ctx_congr Iff.rfl (fun _ => rfl) (fun inside => ?_)
    -- the new segment ends in the entry, and loses what they share
    have excess : ((last - storedStart).value + 1).toNat =
        (last - b).toNat - entryFirst b (storedStart, stored) + 1 := by
      have distance : (last - storedStart).toNat = (last - b).toNat - entryFirst b (storedStart, stored) :=
        SeqNumber.toNat_sub_from (by omega) (Nat.not_lt.mp reaches)
      rw [UInt32.toNat_add]
      change ((last - storedStart).toNat + 1) % 2 ^ 32 = _
      omega
    rw [excess, Buffer.trim, if_pos (by omega)]
    refine congrArg (fun n => Except.ok (Pass.insert len start (buf.take n))) ?_
    omega
  · refine if_ctx_congr Iff.rfl (fun _ => rfl) (fun reaches => ?_)
    refine if_ctx_congr Iff.rfl (fun _ => rfl) (fun overlaps => ?_)
    -- the new segment begins in the entry, and moves its start to the last number they share
    have duplicate : (entryEnd (storedStart, stored) - start).toNat =
        entryFirst b (storedStart, stored) + entryLen (storedStart, stored) - 1 - (start - b).toNat := by
      rw [← end_]
      exact SeqNumber.toNat_sub_from (by omega) (by omega)
    have moved : start + SeqNumber.mk (entryEnd (storedStart, stored) - start).value =
        entryEnd (storedStart, stored) := add_sub_cancel _ _
    rw [duplicate, Buffer.adjust, if_pos (by omega)]
    exact congrArg (fun start => storePass len (index + 1) start last _ rest) moved

/-- The entries that end at or before the start of the new segment are passed over. -/
theorem storePass_skip (fresh : Fresh b start last buf) (near : ∀ x ∈ pre, Near b x)
    (before : ∀ x ∈ pre, entryFirst b x + entryLen x ≤ (start - b).toNat + 1 ∧
      entryFirst b x + entryLen x ≤ (last - b).toNat) (len index : Nat)
    (rest : List (SeqNumber × Buffer)) :
    storePass len index start last buf (pre ++ rest) =
      storePass len (index + pre.length) start last buf rest := by
  induction pre generalizing index with
  | nil => rfl
  | cons x pre ih =>
    have here := near x List.mem_cons_self
    have some_ := here.some_
    obtain ⟨starts, ends⟩ := before x List.mem_cons_self
    have next := ih (fun y member => near y (List.mem_cons_of_mem x member))
      (fun y member => before y (List.mem_cons_of_mem x member)) (index + 1)
    have counted : index + 1 + pre.length = index + (x :: pre).length := by
      rw [List.length_cons]
      omega
    rw [counted] at next
    rw [List.cons_append, storePass_cons fresh here, if_neg (by omega), if_neg (by omega)]
    split
    · exact next
    next touches =>
      -- the entry ends at the start itself, so the cut is empty
      have same : entryEnd x = start := by
        apply SeqNumber.eq_of_from (b := b)
        rw [here.entryEnd_from]
        omega
      have none : entryFirst b x + entryLen x - 1 - (start - b).toNat = 0 := by omega
      rw [same, none, List.drop_zero]
      exact next

/-! ## The passes -/

/-- A pass that discards ends the loop with the store as it was. -/
theorem storePasses_discard {passes : Nat}
    (ran : storePass store.length 0 start last buf store = .ok .discard) :
    storePasses (passes + 1) start last buf store = .ok store := by
  rw [storePasses, ran]
  rfl

/-- A pass that inserts ends it with one entry more. -/
theorem storePasses_insert {passes : Nat} {start' : SeqNumber} {buf' : Buffer}
    (ran : storePass store.length 0 start last buf store = .ok (.insert index start' buf')) :
    storePasses (passes + 1) start last buf store =
      .ok ((store.insertIdx index (start', buf')).take MAX_OUT_OF_ORDER) := by
  rw [storePasses, ran]
  rfl

/-- A pass that removes an entry is followed by another one. -/
theorem storePasses_encompass {passes : Nat} {start' last' : SeqNumber} {buf' : Buffer}
    (ran : storePass store.length 0 start last buf store = .ok (.encompass index start' last' buf')) :
    storePasses (passes + 1) start last buf store =
      storePasses passes start' last' buf' (store.eraseIdx index) := by
  rw [storePasses, ran]
  rfl

theorem insertIdx_append_length {α : Type} (l l' : List α) (x : α) :
    (l ++ l').insertIdx l.length x = l ++ x :: l' := by
  induction l with
  | nil => rfl
  | cons y l ih => exact congrArg (y :: ·) ih

/-- Where the last pass puts a new segment: between `pre` and `post`, or, if the first entry of `post`
begins in it, cut and at the end. -/
def settled (b start last : SeqNumber) (buf : Buffer) (pre post : List (SeqNumber × Buffer)) :
    List (SeqNumber × Buffer) :=
  match post with
  | [] => pre ++ [(start, buf)]
  | y :: rest =>
    if (last - b).toNat < entryFirst b y then pre ++ (start, buf) :: y :: rest
    else pre ++ y :: rest ++ [(start, buf.take (entryFirst b y - (start - b).toNat))]

/-- What ends before the next entry begins goes in front of it. -/
theorem settled_clear {y : SeqNumber × Buffer} (clear : (last - b).toNat < entryFirst b y) :
    settled b start last buf pre (y :: post) = pre ++ (start, buf) :: y :: post := if_pos clear

/-- What reaches into the next entry is cut short, and ends up behind all the others. -/
theorem settled_overlap {y : SeqNumber × Buffer} (overlaps : entryFirst b y ≤ (last - b).toNat) :
    settled b start last buf pre (y :: post) =
      pre ++ y :: post ++ [(start, buf.take (entryFirst b y - (start - b).toNat))] :=
  if_neg (Nat.not_lt.mpr overlaps)

/-- **What the passes do**: they take out the entries strictly inside the new segment, and insert it. -/
theorem storePasses_eq (fresh : Fresh b start last buf)
    (near : ∀ x ∈ pre ++ mid ++ post, Near b x)
    (before : ∀ x ∈ pre, entryFirst b x + entryLen x ≤ (start - b).toNat + 1 ∧
      entryFirst b x + entryLen x ≤ (last - b).toNat)
    (inside : ∀ x ∈ mid, (start - b).toNat < entryFirst b x ∧
      entryFirst b x + entryLen x ≤ (last - b).toNat)
    (beyond : ∀ x ∈ post, (start - b).toNat < entryFirst b x ∧
      (last - b).toNat < entryFirst b x + entryLen x) (passes : Nat) (enough : mid.length ≤ passes) :
    storePasses (passes + 1) start last buf (pre ++ mid ++ post) =
      .ok ((settled b start last buf pre post).take MAX_OUT_OF_ORDER) := by
  have preNear : ∀ x ∈ pre, Near b x := fun x member => near x (by simp [member])
  induction mid generalizing passes with
  | nil =>
    rw [List.append_nil] at near ⊢
    have skipped := storePass_skip fresh preNear before (pre ++ post).length 0 post
    cases post with
    | nil =>
      rw [List.append_nil] at skipped ⊢
      rw [storePasses_insert (skipped.trans (by rw [storePass])), List.insertIdx_length_self]
      rfl
    | cons y rest =>
      obtain ⟨after, reaches⟩ := beyond y List.mem_cons_self
      rw [storePass_cons fresh (near y (by simp)), if_pos after] at skipped
      by_cases clear : (last - b).toNat < entryFirst b y
      · rw [if_pos clear] at skipped
        rw [storePasses_insert skipped, settled_clear clear, Nat.zero_add, insertIdx_append_length]
      · rw [if_neg clear, if_neg (by omega)] at skipped
        rw [storePasses_insert skipped, settled_overlap (Nat.not_lt.mp clear), List.insertIdx_length_self]
  | cons z mid ih =>
    obtain ⟨passes, rfl⟩ : ∃ n, passes = n + 1 := ⟨passes - 1, by simp at enough; omega⟩
    have here := near z (by simp)
    have some_ := here.some_
    obtain ⟨after, ends⟩ := inside z List.mem_cons_self
    have skipped := storePass_skip fresh preNear before (pre ++ z :: mid ++ post).length 0
      (z :: mid ++ post)
    rw [← List.append_assoc, List.cons_append, storePass_cons fresh here, if_pos after,
      if_neg (by omega), if_pos ends] at skipped
    have erased : (pre ++ z :: mid ++ post).eraseIdx (0 + pre.length) = pre ++ mid ++ post := by
      simp [List.eraseIdx_append_of_length_le]
    rw [storePasses_encompass skipped, erased]
    refine ih (fun x member => near x ?_) (fun x member => inside x (List.mem_cons_of_mem z member)) passes
      (Nat.le_of_succ_le_succ enough)
    simp only [List.mem_append, List.mem_cons] at member ⊢
    tauto

/-- A segment that begins in the last entry of `pre` and ends after it: the pass goes on as if it began
at the last number of that entry. -/
theorem storePass_enter {x : SeqNumber × Buffer} (fresh : Fresh b start last buf)
    (near : ∀ y ∈ pre, Near b y) (here : Near b x)
    (before : ∀ y ∈ pre, entryFirst b y + entryLen y ≤ (start - b).toNat)
    (starts : entryFirst b x ≤ (start - b).toNat) (inside : (start - b).toNat < entryFirst b x + entryLen x)
    (ends : entryFirst b x + entryLen x ≤ (last - b).toNat) (len index : Nat)
    (rest : List (SeqNumber × Buffer)) :
    storePass len index start last buf (pre ++ x :: rest) =
      storePass len index (entryEnd x) last
        (buf.drop ((entryEnd x - b).toNat - (start - b).toNat)) (pre ++ x :: rest) := by
  have end_ := here.entryEnd_from
  have later : Fresh b (entryEnd x) last (buf.drop ((entryEnd x - b).toNat - (start - b).toNat)) :=
    fresh.drop (by omega) (by omega)
  have left := storePass_skip fresh near
    (fun y member => ⟨(before y member).trans (by omega), (before y member).trans (by omega)⟩)
    len index (x :: rest)
  have nearAll : ∀ y ∈ pre ++ [x], Near b y := by
    intro y member
    obtain member | member := List.mem_append.mp member
    · exact near y member
    · exact List.mem_singleton.mp member ▸ here
  have beforeAll : ∀ y ∈ pre ++ [x], entryFirst b y + entryLen y ≤ (entryEnd x - b).toNat + 1 ∧
      entryFirst b y + entryLen y ≤ (last - b).toNat := by
    intro y member
    obtain member | member := List.mem_append.mp member
    · have := before y member
      omega
    · rw [List.mem_singleton.mp member]
      omega
  have right := storePass_skip later nearAll beforeAll len index rest
  rw [List.append_assoc, List.singleton_append] at right
  rw [left, right, storePass_cons fresh here, if_neg (by omega), if_neg (by omega), if_neg (by omega),
    List.length_append, List.length_singleton, end_, Nat.add_assoc]

/-! ## When the store stays in order -/

/-- **The invariant of the store**: at most 16 entries, none of them empty, each one ending before the next
begins. -/
structure Ordered (b : SeqNumber) (store : List (SeqNumber × Buffer)) : Prop where
  few : store.length ≤ MAX_OUT_OF_ORDER
  near : ∀ entry ∈ store, Near b entry
  apart : Intervals.Apart (entryFirst b) entryLen store

/-- Entries that are left out disturb no order. -/
theorem Ordered.sublist (h : Ordered b store) {part : List (SeqNumber × Buffer)}
    (sublist : part.Sublist store) : Ordered b part where
  few := sublist.length_le.trans h.few
  near entry member := h.near entry (sublist.subset member)
  apart := h.apart.sublist sublist

/-- The entry begins after the start of the new segment and ends before its end. -/
def Within (b start last : SeqNumber) (entry : SeqNumber × Buffer) : Prop :=
  (start - b).toNat < entryFirst b entry ∧ entryFirst b entry + entryLen entry ≤ (last - b).toNat

/-- **When storing keeps the order**: the new segment lies in one entry; or every entry that shares a
number with it lies within it; or the store is full, no entry lies within the segment, and its last number
is in an entry or no entry begins after it, so that it is inserted at the end and dropped. -/
def KeepsOrder (b start last : SeqNumber) (store : List (SeqNumber × Buffer)) : Prop :=
  (∃ x ∈ store, entryFirst b x ≤ (start - b).toNat ∧
    (last - b).toNat < entryFirst b x + entryLen x) ∨
  (∀ x ∈ store, entryFirst b x ≤ (last - b).toNat → (start - b).toNat < entryFirst b x + entryLen x →
    Within b start last x) ∨
  (store.length = MAX_OUT_OF_ORDER ∧ (∀ x ∈ store, ¬Within b start last x) ∧
    ((∃ x ∈ store, entryFirst b x ≤ (last - b).toNat ∧
      (last - b).toNat < entryFirst b x + entryLen x) ∨
    ∀ x ∈ store, entryFirst b x ≤ (last - b).toNat))

/-- A store is split at a new segment: what begins at or before its start, what lies within it, and the
rest. -/
structure SplitAt (b start last : SeqNumber) (pre mid post : List (SeqNumber × Buffer)) : Prop where
  starts : ∀ x ∈ pre, entryFirst b x ≤ (start - b).toNat
  inside : ∀ x ∈ mid, Within b start last x
  beyond : ∀ x ∈ post, (start - b).toNat < entryFirst b x ∧
    (last - b).toNat < entryFirst b x + entryLen x

/-- What is not in the middle does not lie within the segment. -/
theorem SplitAt.not_within (split : SplitAt b start last pre mid post) {x : SeqNumber × Buffer}
    (member : x ∈ pre ++ post) : ¬Within b start last x := by
  rintro ⟨after, ends⟩
  obtain member | member := List.mem_append.mp member
  · exact absurd (split.starts x member) (Nat.not_le.mpr after)
  · exact absurd (split.beyond x member).2 (Nat.not_lt.mpr ends)

/-- No entry holds the segment when those that begin at or before its start end in it. -/
theorem SplitAt.not_contained (split : SplitAt b start last pre mid post)
    (ends : ∀ x ∈ pre, entryFirst b x + entryLen x ≤ (last - b).toNat) :
    ¬∃ x ∈ pre ++ mid ++ post, entryFirst b x ≤ (start - b).toNat ∧
      (last - b).toNat < entryFirst b x + entryLen x := by
  rintro ⟨x, member, first, contained⟩
  simp only [List.mem_append] at member
  obtain (member | member) | member := member
  · exact absurd (ends x member) (Nat.not_le.mpr contained)
  · exact absurd (split.inside x member).1 (Nat.not_lt.mpr first)
  · exact absurd (split.beyond x member).1 (Nat.not_lt.mpr first)

/-- The entries that share a number with the segment lie within it exactly if the others stay clear of
it. -/
theorem SplitAt.swallows_iff (split : SplitAt b start last pre mid post)
    (runs : (start - b).toNat ≤ (last - b).toNat) :
    (∀ x ∈ pre ++ mid ++ post, entryFirst b x ≤ (last - b).toNat →
        (start - b).toNat < entryFirst b x + entryLen x → Within b start last x) ↔
      (∀ x ∈ pre, entryFirst b x + entryLen x ≤ (start - b).toNat) ∧
        ∀ y ∈ post, (last - b).toNat < entryFirst b y := by
  constructor
  · intro swallows
    constructor
    · intro x member
      by_contra touches
      have first := split.starts x member
      exact split.not_within (List.mem_append_left post member)
        (swallows x (by simp [member]) (first.trans runs) (Nat.not_le.mp touches))
    · intro y member
      by_contra reaches
      have after := (split.beyond y member).1
      exact split.not_within (List.mem_append_right pre member)
        (swallows y (by simp [member]) (Nat.not_lt.mp reaches) (by omega))
  · rintro ⟨clear, after⟩ x member first reaches
    simp only [List.mem_append] at member
    obtain (member | member) | member := member
    · exact absurd (clear x member) (Nat.not_le.mpr reaches)
    · exact split.inside x member
    · exact absurd (after x member) (Nat.not_lt.mpr first)

/-- The segment is dropped at the end of a full store exactly if no entry lies within it and the rest
alone fill the store. -/
theorem SplitAt.dropped_iff (split : SplitAt b start last pre mid post)
    (few : (pre ++ mid ++ post).length ≤ MAX_OUT_OF_ORDER)
    (runs : (start - b).toNat ≤ (last - b).toNat)
    (ends : ∀ x ∈ pre, entryFirst b x + entryLen x ≤ (last - b).toNat) :
    ((pre ++ mid ++ post).length = MAX_OUT_OF_ORDER ∧
        (∀ x ∈ pre ++ mid ++ post, ¬Within b start last x) ∧
        ((∃ x ∈ pre ++ mid ++ post, entryFirst b x ≤ (last - b).toNat ∧
          (last - b).toNat < entryFirst b x + entryLen x) ∨
        ∀ x ∈ pre ++ mid ++ post, entryFirst b x ≤ (last - b).toNat)) ↔
      MAX_OUT_OF_ORDER ≤ (pre ++ post).length ∧
        (post = [] ∨ ∃ y ∈ post, entryFirst b y ≤ (last - b).toNat) := by
  constructor
  · rintro ⟨full, none, last_⟩
    have empty : mid = [] := by
      cases mid with
      | nil => rfl
      | cons z rest => exact (none z (by simp) (split.inside z List.mem_cons_self)).elim
    subst empty
    rw [List.append_nil] at full last_
    refine ⟨full.ge, ?_⟩
    obtain ⟨x, member, first, contained⟩ | all := last_
    · obtain member | member := List.mem_append.mp member
      · exact absurd (ends x member) (Nat.not_le.mpr contained)
      · exact .inr ⟨x, member, first⟩
    · cases post with
      | nil => exact .inl rfl
      | cons y rest => exact .inr ⟨y, List.mem_cons_self, all y (by simp)⟩
  · rintro ⟨full, last_⟩
    have empty : mid = [] := by
      rw [← List.length_eq_zero_iff]
      simp only [List.length_append] at few full
      omega
    subst empty
    rw [List.append_nil] at few ⊢
    refine ⟨le_antisymm few full, fun x member => split.not_within member, ?_⟩
    obtain rfl | ⟨y, member, first⟩ := last_
    · right
      rw [List.append_nil]
      exact fun x member => (split.starts x member).trans runs
    · exact .inl ⟨y, List.mem_append_right pre member, first, (split.beyond y member).2⟩

/-- The condition, for a store that has been split. -/
theorem SplitAt.keepsOrder_iff (split : SplitAt b start last pre mid post)
    (few : (pre ++ mid ++ post).length ≤ MAX_OUT_OF_ORDER)
    (runs : (start - b).toNat ≤ (last - b).toNat)
    (ends : ∀ x ∈ pre, entryFirst b x + entryLen x ≤ (last - b).toNat) :
    KeepsOrder b start last (pre ++ mid ++ post) ↔
      ((∀ x ∈ pre, entryFirst b x + entryLen x ≤ (start - b).toNat) ∧
        ∀ y ∈ post, (last - b).toNat < entryFirst b y) ∨
      (MAX_OUT_OF_ORDER ≤ (pre ++ post).length ∧
        (post = [] ∨ ∃ y ∈ post, entryFirst b y ≤ (last - b).toNat)) := by
  unfold KeepsOrder
  rw [or_iff_right (split.not_contained ends), split.swallows_iff runs, split.dropped_iff few runs ends]

/-- The new segment in a place of its own keeps the order. -/
theorem Ordered.place (ordered : Ordered b (pre ++ post)) (fresh : Fresh b start last buf)
    (before : ∀ x ∈ pre, entryFirst b x + entryLen x ≤ (start - b).toNat)
    (after : ∀ y ∈ post, (last - b).toNat < entryFirst b y) :
    Ordered b ((pre ++ (start, buf) :: post).take MAX_OUT_OF_ORDER) := by
  have last_ := fresh.last_from
  have some_ := fresh.some_
  obtain ⟨left, right, across⟩ := List.pairwise_append.mp ordered.apart
  have near : ∀ x ∈ pre ++ (start, buf) :: post, Near b x := by
    intro x member
    simp only [List.mem_append, List.mem_cons] at member
    obtain member | rfl | member := member
    · exact ordered.near x (by simp [member])
    · exact ⟨fresh.some_, fresh.near⟩
    · exact ordered.near x (by simp [member])
  have apart : Intervals.Apart (entryFirst b) entryLen (pre ++ (start, buf) :: post) := by
    refine List.pairwise_append.mpr ⟨left, List.pairwise_cons.mpr ⟨?_, right⟩, ?_⟩
    · intro y member
      have ends := after y member
      change (start - b).toNat + buf.length ≤ entryFirst b y
      omega
    · intro x member y member'
      obtain rfl | member' := List.mem_cons.mp member'
      · exact before x member
      · exact across x member y member'
  exact ⟨List.length_take_le _ _, fun x member => near x (List.mem_of_mem_take member),
    apart.sublist (List.take_sublist _ _)⟩

/-- An entry that stands before the new segment and does not end before it breaks the order. -/
theorem not_ordered_of_mem {x : SeqNumber × Buffer} {cut : Buffer} (member : x ∈ pre)
    (reaches : (start - b).toNat < entryFirst b x + entryLen x) (room : pre.length < MAX_OUT_OF_ORDER) :
    ¬Ordered b ((pre ++ (start, cut) :: post).take MAX_OUT_OF_ORDER) := by
  intro ordered
  have kept : (pre ++ [(start, cut)]).Sublist ((pre ++ (start, cut) :: post).take MAX_OUT_OF_ORDER) := by
    refine List.IsPrefix.sublist (List.prefix_take_iff.mpr ⟨?_, ?_⟩)
    · exact ⟨post, by simp⟩
    · rw [List.length_append, List.length_singleton]
      exact room
  have ends := (List.pairwise_append.mp (ordered.apart.sublist kept)).2.2 x member (start, cut)
    List.mem_cons_self
  exact absurd ends (Nat.not_le.mpr reaches)

/-- **When the last pass leaves an ordered store.** -/
theorem settled_ordered_iff (ordered : Ordered b (pre ++ mid ++ post)) (fresh : Fresh b start last buf)
    (beyond : ∀ x ∈ post, (start - b).toNat < entryFirst b x ∧
      (last - b).toNat < entryFirst b x + entryLen x) :
    Ordered b ((settled b start last buf pre post).take MAX_OUT_OF_ORDER) ↔
      ((∀ x ∈ pre, entryFirst b x + entryLen x ≤ (start - b).toNat) ∧
        ∀ y ∈ post, (last - b).toNat < entryFirst b y) ∨
      (MAX_OUT_OF_ORDER ≤ (pre ++ post).length ∧
        (post = [] ∨ ∃ y ∈ post, entryFirst b y ≤ (last - b).toNat)) := by
  have others : Ordered b (pre ++ post) := ordered.sublist (by simp)
  by_cases clear : ∀ y ∈ post, (last - b).toNat < entryFirst b y
  · have eq : settled b start last buf pre post = pre ++ (start, buf) :: post := by
      cases post with
      | nil => rfl
      | cons y rest => exact settled_clear (clear y List.mem_cons_self)
    rw [eq]
    by_cases before : ∀ x ∈ pre, entryFirst b x + entryLen x ≤ (start - b).toNat
    · exact iff_of_true (others.place fresh before clear) (.inl ⟨before, clear⟩)
    obtain ⟨x, member, reaches⟩ : ∃ x ∈ pre, (start - b).toNat < entryFirst b x + entryLen x := by
      push Not at before
      exact before
    -- a full store drops the new entry again, which is then the last one
    by_cases full : MAX_OUT_OF_ORDER ≤ pre.length
    · have few := others.few
      rw [List.length_append] at few
      have empty : post = [] := List.length_eq_zero_iff.mp (by omega)
      subst empty
      rw [List.append_nil] at others ⊢
      rw [List.take_append_of_le_length full, List.take_of_length_le others.few]
      exact iff_of_true others (.inr ⟨full, .inl rfl⟩)
    · refine iff_of_false (not_ordered_of_mem member reaches (Nat.not_le.mp full)) ?_
      rintro (⟨all, -⟩ | ⟨enough, rfl | ⟨y, there, starts⟩⟩)
      · exact before all
      · rw [List.append_nil] at enough
        exact full enough
      · exact absurd (clear y there) (Nat.not_lt.mpr starts)
  · obtain ⟨y, there, starts⟩ : ∃ y ∈ post, entryFirst b y ≤ (last - b).toNat := by
      push Not at clear
      exact clear
    cases post with
    | nil => cases there
    | cons z rest =>
    -- entries after the first begin after it ends, and it does not end in the segment
    have first : entryFirst b z ≤ (last - b).toNat := by
      obtain rfl | there := List.mem_cons.mp there
      · exact starts
      · have ends := (List.pairwise_cons.mp (List.pairwise_append.mp others.apart).2.1).1 y there
        have := (beyond z List.mem_cons_self).2
        omega
    rw [settled_overlap first]
    -- an entry that overlaps goes to the end, and only a full store drops it there
    by_cases full : MAX_OUT_OF_ORDER ≤ (pre ++ z :: rest).length
    · rw [List.take_append_of_le_length full, List.take_of_length_le others.few]
      exact iff_of_true others (.inr ⟨full, .inr ⟨y, there, starts⟩⟩)
    · have some_ := (others.near z (by simp)).some_
      have after := (beyond z List.mem_cons_self).1
      refine iff_of_false (not_ordered_of_mem (x := z) (by simp) (by omega) (Nat.not_le.mp full)) ?_
      rintro (⟨-, all⟩ | ⟨enough, -⟩)
      · exact clear all
      · exact full enough

/-- Every ordered store can be split. -/
theorem Ordered.split (ordered : Ordered b store) (start last : SeqNumber) :
    ∃ pre mid post, store = pre ++ mid ++ post ∧ SplitAt b start last pre mid post := by
  obtain ⟨pre, rest, rfl, starts, after⟩ := Intervals.exists_split
    (p := fun x => entryFirst b x ≤ (start - b).toNat) (ordered.apart.sorted.imp fun le => le.trans)
  have apart := (List.pairwise_append.mp ordered.apart).2.1
  obtain ⟨mid, post, rfl, ends, beyond⟩ := Intervals.exists_split
    (l := rest) (p := fun x => entryFirst b x + entryLen x ≤ (last - b).toNat)
    (apart.imp fun le later => (le.trans (Nat.le_add_right _ _)).trans later)
  refine ⟨pre, mid, post, (List.append_assoc _ _ _).symm, starts, ?_, ?_⟩
  · intro x member
    exact ⟨Nat.not_le.mp (after x (List.mem_append_left post member)), ends x member⟩
  · intro x member
    exact ⟨Nat.not_le.mp (after x (List.mem_append_right mid member)), Nat.not_le.mp (beyond x member)⟩

/-- What the three cases of the last entry of `pre` come to. -/
def StoresWell (b start last : SeqNumber) (buf : Buffer) (store : List (SeqNumber × Buffer)) : Prop :=
  ∃ store', storePasses (store.length + 1) start last buf store = .ok store' ∧
    (Ordered b store' ↔ KeepsOrder b start last store)

theorem length_mid_le : mid.length ≤ (pre ++ mid ++ post).length := by
  simp only [List.length_append]
  omega

/-- Nothing that begins at or before the start reaches it. -/
theorem storesWell_of_clear (ordered : Ordered b (pre ++ mid ++ post)) (fresh : Fresh b start last buf)
    (split : SplitAt b start last pre mid post)
    (clear : ∀ x ∈ pre, entryFirst b x + entryLen x ≤ (start - b).toNat) :
    StoresWell b start last buf (pre ++ mid ++ post) := by
  have runs : (start - b).toNat ≤ (last - b).toNat := by
    have := fresh.last_from
    have := fresh.some_
    omega
  refine ⟨_, storePasses_eq fresh ordered.near ?_ split.inside split.beyond _ length_mid_le, ?_⟩
  · intro x member
    have := clear x member
    omega
  · rw [settled_ordered_iff ordered fresh split.beyond,
      split.keepsOrder_iff ordered.few runs fun x member => (clear x member).trans runs]

variable {x : SeqNumber × Buffer}

/-- The entries before one end before it begins. -/
theorem Ordered.earlier (ordered : Ordered b (pre ++ [x] ++ mid ++ post)) :
    ∀ y ∈ pre, entryFirst b y + entryLen y ≤ entryFirst b x := by
  intro y member
  have apart := (List.pairwise_append.mp (List.pairwise_append.mp ordered.apart).1).1
  exact (List.pairwise_append.mp apart).2.2 y member x List.mem_cons_self

/-- The last entry that begins at or before the start holds all of the new segment. -/
theorem storesWell_of_contained (ordered : Ordered b (pre ++ [x] ++ mid ++ post))
    (fresh : Fresh b start last buf) (starts : entryFirst b x ≤ (start - b).toNat)
    (contained : (last - b).toNat < entryFirst b x + entryLen x) :
    StoresWell b start last buf (pre ++ [x] ++ mid ++ post) := by
  have last_ := fresh.last_from
  have some_ := fresh.some_
  have near : ∀ y ∈ pre, Near b y := fun y member => ordered.near y (by simp [member])
  have before : ∀ y ∈ pre, entryFirst b y + entryLen y ≤ (start - b).toNat + 1 ∧
      entryFirst b y + entryLen y ≤ (last - b).toNat := by
    intro y member
    have := ordered.earlier y member
    omega
  have skipped := storePass_skip fresh near before (pre ++ [x] ++ mid ++ post).length 0 (x :: mid ++ post)
  rw [List.cons_append, storePass_cons fresh (ordered.near x (by simp)), if_neg (Nat.not_lt.mpr starts),
    if_pos contained] at skipped
  refine ⟨_, storePasses_discard ?_, iff_of_true ordered (.inl ⟨x, by simp, starts, contained⟩)⟩
  simpa using skipped

/-- The last entry that begins at or before the start ends inside the new segment. From then on the
segment begins at the last number of that entry. -/
theorem storesWell_of_overlap (ordered : Ordered b (pre ++ [x] ++ mid ++ post))
    (fresh : Fresh b start last buf) (split : SplitAt b start last (pre ++ [x]) mid post)
    (reaches : (start - b).toNat < entryFirst b x + entryLen x)
    (ends : entryFirst b x + entryLen x ≤ (last - b).toNat) :
    StoresWell b start last buf (pre ++ [x] ++ mid ++ post) := by
  have starts : entryFirst b x ≤ (start - b).toNat := split.starts x (by simp)
  have here : Near b x := ordered.near x (by simp)
  have end_ := here.entryEnd_from
  have entrySome := here.some_
  have earlier := ordered.earlier
  have later : Fresh b (entryEnd x) last (buf.drop ((entryEnd x - b).toNat - (start - b).toNat)) :=
    fresh.drop (by omega) (by omega)
  have before : ∀ y ∈ pre ++ [x], entryFirst b y + entryLen y ≤ (entryEnd x - b).toNat + 1 ∧
      entryFirst b y + entryLen y ≤ (last - b).toNat := by
    intro y member
    obtain member | member := List.mem_append.mp member
    · have := earlier y member
      omega
    · rw [List.mem_singleton.mp member]
      omega
  have after {y : SeqNumber × Buffer} (member : y ∈ mid ++ post) :
      (entryEnd x - b).toNat < entryFirst b y := by
    have apart := ordered.apart
    rw [List.append_assoc] at apart
    have := (List.pairwise_append.mp apart).2.2 x (by simp) y member
    omega
  have inside' : ∀ y ∈ mid, Within b (entryEnd x) last y :=
    fun y member => ⟨after (List.mem_append_left post member), (split.inside y member).2⟩
  have beyond' : ∀ y ∈ post, (entryEnd x - b).toNat < entryFirst b y ∧
      (last - b).toNat < entryFirst b y + entryLen y :=
    fun y member => ⟨after (List.mem_append_right mid member), (split.beyond y member).2⟩
  -- the first pass cuts the front and enters what is left; the second starts from there
  have entered := storePass_enter fresh (fun y member => ordered.near y (by simp [member])) here
    (fun y member => (earlier y member).trans starts) starts reaches ends
    (pre ++ [x] ++ mid ++ post).length 0 (mid ++ post)
  rw [show pre ++ x :: (mid ++ post) = pre ++ [x] ++ mid ++ post by simp] at entered
  have same : storePasses ((pre ++ [x] ++ mid ++ post).length + 1) start last buf
      (pre ++ [x] ++ mid ++ post) = storePasses ((pre ++ [x] ++ mid ++ post).length + 1)
        (entryEnd x) last (buf.drop ((entryEnd x - b).toNat - (start - b).toNat))
        (pre ++ [x] ++ mid ++ post) := by
    rw [storePasses, storePasses, entered]
  refine ⟨_, same.trans (storePasses_eq later ordered.near before inside' beyond' _ length_mid_le), ?_⟩
  rw [settled_ordered_iff ordered later beyond',
    split.keepsOrder_iff ordered.few (by omega) fun y member => (before y member).2]
  refine or_congr_left (iff_of_false ?_ ?_)
  · rintro ⟨all, -⟩
    have := all x (by simp)
    omega
  · rintro ⟨all, -⟩
    exact absurd (all x (by simp)) (Nat.not_le.mpr reaches)

/-- **What storing leaves is ordered exactly if the condition holds.** -/
theorem storesWell (ordered : Ordered b store) (fresh : Fresh b start last buf) :
    StoresWell b start last buf store := by
  obtain ⟨pre, mid, post, rfl, split⟩ := ordered.split start last
  obtain rfl | ⟨pre, x, rfl⟩ := List.eq_nil_or_concat' pre
  · exact storesWell_of_clear ordered fresh split (by simp)
  have starts : entryFirst b x ≤ (start - b).toNat := split.starts x (by simp)
  by_cases contained : (last - b).toNat < entryFirst b x + entryLen x
  · exact storesWell_of_contained ordered fresh starts contained
  by_cases reaches : (start - b).toNat < entryFirst b x + entryLen x
  · exact storesWell_of_overlap ordered fresh split reaches (Nat.not_lt.mp contained)
  · refine storesWell_of_clear ordered fresh split fun y member => ?_
    obtain member | member := List.mem_append.mp member
    · exact (ordered.earlier y member).trans starts
    · rw [List.mem_singleton.mp member]
      exact Nat.not_lt.mp reaches

end

instance (b : SeqNumber) (entry : SeqNumber × Buffer) : Decidable (Near b entry) :=
  decidable_of_iff (0 < entryLen entry ∧ entryFirst b entry + entryLen entry < 2 ^ 31)
    ⟨fun h => ⟨h.1, h.2⟩, fun h => ⟨h.some_, h.near⟩⟩

instance (b : SeqNumber) (store : List (SeqNumber × Buffer)) : Decidable (Ordered b store) :=
  decidable_of_iff (store.length ≤ MAX_OUT_OF_ORDER ∧ (∀ entry ∈ store, Near b entry) ∧
      store.Pairwise fun x y => entryFirst b x + entryLen x ≤ entryFirst b y)
    ⟨fun h => ⟨h.1, h.2.1, h.2.2⟩, fun h => ⟨h.few, h.near, h.apart⟩⟩

instance (b start last : SeqNumber) (entry : SeqNumber × Buffer) :
    Decidable (Within b start last entry) :=
  inferInstanceAs (Decidable (_ ∧ _))

instance (b start last : SeqNumber) (store : List (SeqNumber × Buffer)) :
    Decidable (KeepsOrder b start last store) :=
  inferInstanceAs (Decidable (_ ∨ _ ∨ _))

namespace ControlBlock

variable {σ : Type}

/-- **The out-of-order store stays in order exactly if the new segment overlaps no entry in part**, unless
the store is full and the segment is dropped. -/
theorem store_ordered_iff (cb : ControlBlock σ) (b newStart newEnd : SeqNumber) (buf : Buffer)
    (ordered : Ordered b cb.outOfOrder) (fresh : Fresh b newStart newEnd buf) :
    ∃ cb', cb.storeOutOfOrderSegment newStart newEnd buf = .ok cb' ∧
      (Ordered b cb'.outOfOrder ↔ KeepsOrder b newStart newEnd cb.outOfOrder) := by
  obtain ⟨store, ran, iff⟩ := storesWell ordered fresh
  refine ⟨{ cb with outOfOrder := store }, ?_, iff⟩
  exact bind_eq_ok.mpr ⟨store, ran, rfl⟩

/-- Bytes 60 to 62 are stored. -/
def sampleStore : ControlBlock CongestionControl.None :=
  { sampleBlock ⟨50⟩ ⟨40⟩ 100 10 1 with outOfOrder := [(⟨60⟩, [1, 2, 3])] }

/-- Bytes 58 to 64 come, and take the place of what is stored. -/
theorem store_ordered_iff_encompassing :
    ∃ cb', sampleStore.storeOutOfOrderSegment ⟨58⟩ ⟨64⟩ [8, 9, 1, 2, 3, 4, 5] = .ok cb' ∧
      Ordered ⟨50⟩ cb'.outOfOrder := by
  obtain ⟨cb', ran, iff⟩ := store_ordered_iff sampleStore ⟨50⟩ ⟨58⟩ ⟨64⟩ [8, 9, 1, 2, 3, 4, 5]
    (by decide) ⟨by decide, by decide, by decide⟩
  exact ⟨cb', ran, iff.mpr (by decide)⟩

/-- Bytes 62 to 63 come, and byte 62 is stored twice. Bytes 58 to 60 come, and the two that are stored of
them go to the end. -/
theorem store_not_ordered :
    Ordered ⟨50⟩ sampleStore.outOfOrder ∧
    (Fresh ⟨50⟩ ⟨62⟩ ⟨63⟩ [3, 4] ∧
      ∃ cb', sampleStore.storeOutOfOrderSegment ⟨62⟩ ⟨63⟩ [3, 4] = .ok cb' ∧
        cb'.outOfOrder = [(⟨60⟩, [1, 2, 3]), (⟨62⟩, [3, 4])] ∧ ¬Ordered ⟨50⟩ cb'.outOfOrder) ∧
    Fresh ⟨50⟩ ⟨58⟩ ⟨60⟩ [8, 9, 1] ∧
      ∃ cb', sampleStore.storeOutOfOrderSegment ⟨58⟩ ⟨60⟩ [8, 9, 1] = .ok cb' ∧
        cb'.outOfOrder = [(⟨60⟩, [1, 2, 3]), (⟨58⟩, [8, 9])] ∧ ¬Ordered ⟨50⟩ cb'.outOfOrder := by
  refine ⟨by decide, ⟨⟨by decide, by decide, by decide⟩, _, rfl, by decide, by decide⟩, ?_⟩
  exact ⟨⟨by decide, by decide, by decide⟩, _, rfl, by decide, by decide⟩

end ControlBlock

end Inetstack.Tcp
