import Inetstack.Laws.Tcp.Established.Acceptance

/-!
# What the trimming keeps

A segment takes a run of sequence numbers: the SYN the first of them, then one for each byte, then the
FIN. Trimming cuts the run at both ends of the receive window, and what is left is what the window and the
segment have in common, with the bytes and the flags that stand at those numbers.
-/

namespace Inetstack.Tcp

/-- One of the `len` numbers from `start` on. -/
def SeqNumber.within (n start : SeqNumber) (len : Nat) : Bool := (n - start).toNat < len

/-- The entries of a list whose places lie in a range are a piece of it. -/
theorem filter_zipIdx_range {α : Type} (l : List α) (first a b : Nat) :
    ((l.zipIdx first).filter fun entry => decide (a ≤ entry.2 ∧ entry.2 < b)).map Prod.fst =
      (l.take (b - first)).drop (a - first) := by
  induction l generalizing first with
  | nil => simp
  | cons x rest ih =>
    rw [List.zipIdx_cons, List.filter_cons]
    by_cases late : b ≤ first
    · rw [if_neg (by simp; omega), ih, show b - first = 0 by omega, show b - (first + 1) = 0 by omega,
        List.take_zero, List.take_zero, List.drop_nil, List.drop_nil]
    rw [show b - first = b - (first + 1) + 1 by omega, List.take_succ_cons]
    by_cases early : first < a
    · rw [if_neg (by simp; omega), ih, show a - first = a - (first + 1) + 1 by omega,
        List.drop_succ_cons]
    · rw [if_pos (by simp; omega), List.map_cons, ih, show a - first = 0 by omega,
        show a - (first + 1) = 0 by omega, List.drop_zero, List.drop_zero]

namespace InSegment

/-- How many sequence numbers a segment takes. -/
def seqLength (header : TcpHeader) (data : Buffer) : Nat :=
  data.length + header.syn.toNat + header.fin.toNat

/-- **What is left of a segment is what it has in the window**: the numbers `segStart` and `segLen` stand
for, the bytes at those numbers, the SYN and the FIN. -/
structure Trimmed (receiveNext : SeqNumber) (window : UInt32) (header : TcpHeader) (data : Buffer)
    (seg : InSegment) : Prop where
  numbers : ∀ n : SeqNumber, n.within seg.segStart seg.segLen.toNat =
    (n.within header.seqNum (seqLength header data) && n.within receiveNext window.toNat)
  bytes : seg.data = ((data.zipIdx header.syn.toNat).filter fun entry =>
    (header.seqNum + (entry.2 : SeqNumber)).within receiveNext window.toNat).map Prod.fst
  syn : seg.header.syn = (header.syn && header.seqNum.within receiveNext window.toNat)
  fin : seg.header.fin = (header.fin &&
    (header.seqNum + ((header.syn.toNat + data.length : Nat) : SeqNumber)).within receiveNext window.toNat)

variable {receiveNext : SeqNumber} {window : UInt32} {header : TcpHeader} {data : Buffer}
  {seg : InSegment}

/-- The segment is the part of the arriving one from its `a`-th number on. -/
structure Slice (header : TcpHeader) (data : Buffer) (a : Nat) (seg : InSegment) : Prop where
  start : seg.segStart = header.seqNum + (a : SeqNumber)
  bound : a + seg.segLen.toNat ≤ seqLength header data
  some_ : 0 < seqLength header data → 0 < seg.segLen.toNat
  bytes : seg.data = (data.take (a + seg.segLen.toNat - header.syn.toNat)).drop (a - header.syn.toNat)
  syn : seg.header.syn = (header.syn && decide (a = 0))
  fin : seg.header.fin = (header.fin && decide (seqLength header data ≤ a + seg.segLen.toNat))

/-- A slice is what the segment has in the window, if its places are those inside. -/
theorem Slice.trimmed {a : Nat} (slice : Slice header data a seg) (short : data.length < 2 ^ 16)
    (inside : ∀ i < seqLength header data,
      (header.seqNum + (i : SeqNumber)).within receiveNext window.toNat =
        decide (a ≤ i ∧ i < a + seg.segLen.toNat)) :
    Trimmed receiveNext window header data seg := by
  have syn := header.syn.toNat_le
  have fin := header.fin.toNat_le
  have bound := slice.bound
  have some_ := slice.some_
  have len : seqLength header data = data.length + header.syn.toNat + header.fin.toNat := rfl
  refine ⟨fun n => ?_, ?_, ?_, ?_⟩
  -- a number is the start of the segment and its distance from there
  · have there := SeqNumber.eq_add_distance n header.seqNum
    have range := (n - header.seqNum).toNat_lt
    generalize (n - header.seqNum).toNat = i at there range
    subst there
    have distance : (header.seqNum + (i : SeqNumber) - header.seqNum).toNat = i := by
      rw [add_sub_cancel_left, SeqNumber.toNat_cast, Nat.mod_eq_of_lt range]
    have fromStart : (header.seqNum + (i : SeqNumber) - seg.segStart).toNat =
        if a ≤ i then i - a else 2 ^ 32 - a + i := by
      rw [slice.start, add_sub_add_left_eq_sub, SeqNumber.toNat_cast_sub_cast range (by omega)]
    by_cases place : i < seqLength header data
    · rw [inside i place]
      simp only [SeqNumber.within, distance, place, fromStart, decide_true, Bool.true_and]
      rw [decide_eq_decide]
      split <;> omega
    · simp only [SeqNumber.within, distance, place, fromStart, decide_false, Bool.false_and,
        decide_eq_false_iff_not]
      split <;> omega
  · rw [slice.bytes, ← filter_zipIdx_range]
    congr 1
    apply List.filter_congr
    rintro ⟨x, i⟩ member
    have place := List.mem_zipIdx member
    exact (inside i (by omega)).symm
  · rw [slice.syn]
    cases set : header.syn with
    | false => rfl
    | true =>
      rw [set, Bool.toNat_true] at len
      have first := inside 0 (by omega)
      rw [Nat.cast_zero, add_zero] at first
      rw [first, decide_eq_decide.mpr]
      omega
  · rw [slice.fin]
    cases set : header.fin with
    | false => rfl
    | true =>
      rw [set, Bool.toNat_true] at len
      have last := inside (header.syn.toNat + data.length) (by omega)
      rw [last, decide_eq_decide.mpr]
      omega

/-- A segment that begins `o` numbers after RCV.NXT, cut at the back only. -/
theorem trimmed_of_back {o : Nat} (short : data.length < 2 ^ 16) (small : window.toNat < 2 ^ 30)
    (start : header.seqNum = receiveNext + (o : SeqNumber)) (room : o < window.toNat)
    (back : CutBack window.toNat o (arriving header data) seg) :
    Trimmed receiveNext window header data seg := by
  have syn := header.syn.toNat_le
  have fin := header.fin.toNat_le
  have len : (arriving header data).segLen.toNat = seqLength header data :=
    (arriving_shaped header short).len
  have kept := back.len
  have length : seqLength header data = data.length + header.syn.toNat + header.fin.toNat := rfl
  rw [len] at kept
  refine Slice.trimmed (a := 0) ⟨?_, ?_, ?_, ?_, ?_, ?_⟩ short ?_
  · rw [back.start, Nat.cast_zero, add_zero]
    rfl
  · omega
  · omega
  · have bytes : seg.data = data.take (window.toNat - o - header.syn.toNat) := back.data
    rw [bytes, Nat.zero_sub, List.drop_zero]
    refine List.take_eq_take_iff.mpr ?_
    omega
  · rw [back.header, decide_eq_true rfl, Bool.and_true]
    rfl
  · rw [back.header, len]
    change (header.fin && _) = _
    rw [decide_eq_decide.mpr]
    omega
  · intro i place
    have distance : (header.seqNum + (i : SeqNumber) - receiveNext).toNat = o + i := by
      rw [start, add_assoc, add_sub_cancel_left, ← Nat.cast_add, SeqNumber.toNat_cast]
      omega
    rw [SeqNumber.within, distance, decide_eq_decide]
    omega

/-- A segment that begins before RCV.NXT and covers it, cut at both ends. -/
theorem trimmed_of_front {cut : InSegment} (short : data.length < 2 ^ 16)
    (small : window.toNat < 2 ^ 30) (room : 0 < window.toNat)
    (before : 1 ≤ (receiveNext - header.seqNum).toNat)
    (covers : (receiveNext - header.seqNum).toNat < seqLength header data)
    (front : CutFront receiveNext (arriving header data) cut)
    (back : CutBack window.toNat 0 cut seg) : Trimmed receiveNext window header data seg := by
  have syn := header.syn.toNat_le
  have fin := header.fin.toNat_le
  have len : (arriving header data).segLen.toNat = seqLength header data :=
    (arriving_shaped header short).len
  have there := SeqNumber.eq_add_distance receiveNext header.seqNum
  have cutLen := front.len
  have kept := back.len
  have length : seqLength header data = data.length + header.syn.toNat + header.fin.toNat := rfl
  have start : (arriving header data).segStart = header.seqNum := rfl
  have cutBytes : cut.data = data.drop ((receiveNext - header.seqNum).toNat - header.syn.toNat) :=
    front.data
  have noSyn : cut.header.syn = false := by rw [front.header]
  have sameFin : cut.header.fin = header.fin := by rw [front.header]; rfl
  have bytes := back.data
  rw [noSyn, Bool.toNat_false] at bytes
  rw [len, start] at cutLen
  -- the segment begins `a` numbers before RCV.NXT
  generalize (receiveNext - header.seqNum).toNat = a at before covers there cutLen cutBytes
  rw [cutLen] at kept
  refine Slice.trimmed (a := a) ⟨?_, ?_, ?_, ?_, ?_, ?_⟩ short ?_
  · rw [back.start, front.start, ← there]
  · omega
  · omega
  · rw [bytes, cutBytes, List.drop_take]
    refine List.take_eq_take_iff.mpr ?_
    rw [List.length_drop]
    omega
  · have later : decide (a = 0) = false := decide_eq_false (by omega)
    rw [back.header, later, Bool.and_false]
    exact noSyn
  · rw [back.header, cutLen]
    change (cut.header.fin && _) = _
    rw [sameFin, decide_eq_decide.mpr]
    omega
  · intro i place
    have distance : (header.seqNum + (i : SeqNumber) - receiveNext).toNat =
        if a ≤ i then i - a else 2 ^ 32 - a + i := by
      rw [there, add_sub_add_left_eq_sub, SeqNumber.toNat_cast_sub_cast (by omega) (by omega)]
    rw [SeqNumber.within, distance, decide_eq_decide]
    split <;> omega

/-- **Trimming keeps exactly the part in the window**, and asks no buffer for more than it has. -/
theorem accept_trimmed (receiveNext : SeqNumber) (window : UInt32) (header : TcpHeader) (data : Buffer)
    (open_ : 1 ≤ window.toNat) (small : window.toNat < 2 ^ 30) (short : data.length ≤ 65535) :
    accept receiveNext window header data = .ok none ∨
      ∃ seg, accept receiveNext window header data = .ok (some seg) ∧
        Trimmed receiveNext window header data seg := by
  have short : data.length < 2 ^ 16 := by omega
  have room : header.syn = true → header.seqNum = receiveNext → window ≠ 0 := by
    rintro - - rfl
    cases open_
  obtain ⟨accepted, ran, -⟩ := accept_eq small short room
  cases accepted with
  | none => exact .inl ran
  | some seg =>
    refine .inr ⟨seg, ran, ?_⟩
    have shaped := arriving_shaped header short
    have syn := header.syn.toNat_le
    rcases accept_cases ran with ⟨here, trimmed⟩ | ⟨before, after, cut, trimmedFront, trimmed⟩ |
      ⟨-, notBefore, notPast, trimmed⟩
    · have start : header.seqNum = receiveNext + ((0 : Nat) : SeqNumber) := by
        rw [here, Nat.cast_zero, add_zero]
      obtain ⟨seg', same, back⟩ := trimBack_eq shaped small start (by
        change 0 + header.syn.toNat ≤ _
        omega)
      rw [trimmed] at same
      cases same
      exact trimmed_of_back short small start open_ back
    · obtain ⟨some_, covers⟩ := front_distance shaped arriving_empty before after
      obtain ⟨cut', sameFront, front⟩ := trimFront_eq shaped some_ covers
      rw [trimmedFront] at sameFront
      cases sameFront
      obtain ⟨seg', same, back⟩ := trimBack_eq front.shaped small
        (front.start.trans (add_zero receiveNext).symm) (by rw [front.header]; exact Nat.zero_le _)
      rw [trimmed] at same
      cases same
      rw [shaped.len] at covers
      exact trimmed_of_front short small open_ some_ covers front back
    · have inside := distance_lt_window notBefore notPast
      have start := SeqNumber.eq_add_distance header.seqNum receiveNext
      obtain ⟨seg', same, back⟩ := trimBack_eq shaped small start (by
        change _ + header.syn.toNat ≤ _
        omega)
      rw [trimmed] at same
      cases same
      exact trimmed_of_back short small start inside back

/-- A SYN, six bytes and a FIN that begin two numbers before a window of three: the SYN and the first byte
are cut off in front, and two bytes and the FIN at the back. -/
theorem accept_trimmed_both_ends :
    ∃ seg, accept ⟨1⟩ 3 { sampleHeader 4294967295 40 10 with syn := true, fin := true }
        [10, 11, 12, 13, 14, 15] = .ok (some seg) ∧ seg.data = [11, 12, 13] ∧
      Trimmed ⟨1⟩ 3 { sampleHeader 4294967295 40 10 with syn := true, fin := true }
        [10, 11, 12, 13, 14, 15] seg := by
  obtain ⟨seg, ran, view⟩ := Machine.map_eq_ok
    (x := accept ⟨1⟩ 3 { sampleHeader 4294967295 40 10 with syn := true, fin := true }
      [10, 11, 12, 13, 14, 15]) (fun accepted => accepted.map InSegment.data)
    (t := some [11, 12, 13]) (by decide)
  cases seg with
  | none => cases view
  | some seg =>
    refine ⟨seg, ran, Option.some.inj view, ?_⟩
    rcases accept_trimmed ⟨1⟩ 3 { sampleHeader 4294967295 40 10 with syn := true, fin := true }
      [10, 11, 12, 13, 14, 15] (by decide) (by decide) (by decide) with dropped | ⟨seg', same, trimmed⟩
    · rw [ran] at dropped
      cases dropped
    · rw [ran] at same
      cases same
      exact trimmed

end InSegment

end Inetstack.Tcp
