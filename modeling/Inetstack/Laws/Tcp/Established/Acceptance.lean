import Inetstack.Laws.Tcp.Established.PeerFin

/-!
# The acceptance test in numbers

Distances from RCV.NXT turn the acceptance test into arithmetic on natural numbers. An IPv4 payload
is shorter than `2 ^ 16` bytes and a receive window smaller than `2 ^ 30`, so every distance the test
compares is far below `2 ^ 31` and the signed comparisons mean what they say. A segment that passes
has been cut to the window: it begins at a distance `o` from RCV.NXT, and `o` and its length together
are at most the window.

The cuts never ask a buffer for more than it holds, with one exception: a SYN that arrives at RCV.NXT
when the window is zero, where the code counts the SYN among the bytes to cut off the end.
-/

namespace Inetstack.Tcp

open Machine (bind_eq_ok bind_eq_error)

namespace InSegment

/-- The locals of `receive` agree with the segment: its length counts the data and the flags, and the
last number is the one before the segment's end. -/
structure Shaped (seg : InSegment) : Prop where
  len : seg.segLen.toNat = seg.data.length + seg.header.syn.toNat + seg.header.fin.toNat
  short : seg.segLen.toNat < 2 ^ 17
  last : 0 < seg.segLen.toNat →
    seg.segEnd = seg.segStart + ((seg.segLen.toNat - 1 : Nat) : SeqNumber)

theorem arriving_shaped (header : TcpHeader) {data : Buffer} (short : data.length < 2 ^ 16) :
    (arriving header data).Shaped := by
  have len : (arriving header data).segLen.toNat =
      data.length + header.syn.toNat + header.fin.toNat := by
    simp only [arriving]
    rw [UInt32.toNat_add, UInt32.toNat_add, UInt32.toNat_ofNat']
    cases header.syn <;> cases header.fin <;> simp <;> omega
  have syn := header.syn.toNat_le
  have fin := header.fin.toNat_le
  refine ⟨len, by omega, ?_⟩
  intro positive
  have some_ : 0 < (arriving header data).segLen := UInt32.lt_iff_toNat_lt.mpr positive
  have less : ((arriving header data).segLen - 1).toNat = (arriving header data).segLen.toNat - 1 :=
    UInt32.toNat_sub_of_le _ _ (UInt32.le_iff_toNat_le.mpr positive)
  rw [← less, SeqNumber.cast_toNat_eq_mk]
  exact if_pos some_

/-- An empty segment ends where it starts. -/
theorem arriving_empty {header : TcpHeader} {data : Buffer}
    (empty : (arriving header data).segLen.toNat = 0) :
    (arriving header data).segEnd = header.seqNum := by
  have none : ¬ 0 < (arriving header data).segLen := by
    rw [UInt32.lt_iff_toNat_lt, empty]
    exact lt_irrefl 0
  exact if_neg none

/-- **The cut in front.** A segment that begins before RCV.NXT and does not end before it covers it:
the cut is shorter than the segment. -/
theorem front_distance {seg : InSegment} (shaped : seg.Shaped)
    (empty : seg.segLen.toNat = 0 → seg.segEnd = seg.segStart) {receiveNext : SeqNumber}
    (before : seg.segStart.lt receiveNext = true) (after : seg.segEnd.lt receiveNext = false) :
    1 ≤ (receiveNext - seg.segStart).toNat ∧
      (receiveNext - seg.segStart).toNat < seg.segLen.toNat := by
  have short := shaped.short
  by_cases positive : 0 < seg.segLen.toNat
  · have there : seg.segEnd - receiveNext =
        ((seg.segLen.toNat - 1 : Nat) : SeqNumber) - (receiveNext - seg.segStart) := by
      rw [shaped.last positive, add_comm, ← sub_sub_eq_add_sub]
    rw [SeqNumber.lt_iff] at before
    rw [Bool.eq_false_iff, ne_eq, SeqNumber.lt_iff, there, SeqNumber.toNat_sub,
      SeqNumber.toNat_cast] at after
    rw [SeqNumber.toNat_sub] at before after ⊢
    have := seg.segStart.toNat_lt
    have := receiveNext.toNat_lt
    omega
  · rw [empty (by omega), before] at after
    cases after

/-- The last number stays where it is, nearer to the new start. -/
theorem front_last {seg : InSegment} {receiveNext : SeqNumber} (shaped : seg.Shaped)
    (covers : (receiveNext - seg.segStart).toNat < seg.segLen.toNat) :
    seg.segEnd = receiveNext +
      ((seg.segLen.toNat - (receiveNext - seg.segStart).toNat - 1 : Nat) : SeqNumber) := by
  have moved : ∀ {n : Nat}, n < seg.segLen.toNat → seg.segEnd =
      seg.segStart + (n : SeqNumber) + ((seg.segLen.toNat - n - 1 : Nat) : SeqNumber) := by
    intro n within
    rw [shaped.last (by omega), add_assoc, ← Nat.cast_add, show n + (seg.segLen.toNat - n - 1) =
      seg.segLen.toNat - 1 by omega]
  exact (moved covers).trans
    (congrArg (· + _) (SeqNumber.eq_add_distance receiveNext seg.segStart).symm)

/-- What the cut in front leaves of a segment: the numbers from RCV.NXT on, without the SYN. -/
structure CutFront (receiveNext : SeqNumber) (seg cut : InSegment) : Prop where
  shaped : cut.Shaped
  start : cut.segStart = receiveNext
  header : cut.header = { seg.header with syn := false }
  len : cut.segLen.toNat = seg.segLen.toNat - (receiveNext - seg.segStart).toNat
  data : cut.data = seg.data.drop ((receiveNext - seg.segStart).toNat - seg.header.syn.toNat)

/-- A segment cut in front begins at RCV.NXT, and something is left of it. -/
theorem trimFront_eq {seg : InSegment} {receiveNext : SeqNumber} (shaped : seg.Shaped)
    (some_ : 1 ≤ (receiveNext - seg.segStart).toNat)
    (covers : (receiveNext - seg.segStart).toNat < seg.segLen.toNat) :
    ∃ cut, seg.trimFront receiveNext = .ok cut ∧ CutFront receiveNext seg cut := by
  have len := shaped.len
  have short := shaped.short
  have fin := seg.header.fin.toNat_le
  have start : seg.segStart + SeqNumber.mk (receiveNext - seg.segStart).value = receiveNext :=
    add_sub_cancel seg.segStart receiveNext
  have left : (seg.segLen - (receiveNext - seg.segStart).value).toNat =
      seg.segLen.toNat - (receiveNext - seg.segStart).toNat :=
    UInt32.toNat_sub_of_le _ _ (UInt32.le_iff_toNat_le.mpr covers.le)
  have stays := front_last shaped covers
  unfold trimFront
  dsimp only
  -- a SYN is the first thing the cut takes
  by_cases syn : seg.header.syn = true
  · have less : ((receiveNext - seg.segStart).value - 1).toNat =
        (receiveNext - seg.segStart).toNat - 1 :=
      UInt32.toNat_sub_of_le _ _ (UInt32.le_iff_toNat_le.mpr some_)
    rw [syn, Bool.toNat_true] at len
    have cut : Buffer.adjust seg.data ((receiveNext - seg.segStart).value - 1).toNat =
        .ok (seg.data.drop ((receiveNext - seg.segStart).toNat - 1)) := by
      rw [less]
      exact if_pos (by omega)
    rw [if_pos syn, cut]
    refine ⟨_, rfl, ⟨?_, ?_, ?_⟩, start, rfl, left, by rw [syn, Bool.toNat_true]⟩
    · rw [left, List.length_drop]
      simp only [Bool.toNat_false]
      omega
    · rw [left]
      omega
    · intro _
      rw [left]
      exact stays.trans (congrArg (· + _) start.symm)
  · rw [Bool.not_eq_true] at syn
    rw [syn, Bool.toNat_false] at len
    have cut : Buffer.adjust seg.data (receiveNext - seg.segStart).value.toNat =
        .ok (seg.data.drop (receiveNext - seg.segStart).toNat) :=
      if_pos (show (receiveNext - seg.segStart).toNat ≤ seg.data.length by omega)
    rw [if_neg (by simp [syn]), cut]
    refine ⟨_, rfl, ⟨?_, ?_, ?_⟩, start, by rw [← syn], left, by rw [syn, Bool.toNat_false, Nat.sub_zero]⟩
    · rw [left, List.length_drop]
      simp only [syn, Bool.toNat_false]
      omega
    · rw [left]
      omega
    · intro _
      rw [left]
      exact stays.trans (congrArg (· + _) start.symm)

/-- How far a segment reaches past the window. -/
theorem back_distance {seg : InSegment} (shaped : seg.Shaped) {receiveNext : SeqNumber}
    {window : UInt32} {o : Nat} (small : window.toNat < 2 ^ 30) (within : o ≤ window.toNat)
    (start : seg.segStart = receiveNext + o) (positive : 0 < seg.segLen.toNat) :
    (seg.segEnd - (receiveNext + SeqNumber.mk window)).toNat =
      if window.toNat ≤ o + seg.segLen.toNat - 1 then o + seg.segLen.toNat - 1 - window.toNat
      else 2 ^ 32 - window.toNat + (o + seg.segLen.toNat - 1) := by
  have short := shaped.short
  have there : seg.segEnd - (receiveNext + SeqNumber.mk window) =
      ((o + seg.segLen.toNat - 1 : Nat) : SeqNumber) - (window.toNat : SeqNumber) := by
    rw [shaped.last positive, start, SeqNumber.cast_toNat_eq_mk, add_assoc, ← Nat.cast_add,
      add_sub_add_left_eq_sub, Nat.add_sub_assoc positive]
  rw [there, SeqNumber.toNat_cast_sub_cast (by omega) (by omega)]

/-- A segment that starts in the window is cut at the back when it has something beyond it. -/
theorem cutsBack_iff {seg : InSegment} (shaped : seg.Shaped) {receiveNext : SeqNumber}
    {window : UInt32} {o : Nat} (small : window.toNat < 2 ^ 30) (within : o ≤ window.toNat)
    (start : seg.segStart = receiveNext + o) :
    (decide (0 < seg.segLen) && seg.segEnd.ge (receiveNext + SeqNumber.mk window)) = true ↔
      0 < seg.segLen.toNat ∧ window.toNat < o + seg.segLen.toNat := by
  have short := shaped.short
  rw [Bool.and_eq_true, decide_eq_true_eq, UInt32.lt_iff_toNat_lt, UInt32.toNat_zero]
  apply and_congr_right
  intro positive
  rw [SeqNumber.ge_iff, back_distance shaped small within start positive]
  split <;> omega

/-- What it then loses is what lies beyond the window. -/
theorem back_excess {seg : InSegment} (shaped : seg.Shaped) {receiveNext : SeqNumber}
    {window : UInt32} {o : Nat} (small : window.toNat < 2 ^ 30) (within : o ≤ window.toNat)
    (start : seg.segStart = receiveNext + o)
    (cuts : 0 < seg.segLen.toNat ∧ window.toNat < o + seg.segLen.toNat) :
    ((seg.segEnd - (receiveNext + SeqNumber.mk window)).value + 1).toNat =
      o + seg.segLen.toNat - window.toNat := by
  have short := shaped.short
  have distance := back_distance shaped small within start cuts.1
  rw [if_pos (by omega)] at distance
  rw [UInt32.toNat_add]
  change ((seg.segEnd - (receiveNext + SeqNumber.mk window)).toNat + 1) % 2 ^ 32 = _
  omega

/-- What the cut at the back leaves of a segment that begins `o` numbers after RCV.NXT. -/
structure CutBack (window o : Nat) (seg cut : InSegment) : Prop where
  shaped : cut.Shaped
  start : cut.segStart = seg.segStart
  header : cut.header =
    { seg.header with fin := seg.header.fin && decide (o + seg.segLen.toNat ≤ window) }
  len : cut.segLen.toNat = min seg.segLen.toNat (window - o)
  data : cut.data = seg.data.take (window - o - seg.header.syn.toNat)

/-- **The cut at the back.** A segment whose start is in the window is cut to the window, and the cut
takes no more bytes than there are, unless a SYN stands at the end of the window. -/
theorem trimBack_eq {seg : InSegment} (shaped : seg.Shaped) {receiveNext : SeqNumber}
    {window : UInt32} {o : Nat} (small : window.toNat < 2 ^ 30)
    (start : seg.segStart = receiveNext + o) (room : o + seg.header.syn.toNat ≤ window.toNat) :
    ∃ cut, seg.trimBack (receiveNext + SeqNumber.mk window) = .ok cut ∧
      CutBack window.toNat o seg cut := by
  have len := shaped.len
  have short := shaped.short
  have within : o ≤ window.toNat := by omega
  unfold trimBack
  by_cases cuts : 0 < seg.segLen.toNat ∧ window.toNat < o + seg.segLen.toNat
  swap
  · have fits : o + seg.segLen.toNat ≤ window.toNat := by omega
    rw [if_neg (mt (cutsBack_iff shaped small within start).mp cuts)]
    refine ⟨seg, rfl, shaped, rfl, ?_, ?_, ?_⟩
    · rw [decide_eq_true fits, Bool.and_true]
    · omega
    · rw [List.take_of_length_le (by omega)]
  -- the segment reaches past the window; what is left is the window from its start
  rw [if_pos ((cutsBack_iff shaped small within start).mpr cuts)]
  have excess := back_excess shaped small within start cuts
  have beyond : decide (o + seg.segLen.toNat ≤ window.toNat) = false := by
    rw [decide_eq_false_iff_not]
    omega
  generalize (seg.segEnd - (receiveNext + SeqNumber.mk window)).value + 1 = cut at excess
  have left : (seg.segLen - cut).toNat = window.toNat - o := by
    rw [UInt32.toNat_sub_of_le _ _ (UInt32.le_iff_toNat_le.mpr (by omega)), excess]
    omega
  have last : 0 < (seg.segLen - cut).toNat → seg.segEnd - SeqNumber.mk cut =
      seg.segStart + (((seg.segLen - cut).toNat - 1 : Nat) : SeqNumber) := by
    intro more
    rw [left] at more ⊢
    rw [sub_eq_iff_eq_add, shaped.last cuts.1, add_assoc, ← SeqNumber.cast_toNat_eq_mk, excess,
      ← Nat.cast_add]
    refine congrArg (fun n : Nat => seg.segStart + (n : SeqNumber)) ?_
    omega
  dsimp only
  -- a FIN is the first thing the cut takes
  by_cases fin : seg.header.fin = true
  · rw [fin, Bool.toNat_true] at len
    have less : (cut - 1).toNat = o + seg.segLen.toNat - window.toNat - 1 := by
      rw [UInt32.toNat_sub_of_le _ _ (UInt32.le_iff_toNat_le.mpr (by
        rw [excess]; exact Nat.le_sub_of_add_le (by simp; omega))), excess]
      rfl
    have trimmed : Buffer.trim seg.data (cut - 1).toNat =
        .ok (seg.data.take (window.toNat - o - seg.header.syn.toNat)) := by
      rw [show window.toNat - o - seg.header.syn.toNat = seg.data.length - (cut - 1).toNat by omega]
      exact if_pos (by omega)
    rw [if_pos fin, trimmed]
    refine ⟨_, rfl, ⟨?_, by rw [left]; omega, last⟩, rfl, ?_, by rw [left]; omega, rfl⟩
    · rw [left, List.length_take]
      simp only [Bool.toNat_false]
      omega
    · rw [beyond, Bool.and_false]
  · rw [Bool.not_eq_true] at fin
    rw [fin, Bool.toNat_false] at len
    have trimmed : Buffer.trim seg.data cut.toNat =
        .ok (seg.data.take (window.toNat - o - seg.header.syn.toNat)) := by
      rw [show window.toNat - o - seg.header.syn.toNat = seg.data.length - cut.toNat by omega]
      exact if_pos (by omega)
    rw [if_neg (by simp [fin]), trimmed]
    refine ⟨_, rfl, ⟨?_, by rw [left]; omega, last⟩, rfl, ?_, by rw [left]; omega, rfl⟩
    · rw [left, List.length_take]
      simp only [fin, Bool.toNat_false]
      omega
    · rw [beyond, Bool.and_false, ← fin]

/-- A SYN at RCV.NXT when the window is zero: the cut counts the SYN, and there is one byte too few to
take off. -/
theorem trimBack_syn {seg : InSegment} (shaped : seg.Shaped) {receiveNext : SeqNumber}
    (start : seg.segStart = receiveNext) (syn : seg.header.syn = true) :
    seg.trimBack (receiveNext + SeqNumber.mk 0) = .error .trimBeyondLength := by
  have len := shaped.len
  rw [syn, Bool.toNat_true] at len
  have small : (0 : UInt32).toNat < 2 ^ 30 := by decide
  have here : seg.segStart = receiveNext + (0 : Nat) := start.trans (add_zero _).symm
  have cuts : 0 < seg.segLen.toNat ∧ (0 : UInt32).toNat < 0 + seg.segLen.toNat := by
    rw [UInt32.toNat_zero]
    omega
  have excess := back_excess shaped small (Nat.zero_le _) here cuts
  rw [UInt32.toNat_zero, Nat.zero_add, Nat.sub_zero] at excess
  unfold trimBack
  rw [if_pos ((cutsBack_iff shaped small (Nat.zero_le _) here).mpr cuts)]
  generalize (seg.segEnd - (receiveNext + SeqNumber.mk 0)).value + 1 = cut at excess
  dsimp only
  by_cases fin : seg.header.fin = true
  · rw [fin, Bool.toNat_true] at len
    have less : (cut - 1).toNat = seg.segLen.toNat - 1 := by
      rw [UInt32.toNat_sub_of_le _ _ (UInt32.le_iff_toNat_le.mpr (by
        rw [excess]; exact Nat.le_trans (by simp) (len.symm.le))), excess]
      rfl
    have trimmed : Buffer.trim seg.data (cut - 1).toNat = .error .trimBeyondLength :=
      if_neg (by omega)
    rw [if_pos fin, trimmed]
    rfl
  · have trimmed : Buffer.trim seg.data cut.toNat = .error .trimBeyondLength := if_neg (by omega)
    rw [if_neg fin, trimmed]
    rfl

/-- Not before RCV.NXT and not past the window, so at a distance below the window. -/
theorem distance_lt_window {n receiveNext : SeqNumber} {window : UInt32}
    (notBefore : n.lt receiveNext = false)
    (notPast : n.ge (receiveNext + SeqNumber.mk window) = false) :
    (n - receiveNext).toNat < window.toNat := by
  rw [Bool.eq_false_iff, ne_eq, SeqNumber.lt_iff] at notBefore
  rw [Bool.eq_false_iff, ne_eq, SeqNumber.ge_iff, sub_add_eq_sub_sub, ← SeqNumber.cast_toNat_eq_mk,
    SeqNumber.toNat_sub, SeqNumber.toNat_cast] at notPast
  omega

/-- **The acceptance test gives an answer**, and a segment it lets through fits the window: it begins
at a distance `o` from RCV.NXT, and ends inside. -/
theorem accept_eq {receiveNext : SeqNumber} {window : UInt32} {header : TcpHeader} {data : Buffer}
    (small : window.toNat < 2 ^ 30) (short : data.length < 2 ^ 16)
    (room : header.syn = true → header.seqNum = receiveNext → window ≠ 0) :
    ∃ accepted, accept receiveNext window header data = .ok accepted ∧
      ∀ seg ∈ accepted, seg.Shaped ∧ ∃ o : Nat, seg.segStart = receiveNext + o ∧
        o + seg.segLen.toNat ≤ window.toNat := by
  have shaped := arriving_shaped header short
  unfold accept
  dsimp only
  by_cases here : (arriving header data).segStart = receiveNext
  -- at RCV.NXT: only the back is cut
  · have enough : 0 + (arriving header data).header.syn.toNat ≤ window.toNat := by
      cases syn : (arriving header data).header.syn with
      | false => exact Nat.zero_le _
      | true =>
        have := room syn here
        rw [ne_eq, ← UInt32.toNat_inj] at this
        simp only [Bool.toNat_true, UInt32.toNat_zero] at this ⊢
        omega
    obtain ⟨seg, trimmed, back⟩ := trimBack_eq shaped small
      (o := 0) (here.trans (add_zero _).symm) enough
    rw [if_pos here, trimmed]
    exact ⟨_, rfl, fun _ eq => by
      cases eq
      exact ⟨back.shaped, 0, by rw [back.start, here, Nat.cast_zero, add_zero], by
        rw [back.len]; omega⟩⟩
  rw [if_neg here]
  by_cases before : (arriving header data).segStart.lt receiveNext = true
  · rw [if_pos before]
    by_cases past : (arriving header data).segEnd.lt receiveNext = true
    · rw [if_pos past]
      exact ⟨none, rfl, fun _ eq => by cases eq⟩
    -- before RCV.NXT and reaching it: the front is cut, then the back
    · rw [if_neg past]
      obtain ⟨some_, covers⟩ :=
        front_distance shaped arriving_empty before (Bool.eq_false_iff.mpr past)
      obtain ⟨cut, trimmedFront, front⟩ := trimFront_eq shaped some_ covers
      obtain ⟨seg, trimmed, back⟩ := trimBack_eq front.shaped small
        (o := 0) (front.start.trans (add_zero _).symm) (by rw [front.header]; exact Nat.zero_le _)
      rw [trimmedFront]
      refine ⟨some seg, ?_, ?_⟩
      · change (cut.trimBack _ >>= fun seg => Except.ok (some seg)) = _
        rw [trimmed]
        rfl
      · intro _ eq
        cases eq
        exact ⟨back.shaped, 0, by rw [back.start, front.start, Nat.cast_zero, add_zero], by
          rw [back.len]; omega⟩
  rw [if_neg before]
  by_cases outside : (arriving header data).segStart.ge (receiveNext + SeqNumber.mk window) = true
  · rw [if_pos outside]
    exact ⟨none, rfl, fun _ eq => by cases eq⟩
  -- inside the window: only the back is cut, at a distance from RCV.NXT
  · rw [if_neg outside]
    have there := SeqNumber.eq_add_distance (arriving header data).segStart receiveNext
    have inside := distance_lt_window (Bool.eq_false_iff.mpr before) (Bool.eq_false_iff.mpr outside)
    obtain ⟨seg, trimmed, back⟩ := trimBack_eq shaped small there (by
      have := (arriving header data).header.syn.toNat_le
      omega)
    rw [trimmed]
    exact ⟨_, rfl, fun _ eq => by
      cases eq
      exact ⟨back.shaped, _, back.start.trans there, by rw [back.len]; omega⟩⟩

/-- The one panic of the acceptance test. -/
theorem accept_syn {receiveNext : SeqNumber} {header : TcpHeader} {data : Buffer}
    (short : data.length < 2 ^ 16) (syn : header.syn = true) (here : header.seqNum = receiveNext) :
    accept receiveNext 0 header data = .error .trimBeyondLength := by
  unfold accept
  dsimp only
  rw [if_pos (show (arriving header data).segStart = receiveNext from here),
    trimBack_syn (arriving_shaped header short) here syn]
  rfl

/-- **What an accepted segment looks like**: it fits the window. -/
theorem accept_fits {receiveNext : SeqNumber} {window : UInt32} {header : TcpHeader} {data : Buffer}
    {seg : InSegment} (small : window.toNat < 2 ^ 30) (short : data.length < 2 ^ 16)
    (ran : accept receiveNext window header data = .ok (some seg)) :
    seg.Shaped ∧ ∃ o : Nat, seg.segStart = receiveNext + o ∧
      o + seg.segLen.toNat ≤ window.toNat := by
  obtain ⟨accepted, eq, fits⟩ := accept_eq small short fun syn here none => by
    rw [none, accept_syn short syn here] at ran
    cases ran
  rw [eq] at ran
  exact fits seg (Except.ok.inj ran)

end InSegment

/-! ## The out-of-order store

The cuts of `store_out_of_order_segment` never ask for more than there is either, whatever the store
holds: the new segment's two ends and its length agree, and that is enough to bound the overlap with
any entry the comparisons let through.
-/

/-- A pass that removes an entry removes one of those it has looked at. -/
theorem storePass_encompass_lt {len index actionIndex : Nat} {start last start' last' : SeqNumber}
    {buf buf' : Buffer} {store : List (SeqNumber × Buffer)}
    (ran : storePass len index start last buf store =
      .ok (.encompass actionIndex start' last' buf')) : actionIndex < index + store.length := by
  induction store generalizing index start buf with
  | nil => cases ran
  | cons entry rest ih =>
    obtain ⟨storedStart, stored⟩ := entry
    rw [List.length_cons]
    unfold storePass at ran
    dsimp only at ran
    split at ran
    · split at ran
      · cases ran
      split at ran
      · cases ran
        omega
      · obtain ⟨cut, -, ran⟩ := bind_eq_ok.mp ran
        cases ran
    · split at ran
      · cases ran
      split at ran
      · have := ih ran
        omega
      · obtain ⟨cut, -, ran⟩ := bind_eq_ok.mp ran
        have := ih ran
        omega

/-- **The loop of `store_out_of_order_segment` ends.** Every pass but the last takes an entry out of the
store, so more passes than the store has entries change nothing. -/
theorem storePasses_enough {passes passes' : Nat} {start last : SeqNumber} {buf : Buffer}
    {store : List (SeqNumber × Buffer)} (enough : store.length < passes)
    (enough' : store.length < passes') :
    storePasses passes start last buf store = storePasses passes' start last buf store := by
  induction passes generalizing passes' start last buf store with
  | zero => cases enough
  | succ passes ih =>
    cases passes' with
    | zero => cases enough'
    | succ passes' =>
      unfold storePasses
      cases ran : storePass store.length 0 start last buf store with
      | error fault => rfl
      | ok pass =>
        cases pass with
        | discard => rfl
        | insert index newStart cut => rfl
        | encompass index newStart newEnd cut =>
          have there := storePass_encompass_lt ran
          have less : (store.eraseIdx index).length < store.length := by
            rw [List.length_eraseIdx]
            split <;> omega
          exact ih (by omega) (by omega)

/-- A buffer that is not empty, placed at `start`, ends at `last`. -/
structure Spans (start last : SeqNumber) (buf : Buffer) : Prop where
  some_ : 0 < buf.length
  short : buf.length ≤ 2 ^ 31
  last_eq : last = start + ((buf.length - 1 : Nat) : SeqNumber)

/-- What a pass leaves of the new segment for another pass is placed as its ends say. -/
def Pass.Spans : Pass → Prop
  | .encompass _ newStart newEnd buf => Tcp.Spans newStart newEnd buf
  | _ => True

namespace Spans

variable {start last : SeqNumber} {buf : Buffer}

/-- An entry that begins inside the new segment: the overlap is shorter than the segment. -/
theorem overlap_back (h : Spans start last buf) {stored : SeqNumber}
    (before : start.lt stored = true) (reaches : last.lt stored = false) :
    ((last - stored).value + 1).toNat ≤ buf.length := by
  have some_ := h.some_
  have short := h.short
  have there : last - stored = ((buf.length - 1 : Nat) : SeqNumber) - (stored - start) := by
    rw [h.last_eq, add_comm, ← sub_sub_eq_add_sub]
  rw [SeqNumber.lt_iff, SeqNumber.toNat_sub] at before
  rw [Bool.eq_false_iff, ne_eq, SeqNumber.lt_iff, there, SeqNumber.toNat_sub,
    SeqNumber.toNat_cast, SeqNumber.toNat_sub] at reaches
  rw [there, UInt32.toNat_add]
  change ((((buf.length - 1 : Nat) : SeqNumber) - (stored - start)).toNat + 1) % 2 ^ 32 ≤ _
  rw [SeqNumber.toNat_sub, SeqNumber.toNat_cast, SeqNumber.toNat_sub]
  have := start.toNat_lt
  have := stored.toNat_lt
  omega

/-- An entry that ends inside the new segment: what the cut takes off the front is less than the
segment, and the rest is placed as before. -/
theorem overlap_front (h : Spans start last buf) {storedEnd : SeqNumber}
    (beyond : last.le storedEnd = false) (reaches : storedEnd.lt start = false) :
    (storedEnd - start).toNat < buf.length ∧
      Spans (start + SeqNumber.mk (storedEnd - start).value) last
        (buf.drop (storedEnd - start).toNat) := by
  have some_ := h.some_
  have short := h.short
  have there : last - storedEnd = ((buf.length - 1 : Nat) : SeqNumber) - (storedEnd - start) := by
    rw [h.last_eq, add_comm, ← sub_sub_eq_add_sub]
  have less : (storedEnd - start).toNat < buf.length := by
    rw [Bool.eq_false_iff, ne_eq, SeqNumber.lt_iff] at reaches
    rw [Bool.eq_false_iff, ne_eq, SeqNumber.le_iff, there, SeqNumber.toNat_sub,
      SeqNumber.toNat_cast] at beyond
    omega
  refine ⟨less, ⟨?_, ?_, ?_⟩⟩
  · rw [List.length_drop]
    omega
  · rw [List.length_drop]
    omega
  · rw [h.last_eq, List.length_drop, ← SeqNumber.cast_toNat_eq_mk, add_assoc, ← Nat.cast_add]
    refine congrArg (fun n : Nat => start + (n : SeqNumber)) ?_
    change _ = (storedEnd - start).toNat + _
    omega

theorem storePass_ok (h : Spans start last buf) (len index : Nat)
    (store : List (SeqNumber × Buffer)) :
    ∃ pass, storePass len index start last buf store = .ok pass ∧ pass.Spans := by
  induction store generalizing index start buf with
  | nil => exact ⟨_, rfl, trivial⟩
  | cons entry rest ih =>
    obtain ⟨storedStart, stored⟩ := entry
    unfold storePass
    dsimp only
    split
    next before =>
      split
      · exact ⟨_, rfl, trivial⟩
      next reaches =>
      split
      · exact ⟨_, rfl, h⟩
      · have cut := h.overlap_back before (Bool.eq_false_iff.mpr reaches)
        rw [Buffer.trim, if_pos cut]
        exact ⟨_, rfl, trivial⟩
    next =>
      split
      · exact ⟨_, rfl, trivial⟩
      next beyond =>
      split
      · exact ih h (index + 1)
      next reaches =>
        obtain ⟨less, left⟩ := h.overlap_front (Bool.eq_false_iff.mpr beyond)
          (Bool.eq_false_iff.mpr reaches)
        have cut : Buffer.adjust buf
            (storedStart + SeqNumber.mk (UInt32.ofNat stored.length - 1) - start).value.toNat =
            .ok (buf.drop (storedStart + SeqNumber.mk (UInt32.ofNat stored.length - 1) -
              start).toNat) := if_pos less.le
        rw [cut]
        exact ih left (index + 1)

/-- **Storing never panics.** -/
theorem storePasses_ok (h : Spans start last buf) (passes : Nat)
    (store : List (SeqNumber × Buffer)) :
    ∃ store', storePasses passes start last buf store = .ok store' := by
  induction passes generalizing start last buf store with
  | zero => exact ⟨store, rfl⟩
  | succ passes ih =>
    obtain ⟨pass, ran, left⟩ := h.storePass_ok store.length 0 store
    unfold storePasses
    rw [ran]
    cases pass with
    | discard => exact ⟨_, rfl⟩
    | insert index newStart cut => exact ⟨_, rfl⟩
    | encompass index newStart newEnd cut => exact ih left (store.eraseIdx index)

end Spans

/-- The out-of-order branch stores any segment that has the shape of an accepted one. -/
theorem ReceiveSide.store_ok (r : ReceiveSide) {seg : InSegment} (shaped : seg.Shaped)
    (noSyn : seg.header.syn = false) : ∃ r', r.store seg = .ok r' := by
  have len := shaped.len
  have short := shaped.short
  rw [noSyn, Bool.toNat_false] at len
  unfold ReceiveSide.store
  split
  next text =>
    have positive : 0 < seg.segLen.toNat := UInt32.lt_iff_toNat_lt.mp text.1
    have less : (seg.segLen - 1).toNat = seg.segLen.toNat - 1 :=
      UInt32.toNat_sub_of_le _ _ (UInt32.le_iff_toNat_le.mpr positive)
    have last := shaped.last positive
    split
    next fin =>
      rw [fin, Bool.toNat_true] at len
      dsimp only
      split
      next more =>
        rw [UInt32.lt_iff_toNat_lt, less, UInt32.toNat_zero] at more
        have spans : Spans seg.segStart (seg.segEnd - SeqNumber.mk 1) seg.data := by
          refine ⟨by omega, by omega, ?_⟩
          rw [last, SeqNumber.mk_one, sub_eq_iff_eq_add, add_assoc, ← Nat.cast_succ]
          refine congrArg (fun n : Nat => seg.segStart + (n : SeqNumber)) ?_
          omega
        obtain ⟨store, stored⟩ := spans.storePasses_ok (r.outOfOrder.length + 1) r.outOfOrder
        rw [stored]
        exact ⟨_, rfl⟩
      next => exact ⟨_, rfl⟩
    next noFin =>
      rw [Bool.not_eq_true] at noFin
      rw [noFin, Bool.toNat_false] at len
      have spans : Spans seg.segStart seg.segEnd seg.data := by
        refine ⟨by omega, by omega, ?_⟩
        rw [last, show seg.segLen.toNat = seg.data.length by omega]
      obtain ⟨store, stored⟩ := spans.storePasses_ok (r.outOfOrder.length + 1) r.outOfOrder
      rw [stored]
      exact ⟨_, rfl⟩
  next => exact ⟨_, rfl⟩

end Inetstack.Tcp
