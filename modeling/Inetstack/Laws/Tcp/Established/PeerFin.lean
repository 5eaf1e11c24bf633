import Inetstack.Laws.Tcp.Established.Delivery

/-!
# The peer's FIN

A FIN that arrives out of order is remembered apart from the data, and `receive_data` is to say when
it is reached: when RCV.NXT, after the new data and the stored data that joins it, has come to the
FIN's number. What `receive_data` computes instead is whether any stored data joined at all. The two
agree on a call exactly when no FIN is remembered, or stored data joins and the joined data ends at
the FIN, or none joins and the new data does not end there; `finInPlace` is that condition.

Where every call meets it, a peer that agrees with a stream has its FIN consumed just past the
stream and nowhere else, and a remembered FIN is consumed as soon as the bytes before it are there.
-/

namespace Inetstack.Tcp

open Machine (bind_eq_ok)

/-- Some stored data begins at `start`, at the front of the store. -/
def joins (start : SeqNumber) (store : List (SeqNumber × Buffer)) : Bool :=
  store.head?.map Prod.fst == some start

/-- Where the stored data that follows on `start` without a gap ends. -/
def joinedEnd : SeqNumber → List (SeqNumber × Buffer) → SeqNumber
  | start, [] => start
  | start, (stored, buf) :: rest =>
    if stored = start then joinedEnd (start + buf.length) rest else start

theorem drainOutOfOrder_eq (recvNext : SeqNumber) (receiver : Receiver)
    {store : List (SeqNumber × Buffer)} (atEnd : receiver.receiveNext = recvNext) :
    (drainOutOfOrder recvNext receiver store).1.receiveNext = joinedEnd recvNext store ∧
      (drainOutOfOrder recvNext receiver store).2.2 = joins recvNext store := by
  induction store generalizing recvNext receiver with
  | nil => exact ⟨atEnd, rfl⟩
  | cons entry rest ih =>
    obtain ⟨stored, buf⟩ := entry
    unfold drainOutOfOrder joinedEnd
    by_cases here : stored = recvNext
    · have next : (receiver.push buf).receiveNext = recvNext + .ofLen buf.length := by
        rw [← atEnd]
        rfl
      have joined := ih (recvNext + .ofLen buf.length) (receiver.push buf) next
      rw [if_pos here, if_pos here]
      refine ⟨joined.1, ?_⟩
      · simp only [joins, List.head?_cons, Option.map_some, here, beq_self_eq_true]
    · rw [if_neg here, if_neg here]
      refine ⟨atEnd, ?_⟩
      simpa only [joins, List.head?_cons, Option.map_some, beq_eq_false_iff_ne, ne_eq,
        Option.some.injEq, eq_comm (a := false)] using here

namespace ReceiveSide

/-- The condition under which `receive_data` says of a remembered FIN what it is to say: stored data
joins the new data exactly when the joined data ends at the FIN. -/
def finInPlace (r : ReceiveSide) (buf : Buffer) : Bool :=
  match r.outOfOrderFin with
  | none => true
  | some fin =>
    joins (r.receiver.receiveNext + .ofLen buf.length) r.outOfOrder ==
      (joinedEnd (r.receiver.receiveNext + .ofLen buf.length) r.outOfOrder == fin)

theorem takeData_receiveNext (r : ReceiveSide) (buf : Buffer) :
    (r.takeData buf).receiver.receiveNext =
      joinedEnd (r.receiver.receiveNext + .ofLen buf.length) r.outOfOrder :=
  (drainOutOfOrder_eq _ (r.receiver.push buf) rfl).1

theorem releasesFin_eq (r : ReceiveSide) (buf : Buffer) :
    r.releasesFin buf = (joins (r.receiver.receiveNext + .ofLen buf.length) r.outOfOrder &&
      r.outOfOrderFin.isSome) := by
  rw [releasesFin, (drainOutOfOrder_eq (r.receiver.receiveNext + .ofLen buf.length)
    (r.receiver.push buf) rfl).2]

/-- **When `receive_data` releases the FIN at its own number.** -/
theorem releasesFin_iff (r : ReceiveSide) (buf : Buffer) :
    (r.releasesFin buf = true ↔ ∃ fin, r.outOfOrderFin = some fin ∧
        (r.takeData buf).receiver.receiveNext = fin) ↔ r.finInPlace buf = true := by
  rw [releasesFin_eq, takeData_receiveNext, finInPlace]
  cases hfin : r.outOfOrderFin with
  | none => simp
  | some fin =>
    simp only [Option.isSome_some, Bool.and_true, Option.some.injEq, exists_eq_left', beq_iff_eq]
    constructor
    · intro h
      rw [Bool.eq_iff_iff, h, beq_iff_eq]
    · intro h
      rw [h, beq_iff_eq]

end ReceiveSide

/-! ## Segments of a peer that agrees with a stream -/

/-- Bytes of a stream shorter than the number space end inside the stream. -/
theorem labelled_streamByte_length {base x : SeqNumber} {S data : List UInt8}
    (short : S.length < 2 ^ 32) (h : Labelled (streamByte base S) x data) (some_ : data ≠ []) :
    (x - base).toNat + data.length ≤ S.length := by
  by_contra beyond
  -- the byte of `data` that would stand just past the stream, or the first one
  have first := h.get (i := 0) (List.getElem?_eq_getElem (List.length_pos_iff.mpr some_))
  unfold streamByte at first
  rw [Nat.cast_zero, add_zero] at first
  have inside := (List.getElem?_eq_some_iff.mp first).1
  have here : S.length - (x - base).toNat < data.length := by omega
  have past := h.get (List.getElem?_eq_getElem here)
  unfold streamByte at past
  have offset : (x + ((S.length - (x - base).toNat : Nat) : SeqNumber) - base).toNat = S.length := by
    rw [add_sub_right_comm, SeqNumber.toNat_add, SeqNumber.toNat_cast,
      Nat.mod_eq_of_lt (by omega : S.length - (x - base).toNat < 2 ^ 32),
      Nat.add_sub_cancel' inside.le, Nat.mod_eq_of_lt short]
  rw [offset, List.getElem?_eq_none le_rfl] at past
  cases past

namespace InSegment

/-- Where the text of a segment ends, which is where its FIN stands. -/
def textEnd (seg : InSegment) : SeqNumber := seg.textStart + seg.data.length

theorem trimFront_textEnd {seg seg' : InSegment} {receiveNext : SeqNumber}
    (ran : seg.trimFront receiveNext = .ok seg') :
    seg'.textEnd = seg.textEnd ∧ seg'.segEnd = seg.segEnd ∧ seg'.header.fin = seg.header.fin ∧
      seg'.segStart = receiveNext ∧ seg'.header.syn = false := by
  unfold trimFront at ran
  dsimp only at ran
  have start : seg.segStart + SeqNumber.mk (receiveNext - seg.segStart).value = receiveNext :=
    add_sub_cancel seg.segStart receiveNext
  -- dropping bytes moves the start of the text by as many and keeps its end
  have moved : ∀ {n : Nat}, n ≤ seg.data.length → seg.textStart + (n : SeqNumber) = receiveNext →
      receiveNext + ((seg.data.drop n).length : SeqNumber) = seg.textEnd := by
    intro n le here
    rw [← here, textEnd, List.length_drop, add_assoc, ← Nat.cast_add, Nat.add_sub_cancel' le]
  split at ran
  next syn =>
    obtain ⟨data, cut, ran⟩ := bind_eq_ok.mp ran
    obtain ⟨le, rfl⟩ := Buffer.adjust_ok cut
    cases ran
    refine ⟨?_, rfl, rfl, start, rfl⟩
    have here : seg.textStart + (((receiveNext - seg.segStart).value - 1).toNat : SeqNumber) =
        receiveNext := by
      rw [SeqNumber.cast_toNat_eq_mk, textStart, if_pos syn, add_assoc]
      refine Eq.trans (congrArg (seg.segStart + ·) ?_) start
      exact add_sub_cancel (1 : SeqNumber) (SeqNumber.mk (receiveNext - seg.segStart).value)
    rw [← moved le here, textEnd, textStart]
    simp only [start, Bool.false_eq_true, if_false, add_zero]
  next syn =>
    obtain ⟨data, cut, ran⟩ := bind_eq_ok.mp ran
    obtain ⟨le, rfl⟩ := Buffer.adjust_ok cut
    cases ran
    have noSyn : seg.header.syn = false := by simpa using syn
    refine ⟨?_, rfl, rfl, start, noSyn⟩
    have here : seg.textStart + ((receiveNext - seg.segStart).value.toNat : SeqNumber) =
        receiveNext := by
      rw [SeqNumber.cast_toNat_eq_mk, textStart, if_neg syn, add_zero]
      exact start
    rw [← moved le here, textEnd, textStart]
    simp only [start, if_neg syn, add_zero]

/-- A segment that keeps its FIN has not been cut at the end. -/
theorem trimBack_fin {seg seg' : InSegment} {after : SeqNumber}
    (ran : seg.trimBack after = .ok seg') (fin : seg'.header.fin = true) : seg' = seg := by
  unfold trimBack at ran
  split at ran
  · dsimp only at ran
    split at ran
    · obtain ⟨data, -, ran⟩ := bind_eq_ok.mp ran
      cases ran
      cases fin
    next noFin =>
      obtain ⟨data, -, ran⟩ := bind_eq_ok.mp ran
      cases ran
      exact absurd fin noFin
  · cases ran
    rfl

/-- An accepted segment that keeps its FIN ends where the segment that arrived did. -/
theorem accept_fin {receiveNext : SeqNumber} {window : UInt32} {header : TcpHeader}
    {data : Buffer} {seg : InSegment} (ran : accept receiveNext window header data = .ok (some seg))
    (fin : seg.header.fin = true) :
    header.fin = true ∧ seg.textEnd = (arriving header data).textEnd ∧
      seg.segEnd = (arriving header data).segEnd := by
  rcases accept_cases ran with ⟨-, back⟩ | ⟨-, -, cut, front, back⟩ | ⟨-, -, -, back⟩
  · obtain rfl := trimBack_fin back fin
    exact ⟨fin, rfl, rfl⟩
  · obtain ⟨textEnd, segEnd, sameFin, -, -⟩ := trimFront_textEnd front
    obtain rfl := trimBack_fin back fin
    exact ⟨sameFin ▸ fin, textEnd, segEnd⟩
  · obtain rfl := trimBack_fin back fin
    exact ⟨fin, rfl, rfl⟩

/-- The last number of a segment with a FIN, as `receive` first computes it, is where its text ends:
the count of a short segment does not wrap around. -/
theorem arriving_segEnd {header : TcpHeader} {data : Buffer} (fin : header.fin = true)
    (short : data.length < 2 ^ 31) :
    (arriving header data).segEnd = (arriving header data).textEnd := by
  have length : (UInt32.ofNat data.length + (if header.syn then 1 else 0) + 1).toNat =
      data.length + (if header.syn then 1 else 0) + 1 := by
    rw [UInt32.toNat_add, UInt32.toNat_add, UInt32.toNat_ofNat']
    split <;> simp <;> omega
  have positive : 0 < UInt32.ofNat data.length + (if header.syn then 1 else 0) + 1 := by
    rw [UInt32.lt_iff_toNat_lt, length]
    exact Nat.succ_pos _
  simp only [arriving, fin, if_true, positive, textEnd, textStart, UInt32.add_sub_cancel]
  rw [add_assoc]
  refine congrArg (header.seqNum + ·) ?_
  rw [show SeqNumber.mk (UInt32.ofNat data.length + (if header.syn then 1 else 0)) =
    (data.length : SeqNumber) + (if header.syn then 1 else 0) from ?_, add_comm]
  split <;> rfl

end InSegment

/-! ## The invariant -/

/-- The FIN of a peer that agrees with the stream `S`, whose first byte is at `base`: remembered at
the number just past the stream, not reached while the peer is still sending, and once consumed
(`consumed` is what the history says) exactly passed. -/
structure ReceiveSide.FinPlaced (base : SeqNumber) (S : List UInt8) (delivered : List Buffer)
    (consumed : Bool) (r : ReceiveSide) : Prop where
  holds : r.Holds (streamByte base S) base delivered
  remembered : ∀ fin, r.outOfOrderFin = some fin → fin = base + S.length
  waiting : r.peer = .sending → ∀ fin, r.outOfOrderFin = some fin → r.receiver.receiveNext ≠ fin
  passed : consumed = true →
    r.peer ≠ .sending ∧ r.receiver.receiveNext = base + S.length + 1
  seen : r.peer = .finished → consumed = true

namespace ReceiveSide.FinPlaced

variable {base : SeqNumber} {S : List UInt8} {delivered : List Buffer} {consumed : Bool}
  {r : ReceiveSide}

/-- Received bytes never take RCV.NXT past the end of the stream. -/
theorem receiveNext_le (short : S.length < 2 ^ 32) (h : r.Holds (streamByte base S) base delivered)
    (sending : r.peer = .sending) :
    r.receiver.receiveNext = base + (r.bytes delivered).length ∧
      (r.bytes delivered).length ≤ S.length :=
  ⟨h.next sending, (prefix_of_labelled short h.received).length_le⟩

/-- Data that ends where the stream ends leaves RCV.NXT there: nothing stored can follow it. -/
theorem takeData_atEnd (short : S.length < 2 ^ 32)
    (h : r.Holds (streamByte base S) base delivered) (sending : r.peer = .sending) {buf : Buffer}
    (placed : Labelled (streamByte base S) r.receiver.receiveNext buf)
    (atEnd : r.receiver.receiveNext + buf.length = base + S.length) :
    (r.takeData buf).receiver.receiveNext = base + S.length := by
  have after := h.takeData sending placed
  have afterSending : (r.takeData buf).peer = .sending := sending
  obtain ⟨next, le⟩ := receiveNext_le short after afterSending
  -- the bytes after the data are at least those before it and the data itself, which is all of `S`
  have grown : (r.bytes delivered ++ buf).length ≤ ((r.takeData buf).bytes delivered).length :=
    (drain_bytes r buf delivered).length_le
  have placedAll := h.received.append (by rw [← h.next sending]; exact placed)
  have inside := (prefix_of_labelled short placedAll).length_le
  have same : ((r.bytes delivered ++ buf).length : SeqNumber) = S.length := by
    have here := h.next sending
    rw [here] at atEnd
    rw [List.length_append, Nat.cast_add]
    exact add_left_cancel (a := base) (by rw [← add_assoc]; exact atEnd)
  have equal : (r.bytes delivered ++ buf).length = S.length := by
    have := congrArg SeqNumber.toNat same
    rw [SeqNumber.toNat_cast, SeqNumber.toNat_cast, Nat.mod_eq_of_lt (by omega),
      Nat.mod_eq_of_lt short] at this
    exact this
  rw [next, show ((r.takeData buf).bytes delivered).length = S.length by omega]

/-- Nothing is consumed in a step that does not change the peer's side to finished. -/
theorem unconsumed (h : r.FinPlaced base S delivered consumed) :
    (consumed || decide (r.peer = .finished)) = consumed := by
  by_cases finished : r.peer = .finished
  · rw [h.seen finished]
    rfl
  · simp [finished]

/-- Consuming the FIN at its number. -/
theorem consumeFin {r' : ReceiveSide} (holds : r'.Holds (streamByte base S) base delivered)
    (remembered : ∀ fin, r'.outOfOrderFin = some fin → fin = base + S.length)
    (here : r'.receiver.receiveNext = base + S.length) :
    r'.consumeFin.FinPlaced base S delivered true where
  holds := holds.consumeFin
  remembered := remembered
  waiting := fun sending => by cases sending
  passed := fun _ => ⟨by simp [ReceiveSide.consumeFin], congrArg (· + 1) here⟩
  seen := fun _ => rfl

/-- The in-order branch with data to take. -/
theorem taken (short : S.length < 2 ^ 31) (h : r.FinPlaced base S delivered consumed)
    (sending : r.peer = .sending) {buf : Buffer} {own : Bool}
    (placed : Labelled (streamByte base S) r.receiver.receiveNext buf)
    (fin : own = true → r.receiver.receiveNext + buf.length = base + S.length)
    (inPlace : r.finInPlace buf = true) :
    if own || r.releasesFin buf then (r.takeData buf).consumeFin.FinPlaced base S delivered true
    else (r.takeData buf).FinPlaced base S delivered false := by
  have holds := h.holds.takeData sending placed
  have releases := (r.releasesFin_iff buf).mpr inPlace
  split
  next reached =>
    refine consumeFin holds h.remembered ?_
    rcases Bool.or_eq_true_iff.mp reached with own | released
    · exact takeData_atEnd (by omega) h.holds sending placed (fin own)
    · obtain ⟨f, remembered, at_⟩ := releases.mp released
      rw [at_, h.remembered f remembered]
  next notReached =>
    have stillSending : (r.takeData buf).peer = .sending := sending
    refine ⟨holds, h.remembered, ?_, fun seen => (by cases seen), ?_⟩
    · intro _ f remembered at_
      have released := releases.mpr ⟨f, remembered, at_⟩
      exact notReached (by rw [released, Bool.or_true])
    · intro finished
      rw [stillSending] at finished
      cases finished

/-- RCV.NXT is past the consumed FIN, so no segment of the peer ends where the stream does. -/
theorem no_second_fin (short : S.length < 2 ^ 31) (h : r.FinPlaced base S delivered consumed)
    (finished : r.peer = .finished) {buf : Buffer}
    (placed : Labelled (streamByte base S) r.receiver.receiveNext buf) :
    r.receiver.receiveNext + buf.length ≠ base + S.length := by
  intro atEnd
  obtain ⟨-, next⟩ := h.passed (h.seen finished)
  cases buf with
  | nil =>
    rw [List.length_nil, Nat.cast_zero, add_zero, next] at atEnd
    have one : (1 : SeqNumber) = 0 := add_eq_left.mp atEnd
    cases one
  | cons b bs =>
    have inside := labelled_streamByte_length (by omega) placed (List.cons_ne_nil b bs)
    rw [next, add_assoc, add_sub_cancel_left, ← Nat.cast_one, ← Nat.cast_add,
      SeqNumber.toNat_cast, Nat.mod_eq_of_lt (by omega)] at inside
    omega

/-- The in-order branch. -/
theorem inOrder (short : S.length < 2 ^ 31) (h : r.FinPlaced base S delivered consumed)
    {seg : InSegment} (placed : Labelled (streamByte base S) r.receiver.receiveNext seg.data)
    (fin : seg.header.fin = true → r.receiver.receiveNext + seg.data.length = base + S.length)
    (expected : seg.header.fin = true → r.peer ≠ .gone)
    (inPlace : seg.data ≠ [] → r.peer = .sending → r.finInPlace seg.data = true) :
    (r.inOrder seg).FinPlaced base S delivered
      (consumed || decide ((r.inOrder seg).peer = .finished)) := by
  unfold ReceiveSide.inOrder
  split
  next text =>
    have unconsumed : consumed = false := by
      rw [Bool.eq_false_iff]
      intro seen
      exact (h.passed seen).1 text.2
    have taken := h.taken short text.2 placed fin (inPlace text.1 text.2)
    have stillSending : (r.takeData seg.data).peer = .sending := text.2
    split
    next reached =>
      rw [if_pos reached] at taken
      simpa only [ReceiveSide.consumeFin, decide_true, Bool.or_true] using taken
    next notReached =>
      rw [if_neg notReached] at taken
      simpa only [unconsumed, stillSending, reduceCtorEq, decide_false, Bool.or_self] using taken
  next noText =>
    split
    next own =>
      -- the FIN arrives in place without text: where the peer has finished it would be a second one
      cases hpeer : r.peer with
      | gone => exact absurd hpeer (expected own)
      | finished => exact absurd (fin own) (h.no_second_fin short hpeer placed)
      | sending =>
        have empty : seg.data = [] := by
          by_contra some_
          exact noText ⟨some_, hpeer⟩
        have here := fin own
        rw [empty, List.length_nil, Nat.cast_zero, add_zero] at here
        have done := consumeFin h.holds h.remembered here
        simpa only [ReceiveSide.consumeFin, decide_true, Bool.or_true] using done
    next =>
      rw [h.unconsumed]
      exact h

/-- The out-of-order branch remembers the FIN at its number, and RCV.NXT is not there yet. -/
theorem store (h : r.FinPlaced base S delivered consumed) {seg : InSegment} {r' : ReceiveSide}
    (stored : r.store seg = .ok r') (placed : Labelled (streamByte base S) seg.segStart seg.data)
    (fin : seg.header.fin = true → seg.segEnd = base + S.length ∧
      r.receiver.receiveNext ≠ base + S.length) : r'.FinPlaced base S delivered consumed := by
  have holds := h.holds.store stored placed
  obtain ⟨store, remembered, rfl, -, kept⟩ := ReceiveSide.store_cases stored
  rcases kept with rfl | ⟨own, rfl⟩
  · exact ⟨holds, h.remembered, h.waiting, h.passed, h.seen⟩
  · obtain ⟨last, elsewhere⟩ := fin own
    refine ⟨holds, ?_, ?_, h.passed, h.seen⟩
    · intro f found
      cases found
      exact last
    · intro _ f found
      cases found
      rw [last]
      exact elsewhere

/-- The FIN of an out-of-order segment stands just past the stream, and RCV.NXT is before it: a
segment that ends at RCV.NXT begins before it, and would have been cut in front. -/
theorem fin_elsewhere {irs receiveNext : SeqNumber} {window : UInt32} {header : TcpHeader}
    {data : Buffer} {seg : InSegment} (short : S.length < 2 ^ 31)
    (consistent : Consistent irs S header data)
    (accepted : InSegment.accept receiveNext window header data = .ok (some seg))
    (noSyn : seg.header.syn = false) (later : seg.segStart ≠ receiveNext)
    (fin : seg.header.fin = true) :
    seg.segEnd = irs + 1 + S.length ∧ receiveNext ≠ irs + 1 + S.length := by
  obtain ⟨own, -, segEnd⟩ := InSegment.accept_fin accepted fin
  have atEnd := consistent.fin own
  -- text that holds positions of the stream is no longer than the stream
  have length : data.length ≤ S.length := by
    by_cases empty : data = []
    · rw [empty]
      exact Nat.zero_le _
    · have := labelled_streamByte_length (by omega) consistent.labelled empty
      omega
  have last : seg.segEnd = irs + 1 + S.length := by
    rw [segEnd, InSegment.arriving_segEnd own (by omega)]
    exact atEnd
  refine ⟨last, ?_⟩
  -- RCV.NXT past the stream: the segment was cut in front, or it begins before RCV.NXT
  intro here
  rcases InSegment.accept_cases accepted with ⟨atNext, back⟩ | ⟨-, -, cut, front, back⟩ |
    ⟨elsewhere, notBefore, -, back⟩
  · obtain rfl := InSegment.trimBack_fin back fin
    exact later atNext
  · obtain rfl := InSegment.trimBack_fin back fin
    exact later (InSegment.trimFront_textEnd front).2.2.2.1
  · obtain rfl := InSegment.trimBack_fin back fin
    have noSyn : header.syn = false := noSyn
    simp only [noSyn, Bool.false_eq_true, if_false, add_zero] at atEnd
    have distance : header.seqNum - receiveNext = -(data.length : SeqNumber) := by
      rw [here, ← atEnd, sub_add_eq_sub_sub, sub_self, zero_sub]
    have positive : data ≠ [] := by
      rintro rfl
      rw [List.length_nil, Nat.cast_zero, neg_zero, sub_eq_zero] at distance
      exact elsewhere distance
    have := List.length_pos_iff.mpr positive
    have before : header.seqNum.lt receiveNext = true := by
      rw [SeqNumber.lt_iff, distance, ← zero_sub, SeqNumber.toNat_sub, SeqNumber.toNat_cast,
        SeqNumber.toNat_zero]
      omega
    rw [before] at notBefore
    cases notBefore

/-- The peer's side may only move on. -/
theorem withPeer (h : r.FinPlaced base S delivered consumed) (peer : PeerSide)
    (acked : peer = r.peer ∨ peer = .gone) :
    ({ r with peer := peer } : ReceiveSide).FinPlaced base S delivered consumed := by
  rcases acked with rfl | rfl
  · exact h
  · exact ⟨⟨h.holds.stored, h.holds.received, fun sending => by cases sending⟩, h.remembered,
      fun sending => (by cases sending), fun seen => ⟨by simp, (h.passed seen).2⟩,
      fun finished => by cases finished⟩

/-- **A segment of the peer keeps the FIN in place**, if `receive_data` is called in place. -/
theorem receive {irs : SeqNumber} {header : TcpHeader} {data : Buffer} {r' : ReceiveSide}
    (short : S.length < 2 ^ 31) (h : r.FinPlaced (irs + 1) S delivered consumed)
    (consistent : Consistent irs S header data) {goesOn : InSegment → Bool}
    (ran : r.Received goesOn header data r')
    (inPlace : ∀ seg, goesOn seg = true → InSegment.accept r.receiver.receiveNext r.window header data =
        .ok (some seg) → seg.segStart = r.receiver.receiveNext → seg.data ≠ [] →
      r.peer = .sending → r.finInPlace seg.data = true) :
    r'.FinPlaced (irs + 1) S delivered (consumed || decide (r'.peer = .finished)) := by
  cases ran with
  | dropped =>
    rw [h.unconsumed]
    exact h
  | gone =>
    have gone := h.withPeer .gone (.inr rfl)
    rw [gone.unconsumed]
    exact gone
  | @inOrder seg peer accepted goes noSyn acked atNext expected =>
    have placed := InSegment.accept_labelled accepted consistent.labelled
    simp only [InSegment.textStart, noSyn, Bool.false_eq_true, if_false, add_zero, atNext] at placed
    have moved : peer = r.peer ∨ peer = .gone := by
      rcases acked with same | ⟨-, gone⟩
      · exact .inl same
      · exact .inr gone
    refine inOrder short (h.withPeer peer moved) placed ?_ expected ?_
    · intro fin
      obtain ⟨own, textEnd, -⟩ := InSegment.accept_fin accepted fin
      have atEnd := consistent.fin own
      rw [InSegment.textEnd, InSegment.textStart, noSyn, atNext] at textEnd
      simp only [Bool.false_eq_true, if_false, add_zero] at textEnd
      exact textEnd.trans atEnd
    · intro some_ sending
      refine inPlace seg goes accepted atNext some_ ?_
      rcases acked with same | ⟨-, gone⟩
      · rw [← same]
        exact sending
      · rw [gone] at sending
        cases sending
  | @outOfOrder seg peer _ accepted goes noSyn acked later stored =>
    have placed := InSegment.accept_labelled accepted consistent.labelled
    simp only [InSegment.textStart, noSyn, Bool.false_eq_true, if_false, add_zero] at placed
    have moved : peer = r.peer ∨ peer = .gone := by
      rcases acked with same | ⟨-, gone⟩
      · exact .inl same
      · exact .inr gone
    have kept := store (h.withPeer peer moved) stored placed fun fin =>
      fin_elsewhere short consistent accepted noSyn later fin
    obtain ⟨_, _, same, -⟩ := ReceiveSide.store_cases stored
    have samePeer : r'.peer = peer := congrArg ReceiveSide.peer same
    rw [samePeer]
    have unconsumed := (h.withPeer peer moved).unconsumed
    rw [unconsumed]
    exact kept

end ReceiveSide.FinPlaced

namespace Endpoint

variable {σ : Type}

/-- The step, if it is an in-order data segment, finds the remembered FIN in place. -/
def finInPlace (e : Endpoint σ) : Event → Bool
  | .receive header data _ =>
    match InSegment.accept e.cb.receiver.receiveNext e.cb.getReceiveWindowSize header data with
    | .ok (some seg) =>
      !e.cb.goesOn seg || seg.segStart ≠ e.cb.receiver.receiveNext || seg.data.isEmpty ||
        !ControlBlock.mayReceiveData e.cb.state || e.cb.receiveSide.finInPlace seg.data
    | _ => true
  | _ => true

variable [CongestionControl σ]

/-- One event keeps the FIN in place. -/
theorem step_finPlaced {irs : SeqNumber} {S : List UInt8} {e e' : Endpoint σ} {event : Event}
    (short : S.length < 2 ^ 31)
    (h : e.cb.receiveSide.FinPlaced (irs + 1) S e.history.delivered e.history.peerFin)
    (consistent : event.Consistent irs S) (inPlace : e.finInPlace event = true)
    (stepped : e.step event = .ok e') :
    e'.cb.receiveSide.FinPlaced (irs + 1) S e'.history.delivered e'.history.peerFin := by
  cases step_receiveStep stepped with
  | untouched side delivered peerFin =>
    have same : e'.history.peerFin = e.history.peerFin := by
      rcases peerFin with same | recorded
      · exact same
      · rw [recorded, side, h.unconsumed]
    rw [side, delivered, same]
    exact h
  | read popped side delivered peerFin =>
    have same : e'.history.peerFin = e.history.peerFin := by
      rw [peerFin, side, h.unconsumed]
    rw [side, delivered, same]
    have holds := h.holds.read popped
    obtain ⟨rest, -, rfl⟩ := Receiver.pop_cases popped
    exact ⟨holds, h.remembered, h.waiting, h.passed, h.seen⟩
  | @received header data env _ side delivered peerFin =>
    rw [delivered, peerFin]
    apply h.receive short consistent side
    intro seg goes accepted atNext some_ sending
    have mayReceive : ControlBlock.mayReceiveData e.cb.state = true :=
      (ControlBlock.mayReceiveData_iff _).mpr sending
    simp only [finInPlace] at inPlace
    rw [show InSegment.accept e.cb.receiver.receiveNext e.cb.getReceiveWindowSize header data =
      .ok (some seg) from accepted] at inPlace
    have atNext : seg.segStart = e.cb.receiver.receiveNext := atNext
    simpa [goes, atNext, some_, mayReceive] using inPlace

/-- **The FIN is consumed at its own number.** `receive_data` answers as it should on exactly the
calls that are in place; and where every in-order data segment of a peer that agrees with `S` is, the
peer's FIN, once consumed, has been passed at the number after the stream, and a remembered FIN is
never left behind RCV.NXT by a connection that still takes data. -/
theorem peerFin_consumed_in_place (irs : SeqNumber) (S : List UInt8) (o : Opening)
    (first : o.receiverSeqNo = irs + 1) (events : List Event) (e : Endpoint σ) (short : S.length < 2 ^ 31)
    (consistent : ∀ event ∈ events, event.Consistent irs S)
    (inPlace : Machine.Admits step (finInPlace · · = true) (opened (σ := σ) o) events)
    (ran : (opened o).run events = .ok e) :
    (∀ (cb : ControlBlock σ) (buf : Buffer),
      ((cb.receiveData buf).1 = true ↔ ∃ fin, cb.outOfOrderFin = some fin ∧
        (cb.receiveData buf).2.receiver.receiveNext = fin) ↔
      cb.receiveSide.finInPlace buf = true) ∧
    (e.history.peerFin = true → e.cb.receiver.receiveNext = irs + 1 + S.length + 1) ∧
    (ControlBlock.mayReceiveData e.cb.state = true → ∀ fin, e.cb.outOfOrderFin = some fin →
      e.cb.receiver.receiveNext ≠ fin) := by
  have placed : e.cb.receiveSide.FinPlaced (irs + 1) S e.history.delivered e.history.peerFin := by
    refine Machine.invariant_of_admits
      (fun e : Endpoint σ => e.cb.receiveSide.FinPlaced (irs + 1) S e.history.delivered
        e.history.peerFin)
      (fun e event => e.finInPlace event = true ∧ event.Consistent irs S) ?_ ?_
      (inPlace.and (Machine.admits_of_forall consistent _)) ran
    · exact fun h ok stepped => step_finPlaced short h ok.2 ok.1 stepped
    · rw [← first]
      exact ⟨opened_holds .., fun _ none => (by cases none), fun _ _ none => (by cases none),
        fun none => (by cases none), fun none => (by cases none)⟩
  refine ⟨fun cb buf => ReceiveSide.releasesFin_iff cb.receiveSide buf,
    fun seen => (placed.passed seen).2, fun mayReceive => placed.waiting ?_⟩
  exact (ControlBlock.mayReceiveData_iff _).mp mayReceive

/-- Two bytes with the FIN arrive before the first two bytes, which join them. -/
theorem peerFin_consumed_in_place_reordered :
    ∃ e : Endpoint CongestionControl.None,
      (Endpoint.start (sampleBlock ⟨1⟩ ⟨0⟩ 100 100 1460)).run
        [.receive { sampleHeader 3 0 10 with fin := true } [7, 8] sampleEnv,
          .receive (sampleHeader 1 0 10) [5, 6] sampleEnv] = .ok e ∧
      e.history.peerFin = true ∧ e.cb.receiver.receiveNext = ⟨0⟩ + 1 + (4 : Nat) + 1 := by
  obtain ⟨e, ran, seen⟩ := Machine.map_eq_ok
    (x := (Endpoint.start (sampleBlock ⟨1⟩ ⟨0⟩ 100 100 1460)).run
      [.receive { sampleHeader 3 0 10 with fin := true } [7, 8] sampleEnv,
        .receive (sampleHeader 1 0 10) [5, 6] sampleEnv])
    (fun e => e.history.peerFin) (t := true) (by decide +kernel)
  refine ⟨e, ran, seen, ?_⟩
  refine (peerFin_consumed_in_place ⟨0⟩ [5, 6, 7, 8] (sampleOpening ⟨1⟩ ⟨0⟩ 100 100 1460) rfl _ e
    (by decide) ?_ (Machine.Admits.of_admits (by decide +kernel)) ran).2.1 seen
  simp only [List.forall_mem_cons, Event.Consistent]
  exact ⟨.of_forall (by decide +kernel) (by decide) (by decide +kernel),
    .of_forall (by decide +kernel) (by decide) (by decide), fun _ h => absurd h List.not_mem_nil⟩

/-- The stream is six bytes long. Its FIN is remembered at number 7, the bytes at 3 and 4 are stored,
and the first two bytes arrive: `receive_data` returns true with RCV.NXT at 5, and `receive` consumes
a FIN there, two bytes early. -/
theorem fin_consumed_early :
    ∃ e e' : Endpoint CongestionControl.None,
      (Endpoint.start (sampleBlock ⟨1⟩ ⟨0⟩ 100 100 1460)).run
        [.receive { sampleHeader 7 0 10 with fin := true } [] sampleEnv,
          .receive (sampleHeader 3 0 10) [3, 4] sampleEnv] = .ok e ∧
      (∀ event ∈ [Event.receive { sampleHeader 7 0 10 with fin := true } [] sampleEnv,
          .receive (sampleHeader 3 0 10) [3, 4] sampleEnv,
          .receive (sampleHeader 1 0 10) [1, 2] sampleEnv],
        event.Consistent ⟨0⟩ [1, 2, 3, 4, 5, 6]) ∧
      e.cb.outOfOrderFin = some ⟨7⟩ ∧ (e.cb.receiveData [1, 2]).1 = true ∧
      (e.cb.receiveData [1, 2]).2.receiver.receiveNext = ⟨5⟩ ∧
      e.step (.receive (sampleHeader 1 0 10) [1, 2] sampleEnv) = .ok e' ∧
      e'.cb.state = .closeWait ∧ e'.cb.receiver.receiveNext = ⟨6⟩ := by
  obtain ⟨e, ran, view⟩ := Machine.map_eq_ok
    (x := (Endpoint.start (sampleBlock ⟨1⟩ ⟨0⟩ 100 100 1460)).run
      [.receive { sampleHeader 7 0 10 with fin := true } [] sampleEnv,
        .receive (sampleHeader 3 0 10) [3, 4] sampleEnv])
    (fun e => (e.cb.outOfOrderFin, (e.cb.receiveData [1, 2]).1,
      (e.cb.receiveData [1, 2]).2.receiver.receiveNext,
      (e.step (.receive (sampleHeader 1 0 10) [1, 2] sampleEnv)).map fun e' =>
        (e'.cb.state, e'.cb.receiver.receiveNext)))
    (t := (some ⟨7⟩, true, ⟨5⟩, .ok (.closeWait, ⟨6⟩))) (by decide +kernel)
  simp only [Prod.mk.injEq] at view
  obtain ⟨remembered, released, next, after⟩ := view
  obtain ⟨e', stepped, after⟩ := Machine.map_eq_ok _ after
  obtain ⟨state, passed⟩ := Prod.mk.inj after
  refine ⟨e, e', ran, ?_, remembered, released, next, stepped, state, passed⟩
  simp only [List.forall_mem_cons, Event.Consistent]
  exact ⟨.of_forall (by decide +kernel) (by decide) (by decide +kernel),
    .of_forall (by decide +kernel) (by decide) (by decide),
    .of_forall (by decide +kernel) (by decide) (by decide), fun _ h => absurd h List.not_mem_nil⟩

end Endpoint

end Inetstack.Tcp
