import Inetstack.Laws.Tcp.Established.Acceptance
import Inetstack.Laws.Tcp.Established.Faults

/-!
# The receive window

RCV.NXT is ahead of what the user has read by the bytes that wait in the queue and by the FINs that
have been consumed, and never by more than the receive buffer. Every piece of data is checked against
the window when it arrives, alone; that the pieces still fit together when stored data joins new data
is what the invariant has to carry. A stored entry lies ahead of RCV.NXT inside the window, or it was
overtaken by data that did not end where it began, and then lies behind for ever: the store is only
emptied from its front and only of entries that begin exactly at RCV.NXT.

Three things break the invariant. A FIN is released by stored data that joins, at a place that was
never checked against the window. A FIN after the FIN is consumed again. And an entry that has been
left `2 ^ 31` numbers behind is taken for one ahead.
-/

namespace Inetstack.Tcp

open Machine (bind_eq_ok bind_eq_error)

namespace ReceiveSide

/-- The bytes that wait to be read. -/
def queued (r : ReceiveSide) : Nat := r.receiver.recvQueue.flatten.length

/-- A buffer placed at `start` lies ahead of `next` and within `room` of it. -/
def Ahead (next : SeqNumber) (room : Nat) (start : SeqNumber) (buf : Buffer) : Prop :=
  ∃ o : Nat, start = next + o ∧ o + buf.length ≤ room

/-- A buffer placed at `start` begins behind `next`, by at most `limit`. -/
def Behind (next : SeqNumber) (limit : Nat) (start : SeqNumber) : Prop :=
  ∃ d : Nat, 1 ≤ d ∧ d ≤ limit ∧ start + d = next

/-- How far behind RCV.NXT a stored entry can be found: `2 ^ 31` before a segment, and then one
window more. -/
def farthestBehind : Nat := 2 ^ 31 + 2 ^ 30

/-- The window in order, after `fins` consumed FINs. The buffer is a 16-bit size scaled, and below
`2 ^ 30`. -/
structure Windowed (fins : Nat) (r : ReceiveSide) : Prop where
  small : r.receiveBufferSize.toNat < 2 ^ 30
  scaled : ∃ w : UInt16, r.receiveBufferSize.toNat = w.toNat * 2 ^ r.windowScale.toNat
  next : r.receiver.receiveNext = r.receiver.readerNext + ((r.queued + fins : Nat) : SeqNumber)
  fits : r.queued + fins ≤ r.receiveBufferSize.toNat
  entries : r.peer = .sending → ∀ entry ∈ r.outOfOrder,
    Ahead r.receiver.receiveNext (r.receiveBufferSize.toNat - (r.queued + fins)) entry.1 entry.2 ∨
      Behind r.receiver.receiveNext farthestBehind entry.1

/-- No stored entry is `2 ^ 31` behind RCV.NXT or more, where it would be taken for one ahead. -/
def recent (r : ReceiveSide) : Bool :=
  r.outOfOrder.all fun entry =>
    entry.1.lt r.receiver.receiveNext || (entry.1 - r.receiver.receiveNext).toNat < 2 ^ 30

/-- When the text of an in-order segment brings a FIN with it, its own or a remembered one, the text
and the stored data that joins it leave room for the FIN. -/
def roomForFin (r : ReceiveSide) (seg : InSegment) : Bool :=
  !(!seg.data.isEmpty && r.peer == .sending && (seg.header.fin || r.releasesFin seg.data)) ||
    (joinedEnd (r.receiver.receiveNext + .ofLen seg.data.length) r.outOfOrder -
      r.receiver.readerNext).toNat < r.receiveBufferSize.toNat

/-! ## What the invariant says of the window -/

namespace Windowed

variable {fins : Nat} {r : ReceiveSide}

theorem span (h : r.Windowed fins) :
    (r.receiver.receiveNext - r.receiver.readerNext).toNat = r.queued + fins := by
  have small := h.small
  have fits := h.fits
  rw [h.next, add_sub_cancel_left, SeqNumber.toNat_cast, Nat.mod_eq_of_lt (by omega)]

/-- The window does not underflow. -/
theorem window (h : r.Windowed fins) :
    r.window.toNat = r.receiveBufferSize.toNat - (r.queued + fins) := by
  have span : (r.receiver.receiveNext - r.receiver.readerNext).value.toNat = r.queued + fins :=
    h.span
  have fits := h.fits
  rw [ReceiveSide.window, UInt32.toNat_sub_of_le _ _ (UInt32.le_iff_toNat_le.mpr (by omega)), span]

/-- The window fits the header. -/
theorem hdrWindowSize (h : r.Windowed fins) : ∃ advertised, r.hdrWindowSize = .ok advertised := by
  obtain ⟨w, size⟩ := h.scaled
  have below : (r.window >>> r.windowScale).toNat < 2 ^ 16 := by
    rw [UInt32.toNat_shiftRight, Nat.shiftRight_eq_div_pow, h.window]
    have w_lt := w.toNat_lt
    rcases Nat.eq_zero_or_pos w.toNat with zero | positive
    · rw [size, zero, Nat.zero_mul, Nat.zero_sub, Nat.zero_div]
      decide
    · -- a buffer of at least `2 ^ scale` and below `2 ^ 30` keeps the scale below the word size
      have scale : r.windowScale.toNat < 32 := by
        have small := h.small
        have le : 2 ^ r.windowScale.toNat ≤ r.receiveBufferSize.toNat :=
          size ▸ Nat.le_mul_of_pos_left _ positive
        exact (Nat.pow_lt_pow_iff_right (by decide : 1 < 2)).mp
          (lt_of_le_of_lt le (lt_trans small (by decide)))
      rw [Nat.mod_eq_of_lt scale]
      refine lt_of_le_of_lt (Nat.div_le_div_right (Nat.sub_le _ _)) ?_
      rw [size, Nat.mul_div_cancel _ (Nat.two_pow_pos _)]
      exact w_lt
  exact ⟨_, if_pos below⟩

theorem not_overflows (h : r.Windowed fins) (fault : Fault) : ¬ r.Overflows fault := by
  rintro ⟨-, overflow⟩
  obtain ⟨advertised, ok⟩ := h.hdrWindowSize
  rw [ok] at overflow
  cases overflow

end Windowed

/-! ## The drain -/

/-- **What the drain takes.** From a number within the room, it moves on by entries that lie ahead,
and stays within the room; an entry behind cannot join. -/
theorem drain_windowed {next : SeqNumber} {room : Nat} {store : List (SeqNumber × Buffer)}
    (small : room < 2 ^ 30)
    (entries : ∀ entry ∈ store, Ahead next room entry.1 entry.2 ∨ Behind next (2 ^ 31) entry.1)
    {m : Nat} (receiver : Receiver) (within : m ≤ room) :
    ∃ n, n ≤ room - m ∧
      (drainOutOfOrder (next + m) receiver store).1.readerNext = receiver.readerNext ∧
      (drainOutOfOrder (next + m) receiver store).1.receiveNext = receiver.receiveNext + n ∧
      (drainOutOfOrder (next + m) receiver store).1.recvQueue.flatten.length =
        receiver.recvQueue.flatten.length + n ∧
      (drainOutOfOrder (next + m) receiver store).2.1 ⊆ store := by
  induction store generalizing m receiver with
  | nil => exact ⟨0, Nat.zero_le _, rfl, (add_zero _).symm, rfl, List.Subset.refl _⟩
  | cons entry rest ih =>
    obtain ⟨start, buf⟩ := entry
    unfold drainOutOfOrder
    by_cases joins : start = next + (m : SeqNumber)
    swap
    · rw [if_neg joins]
      exact ⟨0, Nat.zero_le _, rfl, (add_zero _).symm, rfl, List.Subset.refl _⟩
    rw [if_pos joins]
    have fits : m + buf.length ≤ room := by
      rcases entries (start, buf) List.mem_cons_self with ⟨o, at_, fits⟩ | ⟨d, one, far, at_⟩
      · have same := congrArg SeqNumber.toNat (add_left_cancel (joins.symm.trans at_))
        rw [SeqNumber.toNat_cast, SeqNumber.toNat_cast] at same
        dsimp only at fits
        omega
      · -- behind by `d` and ahead by `m` at once: the two together do not reach around
        dsimp only at at_
        rw [joins, add_assoc, ← Nat.cast_add] at at_
        have none := congrArg SeqNumber.toNat (add_eq_left.mp at_)
        rw [SeqNumber.toNat_cast, SeqNumber.toNat_zero] at none
        omega
    obtain ⟨n, le, reader, received, queue, left⟩ := ih
      (fun e member => entries e (List.mem_cons_of_mem _ member)) (receiver.push buf) fits
    rw [Nat.cast_add, ← add_assoc] at reader received queue left
    refine ⟨buf.length + n, by omega, reader, ?_, ?_, List.Subset.trans left
      (List.subset_cons_self _ _)⟩
    · rw [Nat.cast_add, ← add_assoc]
      exact received
    · refine queue.trans ?_
      simp only [Receiver.push, List.flatten_append, List.flatten_singleton, List.length_append,
        Nat.add_assoc]

/-- Moving on by `n` leaves an entry ahead, or behind by less than a window more. -/
theorem entry_advances {next : SeqNumber} {room n : Nat} {start : SeqNumber} {buf : Buffer}
    (small : room < 2 ^ 30) (within : n ≤ room)
    (placed : Ahead next room start buf ∨ Behind next (2 ^ 31) start) :
    Ahead (next + n) (room - n) start buf ∨ Behind (next + n) farthestBehind start := by
  unfold farthestBehind
  rcases placed with ⟨o, rfl, fits⟩ | ⟨d, one, far, rfl⟩
  · by_cases overtaken : o < n
    · refine .inr ⟨n - o, by omega, by omega, ?_⟩
      rw [add_assoc, ← Nat.cast_add, Nat.add_sub_cancel' overtaken.le]
    · refine .inl ⟨o - n, ?_, by omega⟩
      rw [add_assoc, ← Nat.cast_add, Nat.add_sub_cancel' (Nat.le_of_not_lt overtaken)]
  · exact .inr ⟨d + n, by omega, by omega, by rw [Nat.cast_add, ← add_assoc]⟩

/-- What is cut from a buffer ahead is ahead. -/
theorem ahead_survivesCuts (next : SeqNumber) (room : Nat) : SurvivesCuts (Ahead next room) where
  take := by
    rintro start buf n ⟨o, rfl, fits⟩
    refine ⟨o, rfl, ?_⟩
    rw [List.length_take]
    omega
  drop := by
    rintro start buf n le ⟨o, rfl, fits⟩
    refine ⟨o + n, by rw [Nat.cast_add, add_assoc], ?_⟩
    rw [List.length_drop]
    omega

namespace Windowed

variable {fins : Nat} {r : ReceiveSide}

theorem entries_recent (h : r.Windowed fins) (sending : r.peer = .sending)
    (recent : r.recent = true) : ∀ entry ∈ r.outOfOrder,
    Ahead r.receiver.receiveNext (r.receiveBufferSize.toNat - (r.queued + fins)) entry.1 entry.2 ∨
      Behind r.receiver.receiveNext (2 ^ 31) entry.1 := by
  intro entry member
  rcases h.entries sending entry member with ahead | ⟨d, one, far, behind⟩
  · exact .inl ahead
  · refine .inr ⟨d, one, ?_, behind⟩
    -- the distance ahead is the rest of the number space, which a recent entry has not come around
    have near := List.all_eq_true.mp recent entry member
    have distance : (entry.1 - r.receiver.receiveNext).toNat = 2 ^ 32 - d := by
      unfold farthestBehind at far
      rw [← behind, sub_add_cancel_left, ← zero_sub, SeqNumber.toNat_sub, SeqNumber.toNat_cast,
        SeqNumber.toNat_zero]
      omega
    rw [Bool.or_eq_true, SeqNumber.lt_iff, decide_eq_true_eq, distance] at near
    unfold farthestBehind at far
    omega

/-- In-order data that fits, with the stored data that joins it. -/
theorem takeData (h : r.Windowed fins) (sending : r.peer = .sending) (recent : r.recent = true)
    (buf : Buffer) (room : r.queued + fins + buf.length ≤ r.receiveBufferSize.toNat) :
    (r.takeData buf).Windowed fins ∧
      (r.takeData buf).receiver.readerNext = r.receiver.readerNext := by
  have small := h.small
  obtain ⟨n, le, reader, next, queue, left⟩ := drain_windowed (by omega)
    (h.entries_recent sending recent) (m := buf.length) (r.receiver.push buf) (by omega)
  have queued : (r.takeData buf).queued = r.queued + buf.length + n := by
    refine queue.trans ?_
    simp only [Receiver.push, List.flatten_append, List.flatten_singleton, List.length_append,
      ReceiveSide.queued]
  have moved : (r.takeData buf).receiver.receiveNext =
      r.receiver.receiveNext + ((buf.length + n : Nat) : SeqNumber) := by
    rw [Nat.cast_add, ← add_assoc]
    exact next
  have same : (r.takeData buf).receiver.readerNext = r.receiver.readerNext := reader
  refine ⟨⟨small, h.scaled, ?_, ?_, ?_⟩, same⟩
  · rw [moved, same, h.next, add_assoc, ← Nat.cast_add, queued]
    refine congrArg (fun n : Nat => r.receiver.readerNext + (n : SeqNumber)) ?_
    omega
  · rw [queued]
    change _ ≤ r.receiveBufferSize.toNat
    omega
  · intro _ entry member
    rw [moved, queued]
    have placed := entry_advances (by omega) (n := buf.length + n) (by omega)
      (h.entries_recent sending recent entry (left member))
    rwa [show r.receiveBufferSize.toNat - (r.queued + fins) - (buf.length + n) =
      r.receiveBufferSize.toNat - (r.queued + buf.length + n + fins) by omega] at placed

/-- A FIN for which there is room. -/
theorem consumeFin (h : r.Windowed fins)
    (room : r.queued + fins < r.receiveBufferSize.toNat) : r.consumeFin.Windowed (fins + 1) where
  small := h.small
  scaled := h.scaled
  next := by
    change r.receiver.receiveNext + 1 = _
    rw [h.next, add_assoc, ← Nat.cast_succ]
    rfl
  fits := room
  entries := fun sending => by cases sending

/-- The in-order branch leaves the window in order, with one FIN more if it consumed one. -/
theorem inOrder (h : r.Windowed fins) {seg : InSegment}
    (text : r.queued + fins + seg.data.length + seg.header.fin.toNat ≤ r.receiveBufferSize.toNat)
    (recent : r.recent = true) (roomForFin : r.roomForFin seg = true) :
    (r.inOrder seg).peer = r.peer ∧ (r.inOrder seg).Windowed fins ∨
      (r.inOrder seg).peer = .finished ∧ (r.inOrder seg).Windowed (fins + 1) ∧
        (r.peer = .sending ∨ seg.header.fin = true) := by
  unfold ReceiveSide.inOrder
  split
  next data =>
    obtain ⟨taken, reader⟩ := h.takeData data.2 recent seg.data (by omega)
    split
    next fin =>
      refine .inr ⟨rfl, taken.consumeFin ?_, .inl data.2⟩
      have brings : (!seg.data.isEmpty && r.peer == .sending &&
          (seg.header.fin || r.releasesFin seg.data)) = true := by
        rw [fin, Bool.and_true, Bool.and_eq_true, beq_iff_eq]
        exact ⟨by simpa using data.1, data.2⟩
      rw [ReceiveSide.roomForFin, brings, ← takeData_receiveNext, ← reader] at roomForFin
      simp only [Bool.not_true, Bool.false_or, decide_eq_true_eq] at roomForFin
      rw [taken.span] at roomForFin
      exact roomForFin
    next => exact .inl ⟨rfl, taken⟩
  next =>
    split
    next fin =>
      rw [fin, Bool.toNat_true] at text
      exact .inr ⟨rfl, h.consumeFin (by omega), .inr fin⟩
    next => exact .inl ⟨rfl, h⟩

/-- The out-of-order branch keeps what it stores within the window. -/
theorem store (h : r.Windowed fins) {r' : ReceiveSide} {seg : InSegment}
    (ahead : Ahead r.receiver.receiveNext (r.receiveBufferSize.toNat - (r.queued + fins))
      seg.segStart seg.data)
    (stored : r.store seg = .ok r') : r'.Windowed fins ∧ r'.peer = r.peer := by
  obtain ⟨store, fin, rfl, kept, -⟩ := ReceiveSide.store_cases stored
  refine ⟨⟨h.small, h.scaled, h.next, h.fits, ?_⟩, rfl⟩
  intro sending entry member
  rcases kept with rfl | ⟨passes, last, passed⟩
  · exact h.entries sending entry member
  · rcases storePasses_leaves (ahead_survivesCuts _ _) passed ahead entry member with old | new
    · exact h.entries sending entry old
    · exact .inl new

/-- A change of the peer's side that does not bring it back to sending. -/
theorem withPeer (h : r.Windowed fins) {peer : PeerSide} (back : peer = .sending → r.peer = .sending) :
    ({ r with peer := peer } : ReceiveSide).Windowed fins :=
  ⟨h.small, h.scaled, h.next, h.fits, fun sending => h.entries (back sending)⟩

/-- A read makes room. -/
theorem read (h : r.Windowed fins) {buf : Buffer} {receiver : Receiver}
    (popped : r.receiver.pop = some (buf, receiver)) :
    ({ r with receiver := receiver } : ReceiveSide).Windowed fins := by
  obtain ⟨rest, queue, rfl⟩ := Receiver.pop_cases popped
  have before : r.queued = buf.length + rest.flatten.length := by
    rw [queued, queue, List.flatten_cons, List.length_append]
  have next := h.next
  have fits := h.fits
  have entries := h.entries
  rw [before] at next fits entries
  refine ⟨h.small, h.scaled, ?_, ?_, ?_⟩
  · change r.receiver.receiveNext = r.receiver.readerNext + (buf.length : SeqNumber) +
      ((rest.flatten.length + fins : Nat) : SeqNumber)
    rw [next, Nat.add_assoc, Nat.cast_add, ← add_assoc]
  · change rest.flatten.length + fins ≤ r.receiveBufferSize.toNat
    omega
  · intro sending entry member
    rcases entries sending entry member with ⟨o, at_, within⟩ | behind
    · refine .inl ⟨o, at_, ?_⟩
      change _ ≤ r.receiveBufferSize.toNat - (rest.flatten.length + fins)
      omega
    · exact .inr behind

theorem window_small (h : r.Windowed fins) : r.window.toNat < 2 ^ 30 := by
  have small := h.small
  rw [h.window]
  omega

/-- An accepted segment without a SYN, with its FIN, fits what is left of the buffer. -/
theorem accepted_fits (h : r.Windowed fins) {header : TcpHeader} {data : Buffer}
    (short : data.length < 2 ^ 16) {seg : InSegment}
    (accepted : InSegment.accept r.receiver.receiveNext r.window header data = .ok (some seg))
    (noSyn : seg.header.syn = false) :
    r.queued + fins + seg.data.length + seg.header.fin.toNat ≤ r.receiveBufferSize.toNat ∧
      Ahead r.receiver.receiveNext (r.receiveBufferSize.toNat - (r.queued + fins)) seg.segStart
        seg.data := by
  obtain ⟨shaped, o, at_, fits⟩ := InSegment.accept_fits h.window_small short accepted
  have len := shaped.len
  have bound := h.fits
  rw [noSyn, Bool.toNat_false] at len
  rw [h.window] at fits
  exact ⟨by omega, o, at_, by omega⟩

/-- Once the connection is closed no text is taken, so no FIN comes with it. -/
theorem roomForFin_withPeer {peer : PeerSide} {seg : InSegment}
    (acked : peer = r.peer ∨ r.peer = .finished ∧ peer = .gone) (room : r.roomForFin seg = true) :
    ({ r with peer := peer } : ReceiveSide).roomForFin seg = true := by
  rcases acked with rfl | ⟨-, rfl⟩
  · exact room
  · have no : (PeerSide.gone == PeerSide.sending) = false := rfl
    simp only [ReceiveSide.roomForFin, no, Bool.and_false, Bool.false_and, Bool.not_false,
      Bool.true_or]

/-- The peer's side after an ACK is sending only if it was. -/
theorem acked_sending {peer : PeerSide}
    (acked : peer = r.peer ∨ r.peer = .finished ∧ peer = .gone) (sending : peer = .sending) :
    r.peer = .sending := by
  rcases acked with same | ⟨-, gone⟩
  · exact same.symm.trans sending
  · exact absurd (gone.symm.trans sending) (by decide)

/-- **A segment leaves the window in order.** The in-order segments that go on are to be recent and to
leave room for a FIN they bring. -/
theorem receive (h : r.Windowed fins) {r' : ReceiveSide} {header : TcpHeader} {data : Buffer}
    (short : data.length < 2 ^ 16) {goesOn : InSegment → Bool}
    (ran : r.Received goesOn header data r')
    (safe : ∀ seg, goesOn seg = true →
      InSegment.accept r.receiver.receiveNext r.window header data = .ok (some seg) →
      seg.segStart = r.receiver.receiveNext → r.recent = true ∧ r.roomForFin seg = true) :
    (r'.peer = r.peer ∨ r'.peer = .gone) ∧ r'.Windowed fins ∨
      r'.peer = .finished ∧ r'.Windowed (fins + 1) ∧ (r.peer = .sending ∨ r.peer = .finished ∧
        ∃ seg, goesOn seg = true ∧
          InSegment.accept r.receiver.receiveNext r.window header data = .ok (some seg) ∧
          seg.segStart = r.receiver.receiveNext ∧ seg.header.fin = true) := by
  cases ran with
  | dropped => exact .inl ⟨.inl rfl, h⟩
  | gone => exact .inl ⟨.inr rfl, h.withPeer fun sending => by cases sending⟩
  | @inOrder seg peer accepted goes noSyn acked atNext expected =>
    obtain ⟨recent, roomForFin⟩ := safe seg goes accepted atNext
    rcases (h.withPeer (acked_sending acked)).inOrder (h.accepted_fits short accepted noSyn).1 recent
      (roomForFin_withPeer acked roomForFin) with ⟨same, kept⟩ | ⟨fin, more, was⟩
    · refine .inl ⟨?_, kept⟩
      rcases acked with rfl | ⟨-, rfl⟩
      · exact .inl same
      · exact .inr same
    · refine .inr ⟨fin, more, ?_⟩
      rcases was with sending | own
      · exact .inl (acked_sending acked sending)
      · rcases acked with rfl | ⟨-, rfl⟩
        · cases peer : r.peer with
          | sending => exact .inl rfl
          | finished => exact .inr ⟨rfl, seg, goes, accepted, atNext, own⟩
          | gone => exact absurd peer (expected own)
        · exact absurd rfl (expected own)
  | @outOfOrder seg peer _ accepted goes noSyn acked later stored =>
    obtain ⟨kept, same⟩ := (h.withPeer (acked_sending acked)).store
      (h.accepted_fits short accepted noSyn).2 stored
    refine .inl ⟨?_, kept⟩
    rcases acked with rfl | ⟨-, rfl⟩
    · exact .inl same
    · exact .inr same

end Windowed

end ReceiveSide

/-- The data of an arriving segment is the payload of an IPv4 datagram, whose length field has 16
bits. -/
def Event.Short : Event → Prop
  | .receive _ data _ => data.length < 2 ^ 16
  | .call _ _ => True

namespace ControlBlock

variable {σ : Type} [CongestionControl σ]

/-- **No header overflows while a segment is received.** -/
theorem receive_not_overflows {cb : ControlBlock σ} {fins : Nat} (h : cb.receiveSide.Windowed fins)
    {env : Env} {header : TcpHeader} {data : Buffer} (short : data.length < 2 ^ 16)
    (safe : ∀ seg, cb.goesOn seg = true →
      InSegment.accept cb.receiver.receiveNext cb.getReceiveWindowSize header data = .ok (some seg) →
      seg.segStart = cb.receiver.receiveNext →
      cb.receiveSide.recent = true ∧ cb.receiveSide.roomForFin seg = true) :
    cb.receive env header data ≠ .error .windowSizeOverflow := by
  intro stopped
  have small : cb.getReceiveWindowSize.toNat < 2 ^ 30 := h.window_small
  rcases receive_error stopped with accept | overflow | spins | ⟨seg, accepted, rst | processed⟩
  · -- the acceptance test stops on a cut, if it stops
    by_cases syn : header.syn = true ∧ header.seqNum = cb.receiver.receiveNext ∧
        cb.getReceiveWindowSize = 0
    · rw [syn.2.2, InSegment.accept_syn short syn.1 syn.2.1] at accept
      cases accept
    · obtain ⟨accepted, ok, -⟩ := InSegment.accept_eq small short
        fun isSyn here none => syn ⟨isSyn, here, none⟩
      rw [ok] at accept
      cases accept
  · exact h.not_overflows _ overflow
  · cases spins
  · cases rst.2.2
  · obtain ⟨cb₁, acks, processed, branch⟩ := processed
    obtain ⟨peer, side, acked⟩ := processAck_receiveSide processed
    have h₁ := h.withPeer (ReceiveSide.Windowed.acked_sending acked)
    rcases branch with ⟨atNext, inOrder⟩ | ⟨-, outOfOrder⟩
    · obtain ⟨recent, roomForFin⟩ := safe seg (goesOn_of_processAck acks processed) accepted atNext
      rcases receiveInOrder_error inOrder with ⟨other, -⟩ | overflow
      · cases other
      · rw [side] at overflow
        rcases h₁.inOrder (h.accepted_fits short accepted acks.syn).1 recent
          (ReceiveSide.Windowed.roomForFin_withPeer acked roomForFin) with
          ⟨-, kept⟩ | ⟨-, more, -⟩
        · exact kept.not_overflows _ overflow
        · exact more.not_overflows _ overflow
    · rcases receiveOutOfOrder_error outOfOrder with cut | overflow
      · obtain ⟨shaped, -⟩ := InSegment.accept_fits small short accepted
        obtain ⟨r', stored⟩ := cb₁.receiveSide.store_ok shaped acks.syn
        rw [stored] at cut
        cases cut
      · rw [side] at overflow
        exact h₁.not_overflows _ overflow

end ControlBlock

namespace Endpoint

variable {σ : Type} [CongestionControl σ]

/-- An in-order segment that goes on finds the store recent and leaves room for a FIN it brings. -/
def leavesRoom (e : Endpoint σ) : Event → Bool
  | .receive header data _ =>
    match InSegment.accept e.cb.receiver.receiveNext e.cb.getReceiveWindowSize header data with
    | .ok (some seg) =>
      !(e.cb.goesOn seg && seg.segStart == e.cb.receiver.receiveNext) ||
        (e.cb.receiveSide.recent && e.cb.receiveSide.roomForFin seg)
    | _ => true
  | .call _ _ => true

/-- An in-order segment that goes on brings no FIN after the peer's FIN has been consumed. -/
def finishesOnce (e : Endpoint σ) : Event → Bool
  | .receive header data _ =>
    match InSegment.accept e.cb.receiver.receiveNext e.cb.getReceiveWindowSize header data with
    | .ok (some seg) =>
      !(e.cb.goesOn seg && seg.segStart == e.cb.receiver.receiveNext && seg.header.fin &&
        e.cb.state.afterPeerFin)
    | _ => true
  | .call _ _ => true

omit [CongestionControl σ] in
theorem leavesRoom_spec {e : Endpoint σ} {header : TcpHeader} {data : Buffer} {env : Env}
    (ok : e.leavesRoom (.receive header data env) = true) (seg : InSegment)
    (goes : e.cb.goesOn seg = true)
    (accepted : InSegment.accept e.cb.receiver.receiveNext e.cb.getReceiveWindowSize header data =
      .ok (some seg)) (atNext : seg.segStart = e.cb.receiver.receiveNext) :
    e.cb.receiveSide.recent = true ∧ e.cb.receiveSide.roomForFin seg = true := by
  simpa [leavesRoom, accepted, goes, atNext] using ok

/-- The window of an endpoint is in order, with the peer's FIN counted once. -/
structure InWindow (e : Endpoint σ) : Prop where
  windowed : e.cb.receiveSide.Windowed e.history.peerFin.toNat
  sending : e.cb.receiveSide.peer = .sending → e.history.peerFin = false
  finished : e.cb.receiveSide.peer = .finished → e.history.peerFin = true

/-- **One event keeps the window in order.** -/
theorem step_inWindow {e e' : Endpoint σ} {event : Event} (h : e.InWindow) (short : event.Short)
    (room : e.leavesRoom event = true) (once : e.finishesOnce event = true)
    (stepped : e.step event = .ok e') : e'.InWindow := by
  -- what the history says when the peer's side has not come to finished in this step
  have unseen : ∀ {peer : PeerSide}, peer = e.cb.receiveSide.peer ∨ peer = .gone →
      (e.history.peerFin || decide (peer = .finished)) = e.history.peerFin := by
    rintro peer (rfl | rfl)
    · by_cases finished : e.cb.receiveSide.peer = .finished
      · rw [h.finished finished]
        rfl
      · simp [finished]
    · simp
  cases step_receiveStep stepped with
  | untouched side delivered peerFin =>
    have same : e'.history.peerFin = e.history.peerFin := by
      rcases peerFin with same | recorded
      · exact same
      · rw [recorded, side, unseen (.inl rfl)]
    refine ⟨?_, ?_, ?_⟩ <;> rw [side, same]
    · exact h.windowed
    · exact h.sending
    · exact h.finished
  | read popped side delivered peerFin =>
    have same : e'.history.peerFin = e.history.peerFin := by
      rw [peerFin, side, unseen (.inl rfl)]
    refine ⟨?_, ?_, ?_⟩ <;> rw [side, same]
    · exact h.windowed.read popped
    · exact h.sending
    · exact h.finished
  | @received header data env _ side delivered peerFin =>
    rcases h.windowed.receive short side (leavesRoom_spec room) with ⟨peer, kept⟩ |
      ⟨fin, more, was⟩
    · have same : e'.history.peerFin = e.history.peerFin := by rw [peerFin, unseen peer]
      refine ⟨by rwa [same], ?_, ?_⟩
      · intro sending
        rw [same]
        rcases peer with same | gone
        · exact h.sending (same.symm.trans sending)
        · exact absurd (gone.symm.trans sending) (by decide)
      · intro finished
        rw [same]
        rcases peer with same | gone
        · exact h.finished (same.symm.trans finished)
        · exact absurd (gone.symm.trans finished) (by decide)
    -- after the FIN of the peer no second one is accepted in place
    · have sending : e.cb.receiveSide.peer = .sending := by
        rcases was with sending | ⟨finished, seg, goes, accepted, atNext, own⟩
        · exact sending
        · have after : e.cb.state.afterPeerFin = true := by
            rw [State.afterPeerFin_eq]
            exact decide_eq_true finished
          have accepted : InSegment.accept e.cb.receiver.receiveNext e.cb.getReceiveWindowSize header
            data = .ok (some seg) := accepted
          have atNext : seg.segStart = e.cb.receiver.receiveNext := atNext
          simp [finishesOnce, accepted, goes, atNext, own, after] at once
      have seen : e'.history.peerFin = true := by rw [peerFin, fin]; simp
      rw [h.sending sending] at more
      exact ⟨by rwa [seen], fun sending => absurd (fin.symm.trans sending) (by decide),
        fun _ => seen⟩

/-- No event that leaves room stops on the window field of a header. -/
theorem step_not_overflows {e : Endpoint σ} {fins : Nat} (h : e.cb.receiveSide.Windowed fins)
    {event : Event} (short : event.Short) (room : e.leavesRoom event = true) :
    e.step event ≠ .error .windowSizeOverflow := by
  intro stopped
  cases event with
  | call c env => exact h.not_overflows _ (call_overflow stopped)
  | receive header data env =>
    rcases bind_eq_error.mp stopped with ran | ⟨cb, -, ran⟩
    · exact ControlBlock.receive_not_overflows h short (leavesRoom_spec room) ran
    · cases ran

/-- A new control block has its whole buffer for a window. -/
theorem opened_windowed {o : Opening} {w : UInt16}
    (scaled : o.receiverWindowSize.toNat = w.toNat * 2 ^ o.receiverWindowScale.toNat)
    (small : o.receiverWindowSize.toNat < 2 ^ 30) :
    (opened (σ := σ) o).cb.receiveSide.Windowed 0 where
  small := small
  scaled := ⟨w, scaled⟩
  next := (add_zero o.receiverSeqNo).symm
  fits := Nat.zero_le _
  entries := fun _ _ none => by cases none

/-- **The receive-window invariant**, where the steps leave room and the peer finishes once. RCV.NXT is
ahead of the reader by the queued bytes and the consumed FIN, and by no more than the buffer; so the
window does not underflow, it fits a header, and no event stops on it. -/
theorem receive_window_invariant (o : Opening) (w : UInt16)
    (scaled : o.receiverWindowSize.toNat = w.toNat * 2 ^ o.receiverWindowScale.toNat)
    (small : o.receiverWindowSize.toNat < 2 ^ 30) (events : List Event) (e : Endpoint σ)
    (short : ∀ event ∈ events, event.Short)
    (room : Machine.Admits step (leavesRoom · · = true) (opened (σ := σ) o) events)
    (once : Machine.Admits step (finishesOnce · · = true) (opened (σ := σ) o) events)
    (ran : (opened o).run events = .ok e) :
    e.cb.receiver.receiveNext = e.cb.receiver.readerNext +
        ((e.cb.receiver.recvQueue.flatten.length + e.history.peerFin.toNat : Nat) : SeqNumber) ∧
      (e.cb.receiver.receiveNext - e.cb.receiver.readerNext).toNat ≤ e.cb.receiveBufferSize.toNat ∧
      e.cb.getReceiveWindowSize.toNat = e.cb.receiveBufferSize.toNat -
        (e.cb.receiver.receiveNext - e.cb.receiver.readerNext).toNat ∧
      (∃ advertised, e.cb.hdrWindowSize = .ok advertised) ∧
      ∀ event, event.Short → e.leavesRoom event = true →
        e.step event ≠ .error .windowSizeOverflow := by
  have inWindow : e.InWindow := by
    refine Machine.invariant_of_admits InWindow
      (fun e event => (e.leavesRoom event = true ∧ e.finishesOnce event = true) ∧ event.Short)
      ?_ ?_ ((room.and once).and (Machine.admits_of_forall short _)) ran
    · exact fun h ok stepped => step_inWindow h ok.2 ok.1.1 ok.1.2 stepped
    · exact ⟨opened_windowed scaled small, fun _ => rfl, fun finished => by cases finished⟩
  have windowed := inWindow.windowed
  have span : (e.cb.receiver.receiveNext - e.cb.receiver.readerNext).toNat =
    e.cb.receiveSide.queued + e.history.peerFin.toNat := windowed.span
  refine ⟨windowed.next, ?_, ?_, windowed.hdrWindowSize,
    fun event short room => step_not_overflows windowed short room⟩
  · rw [span]
    exact windowed.fits
  · rw [span]
    exact windowed.window

/-- Two bytes join one byte and the FIN comes last. -/
theorem receive_window_invariant_joined :
    ∃ e : Endpoint CongestionControl.None,
      (Endpoint.start (sampleBlock ⟨1⟩ ⟨40⟩ 100 100 1460)).run
        [.receive (sampleHeader 2 40 10) [6, 7] sampleEnv,
          .receive (sampleHeader 1 40 10) [5] sampleEnv, .call .pollRecv sampleEnv,
          .receive { sampleHeader 4 40 10 with fin := true } [] sampleEnv] = .ok e ∧
      e.history.peerFin = true ∧
      e.cb.receiver.receiveNext = e.cb.receiver.readerNext +
        ((e.cb.receiver.recvQueue.flatten.length + e.history.peerFin.toNat : Nat) : SeqNumber) := by
  obtain ⟨e, ran, seen⟩ := Machine.map_eq_ok
    (x := (Endpoint.start (sampleBlock ⟨1⟩ ⟨40⟩ 100 100 1460)).run
      [.receive (sampleHeader 2 40 10) [6, 7] sampleEnv,
        .receive (sampleHeader 1 40 10) [5] sampleEnv, .call .pollRecv sampleEnv,
        .receive { sampleHeader 4 40 10 with fin := true } [] sampleEnv])
    (fun e => e.history.peerFin) (t := true) (by decide +kernel)
  refine ⟨e, ran, seen, ?_⟩
  refine (receive_window_invariant (sampleOpening ⟨1⟩ ⟨40⟩ 100 100 1460) 100 (by decide) (by decide) _ e ?_
    (Machine.Admits.of_admits (by decide +kernel)) (Machine.Admits.of_admits (by decide +kernel)) ran).1
  simp [Event.Short]

/-- A FIN after the FIN: RCV.NXT is two ahead of the reader with nothing queued. And a buffer of four
bytes: a FIN remembered at number 3, data past it stored there, and the two bytes before, which fill
the buffer and release the FIN; the window underflows and the ACK of the FIN panics. -/
theorem window_underflow :
    (∃ e : Endpoint CongestionControl.None,
      (Endpoint.start (sampleBlock ⟨1⟩ ⟨40⟩ 100 100 1460)).run
        [.receive { sampleHeader 1 40 10 with fin := true } [] sampleEnv,
          .receive { sampleHeader 2 40 10 with fin := true } [] sampleEnv] = .ok e ∧
      e.history.peerFin = true ∧ e.cb.receiver.recvQueue = [] ∧
      e.cb.receiver.readerNext = ⟨1⟩ ∧ e.cb.receiver.receiveNext = ⟨3⟩) ∧
    ∃ e : Endpoint CongestionControl.None,
      (Endpoint.start (sampleBlock ⟨1⟩ ⟨40⟩ 4 100 1460)).run
        [.receive { sampleHeader 3 40 10 with fin := true } [] sampleEnv,
          .receive (sampleHeader 3 40 10) [7, 8] sampleEnv] = .ok e ∧
      (e.cb.receive sampleEnv (sampleHeader 1 40 10) [5, 6]).map (fun _ => ()) =
        .error .windowSizeOverflow := by
  constructor
  · obtain ⟨e, ran, view⟩ := Machine.map_eq_ok
      (x := (Endpoint.start (sampleBlock ⟨1⟩ ⟨40⟩ 100 100 1460)).run
        [.receive { sampleHeader 1 40 10 with fin := true } [] sampleEnv,
          .receive { sampleHeader 2 40 10 with fin := true } [] sampleEnv])
      (fun e => (e.history.peerFin, e.cb.receiver)) (t := (true, ⟨⟨1⟩, ⟨3⟩, []⟩))
      (by decide +kernel)
    obtain ⟨seen, receiver⟩ := Prod.mk.inj view
    exact ⟨e, ran, seen, congrArg Receiver.recvQueue receiver, congrArg Receiver.readerNext receiver,
      congrArg Receiver.receiveNext receiver⟩
  · exact Machine.map_eq_ok
      (x := (Endpoint.start (sampleBlock ⟨1⟩ ⟨40⟩ 4 100 1460)).run
        [.receive { sampleHeader 3 40 10 with fin := true } [] sampleEnv,
          .receive (sampleHeader 3 40 10) [7, 8] sampleEnv])
      (fun e =>
        (e.cb.receive sampleEnv (sampleHeader 1 40 10) [5, 6]).map (fun _ => ()))
      (t := .error .windowSizeOverflow) (by decide +kernel)

end Endpoint

end Inetstack.Tcp
