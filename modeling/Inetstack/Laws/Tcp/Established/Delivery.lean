import Inetstack.Lib.Labelled
import Inetstack.Laws.Tcp.SequenceNumber
import Inetstack.Laws.Tcp.Established.Endpoint

/-!
# Received bytes stand where they were sent

Fix a relation between sequence numbers and bytes, and let every byte that arrives be allowed at the
sequence number it arrives at. Then every byte the receive side keeps is allowed at the number it
keeps it under: trimming at either end, the cutting and the eviction in the out-of-order store, and
the drain into the receive queue all move a byte together with its number. None of this depends on
the comparisons being right, so it needs no bound on the window or on the distance between numbers.

While the peer may still send, RCV.NXT is the number after the last byte received.
-/

namespace Inetstack.Tcp

open Machine (bind_eq_ok)

variable {allows : SeqNumber → UInt8 → Prop}

/-- A cast of a word is its sequence number. -/
theorem SeqNumber.cast_toNat_eq_mk (x : UInt32) : (x.toNat : SeqNumber) = SeqNumber.mk x :=
  SeqNumber.cast_toNat (SeqNumber.mk x)

/-- What is cut was there, and the rest is left. -/
theorem Buffer.adjust_ok {buf buf' : Buffer} {n : Nat} (h : Buffer.adjust buf n = .ok buf') :
    n ≤ buf.length ∧ buf' = buf.drop n := by
  unfold Buffer.adjust at h
  split at h
  next le => exact ⟨le, (Except.ok.inj h).symm⟩
  next => cases h

/-- So for a cut at the back. -/
theorem Buffer.trim_ok {buf buf' : Buffer} {n : Nat} (h : Buffer.trim buf n = .ok buf') :
    n ≤ buf.length ∧ buf' = buf.take (buf.length - n) := by
  unfold Buffer.trim at h
  split at h
  next le => exact ⟨le, (Except.ok.inj h).symm⟩
  next => cases h

/-! ## The acceptance test -/

namespace InSegment

/-- Where the data of a segment starts: after the SYN, if it still has one. -/
def textStart (seg : InSegment) : SeqNumber := seg.segStart + if seg.header.syn then 1 else 0

/-- A segment keeps its labels when its front is cut, -/
theorem trimFront_labelled {seg seg' : InSegment} {receiveNext : SeqNumber}
    (ran : seg.trimFront receiveNext = .ok seg') (h : Labelled allows seg.textStart seg.data) :
    Labelled allows seg'.textStart seg'.data := by
  unfold trimFront at ran
  dsimp only at ran
  split at ran
  next syn =>
    obtain ⟨data, cut, ran⟩ := bind_eq_ok.mp ran
    obtain ⟨le, rfl⟩ := Buffer.adjust_ok cut
    cases ran
    have moved := h.drop le
    have start : seg.textStart +
        (((receiveNext - seg.segStart).value - 1).toNat : SeqNumber) =
        seg.segStart + SeqNumber.mk (receiveNext - seg.segStart).value := by
      rw [SeqNumber.cast_toNat_eq_mk, textStart, if_pos syn, add_assoc]
      exact congrArg (seg.segStart + ·)
        (add_sub_cancel (1 : SeqNumber) (SeqNumber.mk (receiveNext - seg.segStart).value))
    rw [start] at moved
    simpa only [textStart, Bool.false_eq_true, if_false, add_zero] using moved
  next syn =>
    obtain ⟨data, cut, ran⟩ := bind_eq_ok.mp ran
    obtain ⟨le, rfl⟩ := Buffer.adjust_ok cut
    cases ran
    have moved := h.drop le
    simpa only [textStart, if_neg syn, add_zero, SeqNumber.cast_toNat_eq_mk] using moved

/-- and when its back is. -/
theorem trimBack_labelled {seg seg' : InSegment} {afterReceiveWindow : SeqNumber}
    (ran : seg.trimBack afterReceiveWindow = .ok seg') (h : Labelled allows seg.textStart seg.data) :
    Labelled allows seg'.textStart seg'.data := by
  unfold trimBack at ran
  split at ran
  · dsimp only at ran
    split at ran
    · obtain ⟨data, cut, ran⟩ := bind_eq_ok.mp ran
      obtain ⟨-, rfl⟩ := Buffer.trim_ok cut
      cases ran
      exact h.take _
    · obtain ⟨data, cut, ran⟩ := bind_eq_ok.mp ran
      obtain ⟨-, rfl⟩ := Buffer.trim_ok cut
      cases ran
      exact h.take _
  · cases ran
    exact h

/-- **What the acceptance test lets through.** A segment at RCV.NXT; one that begins before it and
ends at or after it, cut in front; or one that begins later and inside the window. Each is then cut at
the end of the window. -/
theorem accept_cases {receiveNext : SeqNumber} {window : UInt32} {header : TcpHeader}
    {data : Buffer} {seg : InSegment}
    (ran : accept receiveNext window header data = .ok (some seg)) :
    (header.seqNum = receiveNext ∧
      (arriving header data).trimBack (receiveNext + SeqNumber.mk window) = .ok seg) ∨
    (header.seqNum.lt receiveNext = true ∧ (arriving header data).segEnd.lt receiveNext = false ∧
      ∃ cut, (arriving header data).trimFront receiveNext = .ok cut ∧
        cut.trimBack (receiveNext + SeqNumber.mk window) = .ok seg) ∨
    (header.seqNum ≠ receiveNext ∧ header.seqNum.lt receiveNext = false ∧
      header.seqNum.ge (receiveNext + SeqNumber.mk window) = false ∧
      (arriving header data).trimBack (receiveNext + SeqNumber.mk window) = .ok seg) := by
  unfold accept at ran
  dsimp only at ran
  split at ran
  next here =>
    obtain ⟨cut, trimmed, ran⟩ := bind_eq_ok.mp ran
    cases ran
    exact .inl ⟨here, trimmed⟩
  next elsewhere =>
  split at ran
  next before =>
    split at ran
    · cases ran
    next after =>
      obtain ⟨front, cut, ran⟩ := bind_eq_ok.mp ran
      obtain ⟨back, trimmed, ran⟩ := bind_eq_ok.mp ran
      cases ran
      exact .inr (.inl ⟨before, Bool.eq_false_iff.mpr after, front, cut, trimmed⟩)
  next notBefore =>
  split at ran
  · cases ran
  next inside =>
    obtain ⟨cut, trimmed, ran⟩ := bind_eq_ok.mp ran
    cases ran
    exact .inr (.inr ⟨elsewhere, Bool.eq_false_iff.mpr notBefore, Bool.eq_false_iff.mpr inside,
      trimmed⟩)

/-- **Trimming to the window keeps every byte at its number.** -/
theorem accept_labelled {receiveNext : SeqNumber} {window : UInt32} {header : TcpHeader}
    {data : Buffer} {seg : InSegment} (ran : accept receiveNext window header data = .ok (some seg))
    (h : Labelled allows (header.seqNum + if header.syn then 1 else 0) data) :
    Labelled allows seg.textStart seg.data := by
  have h : Labelled allows (arriving header data).textStart (arriving header data).data := h
  rcases accept_cases ran with ⟨-, back⟩ | ⟨-, -, cut, front, back⟩ | ⟨-, -, -, back⟩
  · exact trimBack_labelled back h
  · exact trimBack_labelled back (trimFront_labelled front h)
  · exact trimBack_labelled back h

end InSegment

/-! ## The out-of-order store -/

/-- A property of placed buffers that survives cutting at either end. -/
structure SurvivesCuts (P : SeqNumber → Buffer → Prop) : Prop where
  take : ∀ {start buf} (n : Nat), P start buf → P start (buf.take n)
  drop : ∀ {start : SeqNumber} {buf : Buffer} {n : Nat}, n ≤ buf.length → P start buf →
    P (start + n) (buf.drop n)

/-- What a pass leaves of the new segment has the property. -/
def Pass.Leaves (P : SeqNumber → Buffer → Prop) : Pass → Prop
  | .discard => True
  | .insert _ newStart buf => P newStart buf
  | .encompass _ newStart _ buf => P newStart buf

section Store

variable {P : SeqNumber → Buffer → Prop}

/-- What holds of a buffer and survives the cuts holds of what a pass leaves. -/
theorem storePass_leaves (cuts : SurvivesCuts P) {len index : Nat} {newStart newEnd : SeqNumber}
    {buf : Buffer} {store : List (SeqNumber × Buffer)} {pass : Pass}
    (ran : storePass len index newStart newEnd buf store = .ok pass) (h : P newStart buf) :
    pass.Leaves P := by
  induction store generalizing index newStart buf with
  | nil =>
    cases ran
    exact h
  | cons entry rest ih =>
    obtain ⟨storedStart, stored⟩ := entry
    unfold storePass at ran
    dsimp only at ran
    split at ran
    · split at ran
      · cases ran
        exact h
      split at ran
      · cases ran
        exact h
      · obtain ⟨cut, trimmed, ran⟩ := bind_eq_ok.mp ran
        obtain ⟨-, rfl⟩ := Buffer.trim_ok trimmed
        cases ran
        exact cuts.take _ h
    split at ran
    · cases ran
      trivial
    split at ran
    · exact ih ran h
    · obtain ⟨cut, adjusted, ran⟩ := bind_eq_ok.mp ran
      obtain ⟨le, rfl⟩ := Buffer.adjust_ok adjusted
      refine ih ran ?_
      have moved := cuts.drop le h
      rwa [SeqNumber.cast_toNat_eq_mk] at moved

/-- **What the store holds after a segment was the store's before, or is cut from the segment.** -/
theorem storePasses_leaves (cuts : SurvivesCuts P) {passes : Nat} {newStart newEnd : SeqNumber}
    {buf : Buffer} {store store' : List (SeqNumber × Buffer)}
    (ran : storePasses passes newStart newEnd buf store = .ok store') (h : P newStart buf) :
    ∀ entry ∈ store', entry ∈ store ∨ P entry.1 entry.2 := by
  induction passes generalizing newStart newEnd buf store with
  | zero =>
    cases ran
    exact fun _ member => .inl member
  | succ passes ih =>
    obtain ⟨pass, passed, ran⟩ := bind_eq_ok.mp ran
    have left := storePass_leaves cuts passed h
    cases pass with
    | discard =>
      cases ran
      exact fun _ member => .inl member
    | insert index start cut =>
      cases ran
      intro entry member
      rcases List.eq_or_mem_of_mem_insertIdx (List.mem_of_mem_take member) with rfl | member
      · exact .inr left
      · exact .inl member
    | encompass index start last cut =>
      intro entry member
      rcases ih ran left entry member with member | cut
      · exact .inl (List.mem_of_mem_eraseIdx member)
      · exact .inr cut

end Store

/-- Every entry of a store has its bytes at their numbers. -/
def StoreLabelled (allows : SeqNumber → UInt8 → Prop) (store : List (SeqNumber × Buffer)) : Prop :=
  ∀ entry ∈ store, Labelled allows entry.1 entry.2

/-- Storing keeps every byte at its number. -/
theorem storePasses_labelled {passes : Nat} {newStart newEnd : SeqNumber} {buf : Buffer}
    {store store' : List (SeqNumber × Buffer)}
    (ran : storePasses passes newStart newEnd buf store = .ok store')
    (h : Labelled allows newStart buf) (hstore : StoreLabelled allows store) :
    StoreLabelled allows store' := by
  have cuts : SurvivesCuts (Labelled allows) :=
    ⟨fun n placed => placed.take n, fun le placed => placed.drop le⟩
  intro entry member
  rcases storePasses_leaves cuts ran h entry member with old | cut
  · exact hstore entry old
  · exact cut

/-! ## The drain -/

/-- The bytes received up to now: what the user has read, and what waits in the queue. -/
def ReceiveSide.bytes (r : ReceiveSide) (delivered : List Buffer) : List UInt8 :=
  delivered.flatten ++ r.receiver.recvQueue.flatten

/-- Every byte the receive side keeps is at its number. -/
structure ReceiveSide.Holds (allows : SeqNumber → UInt8 → Prop) (base : SeqNumber)
    (delivered : List Buffer) (r : ReceiveSide) : Prop where
  stored : StoreLabelled allows r.outOfOrder
  received : Labelled allows base (r.bytes delivered)
  next : r.peer = .sending → r.receiver.receiveNext = base + (r.bytes delivered).length

namespace ReceiveSide

/-- The number behind two pieces of text. -/
theorem bytes_length_cast (base : SeqNumber) (xs ys : List UInt8) :
    base + ((xs ++ ys).length : SeqNumber) = base + xs.length + ys.length := by
  rw [List.length_append, Nat.cast_add, add_assoc]

/-- The drain moves entries at their numbers, each where the one before it ends. -/
theorem drainOutOfOrder_holds {base : SeqNumber} (recvNext : SeqNumber) (delivered : List Buffer)
    (receiver : Receiver) {store : List (SeqNumber × Buffer)}
    (hstore : StoreLabelled allows store)
    (hreceived : Labelled allows base (delivered.flatten ++ receiver.recvQueue.flatten))
    (hnext : receiver.receiveNext =
      base + (delivered.flatten ++ receiver.recvQueue.flatten).length)
    (hrecv : recvNext = receiver.receiveNext) :
    StoreLabelled allows (drainOutOfOrder recvNext receiver store).2.1 ∧
      Labelled allows base (delivered.flatten ++
        (drainOutOfOrder recvNext receiver store).1.recvQueue.flatten) ∧
      (drainOutOfOrder recvNext receiver store).1.receiveNext = base + (delivered.flatten ++
        (drainOutOfOrder recvNext receiver store).1.recvQueue.flatten).length := by
  induction store generalizing recvNext receiver with
  | nil => exact ⟨hstore, hreceived, hnext⟩
  | cons entry rest ih =>
    obtain ⟨start, buf⟩ := entry
    unfold drainOutOfOrder
    split
    next atNext =>
      have bytes : delivered.flatten ++ (receiver.push buf).recvQueue.flatten =
          (delivered.flatten ++ receiver.recvQueue.flatten) ++ buf := by
        simp only [Receiver.push, List.flatten_append, List.flatten_singleton, List.append_assoc]
      refine ih _ _ (fun e he => hstore e (List.mem_cons_of_mem _ he)) ?_ ?_ ?_
      · rw [bytes]
        refine hreceived.append ?_
        rw [← hnext, ← hrecv, ← atNext]
        exact hstore (start, buf) List.mem_cons_self
      · rw [bytes, bytes_length_cast, ← hnext]
        rfl
      · rw [hrecv]
        rfl
    next => exact ⟨hstore, hreceived, hnext⟩

/-- The queue only grows at its end. -/
theorem drainOutOfOrder_queue (recvNext : SeqNumber) (receiver : Receiver)
    (store : List (SeqNumber × Buffer)) :
    receiver.recvQueue <+: (drainOutOfOrder recvNext receiver store).1.recvQueue := by
  induction store generalizing recvNext receiver with
  | nil => exact List.prefix_rfl
  | cons entry rest ih =>
    unfold drainOutOfOrder
    split
    · have rest := ih (recvNext + .ofLen entry.2.length) (receiver.push entry.2)
      exact (List.prefix_append _ _).trans rest
    · exact List.prefix_rfl

/-- In-order data stays at the end of the bytes received, with the drained data after it. -/
theorem drain_bytes (r : ReceiveSide) (buf : Buffer) (delivered : List Buffer) :
    r.bytes delivered ++ buf <+: (r.takeData buf).bytes delivered := by
  obtain ⟨more, queue⟩ := drainOutOfOrder_queue (r.receiver.receiveNext + .ofLen buf.length)
    (r.receiver.push buf) r.outOfOrder
  refine ⟨more.flatten, ?_⟩
  have after : (r.takeData buf).receiver.recvQueue = r.receiver.recvQueue ++ [buf] ++ more :=
    queue.symm
  simp only [bytes, after, List.flatten_append, List.flatten_singleton, List.append_assoc]

/-- In-order data goes to the end of the queue, and the drain after it. -/
theorem Holds.takeData {base : SeqNumber} {delivered : List Buffer} {r : ReceiveSide}
    (h : r.Holds allows base delivered) (sending : r.peer = .sending) {buf : Buffer}
    (hbuf : Labelled allows r.receiver.receiveNext buf) :
    (r.takeData buf).Holds allows base delivered := by
  have bytes : delivered.flatten ++ (r.receiver.push buf).recvQueue.flatten =
      r.bytes delivered ++ buf := by
    simp only [Receiver.push, ReceiveSide.bytes, List.flatten_append, List.flatten_singleton,
      List.append_assoc]
  have next := h.next sending
  obtain ⟨stored, received, next⟩ := drainOutOfOrder_holds
    (r.receiver.receiveNext + .ofLen buf.length) delivered (r.receiver.push buf) h.stored
    (by rw [bytes]; exact h.received.append (by rwa [← next]))
    (by rw [bytes, bytes_length_cast, ← next]; rfl) rfl
  exact ⟨stored, received, fun _ => next⟩

/-- A FIN carries no text. -/
theorem Holds.consumeFin {base : SeqNumber} {delivered : List Buffer} {r : ReceiveSide}
    (h : r.Holds allows base delivered) : r.consumeFin.Holds allows base delivered :=
  ⟨h.stored, h.received, fun sending => by cases sending⟩

/-- The text of a segment in place is where the stream has it. -/
theorem Holds.inOrder {base : SeqNumber} {delivered : List Buffer} {r : ReceiveSide}
    (h : r.Holds allows base delivered) {seg : InSegment}
    (hseg : Labelled allows r.receiver.receiveNext seg.data) :
    (r.inOrder seg).Holds allows base delivered := by
  unfold ReceiveSide.inOrder
  split
  next text =>
    split
    · exact (h.takeData text.2 hseg).consumeFin
    · exact h.takeData text.2 hseg
  next =>
    split
    · exact h.consumeFin
    · exact h

/-- So is what is stored. -/
theorem Holds.store {base : SeqNumber} {delivered : List Buffer} {r r' : ReceiveSide}
    (h : r.Holds allows base delivered) {seg : InSegment} (stored : r.store seg = .ok r')
    (hseg : Labelled allows seg.segStart seg.data) : r'.Holds allows base delivered := by
  obtain ⟨store, fin, rfl, kept, -⟩ := ReceiveSide.store_cases stored
  refine ⟨?_, h.received, h.next⟩
  rcases kept with rfl | ⟨passes, last, passed⟩
  · exact h.stored
  · exact storePasses_labelled passed hseg h.stored

/-- A change of the peer's side that does not bring it back to sending. -/
theorem Holds.withPeer {base : SeqNumber} {delivered : List Buffer} {r : ReceiveSide}
    (h : r.Holds allows base delivered) {peer : PeerSide}
    (acked : peer = r.peer ∨ r.peer = .finished ∧ peer = .gone) :
    ({ r with peer := peer } : ReceiveSide).Holds allows base delivered := by
  refine ⟨h.stored, h.received, ?_⟩
  intro sending
  rcases acked with rfl | ⟨-, rfl⟩
  · exact h.next sending
  · cases sending

/-- **A segment whose bytes are at their numbers leaves the receive side's bytes at theirs.** -/
theorem Holds.receive {base : SeqNumber} {delivered : List Buffer} {r r' : ReceiveSide}
    {header : TcpHeader} {data : Buffer} (h : r.Holds allows base delivered)
    {goesOn : InSegment → Bool} (ran : r.Received goesOn header data r')
    (hdata : Labelled allows (header.seqNum + if header.syn then 1 else 0) data) :
    r'.Holds allows base delivered := by
  cases ran with
  | dropped => exact h
  | gone => exact ⟨h.stored, h.received, fun sending => by cases sending⟩
  | @inOrder seg peer accepted goes noSyn acked atNext expected =>
    have hseg := InSegment.accept_labelled accepted hdata
    simp only [InSegment.textStart, noSyn, Bool.false_eq_true, if_false, add_zero, atNext] at hseg
    exact (h.withPeer acked).inOrder hseg
  | @outOfOrder seg peer _ accepted goes noSyn acked later stored =>
    have hseg := InSegment.accept_labelled accepted hdata
    simp only [InSegment.textStart, noSyn, Bool.false_eq_true, if_false, add_zero] at hseg
    exact (h.withPeer acked).store stored hseg

/-- A read moves the front buffer of the queue to the user. -/
theorem Holds.read {base : SeqNumber} {delivered : List Buffer} {r : ReceiveSide}
    (h : r.Holds allows base delivered) {buf : Buffer} {receiver : Receiver}
    (popped : r.receiver.pop = some (buf, receiver)) :
    ({ r with receiver := receiver } : ReceiveSide).Holds allows base (delivered ++ [buf]) := by
  obtain ⟨rest, queue, rfl⟩ := Receiver.pop_cases popped
  have bytes : (delivered ++ [buf]).flatten ++ rest.flatten = r.bytes delivered := by
    simp only [ReceiveSide.bytes, queue, List.flatten_append, List.flatten_cons,
      List.flatten_nil, List.append_assoc, List.nil_append]
  refine ⟨h.stored, ?_, ?_⟩
  · unfold ReceiveSide.bytes
    rw [bytes]
    exact h.received
  · intro sending
    unfold ReceiveSide.bytes
    rw [bytes]
    exact h.next sending

/-- A larger relation is kept. -/
theorem Holds.mono {allows' : SeqNumber → UInt8 → Prop} (weaker : ∀ x b, allows x b → allows' x b)
    {base : SeqNumber} {delivered : List Buffer} {r : ReceiveSide}
    (h : r.Holds allows base delivered) : r.Holds allows' base delivered :=
  ⟨fun entry member => (h.stored entry member).mono weaker, h.received.mono weaker, h.next⟩

end ReceiveSide

/-! ## Against a peer that agrees with a stream -/

/-- A segment that agrees with the stream `S` of a peer whose initial sequence number is `irs`: the
byte at `irs + 1 + i` is `S[i]`, a SYN stands at `irs`, a FIN just past the stream. -/
structure Consistent (irs : SeqNumber) (S : List UInt8) (header : TcpHeader) (data : Buffer) :
    Prop where
  text : ∀ (i : Nat) (b : UInt8), data[i]? = some b →
    S[(header.seqNum + (if header.syn then 1 else 0) + i - (irs + 1)).toNat]? = some b
  syn : header.syn = true → header.seqNum = irs
  fin : header.fin = true →
    header.seqNum + (if header.syn then 1 else 0) + data.length = irs + 1 + S.length

/-- The segments among the events agree with the stream. -/
def Event.Consistent (irs : SeqNumber) (S : List UInt8) : Event → Prop
  | .receive header data _ => Tcp.Consistent irs S header data
  | .call _ _ => True

/-- The byte of the stream at a sequence number. -/
def streamByte (base : SeqNumber) (S : List UInt8) (x : SeqNumber) (b : UInt8) : Prop :=
  S[(x - base).toNat]? = some b

/-- The text of a segment of the peer begins after its SYN. -/
theorem Consistent.labelled {irs : SeqNumber} {S : List UInt8} {header : TcpHeader} {data : Buffer}
    (h : Consistent irs S header data) :
    Labelled (streamByte (irs + 1) S) (header.seqNum + if header.syn then 1 else 0) data :=
  Labelled.of_get h.text

/-- A segment agrees with a stream when each of its bytes does. -/
theorem Consistent.of_forall {irs : SeqNumber} {S : List UInt8} {header : TcpHeader} {data : Buffer}
    (text : ∀ i < data.length,
      S[(header.seqNum + (if header.syn then 1 else 0) + (i : SeqNumber) - (irs + 1)).toNat]? =
        data[i]?)
    (syn : header.syn = true → header.seqNum = irs)
    (fin : header.fin = true →
      header.seqNum + (if header.syn then 1 else 0) + data.length = irs + 1 + S.length) :
    Consistent irs S header data :=
  ⟨fun i _ hi => (text i (List.getElem?_eq_some_iff.mp hi).1).trans hi, syn, fin⟩

/-- Bytes that stand where a stream shorter than the number space has them are a prefix of it. -/
theorem prefix_of_labelled {base : SeqNumber} {S bytes : List UInt8} (hS : S.length < 2 ^ 32)
    (h : Labelled (streamByte base S) base bytes) : bytes <+: S := by
  apply prefix_of_agrees
  intro i b hi le
  have here := h.get hi
  unfold streamByte at here
  rwa [add_sub_cancel_left, SeqNumber.toNat_cast, Nat.mod_eq_of_lt (by omega)] at here

namespace Endpoint

variable {σ : Type} [CongestionControl σ]

/-- One event keeps every byte at its number. -/
theorem step_holds {base : SeqNumber} {e e' : Endpoint σ} {event : Event}
    (h : e.cb.receiveSide.Holds allows base e.history.delivered)
    (arriving : ∀ header data env, event = .receive header data env →
      Labelled allows (header.seqNum + if header.syn then 1 else 0) data)
    (stepped : e.step event = .ok e') :
    e'.cb.receiveSide.Holds allows base e'.history.delivered := by
  cases step_receiveStep stepped with
  | untouched side delivered peerFin =>
    rw [side, delivered]
    exact h
  | read popped side delivered peerFin =>
    rw [side, delivered]
    exact h.read popped
  | received side delivered peerFin =>
    rw [delivered]
    exact h.receive side (arriving _ _ _ rfl)

/-- Nothing has been received, and the peer's first number is the next one. -/
theorem opened_holds (o : Opening) :
    (opened (σ := σ) o).cb.receiveSide.Holds allows o.receiverSeqNo [] :=
  ⟨fun _ member => absurd member List.not_mem_nil, trivial, fun _ => (add_zero o.receiverSeqNo).symm⟩

/-- **In-order, exactly-once delivery.** Whatever segmentation, overlap, duplication and order the
segments of a peer that agrees with `S` arrive in, and whatever calls they are interleaved with, the
bytes read so far and the bytes waiting to be read are together a prefix of `S`. -/
theorem received_prefix_of_consistent (irs : SeqNumber) (S : List UInt8) (o : Opening)
    (first : o.receiverSeqNo = irs + 1) (events : List Event) (e : Endpoint σ) (short : S.length < 2 ^ 31)
    (consistent : ∀ event ∈ events, event.Consistent irs S)
    (ran : (opened o).run events = .ok e) :
    e.history.delivered.flatten ++ e.cb.receiver.recvQueue.flatten <+: S := by
  have holds : e.cb.receiveSide.Holds (streamByte (irs + 1) S) (irs + 1) e.history.delivered := by
    refine Machine.invariant_of_admits
      (fun e : Endpoint σ => e.cb.receiveSide.Holds (streamByte (irs + 1) S) (irs + 1)
        e.history.delivered)
      (fun _ event => event.Consistent irs S) ?_ (first ▸ opened_holds o)
      (Machine.admits_of_forall consistent _) ran
    intro e event e' h agrees stepped
    refine step_holds h ?_ stepped
    intro header data env eq
    subst eq
    exact Consistent.labelled agrees
  exact prefix_of_labelled (by omega) holds.received

/-- Two bytes out of order, the first byte, and a read. -/
theorem received_prefix_of_consistent_reordered :
    ∃ e : Endpoint CongestionControl.None,
      (Endpoint.start (sampleBlock ⟨1⟩ ⟨0⟩ 100 100 1460)).run
        [.receive (sampleHeader 2 0 10) [6, 7] sampleEnv,
          .receive (sampleHeader 1 0 10) [5] sampleEnv, .call .pollRecv sampleEnv] = .ok e ∧
      e.history.delivered = [[5]] ∧ e.cb.receiver.recvQueue = [[6, 7]] ∧
      e.history.delivered.flatten ++ e.cb.receiver.recvQueue.flatten <+: [5, 6, 7, 8] := by
  obtain ⟨e, ran, view⟩ := Machine.map_eq_ok
    (x := (Endpoint.start (sampleBlock ⟨1⟩ ⟨0⟩ 100 100 1460)).run
      [.receive (sampleHeader 2 0 10) [6, 7] sampleEnv,
        .receive (sampleHeader 1 0 10) [5] sampleEnv, .call .pollRecv sampleEnv])
    (fun e => (e.history.delivered, e.cb.receiver.recvQueue))
    (t := ([[5]], [[6, 7]])) (by decide +kernel)
  obtain ⟨delivered, queue⟩ := Prod.mk.inj view
  refine ⟨e, ran, delivered, queue, ?_⟩
  refine received_prefix_of_consistent ⟨0⟩ [5, 6, 7, 8] (sampleOpening ⟨1⟩ ⟨0⟩ 100 100 1460) rfl _ e
    (by decide) ?_ ran
  simp only [List.forall_mem_cons, Event.Consistent, true_and]
  exact ⟨.of_forall (by decide +kernel) (by decide) (by decide),
    .of_forall (by decide +kernel) (by decide) (by decide), fun _ h => absurd h List.not_mem_nil⟩

end Endpoint

end Inetstack.Tcp
