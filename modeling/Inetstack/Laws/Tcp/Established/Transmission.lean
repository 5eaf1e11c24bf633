import Inetstack.Laws.Tcp.Established.Delivery

/-!
# Transmitted bytes stand where the user put them

The send side of an endpoint, up to the first FIN it transmits, sends the accepted bytes in order:
the bytes sent so far, `S`, and the bytes of the unsent queue are together the bytes accepted, and
SND.NXT is the initial number advanced by `S`. The first FIN ends this. It need not come from `close`
(an empty buffer in the unsent queue goes out as a FIN, wherever it came from), so nothing is said of
what is sent after it except that it stands past the end of `S`.

`textByte base S fin` is the relation every transmitted byte is in with its sequence number: it is
the byte of `S` there, or a FIN has been sent and the number is past it.
-/

namespace Inetstack.Tcp

/-- A byte that may stand at a number: the byte of `S` there, or, once a FIN has been sent, any byte
past the number of the FIN. -/
def textByte (base : SeqNumber) (S : List UInt8) (fin : Bool) (x : SeqNumber) (b : UInt8) : Prop :=
  streamByte base S x b ∨ fin = true ∧ S.length < (x - base).toNat

/-- Where the task that waits for ARP will put what it sends. -/
def SenderTask.captured : SenderTask → Option SeqNumber
  | .awaitProbe sendNext | .awaitSend sendNext _ _ _ => some sendNext
  | _ => none

namespace Endpoint

variable {σ : Type}

/-- The send side before its first FIN. -/
structure Streaming (base : SeqNumber) (S : List UInt8) (e : Endpoint σ) : Prop where
  accepted : e.history.accepted.flatten = S ++ e.cb.sender.unsentQueue.flatten
  next : e.cb.sender.sendNext = base + S.length
  used : e.history.used = S.length
  unsent : e.cb.sender.unsentSeqNo = base + e.history.accepted.flatten.length
  waiting : ∀ x, e.task.captured = some x →
    x = e.cb.sender.sendNext ∧ e.cb.sender.unsentQueue ≠ []

/-- The send side after its first FIN, which stands just past `S`. -/
structure Finished (base : SeqNumber) (S : List UInt8) (e : Endpoint σ) : Prop where
  accepted : S <+: e.history.accepted.flatten
  next : e.cb.sender.sendNext = base + e.history.used
  past : S.length < e.history.used
  waiting : ∀ x, e.task.captured = some x →
    ∃ k : Nat, x = base + k ∧ S.length < k ∧ k ≤ e.history.used

/-- The invariant of the send side. -/
structure Transmits (base : SeqNumber) (S : List UInt8) (fin : Bool) (e : Endpoint σ) : Prop where
  streaming : fin = false → e.Streaming base S
  finished : fin = true → e.Finished base S
  small : ∀ buf ∈ e.cb.sender.unsentQueue, buf.length < 2 ^ 32
  probe : ∀ x buf mac timeout, e.task = .probing x buf mac timeout →
    Labelled (textByte base S fin) x buf
  log : ∀ segment ∈ e.cb.rt.transmitted, Labelled (textByte base S fin)
    (segment.tcpHdr.seqNum + if segment.tcpHdr.syn then 1 else 0) segment.data

end Endpoint

/-! ## The relation grows with the stream -/

theorem streamByte_append {base : SeqNumber} {S T : List UInt8} {x : SeqNumber} {b : UInt8}
    (h : streamByte base S x b) : streamByte base (S ++ T) x b := by
  unfold streamByte at h ⊢
  rw [List.getElem?_append_left (List.getElem?_eq_some_iff.mp h).1]
  exact h

/-- The stream and the flag after a piece has been sent: an empty piece is a FIN. -/
def streamAfter (S : List UInt8) (fin : Bool) (buf : Buffer) : List UInt8 :=
  if fin then S else S ++ buf

theorem textByte_mono {base : SeqNumber} {S : List UInt8} {fin : Bool} {buf : Buffer}
    (x : SeqNumber) (b : UInt8) (h : textByte base S fin x b) :
    textByte base (streamAfter S fin buf) (fin || buf.isEmpty) x b := by
  rcases h with here | ⟨rfl, past⟩
  · cases fin with
    | true => exact .inl here
    | false => exact .inl (streamByte_append here)
  · exact .inr ⟨rfl, past⟩

theorem toNat_offset (base : SeqNumber) {k : Nat} (h : k < 2 ^ 32) :
    (base + (k : SeqNumber) - base).toNat = k := by
  rw [add_sub_cancel_left, SeqNumber.toNat_cast, Nat.mod_eq_of_lt h]

/-- A piece sent at the end of the stream, or past its FIN, stands where it may. -/
theorem piece_labelled {base x : SeqNumber} {S : List UInt8} {fin : Bool} {buf : Buffer} {k : Nat}
    (here : x = base + k) (streaming : fin = false → k = S.length) (past : fin = true → S.length < k)
    (room : k + buf.length < 2 ^ 32) :
    Labelled (textByte base (streamAfter S fin buf) (fin || buf.isEmpty)) x buf := by
  apply Labelled.of_get
  intro i b hi
  have lt := (List.getElem?_eq_some_iff.mp hi).1
  have offset : (x + (i : SeqNumber) - base).toNat = k + i := by
    rw [here, add_assoc, ← Nat.cast_add]
    exact toNat_offset base (by omega)
  cases fin with
  | false =>
    refine .inl ?_
    unfold streamByte
    rw [offset, streaming rfl]
    simp only [streamAfter, Bool.false_eq_true, if_false, List.getElem?_append_right,
      Nat.le_add_right, Nat.add_sub_cancel_left]
    exact hi
  | true =>
    refine .inr ⟨rfl, ?_⟩
    rw [offset]
    have := past rfl
    simp only [streamAfter, if_true]
    omega

/-! ## One event -/

namespace Endpoint

variable {σ : Type} {base : SeqNumber} {S : List UInt8} {fin : Bool} {e e' : Endpoint σ}

/-- A piece of the stream has been sent: from the fast path at SND.NXT, or by the task at the number
it captured. `added` is what the same call accepted from the user. -/
structure Piece (e : Endpoint σ) (segment : TcpSegment) (x : SeqNumber) (buf : Buffer)
    (added : List UInt8) (e' : Endpoint σ) : Prop where
  data : segment.data = buf
  seqNum : segment.tcpHdr.seqNum = x
  syn : segment.tcpHdr.syn = false
  place : x = e.cb.sender.sendNext ∨ e.task.captured = some x
  small : buf.length < 2 ^ 32
  next : e'.cb.sender.sendNext = e.cb.sender.sendNext + buf.seqLength
  used : e'.history.used = e.history.used + (buf.seqLength : SeqNumber).toNat
  log : e'.cb.rt.transmitted = e.cb.rt.transmitted ++ [segment]
  accepted : e'.history.accepted.flatten = e.history.accepted.flatten ++ added
  queue : e.cb.sender.unsentQueue.flatten ++ added = buf ++ e'.cb.sender.unsentQueue.flatten
  unsent : buf ≠ [] → e'.cb.sender.unsentSeqNo = e.cb.sender.unsentSeqNo + added.length
  task : e'.task.captured = none ∨ e'.task = e.task ∧ e.cb.sender.unsentQueue = []
  probe : ∀ y held mac timeout, e'.task = .probing y held mac timeout →
    e'.task = e.task ∨ y = x ∧ held = buf
  left : ∀ held ∈ e'.cb.sender.unsentQueue, held.length < 2 ^ 32

/-- The sequence space a short piece takes up is what the history adds. -/
theorem Piece.used_eq {segment : TcpSegment} {x : SeqNumber} {buf : Buffer} {added : List UInt8}
    (h : e.Piece segment x buf added e') : e'.history.used = e.history.used + buf.seqLength := by
  rw [h.used, SeqNumber.toNat_cast, Nat.mod_eq_of_lt]
  have := h.small
  unfold Buffer.seqLength
  split <;> omega

/-- Where a piece goes, as a distance from the initial number. -/
theorem Transmits.place {segment : TcpSegment} {x : SeqNumber} {buf : Buffer} {added : List UInt8}
    (h : e.Transmits base S fin) (piece : e.Piece segment x buf added e') :
    ∃ k : Nat, x = base + k ∧ k ≤ e.history.used ∧ (fin = false → k = S.length) ∧
      (fin = true → S.length < k) := by
  cases fin with
  | false =>
    have streaming := h.streaming rfl
    have here : x = e.cb.sender.sendNext := by
      rcases piece.place with here | captured
      · exact here
      · exact (streaming.waiting x captured).1
    exact ⟨S.length, here.trans streaming.next, streaming.used.ge, fun _ => rfl, fun h => by cases h⟩
  | true =>
    have finished := h.finished rfl
    rcases piece.place with here | captured
    · exact ⟨e.history.used, here.trans finished.next, le_rfl, fun h => (by cases h),
        fun _ => finished.past⟩
    · obtain ⟨k, here, past, le⟩ := finished.waiting x captured
      exact ⟨k, here, le, fun h => (by cases h), fun _ => past⟩

/-- While the stream goes on, a piece leaves no number with the task: a probe keeps its number only as long as
nothing is queued. -/
theorem Streaming.not_captured {segment : TcpSegment} {x : SeqNumber} {buf : Buffer} {added : List UInt8}
    (h : e.Streaming base S) (piece : e.Piece segment x buf added e') : e'.task.captured = none := by
  rcases piece.task with none | ⟨same, empty⟩
  · exact none
  · rw [same]
    cases captured : e.task.captured with
    | none => rfl
    | some y => exact absurd empty (h.waiting y captured).2

/-- A piece with bytes continues the stream. -/
theorem Streaming.piece {segment : TcpSegment} {x : SeqNumber} {buf : Buffer} {added : List UInt8}
    (h : e.Streaming base S) (piece : e.Piece segment x buf added e') (bytes : buf ≠ []) :
    e'.Streaming base (S ++ buf) where
  accepted := by
    rw [piece.accepted, h.accepted, List.append_assoc, piece.queue, List.append_assoc]
  next := by
    rw [piece.next, h.next, Buffer.seqLength_of_ne_nil bytes, ReceiveSide.bytes_length_cast]
  used := by
    rw [piece.used_eq, h.used, Buffer.seqLength_of_ne_nil bytes, List.length_append]
  unsent := by
    rw [piece.unsent bytes, h.unsent, piece.accepted, ReceiveSide.bytes_length_cast]
  waiting := by
    intro y captured
    rw [h.not_captured piece] at captured
    cases captured

/-- An empty piece ends the stream. -/
theorem Streaming.ended {segment : TcpSegment} {x : SeqNumber} {added : List UInt8}
    (h : e.Streaming base S) (piece : e.Piece segment x [] added e') : e'.Finished base S where
  accepted := by
    rw [piece.accepted, h.accepted, List.append_assoc]
    exact List.prefix_append _ _
  next := by
    rw [piece.next, h.next, piece.used_eq, h.used, Nat.cast_add, add_assoc]
  past := by
    rw [piece.used_eq, h.used]
    exact Nat.lt_succ_self _
  waiting := by
    intro y captured
    rw [h.not_captured piece] at captured
    cases captured

theorem Finished.piece {segment : TcpSegment} {x : SeqNumber} {buf : Buffer} {added : List UInt8}
    (h : e.Finished base S) (piece : e.Piece segment x buf added e') : e'.Finished base S where
  accepted := by
    rw [piece.accepted]
    exact h.accepted.trans (List.prefix_append _ _)
  next := by
    rw [piece.next, h.next, piece.used_eq, Nat.cast_add, add_assoc]
  past := by
    rw [piece.used_eq]
    exact Nat.lt_add_right _ h.past
  waiting := by
    intro y captured
    rcases piece.task with none | ⟨same, -⟩
    · rw [none] at captured
      cases captured
    · rw [same] at captured
      obtain ⟨k, here, past, le⟩ := h.waiting y captured
      exact ⟨k, here, past, by rw [piece.used_eq]; omega⟩

/-- **A piece keeps the invariant**, with the stream it leaves. -/
theorem Transmits.piece {segment : TcpSegment} {x : SeqNumber} {buf : Buffer} {added : List UInt8}
    (h : e.Transmits base S fin) (piece : e.Piece segment x buf added e')
    (bound : e'.history.used < 2 ^ 32) :
    e'.Transmits base (streamAfter S fin buf) (fin || buf.isEmpty) := by
  obtain ⟨k, here, le, streaming, past⟩ := h.place piece
  have room : k + buf.length < 2 ^ 32 := by
    have := piece.used_eq
    have := Buffer.length_le_seqLength buf
    omega
  have labelled := piece_labelled here streaming past room
  refine ⟨?_, ?_, piece.left, ?_, ?_⟩
  · intro continues
    obtain ⟨rfl, bytes⟩ := Bool.or_eq_false_iff.mp continues
    exact (h.streaming rfl).piece piece (by simpa using bytes)
  · intro ended
    cases fin with
    | true => exact (h.finished rfl).piece piece
    | false =>
      have empty : buf = [] := by simpa using ended
      subst empty
      have finished := (h.streaming rfl).ended piece
      simpa only [streamAfter, Bool.false_eq_true, if_false, List.append_nil] using finished
  · intro y held mac timeout probing
    rcases piece.probe y held mac timeout probing with same | ⟨rfl, rfl⟩
    · rw [same] at probing
      exact (h.probe y held mac timeout probing).mono textByte_mono
    · exact labelled
  · intro seg member
    rw [piece.log] at member
    rcases List.mem_append.mp member with member | member
    · exact (h.log seg member).mono textByte_mono
    · rw [List.mem_singleton.mp member, piece.seqNum, piece.data, piece.syn]
      simpa only [Bool.false_eq_true, if_false, add_zero] using labelled

/-- An event that sends no text: the log grows by pure ACKs, and the task keeps what it captured. -/
theorem Transmits.quiet (h : e.Transmits base S fin) (acks : e.cb.AcksOnly e'.cb)
    (task : e'.task = e.task ∨ e'.task = .top ∨ ∃ fail, e'.task = .terminated fail)
    (history : SameSendHistory e e') : e'.Transmits base S fin := by
  have next := acks.sendNext
  have unsent := acks.unsentSeqNo
  have queue := acks.unsentQueue
  have captured : ∀ x, e'.task.captured = some x → e.task.captured = some x := by
    intro x hx
    rcases task with same | top | ⟨fail, terminated⟩
    · rwa [same] at hx
    · rw [top] at hx
      cases hx
    · rw [terminated] at hx
      cases hx
  refine ⟨?_, ?_, ?_, ?_, ?_⟩
  -- the stream goes on
  · intro streaming
    have h := h.streaming streaming
    refine ⟨?_, ?_, ?_, ?_, ?_⟩
    · rw [history.accepted, queue, h.accepted]
    · rw [next, h.next]
    · rw [history.used, h.used]
    · rw [unsent, history.accepted, h.unsent]
    · intro x hx
      rw [next, queue]
      exact h.waiting x (captured x hx)
  -- the FIN has been sent
  · intro finished
    have h := h.finished finished
    refine ⟨?_, ?_, ?_, ?_⟩
    · rw [history.accepted]
      exact h.accepted
    · rw [next, history.used, h.next]
    · rw [history.used]
      exact h.past
    · intro x hx
      rw [history.used]
      exact h.waiting x (captured x hx)
  · rw [queue]
    exact h.small
  · intro x buf mac timeout probing
    rcases task with same | top | ⟨fail, terminated⟩
    · rw [same] at probing
      exact h.probe x buf mac timeout probing
    · rw [top] at probing
      cases probing
    · rw [terminated] at probing
      cases probing
  -- ACKs carry no text
  · intro segment member
    obtain ⟨new, log, pure⟩ := acks.transmitted
    rw [log] at member
    rcases List.mem_append.mp member with member | member
    · exact h.log segment member
    · rw [(pure segment member).data]
      trivial

/-- The task went to wait for ARP. It captures SND.NXT, and while the stream goes on it does so only
with something in the queue. -/
theorem Transmits.waits (h : e.Transmits base S fin) (acks : e.cb.AcksOnly e'.cb)
    (unsent : e.cb.sender.sendNext ≠ e.cb.sender.unsentSeqNo)
    (captured : e'.task.captured = some e.cb.sender.sendNext)
    (history : SameSendHistory e e') : e'.Transmits base S fin := by
  have same : ({ e' with task := .top } : Endpoint σ).Transmits base S fin :=
    h.quiet acks (.inr (.inl rfl))
      ⟨history.accepted, history.firstTransmissions, history.used⟩
  have next := acks.sendNext
  have queue := acks.unsentQueue
  refine ⟨?_, ?_, same.small, ?_, same.log⟩
  · intro streaming
    have g := same.streaming streaming
    refine ⟨g.accepted, g.next, g.used, g.unsent, ?_⟩
    intro x hx
    rw [captured] at hx
    cases hx
    refine ⟨next.symm, fun empty => unsent ?_⟩
    have old := h.streaming streaming
    rw [old.next, old.unsent, old.accepted, ← queue, empty, List.flatten_nil, List.append_nil]
  · intro finished
    have g := same.finished finished
    refine ⟨g.accepted, g.next, g.past, ?_⟩
    intro x hx
    rw [captured] at hx
    cases hx
    exact ⟨e'.history.used, by rw [← next]; exact g.next, g.past, le_rfl⟩
  · intro x buf mac timeout probing
    rw [probing] at captured
    cases captured

/-- A buffer, or the end-of-send marker, went to the end of the queue. -/
theorem Transmits.queue (h : e.Transmits base S fin) (buf : Buffer) (small : buf.length < 2 ^ 32)
    (next : e'.cb.sender.sendNext = e.cb.sender.sendNext)
    (unsent : e'.cb.sender.unsentSeqNo = e.cb.sender.unsentSeqNo + buf.length)
    (queue : e'.cb.sender.unsentQueue = e.cb.sender.unsentQueue ++ [buf])
    (accepted : e'.history.accepted.flatten = e.history.accepted.flatten ++ buf)
    (used : e'.history.used = e.history.used) (same : e'.cb.rt = e.cb.rt)
    (task : e'.task = e.task) : e'.Transmits base S fin := by
  refine ⟨?_, ?_, ?_, ?_, ?_⟩
  · intro streaming
    have g := h.streaming streaming
    refine ⟨?_, by rw [next, g.next], by rw [used, g.used], ?_, ?_⟩
    · rw [accepted, queue, List.flatten_append, g.accepted, List.append_assoc,
        List.flatten_singleton]
    · rw [unsent, g.unsent, accepted, ReceiveSide.bytes_length_cast]
    · intro x hx
      rw [task] at hx
      rw [next, queue]
      exact ⟨(g.waiting x hx).1, by simp⟩
  · intro finished
    have g := h.finished finished
    refine ⟨?_, by rw [next, used, g.next], by rw [used]; exact g.past, ?_⟩
    · rw [accepted]
      exact g.accepted.trans (List.prefix_append _ _)
    · intro x hx
      rw [task] at hx
      rw [used]
      exact g.waiting x hx
  · intro held member
    rw [queue] at member
    rcases List.mem_append.mp member with member | member
    · exact h.small held member
    · rwa [List.mem_singleton.mp member]
  · rw [task]
    exact h.probe
  · rw [same]
    exact h.log

/-- The probe went out again. -/
theorem Transmits.probedAgain (h : e.Transmits base S fin) {sendNext : SeqNumber} {buf : Buffer}
    {mac : MacAddress} {timeout timeout' : Duration} {segment : TcpSegment}
    (probing : e.task = .probing sendNext buf mac timeout) (text : segment.Text sendNext false buf)
    (sent : e.cb.SentText segment e.cb.sender e'.cb)
    (task : e'.task = .probing sendNext buf mac timeout') (history : SameSendHistory e e') :
    e'.Transmits base S fin := by
  have sender : e'.cb.sender = e.cb.sender := sent.sender_eq
  have idle : e'.task.captured = none := by rw [task]; rfl
  have held := h.probe sendNext buf mac timeout probing
  refine ⟨?_, ?_, ?_, ?_, ?_⟩
  · intro streaming
    have g := h.streaming streaming
    refine ⟨by rw [history.accepted, sender, g.accepted], by rw [sender, g.next],
      by rw [history.used, g.used], by rw [sender, history.accepted, g.unsent], ?_⟩
    intro x hx
    rw [idle] at hx
    cases hx
  · intro finished
    have g := h.finished finished
    refine ⟨by rw [history.accepted]; exact g.accepted, by rw [sender, history.used, g.next],
      by rw [history.used]; exact g.past, ?_⟩
    intro x hx
    rw [idle] at hx
    cases hx
  · rw [sender]
    exact h.small
  · intro x buf' mac' timeout'' again
    rw [task] at again
    cases again
    exact held
  · intro seg member
    rw [sent.transmitted] at member
    rcases List.mem_append.mp member with member | member
    · exact h.log seg member
    · rw [List.mem_singleton.mp member, text.seqNum, text.data, text.syn]
      simpa only [Bool.false_eq_true, if_false, add_zero] using held

/-- What the fast path sends, data or the FIN, is a piece. -/
theorem Piece.of_send {segment : TcpSegment} {buf : Buffer} {now : Instant}
    (empty : e.cb.sender.unsentQueue = []) (small : buf.length < 2 ^ 32)
    (text : segment.Text e.cb.sender.sendNext buf.isEmpty buf)
    (sender : e'.cb.sender = ControlBlock.senderAfterSend e.cb.sender buf now)
    (log : e'.cb.rt.transmitted = e.cb.rt.transmitted ++ [segment])
    (accepted : e'.history.accepted.flatten = e.history.accepted.flatten ++ buf)
    (transmitted : Transmitted e segment buf e') (task : e'.task = e.task) :
    e.Piece segment e.cb.sender.sendNext buf buf e' := by
  have left : e'.cb.sender.unsentQueue = [] := by
    rw [sender]
    exact empty
  exact
    { data := text.data
      seqNum := text.seqNum
      syn := text.syn
      place := .inl rfl
      small := small
      next := by rw [sender]; rfl
      used := transmitted.used
      log := log
      accepted := accepted
      queue := by rw [empty, left, List.flatten_nil, List.nil_append, List.append_nil]
      unsent := fun bytes => by
        rw [sender, ← Buffer.seqLength_of_ne_nil bytes]
        rfl
      task := .inr ⟨task, empty⟩
      probe := fun _ _ _ _ _ => .inl task
      left := by
        intro held member
        rw [left] at member
        cases member }

/-- What the background sender takes from the front of the queue is a piece. -/
theorem Piece.of_pop {segment : TcpSegment} {sendNext : SeqNumber} {ends : Bool}
    {front taken : Buffer} {rest left : List Buffer} {now : Instant}
    (captured : e.task.captured = some sendNext)
    (queue : e.cb.sender.unsentQueue = front :: rest) (text : segment.Text sendNext ends taken)
    (sent : e.cb.SentText segment (ControlBlock.senderAfterPop e.cb.sender taken left now) e'.cb)
    (accepted : e'.history.accepted = e.history.accepted)
    (transmitted : Transmitted e segment taken e')
    (flow : taken ++ left.flatten = front ++ rest.flatten) (idle : e'.task.captured = none)
    (probe : ∀ y held mac timeout, e'.task = .probing y held mac timeout →
      y = sendNext ∧ held = taken)
    (small : taken.length < 2 ^ 32) (smaller : ∀ held ∈ left, held.length < 2 ^ 32) :
    e.Piece segment sendNext taken [] e' := by
  have leaves : e'.cb.sender.unsentQueue = left := by
    rw [sent.sender_eq]
    rfl
  exact
    { data := text.data
      seqNum := text.seqNum
      syn := text.syn
      place := .inr captured
      small := small
      next := by rw [sent.sender_eq]; rfl
      used := transmitted.used
      log := sent.transmitted
      accepted := by rw [accepted, List.append_nil]
      queue := by rw [queue, leaves, List.append_nil, flow, List.flatten_cons]
      unsent := fun _ => by
        rw [sent.sender_eq, List.length_nil, Nat.cast_zero, add_zero]
        rfl
      task := .inl idle
      probe := fun y held mac timeout probing => .inr (probe y held mac timeout probing)
      left := by rwa [leaves] }

variable [CongestionControl σ]

/-- **One event keeps the invariant**, for a stream that has not shrunk. -/
theorem step_transmits {event : Event} (h : e.Transmits base S fin) (stepped : e.step event = .ok e')
    (bound : e'.history.used < 2 ^ 32) :
    ∃ S' fin', e'.Transmits base S' fin' ∧
      ∀ x b, textByte base S fin x b → textByte base S' fin' x b := by
  cases step_sendStep stepped with
  | quiet acks task history window => exact ⟨S, fin, h.quiet acks task history, fun _ _ hx => hx⟩
  | waits acks atTop unsent task history window =>
    -- a task that waits for the window keeps the number it would send at
    have captured : e'.task.captured = some e.cb.sender.sendNext := by
      rcases task with ⟨eq, -⟩ | ⟨cwnd, front, rest, eq, -⟩ <;> rw [eq] <;> rfl
    exact ⟨S, fin, h.waits acks unsent captured history, fun _ _ hx => hx⟩
  | @sent buf env _ segment notDone small atOnce text sent task accepted transmitted =>
    -- a send at once takes the whole buffer, for nothing is queued before it
    have piece : e.Piece segment e.cb.sender.sendNext buf buf e' := by
      refine .of_send (ControlBlock.sendsAtOnce_empty atOnce) small text sent.sender_eq
        sent.transmitted ?_ transmitted task
      rw [accepted, List.flatten_append, List.flatten_singleton]
    exact ⟨_, _, h.piece piece bound, textByte_mono⟩
  | @queued buf env _ notDone small below side same task window accepted first used =>
    refine ⟨S, fin, h.queue _ small (congrArg SendSide.sendNext side)
      (congrArg SendSide.unsentSeqNo side) (congrArg SendSide.unsentQueue side) ?_ used same task,
      fun _ _ hx => hx⟩
    rw [accepted, List.flatten_append, List.flatten_singleton]
  | @sentFin env _ cb segment notDone atOnce text sent closed task accepted transmitted =>
    have sender : e'.cb.sender = ControlBlock.senderAfterSend e.cb.sender [] env.now := by
      rw [closed]
      exact sent.sender_eq
    -- the FIN is sent as an empty buffer
    have piece : e.Piece segment e.cb.sender.sendNext [] [] e' := by
      refine .of_send (ControlBlock.sendsAtOnce_empty atOnce) (by decide) text sender ?_ ?_ transmitted
        task
      · rw [closed]
        exact sent.transmitted
      · rw [accepted, List.append_nil]
    exact ⟨_, _, h.piece piece bound, textByte_mono⟩
  | queuedFin notDone notAtOnce side same task window history =>
    refine ⟨S, fin, h.queue [] (by decide) (congrArg SendSide.sendNext side) ?_
      (congrArg SendSide.unsentQueue side) ?_ history.used same task, fun _ _ hx => hx⟩
    · rw [List.length_nil, Nat.cast_zero, add_zero]
      exact congrArg SendSide.unsentSeqNo side
    · rw [history.accepted, List.append_nil]
  | @probed env _ sendNext mac b bs rest segment waiting queue text sent task accepted transmitted =>
    have small := h.small
    rw [queue] at small
    have piece : e.Piece segment sendNext [b] [] e' := by
      refine .of_pop (by rw [waiting]; rfl) queue text sent accepted transmitted rfl
        (by rw [task]; rfl) ?_ (by decide : 1 < 2 ^ 32) ?_
      · intro y held mac' timeout probing
        rw [task] at probing
        cases probing
        exact ⟨rfl, rfl⟩
      -- what stays in the queue is the rest of the front buffer and the others
      · intro held member
        rcases List.mem_cons.mp member with rfl | member
        · have := small (b :: held) List.mem_cons_self
          rw [List.length_cons] at this
          omega
        · exact small held (List.mem_cons_of_mem _ member)
    exact ⟨_, _, h.piece piece bound, textByte_mono⟩
  | @probedAgain env _ sendNext buf mac timeout segment probing text sent task history =>
    exact ⟨S, fin, h.probedAgain probing text sent task history, fun _ _ hx => hx⟩
  | @popped env _ sendNext winSz cwnd sentData mac front rest n segment waiting queue room text sent
      task accepted transmitted =>
    have small := h.small
    rw [queue] at small
    have shortFront := small front List.mem_cons_self
    have piece : e.Piece segment sendNext (front.take n) [] e' := by
      refine .of_pop (by rw [waiting]; rfl) queue text sent accepted transmitted
        (ControlBlock.take_append_popLeft n front rest) (by rw [task]; rfl) ?_ ?_ ?_
      · intro y held mac' timeout probing
        rw [task] at probing
        cases probing
      · rw [List.length_take]
        omega
      -- the front buffer is used up, or its rest goes back to the front
      · intro held member
        unfold ControlBlock.popLeft at member
        split at member
        · rcases List.mem_cons.mp member with rfl | member
          · rw [List.length_drop]
            omega
          · exact small held (List.mem_cons_of_mem _ member)
        · exact small held (List.mem_cons_of_mem _ member)
    exact ⟨_, _, h.piece piece bound, textByte_mono⟩

/-- SND.NXT only moves forward. -/
theorem step_used_le {event : Event} (stepped : e.step event = .ok e') :
    e.history.used ≤ e'.history.used := by
  cases step_sendStep stepped with
  | quiet acks task history window => exact history.used.ge
  | waits acks atTop unsent task history window => exact history.used.ge
  | sent notDone small atOnce text sent task accepted transmitted =>
    exact transmitted.used ▸ Nat.le_add_right _ _
  | queued notDone small below side same task window accepted first used => exact used.ge
  | sentFin notDone atOnce text sent closed task accepted transmitted =>
    exact transmitted.used ▸ Nat.le_add_right _ _
  | queuedFin notDone notAtOnce side same task window history => exact history.used.ge
  | probed waiting queue text sent task accepted transmitted =>
    exact transmitted.used ▸ Nat.le_add_right _ _
  | probedAgain probing text sent task history => exact history.used.ge
  | popped waiting queue room text sent task accepted transmitted =>
    exact transmitted.used ▸ Nat.le_add_right _ _

end Endpoint

end Inetstack.Tcp
