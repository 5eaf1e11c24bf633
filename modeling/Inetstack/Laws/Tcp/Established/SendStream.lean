import Inetstack.Laws.Tcp.Established.Transmission

/-!
# The send stream

What the send side means to do: transmit the accepted bytes in order, each once for the first time,
and after `close` one FIN just past the last of them. The unsent queue holds the bytes in between, in
buffers that are not empty, and behind them the end-of-send marker if `close` found no room.

The code does this as long as no buffer of the queue is split into an empty piece and the rest,
because an empty buffer is the end-of-send marker. There are two places that split without looking:
the window probe, which takes one byte and leaves the rest even when nothing is left, and the normal
transmission, which takes as much as there is room even when that is nothing. `splitsCleanly` says
of a step that it does neither.
-/

namespace Inetstack.Tcp

/-- Segments that follow one another in the sequence space, without gap or overlap. -/
def Tiles : SeqNumber → List TcpSegment → Prop
  | _, [] => True
  | start, segment :: rest =>
    segment.tcpHdr.seqNum = start ∧ Tiles (start + segment.data.length) rest

theorem Tiles.concat {start : SeqNumber} {segments : List TcpSegment} {segment : TcpSegment}
    (h : Tiles start segments)
    (next : segment.tcpHdr.seqNum = start + (segments.map TcpSegment.data).flatten.length) :
    Tiles start (segments ++ [segment]) := by
  induction segments generalizing start with
  | nil =>
    refine ⟨?_, trivial⟩
    simpa only [List.map_nil, List.flatten_nil, List.length_nil, Nat.cast_zero, add_zero] using next
  | cons first rest ih =>
    refine ⟨h.1, ih h.2 ?_⟩
    rw [next, List.map_cons, List.flatten_cons, ReceiveSide.bytes_length_cast]

/-- The call brings data, if it is a `send`. -/
def Event.SendsData : Event → Prop
  | .call (.send buf) _ => buf ≠ []
  | _ => True

namespace Endpoint

variable {σ : Type}

/-- The first transmissions of data, in order. -/
def dataTransmissions (e : Endpoint σ) : List TcpSegment :=
  e.history.firstTransmissions.filter fun segment => !segment.data.isEmpty

/-- The bytes transmitted so far. -/
def sentBytes (e : Endpoint σ) : List UInt8 := (e.dataTransmissions.map TcpSegment.data).flatten

/-- The step of the background sender leaves no empty buffer behind and sends none in place of data:
a window probe does not find a single byte in the first buffer, and a normal transmission has room
for at least one byte. -/
def splitsCleanly (e : Endpoint σ) : Event → Bool
  | .call (.sender (.arpReply (.ok _))) _ =>
    match e.task with
    | .awaitProbe _ => e.cb.sender.topSizeUnsent ≠ some 1
    | .awaitSend _ winSz effectiveCwnd sentData => e.cb.maxSize winSz effectiveCwnd sentData ≠ 0
    | _ => true
  | _ => true

/-- The send side while its FIN is not out. `q` is the data of the unsent queue. -/
structure Unfinished (base : SeqNumber) (q : List Buffer) (e : Endpoint σ) : Prop where
  queue : e.cb.sender.unsentQueue = q ++ if e.cb.userIsDoneSending then [[]] else []
  full : ∀ buf ∈ q, buf ≠ []
  next : e.cb.sender.sendNext = base + e.sentBytes.length
  unsent : e.cb.sender.unsentSeqNo = base + e.history.accepted.flatten.length
  waiting : ∀ x, e.task.captured = some x → x = e.cb.sender.sendNext ∧ q ≠ []
  noFin : ∀ segment ∈ e.cb.rt.transmitted, segment.tcpHdr.fin = false

/-- The send side once `close` has sent the FIN. -/
structure FinIsOut (base : SeqNumber) (e : Endpoint σ) : Prop where
  done : e.cb.userIsDoneSending = true
  queue : e.cb.sender.unsentQueue = []
  next : e.cb.sender.sendNext = e.cb.sender.unsentSeqNo
  idle : e.task.captured = none
  fin : ∀ segment ∈ e.cb.rt.transmitted, segment.tcpHdr.fin = true →
    segment.tcpHdr.seqNum = base + e.history.accepted.flatten.length

/-- The invariant of the send stream. -/
structure Streams (base : SeqNumber) (e : Endpoint σ) : Prop where
  tiles : Tiles base e.dataTransmissions
  accepted : e.history.accepted.flatten = e.sentBytes ++ e.cb.sender.unsentQueue.flatten
  phase : (∃ q, e.Unfinished base q) ∨ e.FinIsOut base

variable {base : SeqNumber} {e e' : Endpoint σ}

theorem flatten_marker (q : List Buffer) (done : Bool) :
    (q ++ if done then [[]] else []).flatten = q.flatten := by
  cases done <;> simp

/-- Without data in the queue, everything accepted has been sent. -/
theorem Streams.next_eq_unsent (h : e.Streams base) (empty : e.Unfinished base []) :
    e.cb.sender.sendNext = e.cb.sender.unsentSeqNo := by
  rw [empty.next, empty.unsent, h.accepted, empty.queue, flatten_marker, List.flatten_nil,
    List.append_nil]

theorem dataTransmissions_of_same (history : SameSendHistory e e') :
    e'.dataTransmissions = e.dataTransmissions := by
  rw [dataTransmissions, history.firstTransmissions, dataTransmissions]

/-! ## One event -/

/-- An event that sends no text. The task may move where it captures nothing. -/
theorem Streams.quiet (h : e.Streams base) (side : e'.cb.sendSide = e.cb.sendSide)
    (log : ∃ more, e'.cb.rt.transmitted = e.cb.rt.transmitted ++ more ∧
      ∀ segment ∈ more, segment.tcpHdr.fin = false)
    (captured : ∀ x, e'.task.captured = some x → e.task.captured = some x)
    (history : SameSendHistory e e') : e'.Streams base := by
  obtain ⟨more, log, noFin⟩ := log
  have next : e'.cb.sender.sendNext = e.cb.sender.sendNext := congrArg SendSide.sendNext side
  have unsent : e'.cb.sender.unsentSeqNo = e.cb.sender.unsentSeqNo :=
    congrArg SendSide.unsentSeqNo side
  have queue : e'.cb.sender.unsentQueue = e.cb.sender.unsentQueue :=
    congrArg SendSide.unsentQueue side
  have done : e'.cb.userIsDoneSending = e.cb.userIsDoneSending :=
    congrArg SendSide.userIsDoneSending side
  have data := dataTransmissions_of_same history
  have bytes : e'.sentBytes = e.sentBytes := by rw [sentBytes, data, sentBytes]
  refine ⟨by rw [data]; exact h.tiles, by rw [history.accepted, bytes, queue, h.accepted], ?_⟩
  rcases h.phase with ⟨q, g⟩ | g
  · refine .inl ⟨q, by rw [queue, done, g.queue], g.full, by rw [next, bytes, g.next],
      by rw [unsent, history.accepted, g.unsent], ?_, ?_⟩
    · intro x hx
      rw [next]
      exact g.waiting x (captured x hx)
    · intro segment member
      rw [log] at member
      rcases List.mem_append.mp member with member | member
      · exact g.noFin segment member
      · exact noFin segment member
  · refine .inr ⟨by rw [done, g.done], by rw [queue, g.queue], by rw [next, unsent, g.next], ?_, ?_⟩
    · cases hx : e'.task.captured with
      | none => rfl
      | some x =>
        have old := captured x hx
        rw [g.idle] at old
        cases old
    · intro segment member fin
      rw [log] at member
      rw [history.accepted]
      rcases List.mem_append.mp member with member | member
      · exact g.fin segment member fin
      · rw [noFin segment member] at fin
        cases fin

/-- A piece of data has been sent: `q` was the data of the queue, `q'` is what is left, and `added`
is what the same call accepted. -/
theorem Streams.piece (h : e.Streams base) {q : List Buffer} (g : e.Unfinished base q)
    (q' : List Buffer) (added : List UInt8) {segment : TcpSegment} {buf : Buffer}
    (text : segment.Text e.cb.sender.sendNext false buf) (bytes : buf ≠ [])
    (transmitted : Transmitted e segment buf e')
    (accepted : e'.history.accepted.flatten = e.history.accepted.flatten ++ added)
    (log : e'.cb.rt.transmitted = e.cb.rt.transmitted ++ [segment])
    (next : e'.cb.sender.sendNext = e.cb.sender.sendNext + buf.seqLength)
    (unsent : e'.cb.sender.unsentSeqNo = e.cb.sender.unsentSeqNo + added.length)
    (done : e'.cb.userIsDoneSending = e.cb.userIsDoneSending)
    (queue : e'.cb.sender.unsentQueue = q' ++ if e.cb.userIsDoneSending then [[]] else [])
    (flow : q.flatten ++ added = buf ++ q'.flatten) (full : ∀ buf ∈ q', buf ≠ [])
    (idle : e'.task.captured = none) : e'.Streams base := by
  have notEmpty : (!segment.data.isEmpty) = true := by
    rw [text.data]
    simpa using bytes
  have data : e'.dataTransmissions = e.dataTransmissions ++ [segment] := by
    rw [dataTransmissions, transmitted.firstTransmissions, List.filter_append, List.filter_cons,
      if_pos notEmpty, List.filter_nil, dataTransmissions]
  have sent : e'.sentBytes = e.sentBytes ++ buf := by
    rw [sentBytes, data, List.map_append, List.flatten_append, List.map_singleton,
      List.flatten_singleton, text.data, sentBytes]
  refine ⟨?_, ?_, .inl ⟨q', by rw [queue, done], full, ?_, ?_, ?_, ?_⟩⟩
  · rw [data]
    exact h.tiles.concat (text.seqNum.trans g.next)
  · rw [accepted, h.accepted, sent, queue, flatten_marker, g.queue, flatten_marker,
      List.append_assoc, flow, List.append_assoc]
  · rw [next, g.next, sent, Buffer.seqLength_of_ne_nil bytes, ReceiveSide.bytes_length_cast]
  · rw [unsent, g.unsent, accepted, ReceiveSide.bytes_length_cast]
  · intro x hx
    rw [idle] at hx
    cases hx
  · intro seg member
    rw [log] at member
    rcases List.mem_append.mp member with member | member
    · exact g.noFin seg member
    · rw [List.mem_singleton.mp member]
      exact text.fin

/-- The front of the queue is data while the task waits for ARP. -/
theorem Unfinished.front {q : List Buffer} (g : e.Unfinished base q) {front : Buffer}
    {rest : List Buffer} (queue : e.cb.sender.unsentQueue = front :: rest) (some_ : q ≠ []) :
    ∃ q₁, q = front :: q₁ ∧ rest = q₁ ++ if e.cb.userIsDoneSending then [[]] else [] := by
  cases q with
  | nil => exact absurd rfl some_
  | cons buf q₁ =>
    rw [g.queue, List.cons_append] at queue
    obtain ⟨rfl, rfl⟩ := List.cons.inj queue
    exact ⟨q₁, rfl, rfl⟩

/-- An empty queue before `close`: no data is left, and the task waits for nothing. -/
theorem Unfinished.empty {q : List Buffer} (g : e.Unfinished base q)
    (empty : e.cb.sender.unsentQueue = []) (notDone : e.cb.userIsDoneSending = false) :
    q = [] ∧ e.task.captured = none := by
  have none : q = [] := by
    have queue := g.queue
    rw [empty, notDone] at queue
    simpa using queue.symm
  refine ⟨none, ?_⟩
  cases hx : e.task.captured with
  | none => rfl
  | some x => exact absurd none (g.waiting x hx).2

/-- The task goes to wait for ARP, with something unsent. -/
theorem Streams.waits (h : e.Streams base) (acks : e.cb.AcksOnly e'.cb)
    (unsent : e.cb.sender.sendNext ≠ e.cb.sender.unsentSeqNo)
    (captured : e'.task.captured = some e.cb.sender.sendNext) (history : SameSendHistory e e') :
    e'.Streams base := by
  obtain ⟨more, log, pure⟩ := acks.transmitted
  have same : ({ e' with task := .top } : Endpoint σ).Streams base :=
    h.quiet acks.sendSide ⟨more, log, fun s hs => (pure s hs).fin⟩ (fun x hx => by cases hx)
      ⟨history.accepted, history.firstTransmissions, history.used⟩
  have next := acks.sendNext
  rw [← next, ← acks.unsentSeqNo] at unsent
  refine ⟨same.tiles, same.accepted, ?_⟩
  rcases same.phase with ⟨q, g⟩ | g
  · refine .inl ⟨q, g.queue, g.full, g.next, g.unsent, ?_, g.noFin⟩
    intro x hx
    rw [captured] at hx
    cases hx
    refine ⟨next.symm, ?_⟩
    rintro rfl
    exact unsent (same.next_eq_unsent g)
  · exact absurd g.next unsent

/-- Before `close` the FIN is not out. -/
theorem Streams.unfinished (h : e.Streams base) (notDone : e.cb.userIsDoneSending = false) :
    ∃ q, e.Unfinished base q := by
  rcases h.phase with unfinished | g
  · exact unfinished
  · rw [g.done] at notDone
    cases notDone

/-- While the task waits for ARP the FIN is not out, and there is data for it to send. -/
theorem Streams.awaited (h : e.Streams base) {sendNext : SeqNumber}
    (captured : e.task.captured = some sendNext) :
    sendNext = e.cb.sender.sendNext ∧ ∃ q, e.Unfinished base q ∧ q ≠ [] := by
  rcases h.phase with ⟨q, g⟩ | g
  · obtain ⟨here, some_⟩ := g.waiting sendNext captured
    exact ⟨here, q, g, some_⟩
  · rw [g.idle] at captured
    cases captured

/-- A buffer joins the queue. -/
theorem Streams.queued (h : e.Streams base) (notDone : e.cb.userIsDoneSending = false) {buf : Buffer}
    (bytes : buf ≠ []) (next : e'.cb.sender.sendNext = e.cb.sender.sendNext)
    (unsent : e'.cb.sender.unsentSeqNo = e.cb.sender.unsentSeqNo + buf.length)
    (queue : e'.cb.sender.unsentQueue = e.cb.sender.unsentQueue ++ [buf])
    (done : e'.cb.userIsDoneSending = e.cb.userIsDoneSending)
    (accepted : e'.history.accepted = e.history.accepted ++ [buf])
    (first : e'.history.firstTransmissions = e.history.firstTransmissions)
    (same : e'.cb.rt = e.cb.rt) (task : e'.task = e.task) : e'.Streams base := by
  obtain ⟨q, g⟩ := h.unfinished notDone
  have transmissions : e'.dataTransmissions = e.dataTransmissions := by
    rw [dataTransmissions, first, dataTransmissions]
  have sentSame : e'.sentBytes = e.sentBytes := by rw [sentBytes, transmissions, sentBytes]
  have accepted : e'.history.accepted.flatten = e.history.accepted.flatten ++ buf := by
    rw [accepted, List.flatten_append, List.flatten_singleton]
  refine ⟨by rw [transmissions]; exact h.tiles, ?_, .inl ⟨q ++ [buf], ?_, ?_, ?_, ?_, ?_, ?_⟩⟩
  · rw [accepted, sentSame, queue, List.flatten_append, List.flatten_singleton, h.accepted,
      List.append_assoc]
  · rw [queue, g.queue, done, notDone]
    simp
  · intro held member
    rcases List.mem_append.mp member with member | member
    · exact g.full held member
    · rwa [List.mem_singleton.mp member]
  · rw [next, g.next, sentSame]
  · rw [unsent, g.unsent, accepted, ReceiveSide.bytes_length_cast]
  · intro x hx
    rw [task] at hx
    rw [next]
    exact ⟨(g.waiting x hx).1, by simp⟩
  · rw [same]
    exact g.noFin

/-- The end-of-send marker joins the queue. -/
theorem Streams.queuedFin (h : e.Streams base) (notDone : e.cb.userIsDoneSending = false)
    (next : e'.cb.sender.sendNext = e.cb.sender.sendNext)
    (unsent : e'.cb.sender.unsentSeqNo = e.cb.sender.unsentSeqNo)
    (queue : e'.cb.sender.unsentQueue = e.cb.sender.unsentQueue ++ [[]])
    (done : e'.cb.userIsDoneSending = true) (history : SameSendHistory e e')
    (same : e'.cb.rt = e.cb.rt) (task : e'.task = e.task) : e'.Streams base := by
  obtain ⟨q, g⟩ := h.unfinished notDone
  have transmissions := dataTransmissions_of_same history
  have sentSame : e'.sentBytes = e.sentBytes := by rw [sentBytes, transmissions, sentBytes]
  refine ⟨by rw [transmissions]; exact h.tiles, ?_, .inl ⟨q, ?_, g.full, ?_, ?_, ?_, ?_⟩⟩
  · rw [history.accepted, sentSame, queue, List.flatten_append, h.accepted]
    simp
  · rw [queue, g.queue, notDone, done]
    simp
  · rw [next, g.next, sentSame]
  · rw [unsent, g.unsent, history.accepted]
  · intro x hx
    rw [task] at hx
    rw [next]
    exact g.waiting x hx
  · rw [same]
    exact g.noFin

/-- The FIN goes out, with everything accepted already sent. -/
theorem Streams.sentFin (h : e.Streams base) (notDone : e.cb.userIsDoneSending = false)
    (empty : e.cb.sender.unsentQueue = []) {segment : TcpSegment} {now : Instant}
    (text : segment.Text e.cb.sender.sendNext true []) (transmitted : Transmitted e segment [] e')
    (log : e'.cb.rt.transmitted = e.cb.rt.transmitted ++ [segment])
    (sender : e'.cb.sender = ControlBlock.senderAfterSend e.cb.sender [] now)
    (done : e'.cb.userIsDoneSending = true)
    (accepted : e'.history.accepted = e.history.accepted) (task : e'.task = e.task) :
    e'.Streams base := by
  obtain ⟨q, g⟩ := h.unfinished notDone
  obtain ⟨rfl, idle⟩ := g.empty empty notDone
  have transmissions : e'.dataTransmissions = e.dataTransmissions := by
    rw [dataTransmissions, transmitted.firstTransmissions, List.filter_append, List.filter_cons,
      text.data, List.filter_nil]
    exact List.append_nil _
  have sentSame : e'.sentBytes = e.sentBytes := by rw [sentBytes, transmissions, sentBytes]
  refine ⟨by rw [transmissions]; exact h.tiles, ?_, .inr ⟨done, ?_, ?_, ?_, ?_⟩⟩
  · rw [accepted, sentSame, h.accepted, sender]
    rfl
  · rw [sender]
    exact empty
  · rw [sender]
    exact congrArg (· + ((Buffer.seqLength [] : Nat) : SeqNumber)) (h.next_eq_unsent g)
  · rw [task, idle]
  · intro seg member fin
    rw [log] at member
    rw [accepted]
    rcases List.mem_append.mp member with member | member
    · rw [g.noFin seg member] at fin
      cases fin
    · rw [List.mem_singleton.mp member, text.seqNum, h.next_eq_unsent g, g.unsent]

/-- The background sender takes `n` bytes, or the whole first buffer, from the queue. -/
theorem Streams.popped (h : e.Streams base) {sendNext : SeqNumber} {front : Buffer}
    {rest : List Buffer} {n : Nat} {segment : TcpSegment} {now : Instant}
    (captured : e.task.captured = some sendNext)
    (queue : e.cb.sender.unsentQueue = front :: rest) (positive : n ≠ 0)
    (text : segment.Text sendNext (front.take n).isEmpty (front.take n))
    (sent : e.cb.SentText segment
      (ControlBlock.senderAfterPop e.cb.sender (front.take n) (ControlBlock.popLeft n front rest) now)
      e'.cb)
    (idle : e'.task.captured = none) (accepted : e'.history.accepted = e.history.accepted)
    (transmitted : Transmitted e segment (front.take n) e') : e'.Streams base := by
  obtain ⟨rfl, q, g, some_⟩ := h.awaited captured
  obtain ⟨q₁, rfl, rfl⟩ := g.front queue some_
  have notEmpty : front ≠ [] := g.full front List.mem_cons_self
  have bytes : front.take n ≠ [] := by
    simp only [ne_eq, List.take_eq_nil_iff, not_or]
    exact ⟨positive, notEmpty⟩
  have notFin : (front.take n).isEmpty = false := by simpa using bytes
  rw [notFin] at text
  refine h.piece g (ControlBlock.popLeft n front q₁) [] text bytes transmitted ?_ sent.transmitted ?_ ?_
    sent.userIsDoneSending ?_ ?_ ?_ idle
  · rw [accepted, List.append_nil]
  · rw [sent.sender_eq]
    rfl
  · rw [sent.sender_eq, List.length_nil, Nat.cast_zero, add_zero]
    rfl
  · rw [sent.sender_eq]
    simp only [ControlBlock.senderAfterPop, ControlBlock.popLeft]
    split <;> rfl
  · rw [List.append_nil, ControlBlock.take_append_popLeft, List.flatten_cons]
  · intro held member
    unfold ControlBlock.popLeft at member
    split at member
    next less =>
      rcases List.mem_cons.mp member with rfl | member
      · rw [ne_eq, List.drop_eq_nil_iff]
        omega
      · exact g.full held (List.mem_cons_of_mem _ member)
    next => exact g.full held (List.mem_cons_of_mem _ member)

variable [CongestionControl σ]

/-- **One event keeps the stream**, when the calls of `send` bring data and the background sender
splits cleanly. -/
theorem step_streams {event : Event} (h : e.Streams base) (data : event.SendsData)
    (clean : e.splitsCleanly event = true) (stepped : e.step event = .ok e') : e'.Streams base := by
  cases step_sendStep stepped with
  | quiet acks task history window =>
    obtain ⟨more, log, pure⟩ := acks.transmitted
    refine h.quiet acks.sendSide ⟨more, log, fun s hs => (pure s hs).fin⟩ ?_ history
    intro x hx
    -- a step that says only ACKs leaves the task as it is, at the top or terminated
    rcases task with same | top | ⟨fail, terminated⟩
    · rwa [same] at hx
    · rw [top] at hx
      cases hx
    · rw [terminated] at hx
      cases hx
  | waits acks atTop unsent task history window =>
    have captured : e'.task.captured = some e.cb.sender.sendNext := by
      rcases task with ⟨eq, -⟩ | ⟨cwnd, front, rest, eq, -⟩ <;> rw [eq] <;> rfl
    exact h.waits acks unsent captured history
  | @sent buf env _ segment notDone small atOnce text sent task accepted transmitted =>
    -- a send at once finds the queue empty and the task with nothing in hand
    have empty := ControlBlock.sendsAtOnce_empty atOnce
    have bytes : buf ≠ [] := data
    have notFin : buf.isEmpty = false := by simpa using bytes
    rw [notFin] at text
    obtain ⟨q, g⟩ := h.unfinished notDone
    obtain ⟨rfl, idle⟩ := g.empty empty notDone
    rw [← task] at idle
    refine h.piece g [] buf text bytes transmitted ?_ sent.transmitted ?_ ?_
      sent.userIsDoneSending ?_ (List.append_nil buf).symm (fun _ member => by cases member) idle
    · rw [accepted, List.flatten_append, List.flatten_singleton]
    · rw [sent.sender_eq]
      rfl
    · rw [sent.sender_eq, ← Buffer.seqLength_of_ne_nil bytes]
      rfl
    · rw [sent.sender_eq, notDone]
      exact empty
  | @queued buf env _ notDone small below side same task window accepted first used =>
    exact h.queued notDone data (congrArg SendSide.sendNext side)
      (congrArg SendSide.unsentSeqNo side) (congrArg SendSide.unsentQueue side)
      (congrArg SendSide.userIsDoneSending side) accepted first same task
  | @sentFin env _ cb segment notDone atOnce text sent closed task accepted transmitted =>
    have log : e'.cb.rt.transmitted = e.cb.rt.transmitted ++ [segment] := by
      rw [closed]
      exact sent.transmitted
    have sender : e'.cb.sender = ControlBlock.senderAfterSend e.cb.sender [] env.now := by
      rw [closed]
      exact sent.sender_eq
    exact h.sentFin notDone (ControlBlock.sendsAtOnce_empty atOnce) text transmitted log sender
      (by rw [closed]) accepted task
  | queuedFin notDone notAtOnce side same task window history =>
    exact h.queuedFin notDone (congrArg SendSide.sendNext side) (congrArg SendSide.unsentSeqNo side)
      (congrArg SendSide.unsentQueue side) (congrArg SendSide.userIsDoneSending side) history same task
  | @probed env _ sendNext mac b bs rest segment waiting queue text sent task accepted transmitted =>
    have captured : e.task.captured = some sendNext := by rw [waiting]; rfl
    -- the probe does not use up the front buffer, for the split is clean
    have left : bs ≠ [] := by
      rintro rfl
      simp [splitsCleanly, waiting, Sender.topSizeUnsent, queue] at clean
    -- a probe is a transmission of one byte
    have one : ControlBlock.popLeft 1 (b :: bs) rest = bs :: rest :=
      if_pos (Nat.succ_lt_succ (List.length_pos_iff.mpr left))
    rw [← one] at sent
    exact h.popped captured queue Nat.one_ne_zero text sent (by rw [task]; rfl) accepted transmitted
  | @probedAgain env _ sendNext buf mac timeout segment probing text sent task history =>
    refine h.quiet ?_ ⟨[segment], sent.transmitted, ?_⟩ ?_ history
    · simp only [ControlBlock.sendSide, sent.sender_eq, sent.userIsDoneSending]
    · intro s hs
      rw [List.mem_singleton.mp hs]
      exact text.fin
    · intro x hx
      rw [task] at hx
      cases hx
  | @popped env _ sendNext winSz cwnd sentData mac front rest n segment waiting queue room text sent
      task accepted transmitted =>
    have captured : e.task.captured = some sendNext := by rw [waiting]; rfl
    have positive : n ≠ 0 := by
      simp only [splitsCleanly, waiting, ne_eq, decide_not, Bool.not_eq_true',
        decide_eq_false_iff_not] at clean
      rwa [room]
    exact h.popped captured queue positive text sent (by rw [task]; rfl) accepted transmitted

/-! ## Runs -/

/-- The stream is empty, and no FIN has gone out if the handshake sent none. -/
theorem opened_streams {o : Opening}
    (handshake : ∀ segment ∈ o.rt.transmitted, segment.tcpHdr.fin = false) :
    (opened (σ := σ) o).Streams o.senderSeqNo where
  tiles := trivial
  accepted := rfl
  phase := .inl ⟨[], rfl, fun _ member => (by cases member), (add_zero o.senderSeqNo).symm,
    (add_zero o.senderSeqNo).symm, fun x captured => (by cases captured), handshake⟩

/-- A run keeps the stream, when its calls of `send` bring data and every step splits cleanly. -/
theorem run_streams {events : List Event} (h : e.Streams base)
    (data : ∀ event ∈ events, event.SendsData)
    (clean : Machine.Admits step (splitsCleanly · · = true) e events)
    (ran : e.run events = .ok e') : e'.Streams base := by
  refine Machine.invariant_of_admits (Streams base)
    (fun e event => e.splitsCleanly event = true ∧ event.SendsData) ?_ h
    (clean.and (Machine.admits_of_forall data _)) ran
  intro e event e' h ok stepped
  exact step_streams h ok.2 ok.1 stepped

/-- **Send-stream integrity**, where every step splits cleanly. The first transmissions of data tile
the sequence space from the initial number, their bytes are a prefix of the bytes accepted, and a FIN
goes out only after `close`, just past the last accepted byte. -/
theorem stream_integrity (o : Opening) (events : List Event) (e : Endpoint σ)
    (handshake : ∀ segment ∈ o.rt.transmitted, segment.tcpHdr.fin = false)
    (data : ∀ event ∈ events, event.SendsData)
    (clean : Machine.Admits step (splitsCleanly · · = true) (opened (σ := σ) o) events)
    (ran : (opened o).run events = .ok e) :
    Tiles o.senderSeqNo e.dataTransmissions ∧ e.sentBytes <+: e.history.accepted.flatten ∧
      ∀ segment ∈ e.cb.rt.transmitted, segment.tcpHdr.fin = true →
        e.cb.userIsDoneSending = true ∧
          segment.tcpHdr.seqNum = o.senderSeqNo + e.history.accepted.flatten.length := by
  have streams : e.Streams o.senderSeqNo := run_streams (opened_streams handshake) data clean ran
  refine ⟨streams.tiles, ?_, ?_⟩
  · rw [streams.accepted]
    exact List.prefix_append _ _
  · intro segment member fin
    rcases streams.phase with ⟨q, g⟩ | g
    · rw [g.noFin segment member] at fin
      cases fin
    · exact ⟨g.done, g.fin segment member fin⟩

/-- The events of a run that splits a buffer: five bytes into a window of three and an MSS of two, and
a close once everything has been sent. -/
def splitEvents : List Event :=
  [.call (.send [1, 2]) sampleEnv, .call (.send [3, 4, 5]) sampleEnv,
    .receive (sampleHeader 50 42 9) [] sampleEnv, .call (.sender .iterate) sampleEnv,
    .call (.sender (.arpReply (.ok 9))) sampleEnv, .call (.sender .iterate) sampleEnv,
    .call (.sender (.arpReply (.ok 9))) sampleEnv, .call .close sampleEnv]

theorem stream_integrity_split :
    ∃ e : Endpoint CongestionControl.None,
      (Endpoint.start (sampleBlock ⟨50⟩ ⟨40⟩ 100 3 2)).run splitEvents = .ok e ∧
      e.dataTransmissions.map TcpSegment.data = [[1, 2], [3, 4], [5]] ∧
      (∃ segment ∈ e.cb.rt.transmitted, segment.tcpHdr.fin = true) ∧
      Tiles ⟨40⟩ e.dataTransmissions ∧ e.sentBytes <+: e.history.accepted.flatten ∧
      ∀ segment ∈ e.cb.rt.transmitted, segment.tcpHdr.fin = true →
        e.cb.userIsDoneSending = true ∧
          segment.tcpHdr.seqNum = ⟨40⟩ + e.history.accepted.flatten.length := by
  obtain ⟨e, ran, view⟩ := Machine.map_eq_ok
    (x := (Endpoint.start (sampleBlock ⟨50⟩ ⟨40⟩ 100 3 2)).run splitEvents)
    (fun e => (e.dataTransmissions.map TcpSegment.data,
      e.cb.rt.transmitted.any fun s => s.tcpHdr.fin))
    (t := ([[1, 2], [3, 4], [5]], true)) (by decide +kernel)
  simp only [Prod.mk.injEq, List.any_eq_true] at view
  refine ⟨e, ran, view.1, view.2, ?_⟩
  refine stream_integrity (sampleOpening ⟨50⟩ ⟨40⟩ 100 3 2) _ e ?_ ?_
    (Machine.Admits.of_admits (by decide +kernel)) ran
  · exact fun _ member => by cases member
  · simp [splitEvents, Event.SendsData]

/-- A run in which a FIN goes out and `close` has never been called. With the window at zero, the
probe takes the only byte of the queue and leaves an empty buffer there; once the window opens, the
next `send` wakes the background sender, which takes the empty buffer for the end-of-send marker. -/
theorem fin_without_close :
    ∃ e : Endpoint CongestionControl.None,
      (Endpoint.start (sampleBlock ⟨50⟩ ⟨40⟩ 100 0 1460)).run
        [.call (.send [1]) sampleEnv, .call (.sender .iterate) sampleEnv,
          .call (.sender (.arpReply (.ok 9))) sampleEnv, .receive (sampleHeader 50 41 100) [] sampleEnv,
          .call (.sender .windowChanged) sampleEnv, .call (.send [2]) sampleEnv,
          .call (.sender .iterate) sampleEnv, .call (.sender (.arpReply (.ok 9))) sampleEnv] = .ok e ∧
      e.cb.userIsDoneSending = false ∧ e.history.accepted = [[1], [2]] ∧
      ∃ segment ∈ e.cb.rt.transmitted, segment.tcpHdr.fin = true ∧ segment.tcpHdr.seqNum = ⟨41⟩ := by
  obtain ⟨e, ran, view⟩ := Machine.map_eq_ok
    (x := (Endpoint.start (sampleBlock ⟨50⟩ ⟨40⟩ 100 0 1460)).run
      [.call (.send [1]) sampleEnv, .call (.sender .iterate) sampleEnv,
        .call (.sender (.arpReply (.ok 9))) sampleEnv, .receive (sampleHeader 50 41 100) [] sampleEnv,
        .call (.sender .windowChanged) sampleEnv, .call (.send [2]) sampleEnv,
        .call (.sender .iterate) sampleEnv, .call (.sender (.arpReply (.ok 9))) sampleEnv])
    (fun e => (e.cb.userIsDoneSending, e.history.accepted,
      e.cb.rt.transmitted.any fun s => s.tcpHdr.fin && s.tcpHdr.seqNum == ⟨41⟩))
    (t := (false, [[1], [2]], true)) (by decide +kernel)
  simp only [Prod.mk.injEq, List.any_eq_true, Bool.and_eq_true, beq_iff_eq] at view
  exact ⟨e, ran, view.1, view.2.1, view.2.2⟩

end Endpoint

end Inetstack.Tcp
