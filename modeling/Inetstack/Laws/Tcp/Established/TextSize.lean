import Inetstack.Laws.Tcp.Established.Emission
import Inetstack.Laws.Tcp.Wire

/-!
# How long the segments of a connection are

The background sender cuts what it takes from the queue to the MSS. A buffer that is sent at once is not
cut at all, and neither path looks at what the length field of an IPv4 header can hold. So a frame is as
long as it says exactly when its text is at most `MAX_TEXT` bytes.
-/

namespace Inetstack.Tcp

open Machine (bind_eq_ok)

/-- The text that fills an IPv4 packet, after two headers without options. -/
def MAX_TEXT : Nat := 65495

/-- The 16 bits at `field` say how long the frame is from `start` on. -/
def Buffer.SaysLength (frame : Buffer) (field start : Nat) : Prop :=
  ∃ length : UInt16, Buffer.readU16 frame field = .ok length ∧ start + length.toNat = frame.length

namespace TcpSegment

variable {segment : TcpSegment} {eof : Fail}

/-- The frame of a segment says its own length, and is decoded to the segment's headers and data. -/
def WellFormed (eof : Fail) (segment : TcpSegment) : Prop :=
  ∀ buf padding : Buffer, segment.headerSize ≤ buf.length →
    ∃ out, segment.writeHeader buf = .ok out ∧
      Buffer.SaysLength (out.take segment.headerSize ++ segment.data) 16 14 ∧
      parseFrame eof (out.take segment.headerSize ++ segment.data ++ padding) =
        pure (segment.ethernet2, segment.sentIpv4, segment.tcpHdr, segment.data)

/-- The length field of a frame, and the length of the frame. -/
theorem frame_length {buf out : Buffer} (room : segment.headerSize ≤ buf.length)
    (wrote : segment.writeHeader buf = .ok out) :
    Buffer.readU16 (out.take segment.headerSize ++ segment.data) 16 = .ok segment.totalLength ∧
      (out.take segment.headerSize ++ segment.data).length =
        34 + segment.tcpHdr.computeSize + segment.data.length := by
  obtain ⟨checksum, -, wrote'⟩ := writeHeader_eq room
  cases wrote.symm.trans wrote'
  have tcp_length : (segment.tcpHdr.front ++ toBeBytes 2 checksum.toNat ++
      segment.tcpHdr.back).length = segment.tcpHdr.computeSize :=
    TcpHeader.length_hole (length_toBeBytes 2 _)
  have size : (segment.ethernet2.bytes ++
      Ipv4.Ipv4Header.bytes segment.ipv4Hdr.srcAddr segment.ipv4Hdr.dstAddr .tcp segment.totalLength ++
      (segment.tcpHdr.front ++ toBeBytes 2 checksum.toNat ++ segment.tcpHdr.back)).length =
        segment.headerSize := by
    rw [List.length_append, tcp_length]
    rfl
  rw [List.take_left' size]
  constructor
  · simp only [Ipv4.Ipv4Header.bytes, Ipv4.Ipv4Header.front, List.append_assoc]
    rw [← List.append_assoc]
    exact Buffer.readU16_middle rfl segment.totalLength
  · rw [List.length_append, size]
    rfl

/-- A segment without options is well formed exactly when its text fits. -/
theorem wellFormed_iff (options : segment.tcpHdr.optionList = [])
    (checksummed : segment.txChecksumOffload = false) :
    segment.WellFormed eof ↔ segment.data.length ≤ MAX_TEXT := by
  have size : segment.tcpHdr.computeSize = 20 := by
    rw [TcpHeader.computeSize, options]
    rfl
  constructor
  · intro wellFormed
    obtain ⟨out, wrote, ⟨length, -, total⟩, -⟩ :=
      wellFormed (List.replicate segment.headerSize 0) [] (by rw [List.length_replicate])
    obtain ⟨-, long⟩ := frame_length (by rw [List.length_replicate]) wrote
    have bound := length.toNat_lt
    rw [long, size] at total
    unfold MAX_TEXT
    omega
  · intro fits buf padding room
    have encodable : segment.Encodable := by
      refine ⟨?_, ?_, ?_, ?_, checksummed⟩
      · simp [options]
      · simp [options]
      · rw [size]
        decide
      · rw [size]
        exact Nat.add_le_of_le_sub' (by decide) fits
    obtain ⟨checksum, -, wrote⟩ := writeHeader_eq room
    have read := parseFrame_written eof encodable room wrote padding
    obtain ⟨field, long⟩ := frame_length room wrote
    refine ⟨_, wrote, ⟨_, field, ?_⟩, read⟩
    rw [toNat_totalLength encodable.fits, long]
    omega

end TcpSegment

/-- The last segment of the log can be read back. -/
theorem Runtime.transmit_inj {rt : Runtime} {segment other : TcpSegment}
    (same : rt.transmit segment = rt.transmit other) : segment = other := by
  have lists := List.append_cancel_left (congrArg Runtime.transmitted same)
  exact List.singleton_inj.mp lists

/-- A log with one more segment is another log. -/
theorem Runtime.transmit_ne (rt : Runtime) (segment : TcpSegment) : rt.transmit segment ≠ rt := by
  intro same
  have longer := congrArg (fun rt => rt.transmitted.length) same
  simp [Runtime.transmit] at longer

/-! ## The MSS stays -/

namespace ControlBlock

variable {σ : Type} {cb cb' : ControlBlock σ} {env : Env}

/-- What is sent is the last segment of the log. -/
theorem SentText.rt {segment : TcpSegment} {sender : Sender} (h : cb.SentText segment sender cb') :
    cb'.rt = cb.rt.transmit segment := by
  obtain ⟨cc, deadline, rfl⟩ := h
  rfl

variable [CongestionControl σ]

/-- An ACK leaves the MSS alone. -/
theorem processAck_mss {now : Instant} {header : TcpHeader} {go : Bool}
    (ran : cb.processAck now header = .ok (go, cb')) : cb'.sender.mss = cb.sender.mss := by
  rcases processAck_cases ran with ⟨cc, rfl, -⟩ | ⟨-, -, -, cc, queue, rto, deadline, state, -, rfl⟩
  · rfl
  · dsimp only [Sender.updateSendWindow]
    split
    · rfl
    · rfl

/-- So does any other segment, -/
theorem receive_mss {header : TcpHeader} {data : Buffer}
    (ran : cb.receive env header data = .ok cb') : cb'.sender.mss = cb.sender.mss := by
  rcases receive_cases ran with rfl | acked | ⟨-, -, -, rfl⟩ | ⟨seg, cb₁, -, -, processed, acked⟩ |
    ⟨seg, cb₁, -, -, processed, ⟨-, ran⟩ | ⟨-, ran⟩⟩
  · rfl
  · rw [(sendAck_acked acked).sender]
  · rfl
  · rw [(sendAck_acked acked).sender, processAck_mss processed]
  · rw [(receiveInOrder_acked ran).sender, processAck_mss processed]
  · rw [(receiveOutOfOrder_acked ran).sender, processAck_mss processed]

/-- and a send, -/
theorem send_mss {buf : Buffer} {result : Except Fail Unit}
    (ran : cb.send env buf = .ok (result, cb')) : cb'.sender.mss = cb.sender.mss := by
  rcases send_cases ran with ⟨fail, cc, -, rfl, -⟩ |
    ⟨-, -, -, ⟨-, segment, -, sent⟩ | ⟨-, -, cc, rfl⟩⟩
  · rfl
  · rw [sent.sender_eq]
    rfl
  · rfl

end ControlBlock

namespace Endpoint

variable {σ : Type} [CongestionControl σ] {start e e' : Endpoint σ} {event : Event}

/-- and a poll of the background sender. -/
theorem senderStep_mss {env : Env} {poll : SenderPoll} (stepped : e.senderStep env poll = .ok e') :
    e'.cb.sender.mss = e.cb.sender.mss := by
  unfold senderStep at stepped
  split at stepped
  · obtain ⟨⟨task, cb⟩, ran, eq⟩ := bind_eq_ok.mp stepped
    obtain ⟨cc, rfl, -⟩ := ControlBlock.senderIterate_cases ran
    cases eq
    rfl
  · obtain ⟨⟨task, cb⟩, ran, eq⟩ := bind_eq_ok.mp stepped
    obtain ⟨b, bs, rest, -, -, segment, -, sent⟩ := ControlBlock.senderProbe_sentText ran
    have same := congrArg Sender.mss sent.sender_eq
    cases eq
    exact same
  · obtain ⟨⟨task, cb⟩, ran, eq⟩ := bind_eq_ok.mp stepped
    obtain ⟨front, rest, -, -, segment, -, sent⟩ := ControlBlock.senderTransmit_sentText ran
    have same := congrArg Sender.mss sent.sender_eq
    cases eq
    exact same
  · cases stepped
    rfl
  · cases stepped
    rfl
  · obtain ⟨⟨task, cb⟩, ran, eq⟩ := bind_eq_ok.mp stepped
    obtain ⟨-, segment, -, sent⟩ := ControlBlock.senderProbeAgain_sentText ran
    have same := congrArg Sender.mss sent.sender_eq
    cases eq
    exact same
  · cases stepped
    rfl
  · cases stepped
    rfl

/-- No event changes the MSS of the peer. -/
theorem step_mss (stepped : e.step event = .ok e') : e'.cb.sender.mss = e.cb.sender.mss := by
  cases event with
  | receive header data env =>
    obtain ⟨cb, ran, eq⟩ := bind_eq_ok.mp stepped
    cases eq
    exact ControlBlock.receive_mss ran
  | call c env =>
    cases c with
    | send buf =>
      obtain ⟨⟨result, cb⟩, ran, eq⟩ := bind_eq_ok.mp stepped
      have same := ControlBlock.send_mss ran
      cases result with
      | ok u =>
        cases eq
        exact same
      | error fail =>
        cases eq
        exact same
    | close =>
      obtain ⟨cb, ran, eq⟩ := bind_eq_ok.mp stepped
      cases eq
      rcases ControlBlock.close_cases ran with ⟨-, rfl⟩ | ⟨cb₁, sent, rfl⟩
      · rfl
      · have same := ControlBlock.send_mss sent
        exact same
    | pollRecv =>
      simp only [step, call, ControlBlock.pollRecv] at stepped
      cases popped : e.cb.receiver.pop with
      | none =>
        simp only [popped, Except.ok.injEq] at stepped
        rw [← stepped]
      | some read =>
        simp only [popped, Except.ok.injEq] at stepped
        rw [← stepped]
        rfl
    | sender poll => exact senderStep_mss stepped
    | acknowledger =>
      simp only [step, call] at stepped
      split at stepped
      · cases stepped
        rfl
      · obtain ⟨cb, ran, eq⟩ := bind_eq_ok.mp stepped
        cases eq
        exact congrArg Sender.mss (ControlBlock.sendAck_acked ran).sender
    | retransmitter =>
      simp only [step, call] at stepped
      split at stepped
      · cases stepped
        rfl
      · cases stepped
        rfl

/-! ## The text of a segment -/

/-- What is sent fits: a buffer that is sent at once is no longer than the MSS and `MAX_TEXT`, what the
background sender takes from the queue is no longer than `MAX_TEXT`, and a window probe is not longer
than the MSS. -/
def fits (e : Endpoint σ) : Event → Bool
  | .call (.send buf) env =>
    e.cb.userIsDoneSending || decide (2 ^ 32 ≤ buf.length) || !e.cb.sendsAtOnce env buf ||
      decide (buf.length ≤ min e.cb.sender.mss MAX_TEXT)
  | .call (.sender (.arpReply (.ok _))) _ =>
    match e.task with
    | .awaitProbe _ => decide (1 ≤ e.cb.sender.mss)
    | .awaitSend _ winSz effectiveCwnd sentData =>
      decide (min (e.cb.maxSize winSz effectiveCwnd sentData) (e.cb.sender.unsentQueue.headD []).length ≤
        MAX_TEXT)
    | _ => true
  | _ => true

/-- A segment as the peer and IPv4 can take it. -/
structure Proper (eof : Fail) (mss : Nat) (segment : TcpSegment) : Prop where
  wellFormed : segment.WellFormed eof
  text : segment.data.length ≤ mss

theorem proper_iff {eof : Fail} {mss : Nat} {segment : TcpSegment} {config : TcpConfig}
    (plain : segment.Plain config) (checksummed : config.txChecksumOffload = false) :
    Proper eof mss segment ↔ segment.data.length ≤ min mss MAX_TEXT := by
  have wellFormed : segment.WellFormed eof ↔ segment.data.length ≤ MAX_TEXT :=
    TcpSegment.wellFormed_iff plain.optionList (plain.offload.trans checksummed)
  constructor
  · intro proper
    exact Nat.le_min.mpr ⟨proper.text, wellFormed.mp proper.wellFormed⟩
  · intro small
    obtain ⟨text, packet⟩ := Nat.le_min.mp small
    exact ⟨wellFormed.mpr packet, text⟩

/-- An event says one thing at most, and that without options. -/
theorem step_said (stepped : e.step event = .ok e') :
    e'.cb.rt = e.cb.rt ∨ ∃ segment, e'.cb.rt = e.cb.rt.transmit segment ∧
      segment.Plain e.cb.rt.tcpOptions := by
  cases step_speaks stepped with
  | silent silent => exact .inl silent.rt
  | answers answers =>
    cases answers with
    | emits segment emitted => exact .inr ⟨segment, emitted.rt, emitted.plain⟩
    | defers idle same running => exact .inl same
    | unresolved unknown same => exact .inl same

/-- The probe that is being repeated fits. -/
def ProbeFits (e : Endpoint σ) : Prop :=
  ∀ sendNext buf mac timeout, e.task = .probing sendNext buf mac timeout →
    buf.length ≤ min e.cb.sender.mss MAX_TEXT

omit [CongestionControl σ] in
/-- The part of the front buffer that is sent is no longer than the MSS, and than `MAX_TEXT` where it
fits. -/
theorem length_take_maxSize (cb : ControlBlock σ) (winSz effectiveCwnd sentData : UInt32)
    (front : Buffer) (small : min (cb.maxSize winSz effectiveCwnd sentData) front.length ≤ MAX_TEXT) :
    (front.take (cb.maxSize winSz effectiveCwnd sentData)).length ≤ min cb.sender.mss MAX_TEXT := by
  rw [List.length_take]
  refine Nat.le_min.mpr ⟨?_, small⟩
  have limit : cb.maxSize winSz effectiveCwnd sentData ≤ cb.sender.mss := by
    unfold ControlBlock.maxSize
    omega
  exact Nat.le_trans (Nat.min_le_left _ _) limit

omit [CongestionControl σ] in
/-- Only a probe can break it. -/
theorem ProbeFits.of_task (h : e.ProbeFits) (mss : e'.cb.sender.mss = e.cb.sender.mss)
    (task : e'.task = e.task ∨ ∀ sendNext buf mac timeout, e'.task ≠ .probing sendNext buf mac timeout) :
    e'.ProbeFits := by
  intro sendNext buf mac timeout probing
  rw [mss]
  rcases task with same | other
  · exact h sendNext buf mac timeout (same ▸ probing)
  · exact (other sendNext buf mac timeout probing).elim

omit [CongestionControl σ] in
/-- The segment that went out is the one that was said. -/
theorem data_of_sent {segment other : TcpSegment} {seq : SeqNumber} {fin : Bool} {buf : Buffer}
    {sender : Sender} {cb cb' : ControlBlock σ} (sent : cb.SentText segment sender cb')
    (text : segment.Text seq fin buf) (said : cb'.rt = cb.rt.transmit other) : other.data = buf := by
  rw [← Runtime.transmit_inj (sent.rt.symm.trans said), text.data]

/-- What an event that fits says is short, and so is the probe it leaves. -/
theorem step_short (probe : e.ProbeFits) (fits : e.fits event = true)
    (stepped : e.step event = .ok e') :
    e'.ProbeFits ∧ ∀ segment, e'.cb.rt = e.cb.rt.transmit segment →
      segment.data.length ≤ min e.cb.sender.mss MAX_TEXT := by
  have mss := step_mss stepped
  -- segments without text fit any size
  have silent (acks : e.cb.AcksOnly e'.cb) (segment : TcpSegment)
      (said : e'.cb.rt = e.cb.rt.transmit segment) :
      segment.data.length ≤ min e.cb.sender.mss MAX_TEXT := by
    obtain ⟨segments, transmitted, pure⟩ := acks.transmitted
    rw [said] at transmitted
    have same := List.append_cancel_left transmitted
    have member : segment ∈ segments := same ▸ List.mem_singleton_self segment
    rw [(pure segment member).data]
    exact Nat.zero_le _
  have unsaid (same : e'.cb.rt = e.cb.rt) (segment : TcpSegment)
      (said : e'.cb.rt = e.cb.rt.transmit segment) :
      segment.data.length ≤ min e.cb.sender.mss MAX_TEXT :=
    (e.cb.rt.transmit_ne segment (said.symm.trans same)).elim
  cases step_sendStep stepped with
  | quiet acks task history window =>
    refine ⟨probe.of_task mss ?_, silent acks⟩
    rcases task with same | top | ⟨fail, ended⟩
    · exact .inl same
    · exact .inr fun _ _ _ _ probing => by cases top.symm.trans probing
    · exact .inr fun _ _ _ _ probing => by cases ended.symm.trans probing
  | waits acks atTop unsent task history window =>
    refine ⟨probe.of_task mss (.inr fun _ _ _ _ probing => ?_), silent acks⟩
    rcases task with ⟨waiting, -⟩ | ⟨cwnd, front, rest, waiting, -⟩
    · cases waiting.symm.trans probing
    · cases waiting.symm.trans probing
  | sent notDone small atOnce text sent task accepted transmitted =>
    refine ⟨probe.of_task mss (.inl task), fun segment said => ?_⟩
    rw [data_of_sent sent text said]
    simp only [Endpoint.fits, notDone, atOnce, Bool.false_or, Bool.not_true, Bool.or_false,
      Bool.or_eq_true, decide_eq_true_eq] at fits
    exact fits.resolve_left (Nat.not_le.mpr small)
  | queued notDone small below side same task window accepted first used =>
    exact ⟨probe.of_task mss (.inl task), unsaid same⟩
  | sentFin notDone atOnce text sent closed task accepted transmitted =>
    refine ⟨probe.of_task mss (.inl task), fun segment said => ?_⟩
    rw [closed] at said
    rw [data_of_sent sent text said]
    exact Nat.zero_le _
  | queuedFin notDone notAtOnce side same task window history =>
    exact ⟨probe.of_task mss (.inl task), unsaid same⟩
  | probed waiting queue text sent task accepted transmitted =>
    -- the MSS is at least one, and a probe is one byte
    simp only [Endpoint.fits, waiting, decide_eq_true_eq] at fits
    have short : 1 ≤ min e.cb.sender.mss MAX_TEXT := Nat.le_min.mpr ⟨fits, by decide⟩
    refine ⟨?_, fun segment said => ?_⟩
    · intro sendNext buf mac timeout probing
      cases task.symm.trans probing
      rw [mss]
      exact short
    · rw [data_of_sent sent text said]
      exact short
  | probedAgain probing text sent task history =>
    have short := probe _ _ _ _ probing
    refine ⟨?_, fun segment said => ?_⟩
    · intro sendNext buf mac timeout again
      cases task.symm.trans again
      rw [mss]
      exact short
    · rw [data_of_sent sent text said]
      exact short
  | popped waiting queue room text sent task accepted transmitted =>
    simp only [Endpoint.fits, waiting, queue, List.headD_cons, decide_eq_true_eq] at fits
    refine ⟨probe.of_task mss (.inr fun _ _ _ _ probing => ?_), fun segment said => ?_⟩
    · cases task.symm.trans probing
    · rw [data_of_sent sent text said, room]
      exact length_take_maxSize e.cb _ _ _ _ fits

/-- What an event that does not fit says is too long. -/
theorem step_long (refused : e.fits event = false) (stepped : e.step event = .ok e') :
    ∃ segment, e'.cb.rt = e.cb.rt.transmit segment ∧
      ¬segment.data.length ≤ min e.cb.sender.mss MAX_TEXT := by
  unfold fits at refused
  split at refused
  next buf env =>
    simp only [Bool.or_eq_false_iff, decide_eq_false_iff_not, Bool.not_eq_false'] at refused
    obtain ⟨⟨⟨notDone, small⟩, atOnce⟩, long⟩ := refused
    obtain ⟨⟨result, cb⟩, ran, eq⟩ := bind_eq_ok.mp stepped
    rcases ControlBlock.send_cases ran with ⟨fail, cc, -, -, refuses⟩ |
      ⟨rfl, -, -, ⟨-, segment, text, sent⟩ | ⟨later, -⟩⟩
    -- a send that is refused fits
    · simp only [ControlBlock.refuses, notDone, atOnce, Bool.false_or, Bool.not_true, Bool.false_and,
        Bool.or_false, decide_eq_true_eq] at refuses
      exact (small refuses).elim
    · cases eq
      refine ⟨segment, sent.rt, ?_⟩
      rw [text.data]
      exact long
    · cases atOnce.symm.trans later
  next mac env =>
    split at refused
    next sendNext waiting =>
      simp only [step, call, senderStep, waiting] at stepped
      obtain ⟨⟨task, cb⟩, ran, eq⟩ := bind_eq_ok.mp stepped
      obtain ⟨b, bs, rest, -, -, segment, text, sent⟩ := ControlBlock.senderProbe_sentText ran
      cases eq
      refine ⟨segment, sent.rt, ?_⟩
      rw [text.data]
      intro short
      exact of_decide_eq_false refused (Nat.le_min.mp short).1
    next sendNext winSz effectiveCwnd sentData waiting =>
      simp only [step, call, senderStep, waiting] at stepped
      obtain ⟨⟨task, cb⟩, ran, eq⟩ := bind_eq_ok.mp stepped
      obtain ⟨front, rest, queue, -, segment, text, sent⟩ := ControlBlock.senderTransmit_sentText ran
      cases eq
      refine ⟨segment, sent.rt, ?_⟩
      rw [text.data, List.length_take]
      rw [queue, List.headD_cons] at refused
      intro short
      exact of_decide_eq_false refused (Nat.le_min.mp short).2
    next => cases refused
  next => cases refused

/-! ## Runs -/

/-- All that was said is proper, and what is to be said again fits. -/
structure Trim (eof : Fail) (start e : Endpoint σ) : Prop where
  kept : start.cb.rt.transmitted <+: e.cb.rt.transmitted
  checksummed : e.cb.rt.tcpOptions.txChecksumOffload = false
  mss : e.cb.sender.mss = start.cb.sender.mss
  probe : e.ProbeFits
  proper : ∀ segment ∈ start.said e, Proper eof start.cb.sender.mss segment

variable {eof : Fail}

/-- An event that fits keeps a run trim, -/
theorem step_trim (h : Trim eof start e) (fits : e.fits event = true)
    (stepped : e.step event = .ok e') : Trim eof start e' := by
  have mss := (step_mss stepped).trans h.mss
  obtain ⟨probe, short⟩ := step_short h.probe fits stepped
  rcases step_said stepped with same | ⟨segment, said, plain⟩
  · refine ⟨same ▸ h.kept, same ▸ h.checksummed, mss, probe, ?_⟩
    rw [Endpoint.said, same]
    exact h.proper
  · refine ⟨?_, ?_, mss, probe, ?_⟩
    · rw [said]
      exact h.kept.trans (List.prefix_append _ _)
    · rw [said]
      exact h.checksummed
    · rw [said_transmit h.kept said]
      intro other member
      rcases List.mem_append.mp member with old | new
      · exact h.proper other old
      · rw [List.mem_singleton.mp new]
        exact (proper_iff plain h.checksummed).mpr (h.mss ▸ short segment said)

/-- and what one says that does not fit is not proper. -/
theorem not_proper_of_long (h : Trim eof start e) (long : ¬e.fits event = true)
    (stepped : e.step event = .ok e') :
    ¬∀ segment ∈ start.said e', Proper eof start.cb.sender.mss segment := by
  obtain ⟨segment, said, long⟩ := step_long (Bool.eq_false_of_not_eq_true long) stepped
  intro proper
  have plain : segment.Plain e.cb.rt.tcpOptions := by
    rcases step_said stepped with same | ⟨other, said', plain⟩
    · exact (e.cb.rt.transmit_ne segment (said.symm.trans same)).elim
    · rw [Runtime.transmit_inj (said.symm.trans said')]
      exact plain
  have member : segment ∈ start.said e' := by
    rw [said_transmit h.kept said]
    exact List.mem_append_right _ (List.mem_singleton_self segment)
  exact long (h.mss ▸ (proper_iff plain h.checksummed).mp (proper segment member))

/-- The segments of a connection that writes checksums are proper exactly when all that it sends fits. -/
theorem proper_iff_fits (eof : Fail) (cb : ControlBlock σ) (events : List Event)
    (checksummed : cb.rt.tcpOptions.txChecksumOffload = false)
    (ran : (Endpoint.start cb).run events = .ok e) :
    (∀ n t, (Endpoint.start cb).run (events.take n) = .ok t →
        ∀ segment ∈ (Endpoint.start cb).said t, Proper eof cb.sender.mss segment) ↔
      Machine.Admits step (fun e event => e.fits event = true) (Endpoint.start cb) events := by
  have trim : Trim eof (Endpoint.start cb) (Endpoint.start cb) := by
    refine ⟨List.prefix_rfl, checksummed, rfl, ?_, ?_⟩
    · intro sendNext buf mac timeout probing
      cases probing
    · simp [Endpoint.said]
  exact Machine.forall_take_iff_admits (Trim eof (Endpoint.start cb))
    (fun t => ∀ segment ∈ (Endpoint.start cb).said t, Proper eof cb.sender.mss segment)
    (fun e event => e.fits event = true) step_trim (fun h => h.proper) not_proper_of_long trim ran

end Endpoint

end Inetstack.Tcp
