import Inetstack.Tcp.Established.Background
import Inetstack.Laws.Tcp.SequenceNumber
import Inetstack.Laws.Tcp.Established.CtrlBlk

/-!
# What the send side can do

There are three places that put text on the wire for the first time: the fast path of `send`, the
background sender, and its window probe. Each of them takes a piece of the stream, transmits it at
some sequence number and advances SND.NXT by its length, where an empty piece is the end-of-send
marker and counts one. `SentText` is what the three have in common; the lemmas say which piece, at
which number, and what is left in the queue.
-/

namespace Inetstack.Tcp

open Machine (bind_eq_ok)

/-- The sequence space a piece of the stream takes up: the end-of-send marker takes one. -/
def Buffer.seqLength (buf : Buffer) : Nat := if buf.isEmpty then 1 else buf.length

/-- The code's cast of that length. -/
theorem Buffer.seqLength_cast (buf : Buffer) :
    SeqNumber.mk (if buf.isEmpty then 1 else UInt32.ofNat buf.length) =
      (buf.seqLength : SeqNumber) := by
  unfold Buffer.seqLength
  split
  · rfl
  · rfl

theorem Buffer.seqLength_of_ne_nil {buf : Buffer} (h : buf ≠ []) : buf.seqLength = buf.length := by
  unfold Buffer.seqLength
  rw [if_neg (by simpa using h)]

@[simp] theorem Buffer.seqLength_nil : Buffer.seqLength [] = 1 := rfl

theorem Buffer.length_le_seqLength (buf : Buffer) : buf.length ≤ buf.seqLength := by
  cases buf with
  | nil => exact Nat.zero_le _
  | cons b bs => exact le_rfl

/-- A segment the send side built around a piece of the stream. -/
structure TcpSegment.Text (segment : TcpSegment) (seq : SeqNumber) (fin : Bool) (buf : Buffer) :
    Prop where
  data : segment.data = buf
  seqNum : segment.tcpHdr.seqNum = seq
  fin : segment.tcpHdr.fin = fin
  syn : segment.tcpHdr.syn = false

/-- The sequence and acknowledgement number of SND.WL1 and SND.WL2. -/
def Sender.lastUpdate (s : Sender) : SeqNumber × SeqNumber :=
  (s.sendWindowLastUpdateSeq, s.sendWindowLastUpdateAck)

namespace ControlBlock

variable {σ : Type}

/-- `cb'` is `cb` after a text segment has gone out and the sender, the congestion control and the
retransmission timer have been brought up to date. -/
def SentText (cb : ControlBlock σ) (segment : TcpSegment) (sender : Sender) (cb' : ControlBlock σ) :
    Prop :=
  ∃ cc deadline, cb' = { cb with
    rt := cb.rt.transmit segment
    ackDeadline := none
    state := if segment.tcpHdr.fin then stateAfterFinSent cb.state else cb.state
    sender := sender
    cc := cc
    retransmitDeadline := deadline }

namespace SentText

variable {cb cb' : ControlBlock σ} {segment : TcpSegment} {sender : Sender}

theorem sender_eq (h : cb.SentText segment sender cb') : cb'.sender = sender := by
  obtain ⟨cc, deadline, rfl⟩ := h
  rfl

theorem transmitted (h : cb.SentText segment sender cb') :
    cb'.rt.transmitted = cb.rt.transmitted ++ [segment] := by
  obtain ⟨cc, deadline, rfl⟩ := h
  rfl

theorem userIsDoneSending (h : cb.SentText segment sender cb') :
    cb'.userIsDoneSending = cb.userIsDoneSending := by
  obtain ⟨cc, deadline, rfl⟩ := h
  rfl

theorem receiveSide (h : cb.SentText segment sender cb') : cb'.receiveSide = cb.receiveSide := by
  obtain ⟨cc, deadline, rfl⟩ := h
  have hstate : (if segment.tcpHdr.fin then stateAfterFinSent cb.state else cb.state).peerSide =
      cb.state.peerSide := by
    split
    · exact stateAfterFinSent_peerSide cb.state
    · rfl
  simp only [ControlBlock.receiveSide, hstate]

end SentText

/-- The sender after the fast path has sent a piece. -/
def senderAfterSend (s : Sender) (buf : Buffer) (now : Instant) : Sender :=
  { s with
    sendNext := s.sendNext + buf.seqLength
    unsentSeqNo := s.unsentSeqNo + buf.seqLength
    unackedQueue := s.unackedQueue ++ [{ bytes := buf, initialTx := some now }] }

/-- The sender after the background task has sent a piece off the queue. -/
def senderAfterPop (s : Sender) (buf : Buffer) (left : List Buffer) (now : Instant) : Sender :=
  { s with
    sendNext := s.sendNext + buf.seqLength
    unsentQueue := left
    unackedQueue := s.unackedQueue ++ [{ bytes := buf, initialTx := some now }] }

variable [CongestionControl σ]

theorem sendImmediate_sentText {cb cb' : ControlBlock σ} {now : Instant} {buf : Buffer}
    {mac : MacAddress} (ran : cb.sendImmediate now buf mac = .ok cb') :
    ∃ segment : TcpSegment, segment.Text cb.sender.sendNext buf.isEmpty buf ∧
      cb.SentText segment (senderAfterSend cb.sender buf now) cb' := by
  obtain ⟨header, built, ran⟩ := bind_eq_ok.mp ran
  have noSyn := (tcpHeader_flags built).1
  simp only [Buffer.seqLength_cast] at ran
  exact ⟨cb.segmentOf { header with seqNum := cb.sender.sendNext, fin := buf.isEmpty } buf mac,
    ⟨rfl, rfl, rfl, noSyn⟩, _, _, (Except.ok.inj ran).symm⟩

/-- `send` finds the queue empty, room for the buffer, and the link address known. -/
def sendsAtOnce (cb : ControlBlock σ) (env : Env) (buf : Buffer) : Bool :=
  cb.sender.unsentQueue.isEmpty &&
    ({ cb with cc := CongestionControl.onCwndCheckBeforeSend env.now cb.cc } :
      ControlBlock σ).roomToSend buf && env.remoteLinkAddr.isSome

theorem sendsAtOnce_empty {cb : ControlBlock σ} {env : Env} {buf : Buffer}
    (h : cb.sendsAtOnce env buf = true) : cb.sender.unsentQueue = [] := by
  simp only [sendsAtOnce, Bool.and_eq_true] at h
  simpa using h.1.1

/-- A buffer that cannot go out at once is left to the background sender. -/
theorem send_of_waits {cb : ControlBlock σ} {env : Env} {buf : Buffer}
    (notDone : cb.userIsDoneSending = false) (small : buf.length < 2 ^ 32)
    (waits : cb.sendsAtOnce env buf = false) :
    ∃ cc, cb.send env buf = .ok (({ cb with cc := cc } : ControlBlock σ).sendLater buf) := by
  unfold send
  rw [if_neg (Bool.eq_false_iff.mp notDone), if_neg (Nat.not_le.mpr small)]
  split
  next empty =>
    dsimp only
    split
    next mac room known =>
      simp only [sendsAtOnce, empty, room, known, Option.isSome_some, Bool.and_self,
        Bool.true_eq_false] at waits
    next => exact ⟨_, rfl⟩
  next => exact ⟨cb.cc, rfl⟩

/-- A buffer that can go out at once does. -/
theorem send_of_atOnce {cb : ControlBlock σ} {env : Env} {buf : Buffer}
    (notDone : cb.userIsDoneSending = false) (small : buf.length < 2 ^ 32)
    (atOnce : cb.sendsAtOnce env buf = true) :
    ∃ cc mac, cb.send env buf =
      (({ cb with cc := cc } : ControlBlock σ).sendImmediate env.now buf mac).map (Except.ok (), ·) := by
  simp only [sendsAtOnce, Bool.and_eq_true, Option.isSome_iff_exists] at atOnce
  obtain ⟨⟨empty, room⟩, mac, known⟩ := atOnce
  refine ⟨CongestionControl.onCwndCheckBeforeSend env.now cb.cc, mac, ?_⟩
  unfold send
  rw [if_neg (Bool.eq_false_iff.mp notDone), if_neg (Nat.not_le.mpr small), if_pos empty]
  dsimp only
  rw [room, known]
  rfl

/-- **The ways through `send`.** It refuses the buffer at the door, puts it on the wire, or leaves it to the
background sender. -/
theorem send_ways (cb : ControlBlock σ) (env : Env) (buf : Buffer) :
    ((cb.userIsDoneSending || decide (2 ^ 32 ≤ buf.length)) = true ∧
      ∃ fail, cb.send env buf = .ok (.error fail, cb)) ∨
    (cb.userIsDoneSending = false ∧ buf.length < 2 ^ 32 ∧
      ((cb.sendsAtOnce env buf = true ∧ ∃ cc mac, cb.send env buf =
        (({ cb with cc := cc } : ControlBlock σ).sendImmediate env.now buf mac).map (Except.ok (), ·)) ∨
      (cb.sendsAtOnce env buf = false ∧
        ∃ cc, cb.send env buf = .ok (({ cb with cc := cc } : ControlBlock σ).sendLater buf)))) := by
  by_cases done : cb.userIsDoneSending = true
  · refine .inl ⟨by rw [done, Bool.true_or], ?_⟩
    unfold send
    rw [if_pos done]
    exact ⟨_, rfl⟩
  by_cases large : 2 ^ 32 ≤ buf.length
  · refine .inl ⟨by rw [decide_eq_true large, Bool.or_true], ?_⟩
    unfold send
    rw [if_neg done, if_pos large]
    exact ⟨_, rfl⟩
  have notDone : cb.userIsDoneSending = false := Bool.eq_false_iff.mpr done
  have small : buf.length < 2 ^ 32 := Nat.not_le.mp large
  refine .inr ⟨notDone, small, ?_⟩
  cases atOnce : cb.sendsAtOnce env buf with
  | true => exact .inl ⟨rfl, send_of_atOnce notDone small atOnce⟩
  | false => exact .inr ⟨rfl, send_of_waits notDone small atOnce⟩

/-- `send` refuses the buffer: after `close`, or because it is too long, or because it would have to
wait and the queue is too long. -/
def refuses (cb : ControlBlock σ) (env : Env) (buf : Buffer) : Bool :=
  cb.userIsDoneSending || decide (2 ^ 32 ≤ buf.length) ||
    !cb.sendsAtOnce env buf && decide (UNSENT_QUEUE_CUTOFF < cb.sender.unsentQueue.length)

/-- `cb'` is `cb` with the buffer at the end of the unsent queue. -/
def Queued (cb : ControlBlock σ) (buf : Buffer) (cb' : ControlBlock σ) : Prop :=
  ∃ cc, cb' = { cb with
    cc := cc
    sender := { cb.sender with
      unsentQueue := cb.sender.unsentQueue ++ [buf]
      unsentSeqNo := cb.sender.unsentSeqNo + buf.length } }

omit [CongestionControl σ] in
theorem sendLater_cases {cb cb' : ControlBlock σ} {buf : Buffer} {cc : σ}
    {result : Except Fail Unit}
    (ran : ({ cb with cc := cc } : ControlBlock σ).sendLater buf = (result, cb')) :
    (∃ fail cc, result = .error fail ∧ cb' = { cb with cc := cc } ∧
      UNSENT_QUEUE_CUTOFF < cb.sender.unsentQueue.length) ∨
    (result = .ok () ∧ cb.sender.unsentQueue.length ≤ UNSENT_QUEUE_CUTOFF ∧ cb.Queued buf cb') := by
  unfold sendLater at ran
  split at ran
  next full =>
    cases ran
    exact .inl ⟨_, cc, rfl, rfl, full⟩
  next below =>
    cases ran
    exact .inr ⟨rfl, Nat.le_of_not_lt below, cc, rfl⟩

/-- **What `send` can do.** It refuses the buffer and changes nothing but congestion control; or
it puts the buffer on the wire at SND.NXT; or it finds no room and queues the buffer. -/
theorem send_cases {cb cb' : ControlBlock σ} {env : Env} {buf : Buffer}
    {result : Except Fail Unit} (ran : cb.send env buf = .ok (result, cb')) :
    (∃ fail cc, result = .error fail ∧ cb' = { cb with cc := cc } ∧ cb.refuses env buf = true) ∨
    (result = .ok () ∧ cb.userIsDoneSending = false ∧ buf.length < 2 ^ 32 ∧
      ((cb.sendsAtOnce env buf = true ∧
          ∃ segment : TcpSegment, segment.Text cb.sender.sendNext buf.isEmpty buf ∧
            cb.SentText segment (senderAfterSend cb.sender buf env.now) cb') ∨
        (cb.sendsAtOnce env buf = false ∧
          cb.sender.unsentQueue.length ≤ UNSENT_QUEUE_CUTOFF ∧ cb.Queued buf cb'))) := by
  rcases cb.send_ways env buf with ⟨door, fail, eq⟩ |
    ⟨notDone, small, ⟨atOnce, cc, mac, eq⟩ | ⟨waits, cc, eq⟩⟩
  · rw [eq] at ran
    cases ran
    exact .inl ⟨fail, cb.cc, rfl, rfl, by rw [refuses, door, Bool.true_or]⟩
  · rw [eq] at ran
    obtain ⟨cb₁, sent, ran⟩ := Machine.map_eq_ok _ ran
    cases ran
    obtain ⟨segment, text, cc, deadline, eq⟩ := sendImmediate_sentText sent
    exact .inr ⟨rfl, notDone, small, .inl ⟨atOnce, segment, text, cc, deadline, eq⟩⟩
  · rw [eq] at ran
    rcases sendLater_cases (Except.ok.inj ran) with
      ⟨fail, cc, refused, eq, full⟩ | ⟨rfl, below, queued⟩
    · refine .inl ⟨fail, cc, refused, eq, ?_⟩
      rw [refuses, waits, decide_eq_true full, Bool.not_false, Bool.and_self, Bool.or_true]
    · exact .inr ⟨rfl, notDone, small, .inr ⟨waits, below, queued⟩⟩

/-- `close` does nothing the second time, and the first time sends or queues the marker. -/
theorem close_cases {cb cb' : ControlBlock σ} {env : Env} (ran : cb.close env = .ok cb') :
    (cb.userIsDoneSending = true ∧ cb' = cb) ∨
    ∃ cb₁, cb.send env [] = .ok (.ok (), cb₁) ∧ cb' = { cb₁ with userIsDoneSending := true } := by
  unfold close at ran
  split at ran
  next done => exact .inl ⟨done, (Except.ok.inj ran).symm⟩
  next =>
    obtain ⟨⟨result, cb₁⟩, sent, ran⟩ := bind_eq_ok.mp ran
    cases result with
    | ok u => exact .inr ⟨cb₁, sent, (Except.ok.inj ran).symm⟩
    | error fail => cases ran

/-! ## The background sender -/

/-- **What an iteration of the background sender can do.** It transmits nothing; it goes to wait for
ARP only when there is something to send, before a probe if the window is zero and else with the
room it found. -/
theorem senderIterate_cases {cb cb' : ControlBlock σ} {now : Instant} {task : SenderTask}
    (ran : cb.senderIterate now = .ok (task, cb')) :
    ∃ cc, cb' = { cb with cc := cc } ∧
      (task = .top ∨
        (task = .awaitProbe cb.sender.sendNext ∧ cb.sender.sendNext ≠ cb.sender.unsentSeqNo ∧
          cb.sender.sendWindow = 0) ∨
        ∃ effectiveCwnd front rest,
          task = .awaitSend cb.sender.sendNext cb.sender.sendWindow effectiveCwnd cb.sender.sentData ∧
          cb.sender.sendNext ≠ cb.sender.unsentSeqNo ∧ cb.sender.unsentQueue = front :: rest ∧
          cb.sender.sentData + UInt32.ofNat front.length < cb.sender.sendWindow ∧
          cb.sender.sentData < effectiveCwnd ∧
          UInt32.ofNat cb.sender.mss < effectiveCwnd - cb.sender.sentData) := by
  unfold senderIterate at ran
  dsimp only at ran
  split at ran
  · cases ran
    exact ⟨cb.cc, rfl, .inl rfl⟩
  next some_ =>
  split at ran
  next zero =>
    cases ran
    exact ⟨cb.cc, rfl, .inr (.inl ⟨rfl, some_, zero⟩)⟩
  next =>
  cases hqueue : cb.sender.unsentQueue with
  | nil =>
    simp only [Sender.topSizeUnsent, hqueue, List.head?_nil, Option.map_none, reduceCtorEq] at ran
  | cons front rest =>
    simp only [Sender.topSizeUnsent, hqueue, List.head?_cons, Option.map_some] at ran
    split at ran
    · cases ran
      exact ⟨_, rfl, .inl rfl⟩
    next room =>
      cases ran
      simp only [Bool.or_eq_true, decide_eq_true_eq, not_or, UInt32.not_le] at room
      exact ⟨_, rfl, .inr (.inr ⟨_, front, rest, rfl, some_, rfl, room.1.1, room.1.2, room.2⟩)⟩

omit [CongestionControl σ] in
/-- The probe takes the first byte of the queue, and leaves what may be an empty buffer there. -/
theorem senderProbe_sentText {cb cb' : ControlBlock σ} {now : Instant} {sendNext : SeqNumber}
    {mac : MacAddress} {task : SenderTask}
    (ran : cb.senderProbe now sendNext mac = .ok (task, cb')) :
    ∃ b bs rest, cb.sender.unsentQueue = (b :: bs) :: rest ∧
      task = .probing sendNext [b] mac 1 ∧
      ∃ segment : TcpSegment, segment.Text sendNext false [b] ∧
        cb.SentText segment (senderAfterPop cb.sender [b] (bs :: rest) now) cb' := by
  obtain ⟨popped, pop, ran⟩ := bind_eq_ok.mp ran
  unfold Sender.popOneUnsentByte at pop
  cases hqueue : cb.sender.unsentQueue with
  | nil =>
    simp only [hqueue, Except.ok.injEq] at pop
    subst pop
    cases ran
  | cons front rest =>
    simp only [hqueue] at pop
    cases front with
    | nil => cases pop
    | cons b bs =>
      have hadjust : Buffer.adjust (b :: bs) 1 = .ok bs := by
        simp only [Buffer.adjust, List.length_cons, Nat.le_add_left, if_true, List.drop_succ_cons,
          List.drop_zero]
      have htrim : Buffer.trim (b :: bs) ((b :: bs).length - 1) = .ok [b] := by
        have len : (b :: bs).length - ((b :: bs).length - 1) = 1 := by
          simp only [List.length_cons, Nat.add_sub_cancel, Nat.add_sub_cancel_left]
        simp only [Buffer.trim, Nat.sub_le, if_true, len, List.take_succ_cons, List.take_zero]
      rw [hadjust, htrim] at pop
      cases pop
      obtain ⟨header, built, ran⟩ := bind_eq_ok.mp ran
      obtain ⟨noSyn, noFin⟩ := tcpHeader_flags built
      obtain ⟨rfl, eq⟩ := Prod.mk.inj (Except.ok.inj ran)
      refine ⟨b, bs, rest, rfl, rfl, cb.segmentOf { header with seqNum := sendNext } [b] mac,
        ⟨rfl, rfl, noFin, noSyn⟩, cb.cc, cb.retransmitDeadline, ?_⟩
      rw [← eq]
      rfl

omit [CongestionControl σ] in
/-- The probe is repeated as it was. -/
theorem senderProbeAgain_sentText {cb cb' : ControlBlock σ} {sendNext : SeqNumber} {buf : Buffer}
    {mac : MacAddress} {timeout : Duration} {task : SenderTask}
    (ran : cb.senderProbeAgain sendNext buf mac timeout = .ok (task, cb')) :
    task = .probing sendNext buf mac (timeout * 2) ∧
      ∃ segment : TcpSegment, segment.Text sendNext false buf ∧ cb.SentText segment cb.sender cb' := by
  obtain ⟨header, built, ran⟩ := bind_eq_ok.mp ran
  obtain ⟨noSyn, noFin⟩ := tcpHeader_flags built
  obtain ⟨rfl, eq⟩ := Prod.mk.inj (Except.ok.inj ran)
  refine ⟨rfl, cb.segmentOf { header with seqNum := sendNext } buf mac,
    ⟨rfl, rfl, noFin, noSyn⟩, cb.cc, cb.retransmitDeadline, ?_⟩
  rw [← eq]
  simp only [emit, segmentOf, noFin]

/-- What a pop of at most `n` bytes takes off the front buffer leaves the rest of it. -/
def popLeft (n : Nat) (front : Buffer) (rest : List Buffer) : List Buffer :=
  if n < front.length then front.drop n :: rest else rest

/-- What a pop takes and what it leaves are the queue. -/
theorem take_append_popLeft (n : Nat) (front : Buffer) (rest : List Buffer) :
    front.take n ++ (popLeft n front rest).flatten = front ++ rest.flatten := by
  unfold popLeft
  split
  · rw [List.flatten_cons, ← List.append_assoc, List.take_append_drop]
  · rw [List.take_of_length_le (by omega)]

/-- A normal transmission takes as much of the first buffer as fits in the room. -/
theorem senderTransmit_sentText {cb cb' : ControlBlock σ} {now : Instant} {sendNext : SeqNumber}
    {winSz effectiveCwnd sentData : UInt32} {mac : MacAddress} {task : SenderTask}
    (ran : cb.senderTransmit now sendNext winSz effectiveCwnd sentData mac = .ok (task, cb')) :
    ∃ front rest, cb.sender.unsentQueue = front :: rest ∧ task = .top ∧
      ∃ segment : TcpSegment,
        segment.Text sendNext (front.take (cb.maxSize winSz effectiveCwnd sentData)).isEmpty
          (front.take (cb.maxSize winSz effectiveCwnd sentData)) ∧
        cb.SentText segment
          (senderAfterPop cb.sender (front.take (cb.maxSize winSz effectiveCwnd sentData))
            (popLeft (cb.maxSize winSz effectiveCwnd sentData) front rest) now) cb' := by
  unfold senderTransmit at ran
  generalize cb.maxSize winSz effectiveCwnd sentData = n at ran ⊢
  cases hqueue : cb.sender.unsentQueue with
  | nil => simp only [Sender.popUnsent, hqueue, reduceCtorEq] at ran
  | cons front rest =>
    have pop : cb.sender.popUnsent n =
        some (front.take n, { cb.sender with unsentQueue := popLeft n front rest }) := by
      simp only [Sender.popUnsent, hqueue, popLeft]
      split
      · rfl
      · rw [List.take_of_length_le (by omega)]
    simp only [pop] at ran
    obtain ⟨header, built, ran⟩ := bind_eq_ok.mp ran
    have noSyn := (tcpHeader_flags built).1
    simp only [Buffer.seqLength_cast] at ran
    obtain ⟨rfl, eq⟩ := Prod.mk.inj (Except.ok.inj ran)
    exact ⟨front, rest, rfl, rfl,
      cb.segmentOf { header with seqNum := sendNext, fin := (front.take n).isEmpty } (front.take n)
        mac, ⟨rfl, rfl, rfl, noSyn⟩, _, _, eq.symm⟩

end ControlBlock

end Inetstack.Tcp
