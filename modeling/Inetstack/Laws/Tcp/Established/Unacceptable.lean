import Inetstack.Laws.Tcp.Established.Trimming
import Inetstack.Laws.Tcp.Established.ReceivePanics

/-!
# Segments outside the window

RFC 793's table, which the source quotes, has a segment that takes sequence numbers rejected when none of
them is in the receive window, and every such segment when the window is zero; the source means to answer
it with an ACK and to drop it. `receive` looks for RCV.NXT in the segment first. A segment that holds
RCV.NXT is never dropped: when the window is zero it is trimmed to nothing and goes on without its text,
its ACK is processed, and no ACK answers it.
-/

namespace Inetstack.Tcp

open Machine (bind_eq_ok bind_eq_error)

namespace InSegment

/-- RFC 793's test fails: the segment has no number in the window, and an empty one stands neither at
RCV.NXT nor in the window. -/
structure Unacceptable (receiveNext : SeqNumber) (window : UInt32) (header : TcpHeader) (data : Buffer) :
    Prop where
  outside : ∀ i < seqLength header data,
    (header.seqNum + (i : SeqNumber)).within receiveNext window.toNat = false
  empty : seqLength header data = 0 →
    header.seqNum ≠ receiveNext ∧ header.seqNum.within receiveNext window.toNat = false

/-- RCV.NXT is one of the segment's numbers. -/
def holds (header : TcpHeader) (data : Buffer) (receiveNext : SeqNumber) : Bool :=
  receiveNext.within header.seqNum (seqLength header data)

variable {receiveNext : SeqNumber} {window : UInt32} {header : TcpHeader} {data : Buffer}

/-- Nor is the first number of a segment outside the window in it. -/
theorem Unacceptable.first (h : Unacceptable receiveNext window header data) :
    header.seqNum.within receiveNext window.toNat = false := by
  by_cases none : seqLength header data = 0
  · exact (h.empty none).2
  · have first := h.outside 0 (by omega)
    rwa [Nat.cast_zero, add_zero] at first

/-- A segment outside the window that holds RCV.NXT: the window is zero. -/
theorem Unacceptable.window_zero (h : Unacceptable receiveNext window header data)
    (here : holds header data receiveNext = true) : window = 0 := by
  have there := h.outside _ (of_decide_eq_true here)
  rw [← SeqNumber.eq_add_distance, SeqNumber.within, sub_self, decide_eq_false_iff_not] at there
  apply UInt32.toNat_inj.mp
  simpa using there

/-- **Any other segment outside the window is dropped.** -/
theorem Unacceptable.accept_none (h : Unacceptable receiveNext window header data)
    (short : data.length < 2 ^ 16) (elsewhere : holds header data receiveNext = false) :
    accept receiveNext window header data = .ok none := by
  have shaped := arriving_shaped header short
  have length : (arriving header data).segLen.toNat = seqLength header data := shaped.len
  have start : (arriving header data).segStart = header.seqNum := rfl
  have first := h.first
  rw [SeqNumber.within, decide_eq_false_iff_not, Nat.not_lt] at first
  have away : header.seqNum ≠ receiveNext := by
    rintro rfl
    by_cases none : seqLength header data = 0
    · exact (h.empty none).1 rfl
    · rw [holds, SeqNumber.within, sub_self, decide_eq_false_iff_not] at elsewhere
      exact elsewhere (Nat.pos_of_ne_zero none)
  unfold accept
  dsimp only
  rw [if_neg (show ¬(arriving header data).segStart = receiveNext from away)]
  by_cases before : header.seqNum.lt receiveNext = true
  · rw [if_pos (show (arriving header data).segStart.lt receiveNext = true from before), if_pos]
    -- it begins before RCV.NXT and would hold it if it did not end before it
    by_contra after
    have covers := (front_distance shaped arriving_empty before (Bool.eq_false_iff.mpr after)).2
    rw [length, start] at covers
    rw [holds, SeqNumber.within, decide_eq_false_iff_not] at elsewhere
    exact elsewhere covers
  · rw [if_neg (show ¬(arriving header data).segStart.lt receiveNext = true from before), if_pos]
    by_contra notPast
    have inside := distance_lt_window (Bool.eq_false_iff.mpr before) (Bool.eq_false_iff.mpr notPast)
    omega

/-- **A segment that holds RCV.NXT, when the window is zero**, is let through with nothing in it but its
ACK field, unless it is a SYN at RCV.NXT. -/
theorem accept_zero (short : data.length < 2 ^ 16) (here : holds header data receiveNext = true)
    (noSyn : (header.syn && header.seqNum == receiveNext) = false) :
    ∃ seg, accept receiveNext 0 header data = .ok (some seg) ∧ seg.segStart = receiveNext ∧
      seg.data = [] ∧ seg.header = { header with syn := false, fin := false } := by
  have shaped := arriving_shaped header short
  have length : (arriving header data).segLen.toNat = seqLength header data := shaped.len
  have small : (0 : UInt32).toNat < 2 ^ 30 := by decide
  have covers : (receiveNext - header.seqNum).toNat < seqLength header data := of_decide_eq_true here
  unfold accept
  dsimp only
  by_cases first : header.seqNum = receiveNext
  · have syn : header.syn = false := by simpa [first] using noSyn
    obtain ⟨seg, trimmed, back⟩ := trimBack_eq shaped small (o := 0)
      (first.trans (add_zero receiveNext).symm) (by
        change 0 + header.syn.toNat ≤ _
        rw [syn]
        exact Nat.le_refl 0)
    have beyond : decide (0 + (arriving header data).segLen.toNat ≤ (0 : UInt32).toNat) = false := by
      rw [length, UInt32.toNat_zero, decide_eq_false_iff_not]
      omega
    rw [if_pos (show (arriving header data).segStart = receiveNext from first), trimmed]
    refine ⟨seg, rfl, back.start.trans first, by simp [back.data], ?_⟩
    rw [back.header, beyond, Bool.and_false, ← syn]
    rfl
  -- the segment begins before RCV.NXT: the cut of its front leaves what the window is to hold
  · have some_ : 1 ≤ (receiveNext - header.seqNum).toNat := by
      by_contra none
      have same : (receiveNext - header.seqNum).toNat = 0 := by omega
      have there := SeqNumber.eq_add_distance receiveNext header.seqNum
      rw [same, Nat.cast_zero, add_zero] at there
      exact first there.symm
    have lengthLt := shaped.short
    have before : header.seqNum.lt receiveNext = true := by
      rw [SeqNumber.lt_iff]
      rw [SeqNumber.toNat_sub] at covers some_ ⊢
      have := header.seqNum.toNat_lt
      have := receiveNext.toNat_lt
      omega
    have after : ¬(arriving header data).segEnd.lt receiveNext = true := by
      rw [SeqNumber.lt_iff, front_last shaped (length ▸ covers), add_sub_cancel_left,
        SeqNumber.toNat_cast]
      omega
    obtain ⟨cut, trimmedFront, front⟩ := trimFront_eq shaped some_ (length ▸ covers)
    obtain ⟨seg, trimmed, back⟩ := trimBack_eq front.shaped small (o := 0)
      (front.start.trans (add_zero receiveNext).symm) (by rw [front.header]; exact Nat.zero_le _)
    have left : cut.segLen.toNat = seqLength header data - (receiveNext - header.seqNum).toNat := by
      rw [front.len, length]
      rfl
    have beyond : decide (0 + cut.segLen.toNat ≤ (0 : UInt32).toNat) = false := by
      rw [left, UInt32.toNat_zero, decide_eq_false_iff_not]
      omega
    rw [if_neg (show ¬(arriving header data).segStart = receiveNext from first),
      if_pos (show (arriving header data).segStart.lt receiveNext = true from before), if_neg after,
      trimmedFront]
    refine ⟨seg, ?_, back.start.trans front.start, by simp [back.data], ?_⟩
    · change (cut.trimBack _ >>= fun seg => Except.ok (some seg)) = _
      rw [trimmed]
      rfl
    · rw [back.header, beyond, Bool.and_false, front.header]
      rfl

end InSegment

namespace ControlBlock

variable {σ : Type}

/-- One ACK of RCV.NXT went out, and the connection is as it was. -/
structure Dismissed (cb cb' : ControlBlock σ) : Prop where
  answered : ∃ segment : TcpSegment, segment.PureAck ∧ segment.tcpHdr.ack = true ∧
    segment.tcpHdr.ackNum = cb.receiver.receiveNext ∧
    cb'.rt.transmitted = cb.rt.transmitted ++ [segment]
  state : cb'.state = cb.state
  receiver : cb'.receiver = cb.receiver
  sender : cb'.sender = cb.sender
  outOfOrder : cb'.outOfOrder = cb.outOfOrder
  outOfOrderFin : cb'.outOfOrderFin = cb.outOfOrderFin

/-- The window fits the window field of a header. -/
def advertises (cb : ControlBlock σ) : Bool :=
  (cb.getReceiveWindowSize >>> cb.windowScale).toNat < 2 ^ 16

/-- A header needs a window that fits it. -/
theorem tcpHeader_ok_iff (cb : ControlBlock σ) :
    (∃ header, cb.tcpHeader = .ok header) ↔ cb.advertises = true := by
  unfold tcpHeader hdrWindowSize advertises
  rw [decide_eq_true_eq]
  by_cases fits : (cb.getReceiveWindowSize >>> cb.windowScale).toNat < 2 ^ 16
  · simp only [fits, if_true, iff_true]
    exact ⟨_, rfl⟩
  · simp only [fits, if_false, iff_false]
    rintro ⟨header, built⟩
    cases built

/-- Which segments outside the window are answered and dropped. Those that hold RCV.NXT are not, but for
one with an ACK of data not yet sent, which is answered for that reason. -/
def dismisses (cb : ControlBlock σ) (header : TcpHeader) (data : Buffer) : Bool :=
  if InSegment.holds header data cb.receiver.receiveNext then
    !(header.syn && header.seqNum == cb.receiver.receiveNext) && header.ack &&
      cb.sender.sendUnacked.lt header.ackNum && !header.ackNum.le cb.sender.sendNext
  else cb.advertises

/-- `send_ack` answers, when the link address is known, exactly if the window fits. -/
theorem sendAck_dismissed_iff (cb : ControlBlock σ) {env : Env} (resolved : env.remoteLinkAddr.isSome) :
    (∃ cb', cb.sendAck env = .ok cb' ∧ Dismissed cb cb') ↔ cb.advertises = true := by
  obtain ⟨mac, known⟩ := Option.isSome_iff_exists.mp resolved
  rw [← tcpHeader_ok_iff]
  constructor
  · rintro ⟨cb', ran, -⟩
    obtain ⟨header, built, -⟩ := bind_eq_ok.mp ran
    exact ⟨header, built⟩
  · rintro ⟨header, built⟩
    have ran : cb.sendAck env = .ok (cb.emit { header with seqNum := cb.sender.sendNext } [] mac) :=
      bind_eq_ok.mpr ⟨header, built, by rw [known]⟩
    obtain ⟨w, -, rfl⟩ := tcpHeader_ok built
    exact ⟨_, ran, ⟨_, ⟨rfl, rfl, rfl⟩, rfl, rfl, rfl⟩, rfl, rfl, rfl, rfl, rfl⟩

/-- Nothing was answered if nothing was transmitted. -/
theorem not_dismissed {cb cb' : ControlBlock σ} (silent : cb'.rt = cb.rt) : ¬Dismissed cb cb' := by
  intro dismissed
  obtain ⟨segment, -, -, -, transmitted⟩ := dismissed.answered
  have length := congrArg List.length transmitted
  rw [silent, List.length_append, List.length_singleton] at length
  omega

variable [CongestionControl σ]

/-- An ACK of data not yet sent is not processed. -/
theorem processAck_unsent {cb : ControlBlock σ} (now : Instant) {header : TcpHeader}
    (newer : cb.sender.sendUnacked.lt header.ackNum = true)
    (unsent : header.ackNum.le cb.sender.sendNext = false) :
    ∃ cc, cb.processAck now header = .ok (false, { cb with cc := cc }) := by
  unfold processAck
  simp only [newer, unsent, if_true, Bool.false_eq_true, if_false]
  exact ⟨_, rfl⟩

/-- A segment in the window with nothing in it but an ACK field is answered exactly if it has an ACK of
data not yet sent. -/
theorem receiveInWindow_dismissed_iff (cb : ControlBlock σ) {env : Env} {seg : InSegment}
    (resolved : env.remoteLinkAddr.isSome) (fits : cb.advertises = true)
    (start : seg.segStart = cb.receiver.receiveNext) (empty : seg.data = [])
    (rst : seg.header.rst = false) (syn : seg.header.syn = false) (fin : seg.header.fin = false) :
    (∃ cb', cb.receiveInWindow env seg = .ok cb' ∧ Dismissed cb cb') ↔
      (seg.header.ack && cb.sender.sendUnacked.lt seg.header.ackNum &&
        !seg.header.ackNum.le cb.sender.sendNext) = true := by
  unfold receiveInWindow
  simp only [rst, syn, Bool.false_eq_true, if_false]
  cases ack : seg.header.ack with
  | false =>
    simp only [Bool.not_false, if_true, Bool.false_and, Bool.false_eq_true, iff_false]
    rintro ⟨cb', ran, dismissed⟩
    cases ran
    exact not_dismissed rfl dismissed
  | true =>
    simp only [Bool.not_true, Bool.false_eq_true, if_false, Bool.true_and]
    by_cases unsent : (cb.sender.sendUnacked.lt seg.header.ackNum &&
        !seg.header.ackNum.le cb.sender.sendNext) = true
    · obtain ⟨newer, unknown⟩ := Bool.and_eq_true_iff.mp unsent
      obtain ⟨cc, processed⟩ := processAck_unsent env.now newer (by simpa using unknown)
      rw [processed, unsent]
      simp only [iff_true]
      obtain ⟨cb', ran, dismissed⟩ :=
        (sendAck_dismissed_iff { cb with cc := cc } resolved).mpr fits
      exact ⟨cb', ran, dismissed.answered, dismissed.state, dismissed.receiver, dismissed.sender,
        dismissed.outOfOrder, dismissed.outOfOrderFin⟩
    · refine iff_of_false ?_ unsent
      rintro ⟨cb', ran, dismissed⟩
      obtain ⟨⟨go, cb₁⟩, processed, ran⟩ := bind_eq_ok.mp ran
      have goes : go = true ∧ cb₁.rt = cb.rt := by
        rcases processAck_cases processed with ⟨cc, rfl, ⟨go, -⟩ | ⟨-, newer, unknown⟩⟩ |
          ⟨go, -, -, cc, queue, rto, deadline, state, -, rfl⟩
        · exact ⟨go, rfl⟩
        · simp [newer, unknown] at unsent
        · exact ⟨go, rfl⟩
      obtain ⟨rfl, silent⟩ := goes
      simp only [start, if_true, receiveInOrder, empty, fin, List.isEmpty_nil, Bool.not_true,
        Bool.false_and, Bool.false_eq_true, if_false, Except.ok.injEq] at ran
      subst ran
      exact not_dismissed silent dismissed

/-- **Which segments outside the window are answered with an ACK and dropped**, in any state. -/
theorem receive_dismissed_iff {cb : ControlBlock σ} {env : Env} {header : TcpHeader} {data : Buffer}
    (short : data.length < 2 ^ 16) (resolved : env.remoteLinkAddr.isSome) (rst : header.rst = false)
    (outside : InSegment.Unacceptable cb.receiver.receiveNext cb.getReceiveWindowSize header data) :
    (∃ cb', cb.receive env header data = .ok cb' ∧ Dismissed cb cb') ↔
      cb.dismisses header data = true := by
  unfold receive dismisses
  cases here : InSegment.holds header data cb.receiver.receiveNext with
  | false =>
    rw [outside.accept_none short here]
    simp only [Bool.false_eq_true, if_false]
    change (∃ cb', (if header.rst then .ok cb else cb.sendAck env) = .ok cb' ∧ _) ↔ _
    simp only [rst, Bool.false_eq_true, if_false]
    exact sendAck_dismissed_iff cb resolved
  | true =>
    have zero := outside.window_zero here
    have fits : cb.advertises = true := by simp [advertises, zero]
    rw [zero]
    simp only [if_true]
    cases syn : (header.syn && header.seqNum == cb.receiver.receiveNext) with
    | true =>
      obtain ⟨isSyn, first⟩ := Bool.and_eq_true_iff.mp syn
      rw [InSegment.accept_syn short isSyn (eq_of_beq first)]
      simp only [Bool.not_true, Bool.false_and, Bool.false_eq_true, iff_false]
      rintro ⟨cb', ran, -⟩
      cases ran
    | false =>
      obtain ⟨seg, accepted, start, empty, flags⟩ := InSegment.accept_zero short here syn
      rw [accepted]
      have answered := receiveInWindow_dismissed_iff cb resolved fits start empty
        (by rw [flags]; exact rst) (by rw [flags]) (by rw [flags])
      rw [flags] at answered
      simp only [Bool.not_false, Bool.true_and]
      exact answered

end ControlBlock

namespace Endpoint

variable {σ : Type} [CongestionControl σ]

/-- **Segments outside the window are answered and dropped**, in every state a connection can reach,
exactly if they do not hold RCV.NXT and the window can be advertised, or hold it and have an ACK of data
not yet sent. -/
theorem unacceptable_dismissed_iff (o : Opening) (events : List Event)
    (e : Endpoint σ)
    (_ran : (opened o).run events = .ok e) (header : TcpHeader) (data : Buffer) (env : Env)
    (short : data.length < 2 ^ 16) (resolved : env.remoteLinkAddr.isSome) (rst : header.rst = false)
    (outside : InSegment.Unacceptable e.cb.receiver.receiveNext e.cb.getReceiveWindowSize header data) :
    (∃ cb', e.cb.receive env header data = .ok cb' ∧ e.cb.Dismissed cb') ↔
      e.cb.dismisses header data = true :=
  ControlBlock.receive_dismissed_iff short resolved rst outside

/-- A byte that comes twice is answered the second time. -/
theorem unacceptable_dismissed_iff_duplicate :
    ∃ (e : Endpoint CongestionControl.None) (cb' : _),
      (Endpoint.start (sampleBlock ⟨1⟩ ⟨40⟩ 100 100 1460)).run
        [.receive (sampleHeader 1 40 10) [5] sampleEnv] = .ok e ∧
      e.cb.receive sampleEnv (sampleHeader 1 40 10) [5] = .ok cb' ∧ e.cb.Dismissed cb' := by
  obtain ⟨e, ran, view⟩ := Machine.map_eq_ok
    (x := (Endpoint.start (sampleBlock ⟨1⟩ ⟨40⟩ 100 100 1460)).run
      [.receive (sampleHeader 1 40 10) [5] sampleEnv])
    (fun e => (e.cb.receiver.receiveNext, e.cb.getReceiveWindowSize,
      e.cb.dismisses (sampleHeader 1 40 10) [5]))
    (t := (⟨2⟩, 99, true)) (by decide +kernel)
  simp only [Prod.mk.injEq] at view
  obtain ⟨next, window, dismisses⟩ := view
  obtain ⟨cb', received, dismissed⟩ := (unacceptable_dismissed_iff
    (sampleOpening ⟨1⟩ ⟨40⟩ 100 100 1460) _ e ran (sampleHeader 1 40 10) [5] sampleEnv (by decide) rfl rfl
    (by rw [next, window]; exact ⟨by decide, by decide⟩)).mpr dismisses
  exact ⟨e, cb', ran, received, dismissed⟩

set_option synthInstance.maxSize 512 in
/-- The window is full, and the next byte comes with an ACK of the byte sent: no ACK answers it, and
SND.UNA has changed. -/
theorem unacceptable_not_dismissed :
    ∃ (e : Endpoint CongestionControl.None) (cb' : _),
      (Endpoint.start (sampleBlock ⟨1⟩ ⟨40⟩ 1 100 1460)).run
        [.call (.send [7]) sampleEnv, .receive (sampleHeader 1 40 10) [5] sampleEnv] = .ok e ∧
      InSegment.Unacceptable e.cb.receiver.receiveNext e.cb.getReceiveWindowSize
        (sampleHeader 2 41 10) [6] ∧
      e.cb.receive sampleEnv (sampleHeader 2 41 10) [6] = .ok cb' ∧
      cb'.rt.transmitted.length = e.cb.rt.transmitted.length ∧ e.cb.sender.sendUnacked = ⟨40⟩ ∧
      cb'.sender.sendUnacked = ⟨41⟩ ∧ ¬e.cb.Dismissed cb' := by
  obtain ⟨e, ran, view⟩ := Machine.map_eq_ok
    (x := (Endpoint.start (sampleBlock ⟨1⟩ ⟨40⟩ 1 100 1460)).run
      [.call (.send [7]) sampleEnv, .receive (sampleHeader 1 40 10) [5] sampleEnv])
    (fun e => (e.cb.receiver.receiveNext, e.cb.getReceiveWindowSize, e.cb.rt.transmitted.length,
      e.cb.sender.sendUnacked, (e.cb.receive sampleEnv (sampleHeader 2 41 10) [6]).map fun cb' =>
        (cb'.rt.transmitted.length, cb'.sender.sendUnacked)))
    (t := (⟨2⟩, 0, 1, ⟨40⟩, .ok (1, ⟨41⟩))) (by decide +kernel)
  simp only [Prod.mk.injEq] at view
  obtain ⟨next, window, sent, unacked, after⟩ := view
  obtain ⟨cb', received, after⟩ := Machine.map_eq_ok _ after
  obtain ⟨silent, acked⟩ := Prod.mk.inj after
  refine ⟨e, cb', ran, ?_, received, silent.trans sent.symm, unacked, acked, ?_⟩
  · rw [next, window]
    exact ⟨by decide, by decide⟩
  · intro dismissed
    have same := congrArg Sender.sendUnacked dismissed.sender
    rw [acked, unacked] at same
    cases same

end Endpoint

end Inetstack.Tcp
