import Inetstack.Tcp.Established.CtrlBlk
import Inetstack.Lib.Machine

/-!
# What the calls of a control block can change

A control block has a send side and a receive side, and most calls touch one of them. The two views
below name what each side's laws speak about, and the lemmas of this module say, once for each
routine, what it does to the views and what it transmits. The routines are not unfolded again after
this.

The state is seen from the receive side through `PeerSide` only: sending our own FIN, and having it
acknowledged, is invisible there, except that the last ACK of LAST-ACK closes the connection.
-/

namespace Inetstack.Tcp

open Machine (bind_eq_ok)

/-- How far the peer's half of the connection has come. -/
inductive PeerSide where
  | sending
  | finished
  | gone
  deriving DecidableEq

/-- What a state says of the peer's half of the connection. Our own half does not show. -/
def State.peerSide : State → PeerSide
  | .established | .finWait1 | .finWait2 => .sending
  | .closing | .timeWait | .closeWait | .lastAck => .finished
  | .closed => .gone

/-- The receive side of a control block. -/
structure ReceiveSide where
  receiver : Receiver
  outOfOrder : List (SeqNumber × Buffer)
  outOfOrderFin : Option SeqNumber
  receiveBufferSize : UInt32
  windowScale : UInt32
  peer : PeerSide

/-- The send side of a control block, as far as the stream is concerned. -/
structure SendSide where
  sendNext : SeqNumber
  unsentSeqNo : SeqNumber
  unsentQueue : List Buffer
  userIsDoneSending : Bool

/-- A segment that carries no text and no SYN. -/
structure TcpSegment.PureAck (segment : TcpSegment) : Prop where
  data : segment.data = []
  fin : segment.tcpHdr.fin = false
  syn : segment.tcpHdr.syn = false

/-- A segment whose ACK is processed: it has the ACK flag, and no RST or SYN. -/
structure InSegment.Acks (seg : InSegment) : Prop where
  rst : seg.header.rst = false
  syn : seg.header.syn = false
  ack : seg.header.ack = true

namespace ControlBlock

variable {σ : Type}

def receiveSide (cb : ControlBlock σ) : ReceiveSide where
  receiver := cb.receiver
  outOfOrder := cb.outOfOrder
  outOfOrderFin := cb.outOfOrderFin
  receiveBufferSize := cb.receiveBufferSize
  windowScale := cb.windowScale
  peer := cb.state.peerSide

def sendSide (cb : ControlBlock σ) : SendSide where
  sendNext := cb.sender.sendNext
  unsentSeqNo := cb.sender.unsentSeqNo
  unsentQueue := cb.sender.unsentQueue
  userIsDoneSending := cb.userIsDoneSending

/-- Nothing happened on the send side but some pure ACKs. -/
structure AcksOnly (cb cb' : ControlBlock σ) : Prop where
  sendSide : cb'.sendSide = cb.sendSide
  transmitted : ∃ acks, cb'.rt.transmitted = cb.rt.transmitted ++ acks ∧
    ∀ segment ∈ acks, segment.PureAck

theorem AcksOnly.sendNext {cb cb' : ControlBlock σ} (h : AcksOnly cb cb') :
    cb'.sender.sendNext = cb.sender.sendNext := congrArg SendSide.sendNext h.sendSide

theorem AcksOnly.unsentSeqNo {cb cb' : ControlBlock σ} (h : AcksOnly cb cb') :
    cb'.sender.unsentSeqNo = cb.sender.unsentSeqNo := congrArg SendSide.unsentSeqNo h.sendSide

theorem AcksOnly.unsentQueue {cb cb' : ControlBlock σ} (h : AcksOnly cb cb') :
    cb'.sender.unsentQueue = cb.sender.unsentQueue := congrArg SendSide.unsentQueue h.sendSide

theorem AcksOnly.of_eq {cb cb' : ControlBlock σ} (side : cb'.sendSide = cb.sendSide)
    (same : cb'.rt = cb.rt) : AcksOnly cb cb' where
  sendSide := side
  transmitted := ⟨[], by rw [same, List.append_nil], fun _ h => absurd h List.not_mem_nil⟩

/-- What two steps leave alone, both together do. -/
theorem AcksOnly.trans {cb cb' cb'' : ControlBlock σ} (h : AcksOnly cb cb')
    (h' : AcksOnly cb' cb'') : AcksOnly cb cb'' where
  sendSide := h'.sendSide.trans h.sendSide
  transmitted := by
    obtain ⟨acks, eq, pure⟩ := h.transmitted
    obtain ⟨acks', eq', pure'⟩ := h'.transmitted
    refine ⟨acks ++ acks', by rw [eq', eq, List.append_assoc], ?_⟩
    intro s hs
    rcases List.mem_append.mp hs with hs | hs
    · exact pure s hs
    · exact pure' s hs

/-- The sender is as it was, and some pure ACKs went out. -/
structure Acked (cb cb' : ControlBlock σ) : Prop where
  sender : cb'.sender = cb.sender
  userIsDoneSending : cb'.userIsDoneSending = cb.userIsDoneSending
  transmitted : ∃ acks, cb'.rt.transmitted = cb.rt.transmitted ++ acks ∧
    ∀ segment ∈ acks, segment.PureAck

theorem Acked.acksOnly {cb cb' : ControlBlock σ} (h : Acked cb cb') : AcksOnly cb cb' where
  sendSide := by simp only [ControlBlock.sendSide, h.sender, h.userIsDoneSending]
  transmitted := h.transmitted

/-- An ACK after an ACK, or after nothing. -/
theorem Acked.trans {cb cb' cb'' : ControlBlock σ} (h : Acked cb cb') (h' : Acked cb' cb'') :
    Acked cb cb'' where
  sender := h'.sender.trans h.sender
  userIsDoneSending := h'.userIsDoneSending.trans h.userIsDoneSending
  transmitted := (h.acksOnly.trans h'.acksOnly).transmitted

/-- Nothing happened on the send side. -/
theorem Acked.of_eq {cb cb' : ControlBlock σ} (sender : cb'.sender = cb.sender)
    (done : cb'.userIsDoneSending = cb.userIsDoneSending) (same : cb'.rt = cb.rt) :
    Acked cb cb' where
  sender := sender
  userIsDoneSending := done
  transmitted := ⟨[], by rw [same, List.append_nil], fun _ h => absurd h List.not_mem_nil⟩

/-! ## Headers and transmission -/

/-- Sending our FIN does not end the peer's half. -/
theorem stateAfterFinSent_peerSide (state : State) :
    (stateAfterFinSent state).peerSide = state.peerSide := by
  cases state <;> rfl

/-- A header carries the window it advertises, an ACK of RCV.NXT, and no SYN, FIN or RST. -/
theorem tcpHeader_ok {cb : ControlBlock σ} {header : TcpHeader} (built : cb.tcpHeader = .ok header) :
    ∃ w, cb.hdrWindowSize = .ok w ∧
      header = { TcpHeader.new cb.localAddr.port cb.remoteAddr.port with
        windowSize := w, ack := true, ackNum := cb.receiver.receiveNext } := by
  obtain ⟨w, hw, eq⟩ := bind_eq_ok.mp built
  exact ⟨w, hw, (Except.ok.inj eq).symm⟩

/-- The header every outgoing segment begins with. Its SYN and FIN are set afterwards, if at all. -/
theorem tcpHeader_flags {cb : ControlBlock σ} {header : TcpHeader}
    (built : cb.tcpHeader = .ok header) : header.syn = false ∧ header.fin = false := by
  obtain ⟨w, -, rfl⟩ := tcpHeader_ok built
  exact ⟨rfl, rfl⟩

/-- `send_ack` transmits one pure ACK, or nothing when the link address is not known. -/
theorem sendAck_cases {cb cb' : ControlBlock σ} {env : Env} (ran : cb.sendAck env = .ok cb') :
    cb' = cb ∨ ∃ segment : TcpSegment, segment.PureAck ∧
      cb' = { cb with rt := cb.rt.transmit segment, ackDeadline := none } := by
  obtain ⟨header, built, ran⟩ := bind_eq_ok.mp ran
  obtain ⟨w, -, rfl⟩ := tcpHeader_ok built
  cases hmac : env.remoteLinkAddr with
  | none =>
    simp only [hmac, Except.ok.injEq] at ran
    exact .inl ran.symm
  | some mac =>
    simp only [hmac, Except.ok.injEq] at ran
    subst ran
    exact .inr ⟨_, ⟨rfl, rfl, rfl⟩, rfl⟩

/-- `send_ack` may transmit an ACK, or drop it for want of a link address. -/
theorem sendAck_acked {cb cb' : ControlBlock σ} {env : Env} (ran : cb.sendAck env = .ok cb') :
    Acked cb cb' := by
  rcases sendAck_cases ran with rfl | ⟨segment, pure, rfl⟩
  · exact .of_eq rfl rfl rfl
  · exact ⟨rfl, rfl, [segment], rfl, fun s hs => by rwa [List.mem_singleton.mp hs]⟩

theorem sendAck_receiveSide {cb cb' : ControlBlock σ} {env : Env} (ran : cb.sendAck env = .ok cb') :
    cb'.receiveSide = cb.receiveSide := by
  rcases sendAck_cases ran with rfl | ⟨segment, -, rfl⟩ <;> rfl

/-! ## The processing of an ACK -/

section Ack

variable [CongestionControl σ]

/-- **What the processing of an ACK can do.** Only an ACK between SND.UNA and SND.NXT changes the
sender, and only one of everything sent changes the state. -/
theorem processAck_cases {cb cb' : ControlBlock σ} {now : Instant} {header : TcpHeader} {go : Bool}
    (ran : cb.processAck now header = .ok (go, cb')) :
    (∃ cc, cb' = { cb with cc := cc } ∧
      (go = true ∧ cb.sender.sendUnacked.lt header.ackNum = false ∨
        go = false ∧ cb.sender.sendUnacked.lt header.ackNum = true ∧
          header.ackNum.le cb.sender.sendNext = false)) ∨
    (go = true ∧ cb.sender.sendUnacked.lt header.ackNum = true ∧
      header.ackNum.le cb.sender.sendNext = true ∧
      ∃ cc queue rto deadline state,
        (state = cb.state ∨
          header.ackNum = cb.sender.sendNext ∧ state = stateAfterAllAcked cb.state) ∧
        cb' = { cb with
          cc := cc, rto := rto, retransmitDeadline := deadline, state := state
          sender := Sender.updateSendWindow
            { cb.sender with unackedQueue := queue, sendUnacked := header.ackNum } header }) := by
  unfold processAck at ran
  by_cases newer : cb.sender.sendUnacked.lt header.ackNum = true
  · by_cases known : header.ackNum.le cb.sender.sendNext = true
    · simp only [newer, known, if_true] at ran
      obtain ⟨⟨queue, rto⟩, -, ran⟩ := bind_eq_ok.mp ran
      refine .inr ?_
      split at ran
      next all =>
        simp only [Except.ok.injEq, Prod.mk.injEq] at ran
        obtain ⟨rfl, rfl⟩ := ran
        exact ⟨rfl, newer, known, _, queue, rto, none, _, .inr ⟨all, rfl⟩, rfl⟩
      next =>
        simp only [Except.ok.injEq, Prod.mk.injEq] at ran
        obtain ⟨rfl, rfl⟩ := ran
        exact ⟨rfl, newer, known, _, queue, rto, _, _, .inl rfl, rfl⟩
    · rw [Bool.not_eq_true] at known
      simp only [newer, known, if_true, Bool.false_eq_true, if_false, Except.ok.injEq,
        Prod.mk.injEq] at ran
      exact .inl ⟨_, ran.2.symm, .inr ⟨ran.1.symm, newer, known⟩⟩
  · rw [Bool.not_eq_true] at newer
    simp only [newer, Bool.false_eq_true, if_false, Except.ok.injEq, Prod.mk.injEq] at ran
    exact .inl ⟨_, ran.2.symm, .inl ⟨ran.1.symm, newer⟩⟩

/-- Setting the window moves none of our numbers and takes nothing off the queue. -/
theorem updateSendWindow_frame (s : Sender) (header : TcpHeader) :
    (s.updateSendWindow header).sendNext = s.sendNext ∧
      (s.updateSendWindow header).unsentSeqNo = s.unsentSeqNo ∧
      (s.updateSendWindow header).unsentQueue = s.unsentQueue ∧
      (s.updateSendWindow header).sendUnacked = s.sendUnacked := by
  unfold Sender.updateSendWindow
  split <;> exact ⟨rfl, rfl, rfl, rfl⟩

/-- An ACK takes what it acknowledges off one queue and leaves the other. -/
theorem processAck_acksOnly {cb cb' : ControlBlock σ} {now : Instant} {header : TcpHeader}
    {go : Bool} (ran : cb.processAck now header = .ok (go, cb')) : AcksOnly cb cb' := by
  rcases processAck_cases ran with ⟨cc, rfl, -⟩ | ⟨-, -, -, cc, queue, rto, deadline, state, -, rfl⟩
  · exact .of_eq rfl rfl
  · obtain ⟨next, seqNo, unsent, -⟩ := updateSendWindow_frame
      { cb.sender with unackedQueue := queue, sendUnacked := header.ackNum } header
    exact .of_eq (by simp only [sendSide, next, seqNo, unsent]) rfl

/-- The ACK of our FIN ends the connection if the peer's FIN has come, and leaves the peer's half alone if
not. -/
theorem stateAfterAllAcked_peerSide (state : State) :
    (stateAfterAllAcked state).peerSide = state.peerSide ∨
      state.peerSide = .finished ∧ (stateAfterAllAcked state).peerSide = .gone := by
  cases state <;> simp [stateAfterAllAcked, State.peerSide]

/-- An ACK leaves the receive side alone, up to the last ACK of LAST-ACK. -/
theorem processAck_receiveSide {cb cb' : ControlBlock σ} {now : Instant} {header : TcpHeader}
    {go : Bool} (ran : cb.processAck now header = .ok (go, cb')) :
    ∃ peer, cb'.receiveSide = { cb.receiveSide with peer := peer } ∧
      (peer = cb.receiveSide.peer ∨ cb.receiveSide.peer = .finished ∧ peer = .gone) := by
  rcases processAck_cases ran with
    ⟨cc, rfl, -⟩ | ⟨-, -, -, cc, queue, rto, deadline, state, hstate, rfl⟩
  · exact ⟨_, rfl, .inl rfl⟩
  · rcases hstate with rfl | ⟨-, rfl⟩
    · exact ⟨_, rfl, .inl rfl⟩
    · exact ⟨_, rfl, stateAfterAllAcked_peerSide cb.state⟩

end Ack

end ControlBlock

/-! ## The receive side on its own -/

/-- A read takes the front buffer of the queue and moves the reader past it. -/
theorem Receiver.pop_cases {r r' : Receiver} {buf : Buffer} (popped : r.pop = some (buf, r')) :
    ∃ rest, r.recvQueue = buf :: rest ∧
      r' = { r with recvQueue := rest, readerNext := r.readerNext + .ofLen buf.length } := by
  unfold Receiver.pop at popped
  split at popped
  · cases popped
  next first rest queue =>
    cases popped
    exact ⟨rest, queue, rfl⟩

namespace ReceiveSide

/-- RCV.WND. -/
def window (r : ReceiveSide) : UInt32 :=
  r.receiveBufferSize - (r.receiver.receiveNext - r.receiver.readerNext).value

/-- Advance RCV.NXT over the peer's FIN. -/
def consumeFin (r : ReceiveSide) : ReceiveSide :=
  { r with
    receiver := { r.receiver with receiveNext := r.receiver.receiveNext + SeqNumber.mk 1 }
    peer := .finished }

/-- The store and the queue after in-order data. -/
def takeData (r : ReceiveSide) (buf : Buffer) : ReceiveSide :=
  let drained := drainOutOfOrder (r.receiver.receiveNext + .ofLen buf.length) (r.receiver.push buf)
    r.outOfOrder
  { r with receiver := drained.1, outOfOrder := drained.2.1 }

/-- What `receive_data` returns. -/
def releasesFin (r : ReceiveSide) (buf : Buffer) : Bool :=
  (drainOutOfOrder (r.receiver.receiveNext + .ofLen buf.length) (r.receiver.push buf)
    r.outOfOrder).2.2 && r.outOfOrderFin.isSome

/-- The in-order branch. -/
def inOrder (r : ReceiveSide) (seg : InSegment) : ReceiveSide :=
  if seg.data ≠ [] ∧ r.peer = .sending then
    if seg.header.fin || r.releasesFin seg.data then (r.takeData seg.data).consumeFin
    else r.takeData seg.data
  else if seg.header.fin then r.consumeFin
  else r

/-- The out-of-order branch. -/
def store (r : ReceiveSide) (seg : InSegment) : Except Fault ReceiveSide := do
  if 0 < seg.segLen ∧ r.peer = .sending then
    if seg.header.fin then
      let r := { r with outOfOrderFin := some seg.segEnd }
      if 0 < seg.segLen - 1 then
        let outOfOrder ← storePasses (r.outOfOrder.length + 1) seg.segStart
          (seg.segEnd - SeqNumber.mk 1) seg.data r.outOfOrder
        .ok { r with outOfOrder := outOfOrder }
      else .ok r
    else
      let outOfOrder ← storePasses (r.outOfOrder.length + 1) seg.segStart seg.segEnd seg.data
        r.outOfOrder
      .ok { r with outOfOrder := outOfOrder }
  else .ok r

/-- **What the out-of-order branch can do**: the data may join the store, and a FIN is remembered. -/
theorem store_cases {r r' : ReceiveSide} {seg : InSegment} (stored : r.store seg = .ok r') :
    ∃ store fin, r' = { r with outOfOrder := store, outOfOrderFin := fin } ∧
      (store = r.outOfOrder ∨ ∃ passes last,
        storePasses passes seg.segStart last seg.data r.outOfOrder = .ok store) ∧
      (fin = r.outOfOrderFin ∨ seg.header.fin = true ∧ fin = some seg.segEnd) := by
  unfold ReceiveSide.store at stored
  split at stored
  · split at stored
    next own =>
      dsimp only at stored
      split at stored
      · obtain ⟨store, passed, stored⟩ := bind_eq_ok.mp stored
        exact ⟨store, _, (Except.ok.inj stored).symm, .inr ⟨_, _, passed⟩, .inr ⟨own, rfl⟩⟩
      · exact ⟨_, _, (Except.ok.inj stored).symm, .inl rfl, .inr ⟨own, rfl⟩⟩
    next =>
      obtain ⟨store, passed, stored⟩ := bind_eq_ok.mp stored
      exact ⟨store, _, (Except.ok.inj stored).symm, .inr ⟨_, _, passed⟩, .inl rfl⟩
  · exact ⟨_, _, (Except.ok.inj stored).symm, .inl rfl, .inl rfl⟩

/-- **What a received segment can do to the receive side.** `goesOn` says of a segment in the window
that `receive` goes on past its flags and its ACK. Before the segment's text is looked at the ACK may
have closed the connection; `peer` is what that leaves. -/
inductive Received (r : ReceiveSide) (goesOn : InSegment → Bool) (header : TcpHeader)
    (data : Buffer) : ReceiveSide → Prop
  | dropped : Received r goesOn header data r
  | gone : Received r goesOn header data { r with peer := .gone }
  | inOrder {seg : InSegment} {peer : PeerSide}
      (accepted : InSegment.accept r.receiver.receiveNext r.window header data = .ok (some seg))
      (goes : goesOn seg = true) (noSyn : seg.header.syn = false)
      (acked : peer = r.peer ∨ r.peer = .finished ∧ peer = .gone)
      (atNext : seg.segStart = r.receiver.receiveNext)
      (expected : seg.header.fin = true → peer ≠ .gone) :
      Received r goesOn header data ({ r with peer := peer }.inOrder seg)
  | outOfOrder {seg : InSegment} {peer : PeerSide} {r' : ReceiveSide}
      (accepted : InSegment.accept r.receiver.receiveNext r.window header data = .ok (some seg))
      (goes : goesOn seg = true) (noSyn : seg.header.syn = false)
      (acked : peer = r.peer ∨ r.peer = .finished ∧ peer = .gone)
      (later : seg.segStart ≠ r.receiver.receiveNext)
      (stored : { r with peer := peer }.store seg = .ok r') : Received r goesOn header data r'

end ReceiveSide

namespace ControlBlock

variable {σ : Type}

/-- Data may come as long as the peer has not finished. -/
theorem mayReceiveData_iff (state : State) :
    mayReceiveData state = true ↔ state.peerSide = .sending := by
  cases state <;> simp [mayReceiveData, State.peerSide]

/-- A FIN that is consumed finishes the peer's half. In Closed it is not consumed: the source panics. -/
theorem stateAfterFin_ok {state state' : State} (ran : stateAfterFin state = .ok state') :
    state.peerSide ≠ .gone ∧ state'.peerSide = .finished := by
  cases state <;> simp only [stateAfterFin, Except.ok.injEq, reduceCtorEq] at ran <;> subst ran <;>
    simp [State.peerSide]

/-- Consuming a FIN takes one sequence number and finishes the peer's half. -/
theorem receiveFin_receiveSide {cb cb' : ControlBlock σ} {env : Env}
    (ran : cb.receiveFin env = .ok cb') :
    cb'.receiveSide = cb.receiveSide.consumeFin ∧ cb.receiveSide.peer ≠ .gone := by
  obtain ⟨state, hstate, ran⟩ := bind_eq_ok.mp ran
  obtain ⟨expected, finished⟩ := stateAfterFin_ok hstate
  refine ⟨?_, expected⟩
  rw [sendAck_receiveSide ran]
  simp only [receiveSide, ReceiveSide.consumeFin, finished]

theorem scheduleAck_receiveSide {cb cb' : ControlBlock σ} {env : Env}
    (ran : cb.scheduleAck env = .ok cb') : cb'.receiveSide = cb.receiveSide := by
  unfold scheduleAck at ran
  split at ran
  · cases ran; rfl
  · have same := sendAck_receiveSide ran
    exact same

theorem receiveData_receiveSide (cb : ControlBlock σ) (buf : Buffer) :
    (cb.receiveData buf).2.receiveSide = cb.receiveSide.takeData buf ∧
      (cb.receiveData buf).1 = cb.receiveSide.releasesFin buf := ⟨rfl, rfl⟩

/-- **In-order data**: it is taken in, and a FIN at its end, or one remembered, is consumed. -/
theorem receiveInOrder_receiveSide {cb cb' : ControlBlock σ} {env : Env} {seg : InSegment}
    (ran : cb.receiveInOrder env seg = .ok cb') :
    cb'.receiveSide = cb.receiveSide.inOrder seg ∧
      (seg.header.fin = true → cb.receiveSide.peer ≠ .gone) := by
  have hpeer : cb.receiveSide.peer = cb.state.peerSide := rfl
  unfold receiveInOrder at ran
  unfold ReceiveSide.inOrder
  by_cases text : seg.data ≠ [] ∧ cb.receiveSide.peer = .sending
  · have htext : (!seg.data.isEmpty && mayReceiveData cb.state) = true := by
      rw [Bool.and_eq_true, mayReceiveData_iff, ← hpeer]
      exact ⟨by simpa using text.1, text.2⟩
    rw [if_pos htext] at ran
    rw [if_pos text, ← (receiveData_receiveSide cb seg.data).1,
      ← (receiveData_receiveSide cb seg.data).2]
    refine ⟨?_, fun _ => by rw [text.2]; decide⟩
    rcases hdata : cb.receiveData seg.data with ⟨released, cb₁⟩
    simp only [hdata] at ran ⊢
    split at ran
    next fin =>
      rw [if_pos fin]
      exact (receiveFin_receiveSide ran).1
    next fin =>
      rw [if_neg fin]
      exact scheduleAck_receiveSide ran
  · have htext : ¬(!seg.data.isEmpty && mayReceiveData cb.state) = true := by
      rw [Bool.and_eq_true, mayReceiveData_iff, ← hpeer]
      exact fun h => text ⟨by simpa using h.1, h.2⟩
    rw [if_neg htext] at ran
    rw [if_neg text]
    split at ran
    next fin =>
      rw [if_pos fin]
      exact ⟨(receiveFin_receiveSide ran).1, fun _ => (receiveFin_receiveSide ran).2⟩
    next fin =>
      rw [if_neg fin]
      cases ran
      exact ⟨rfl, fun h => absurd h fin⟩

/-- Storing touches nothing but the store. -/
theorem storeOutOfOrderSegment_ok {cb cb' : ControlBlock σ} {newStart newEnd : SeqNumber}
    {buf : Buffer} (ran : cb.storeOutOfOrderSegment newStart newEnd buf = .ok cb') :
    ∃ store, storePasses (cb.outOfOrder.length + 1) newStart newEnd buf cb.outOfOrder = .ok store ∧
      cb' = { cb with outOfOrder := store } := by
  obtain ⟨store, stored, ran⟩ := bind_eq_ok.mp ran
  exact ⟨store, stored, (Except.ok.inj ran).symm⟩

/-- Storing a segment and acknowledging it changes the store, and sends pure ACKs. -/
theorem storeThenAck_ok {cb cb' : ControlBlock σ} {env : Env} {newStart newEnd : SeqNumber}
    {buf : Buffer}
    (ran : (cb.storeOutOfOrderSegment newStart newEnd buf >>= fun cb => cb.sendAck env) = .ok cb') :
    ∃ store, storePasses (cb.outOfOrder.length + 1) newStart newEnd buf cb.outOfOrder = .ok store ∧
      cb'.receiveSide = { cb.receiveSide with outOfOrder := store } ∧ Acked cb cb' := by
  obtain ⟨cb₁, stored, ran⟩ := bind_eq_ok.mp ran
  obtain ⟨store, passed, rfl⟩ := storeOutOfOrderSegment_ok stored
  have acked := sendAck_acked ran
  exact ⟨store, passed, sendAck_receiveSide ran, acked.sender, acked.userIsDoneSending,
    acked.transmitted⟩

/-- **Out-of-order data** is stored, and its FIN remembered; RCV.NXT stays. -/
theorem receiveOutOfOrder_receiveSide {cb cb' : ControlBlock σ} {env : Env} {seg : InSegment}
    (ran : cb.receiveOutOfOrder env seg = .ok cb') :
    cb.receiveSide.store seg = .ok cb'.receiveSide := by
  have hpeer : cb.receiveSide.peer = cb.state.peerSide := rfl
  unfold receiveOutOfOrder at ran
  unfold ReceiveSide.store
  by_cases text : 0 < seg.segLen ∧ cb.receiveSide.peer = .sending
  · have htext : (decide (0 < seg.segLen) && mayReceiveData cb.state) = true := by
      rw [Bool.and_eq_true, mayReceiveData_iff, ← hpeer, decide_eq_true_eq]
      exact text
    rw [if_pos htext] at ran
    rw [if_pos text]
    by_cases fin : seg.header.fin = true
    · rw [if_pos fin] at ran
      rw [if_pos fin]
      dsimp only at ran ⊢
      split at ran
      next more =>
        rw [if_pos more]
        -- the FIN is remembered, the rest of the segment stored
        obtain ⟨store, passed, side, -⟩ := storeThenAck_ok ran
        refine bind_eq_ok.mpr ⟨store, passed, ?_⟩
        rw [side]
        rfl
      -- a FIN alone stores nothing
      next more =>
        rw [if_neg more, sendAck_receiveSide ran]
        rfl
    · rw [if_neg fin] at ran
      rw [if_neg fin]
      obtain ⟨store, passed, side, -⟩ := storeThenAck_ok ran
      refine bind_eq_ok.mpr ⟨store, passed, ?_⟩
      rw [side]
  · have htext : ¬(decide (0 < seg.segLen) && mayReceiveData cb.state) = true := by
      rw [Bool.and_eq_true, mayReceiveData_iff, ← hpeer, decide_eq_true_eq]
      exact text
    rw [if_neg htext] at ran
    rw [if_neg text]
    cases ran
    rfl

theorem receiveFin_acked {cb cb' : ControlBlock σ} {env : Env}
    (ran : cb.receiveFin env = .ok cb') : Acked cb cb' := by
  obtain ⟨state, -, ran⟩ := bind_eq_ok.mp ran
  have acked := sendAck_acked ran
  exact ⟨acked.sender, acked.userIsDoneSending, acked.transmitted⟩

theorem scheduleAck_acked {cb cb' : ControlBlock σ} {env : Env}
    (ran : cb.scheduleAck env = .ok cb') : Acked cb cb' := by
  unfold scheduleAck at ran
  split at ran
  · cases ran
    exact .of_eq rfl rfl rfl
  · have acked := sendAck_acked ran
    exact ⟨acked.sender, acked.userIsDoneSending, acked.transmitted⟩

/-- The in-order part of `receive` sends nothing but an ACK. -/
theorem receiveInOrder_acked {cb cb' : ControlBlock σ} {env : Env} {seg : InSegment}
    (ran : cb.receiveInOrder env seg = .ok cb') : Acked cb cb' := by
  unfold receiveInOrder at ran
  split at ran
  · have data : Acked cb (cb.receiveData seg.data).2 := .of_eq rfl rfl rfl
    rcases hdata : cb.receiveData seg.data with ⟨released, cb₁⟩
    simp only [hdata] at ran data
    have acked : Acked cb₁ cb' := by
      split at ran
      · exact receiveFin_acked ran
      · exact scheduleAck_acked ran
    exact data.trans acked
  · split at ran
    · exact receiveFin_acked ran
    · cases ran
      exact .of_eq rfl rfl rfl

theorem receiveOutOfOrder_acked {cb cb' : ControlBlock σ} {env : Env} {seg : InSegment}
    (ran : cb.receiveOutOfOrder env seg = .ok cb') : Acked cb cb' := by
  unfold receiveOutOfOrder at ran
  split at ran
  · split at ran
    · have fin : Acked cb (cb.storeOutOfOrderFin seg.segEnd) := .of_eq rfl rfl rfl
      dsimp only at ran
      split at ran
      · obtain ⟨-, -, -, acked⟩ := storeThenAck_ok ran
        exact fin.trans acked
      · exact fin.trans (sendAck_acked ran)
    · obtain ⟨-, -, -, acked⟩ := storeThenAck_ok ran
      exact acked
  · cases ran
    exact .of_eq rfl rfl rfl

variable [CongestionControl σ]

/-- `receive` goes on with the text of a segment in the window: it is no RST and no SYN, and its ACK
is not of data not yet sent. -/
def goesOn (cb : ControlBlock σ) (seg : InSegment) : Bool :=
  !seg.header.rst && !seg.header.syn && seg.header.ack &&
    !(cb.sender.sendUnacked.lt seg.header.ackNum && !seg.header.ackNum.le cb.sender.sendNext)

/-- Where `process_ack` returns true, `receive` goes on to the data. -/
theorem goesOn_of_processAck {cb cb' : ControlBlock σ} {now : Instant} {seg : InSegment}
    (acks : seg.Acks) (ran : cb.processAck now seg.header = .ok (true, cb')) :
    cb.goesOn seg = true := by
  rcases processAck_cases ran with ⟨cc, -, ⟨-, newer⟩ | ⟨go, -⟩⟩ | ⟨-, newer, known, -⟩
  · simp [goesOn, acks.rst, acks.syn, acks.ack, newer]
  · cases go
  · simp [goesOn, acks.rst, acks.syn, acks.ack, newer, known]

/-- **What `receive` can do to a control block.** It drops the segment, or closes the connection, or
processes the ACK and then the text. -/
theorem receive_cases {cb cb' : ControlBlock σ} {env : Env} {header : TcpHeader} {data : Buffer}
    (ran : cb.receive env header data = .ok cb') :
    cb' = cb ∨ cb.sendAck env = .ok cb' ∨
    (∃ seg, InSegment.accept cb.receiver.receiveNext cb.getReceiveWindowSize header data =
        .ok (some seg) ∧ (seg.header.rst = true ∨ seg.header.syn = true) ∧
        cb' = { cb with state := .closed }) ∨
    (∃ seg cb₁, InSegment.accept cb.receiver.receiveNext cb.getReceiveWindowSize header data =
        .ok (some seg) ∧ seg.Acks ∧ cb.processAck env.now seg.header = .ok (false, cb₁) ∧
        cb₁.sendAck env = .ok cb') ∨
    ∃ seg cb₁, InSegment.accept cb.receiver.receiveNext cb.getReceiveWindowSize header data =
        .ok (some seg) ∧ seg.Acks ∧
        cb.processAck env.now seg.header = .ok (true, cb₁) ∧
        (seg.segStart = cb.receiver.receiveNext ∧ cb₁.receiveInOrder env seg = .ok cb' ∨
          seg.segStart ≠ cb.receiver.receiveNext ∧ cb₁.receiveOutOfOrder env seg = .ok cb') := by
  obtain ⟨accepted, haccept, ran⟩ := bind_eq_ok.mp ran
  cases accepted with
  | none =>
    dsimp only at ran
    split at ran
    · exact .inl (Except.ok.inj ran).symm
    · exact .inr (.inl ran)
  | some seg =>
    simp only [receiveInWindow] at ran
    split at ran
    next rst =>
      unfold receiveRst at ran
      split at ran
      · cases ran
      · exact .inr (.inr (.inl ⟨seg, haccept, .inl rst, (Except.ok.inj ran).symm⟩))
    next noRst =>
    split at ran
    next syn =>
      exact .inr (.inr (.inl ⟨seg, haccept, .inr syn, (Except.ok.inj ran).symm⟩))
    next noSyn =>
    split at ran
    · exact .inl (Except.ok.inj ran).symm
    next ack =>
    have acks : seg.Acks := ⟨by simpa using noRst, by simpa using noSyn, by simpa using ack⟩
    obtain ⟨⟨go, cb₁⟩, processed, ran⟩ := bind_eq_ok.mp ran
    -- an ACK of what was not sent is answered, and the text is not looked at
    cases go with
    | false => exact .inr (.inr (.inr (.inl ⟨seg, cb₁, haccept, acks, processed, ran⟩)))
    | true =>
      refine .inr (.inr (.inr (.inr
        ⟨seg, cb₁, haccept, acks, processed, ?_⟩)))
      dsimp only at ran
      split at ran
      next atNext => exact .inl ⟨atNext, ran⟩
      next later => exact .inr ⟨later, ran⟩

/-- **`receive` leaves the send stream alone** and transmits pure ACKs only. -/
theorem receive_acksOnly {cb cb' : ControlBlock σ} {env : Env} {header : TcpHeader} {data : Buffer}
    (ran : cb.receive env header data = .ok cb') : AcksOnly cb cb' := by
  rcases receive_cases ran with rfl | acked | ⟨-, -, -, rfl⟩ | ⟨seg, cb₁, -, -, processed, acked⟩ |
    ⟨seg, cb₁, -, -, processed, ⟨-, ran⟩ | ⟨-, ran⟩⟩
  · exact .of_eq rfl rfl
  · exact (sendAck_acked acked).acksOnly
  · exact .of_eq rfl rfl
  · exact (processAck_acksOnly processed).trans (sendAck_acked acked).acksOnly
  · exact (processAck_acksOnly processed).trans (receiveInOrder_acked ran).acksOnly
  · exact (processAck_acksOnly processed).trans (receiveOutOfOrder_acked ran).acksOnly

/-- **`receive` changes the sender on an acceptable ACK only**, one that is processed and lies between
SND.UNA and SND.NXT. -/
theorem receive_sender {cb cb' : ControlBlock σ} {env : Env} {header : TcpHeader} {data : Buffer}
    (ran : cb.receive env header data = .ok cb') :
    cb'.sender = cb.sender ∨
    ∃ seg queue, InSegment.accept cb.receiver.receiveNext cb.getReceiveWindowSize header data =
        .ok (some seg) ∧ seg.Acks ∧ cb.sender.sendUnacked.lt seg.header.ackNum = true ∧
      seg.header.ackNum.le cb.sender.sendNext = true ∧
      cb'.sender = Sender.updateSendWindow
        { cb.sender with unackedQueue := queue, sendUnacked := seg.header.ackNum } seg.header := by
  have acked : ∀ {go : Bool} {seg : InSegment} {cb₁ : ControlBlock σ},
      InSegment.accept cb.receiver.receiveNext cb.getReceiveWindowSize header data =
        .ok (some seg) → seg.Acks → cb.processAck env.now seg.header = .ok (go, cb₁) →
      cb'.sender = cb₁.sender →
      cb'.sender = cb.sender ∨
      ∃ seg queue, InSegment.accept cb.receiver.receiveNext cb.getReceiveWindowSize header data =
          .ok (some seg) ∧ seg.Acks ∧ cb.sender.sendUnacked.lt seg.header.ackNum = true ∧
        seg.header.ackNum.le cb.sender.sendNext = true ∧
        cb'.sender = Sender.updateSendWindow
          { cb.sender with unackedQueue := queue, sendUnacked := seg.header.ackNum }
          seg.header := by
    intro go seg cb₁ accepted acks processed same
    rw [same]
    rcases processAck_cases processed with ⟨cc, rfl, -⟩ |
      ⟨-, newer, known, cc, queue, rto, deadline, state, -, rfl⟩
    · exact .inl rfl
    · exact .inr ⟨seg, queue, accepted, acks, newer, known, rfl⟩
  rcases receive_cases ran with rfl | ran | ⟨-, -, -, rfl⟩ |
    ⟨seg, cb₁, accepted, acks, processed, ran⟩ |
    ⟨seg, cb₁, accepted, acks, processed, ⟨-, ran⟩ | ⟨-, ran⟩⟩
  · exact .inl rfl
  · exact .inl (sendAck_acked ran).sender
  · exact .inl rfl
  · exact acked accepted acks processed (sendAck_acked ran).sender
  · exact acked accepted acks processed (receiveInOrder_acked ran).sender
  · exact acked accepted acks processed (receiveOutOfOrder_acked ran).sender

/-- An acceptable ACK moves SND.UNA. -/
theorem receive_sendUnacked {cb cb' : ControlBlock σ} {env : Env} {header : TcpHeader}
    {data : Buffer} {seg : InSegment} (ran : cb.receive env header data = .ok cb')
    (accepted : InSegment.accept cb.receiver.receiveNext cb.getReceiveWindowSize header data =
      .ok (some seg))
    (acks : seg.Acks) (newer : cb.sender.sendUnacked.lt seg.header.ackNum = true)
    (known : seg.header.ackNum.le cb.sender.sendNext = true) :
    cb'.sender.sendUnacked = seg.header.ackNum := by
  obtain ⟨found, found_eq, ran⟩ := bind_eq_ok.mp ran
  cases accepted.symm.trans found_eq
  simp only [receiveInWindow, acks.rst, acks.syn, acks.ack, Bool.false_eq_true, if_false,
    Bool.not_true] at ran
  obtain ⟨⟨go, cb₁⟩, processed, ran⟩ := bind_eq_ok.mp ran
  have moved : cb₁.sender.sendUnacked = seg.header.ackNum := by
    rcases processAck_cases processed with ⟨-, -, ⟨-, older⟩ | ⟨-, -, unknown⟩⟩ |
      ⟨-, -, -, cc, queue, rto, deadline, state, -, rfl⟩
    · rw [newer] at older
      cases older
    · rw [known] at unknown
      cases unknown
    · exact (updateSendWindow_frame _ _).2.2.2
  rw [← moved]
  cases go with
  | false => rw [(sendAck_acked ran).sender]
  | true =>
    dsimp only at ran
    split at ran
    · rw [(receiveInOrder_acked ran).sender]
    · rw [(receiveOutOfOrder_acked ran).sender]

/-- **`receive` does to the receive side what `Received` says.** -/
theorem receive_received {cb cb' : ControlBlock σ} {env : Env} {header : TcpHeader} {data : Buffer}
    (ran : cb.receive env header data = .ok cb') :
    cb.receiveSide.Received cb.goesOn header data cb'.receiveSide := by
  rcases receive_cases ran with rfl | ran | ⟨-, -, -, rfl⟩ | ⟨seg, cb₁, -, -, processed, ran⟩ |
    ⟨seg, cb₁, accepted, acks, processed, ⟨atNext, ran⟩ | ⟨later, ran⟩⟩
  · exact .dropped
  · rw [sendAck_receiveSide ran]
    exact .dropped
  · exact .gone
  · rw [sendAck_receiveSide ran]
    obtain ⟨peer, hside, rfl | ⟨-, rfl⟩⟩ := processAck_receiveSide processed
    · rw [hside]
      exact .dropped
    · rw [hside]
      exact .gone
  · obtain ⟨peer, hside, hpeer⟩ := processAck_receiveSide processed
    obtain ⟨eq, expected⟩ := receiveInOrder_receiveSide ran
    rw [hside] at eq expected
    rw [eq]
    exact .inOrder accepted (goesOn_of_processAck acks processed) acks.syn hpeer atNext expected
  · obtain ⟨peer, hside, hpeer⟩ := processAck_receiveSide processed
    have stored := receiveOutOfOrder_receiveSide ran
    rw [hside] at stored
    exact .outOfOrder accepted (goesOn_of_processAck acks processed) acks.syn hpeer later stored

end ControlBlock

end Inetstack.Tcp
