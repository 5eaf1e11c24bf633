import Inetstack.Laws.Tcp.Established.Endpoint

/-!
# What a call can stop with

One inversion lemma for each routine that can panic: which panic, and what was there when it
happened. The window field of a header is the panic all routines that transmit have in common; it is
a matter of the receive side alone.
-/

namespace Inetstack.Tcp

open Machine (bind_eq_ok bind_eq_error)

/-- The window field of a header, which depends on the receive side only. -/
def ReceiveSide.hdrWindowSize (r : ReceiveSide) : Except Fault UInt16 :=
  let hdrWindowSize := r.window >>> r.windowScale
  if hdrWindowSize.toNat < 2 ^ 16 then .ok hdrWindowSize.toUInt16 else .error .windowSizeOverflow

/-- The window does not fit a header. -/
def ReceiveSide.Overflows (r : ReceiveSide) (fault : Fault) : Prop :=
  fault = .windowSizeOverflow ∧ r.hdrWindowSize = .error fault

/-- The front that is cut is longer than the buffer. -/
theorem Buffer.adjust_error {buf : Buffer} {n : Nat} {fault : Fault}
    (ran : Buffer.adjust buf n = .error fault) : fault = .adjustBeyondLength ∧ buf.length < n := by
  unfold Buffer.adjust at ran
  split at ran
  · cases ran
  next beyond => exact ⟨(Except.error.inj ran).symm, Nat.lt_of_not_le beyond⟩

/-- So is the back. -/
theorem Buffer.trim_error {buf : Buffer} {n : Nat} {fault : Fault}
    (ran : Buffer.trim buf n = .error fault) : fault = .trimBeyondLength ∧ buf.length < n := by
  unfold Buffer.trim at ran
  split at ran
  · cases ran
  next beyond => exact ⟨(Except.error.inj ran).symm, Nat.lt_of_not_le beyond⟩

namespace ControlBlock

variable {σ : Type}

/-! ## Headers and ACKs -/

/-- A header fails for the window only. -/
theorem tcpHeader_error {cb : ControlBlock σ} {fault : Fault} (ran : cb.tcpHeader = .error fault) :
    cb.receiveSide.Overflows fault := by
  rcases bind_eq_error.mp ran with window | ⟨w, -, ran⟩
  · refine ⟨?_, window⟩
    unfold ControlBlock.hdrWindowSize at window
    dsimp only at window
    split at window
    · cases window
    · exact (Except.error.inj window).symm
  · cases ran

/-- An ACK fails only in its window. -/
theorem sendAck_error {cb : ControlBlock σ} {env : Env} {fault : Fault}
    (ran : cb.sendAck env = .error fault) : cb.receiveSide.Overflows fault := by
  rcases bind_eq_error.mp ran with header | ⟨header, -, ran⟩
  · exact tcpHeader_error header
  · split at ran <;> cases ran

/-! ## Receiving -/

/-- So does scheduling one, which may send it. -/
theorem scheduleAck_error {cb : ControlBlock σ} {env : Env} {fault : Fault}
    (ran : cb.scheduleAck env = .error fault) : cb.receiveSide.Overflows fault := by
  unfold scheduleAck at ran
  split at ran
  · cases ran
  · have overflow := sendAck_error ran
    exact overflow

/-- A closed connection has no state to go to. -/
theorem stateAfterFin_error {state : State} {fault : Fault}
    (ran : stateAfterFin state = .error fault) :
    fault = .badTcpState .closed ∧ state = .closed := by
  cases state <;> simp only [stateAfterFin, reduceCtorEq, Except.error.injEq] at ran
  exact ⟨ran.symm, rfl⟩

/-- A FIN fails in the state of a closed connection, or in its ACK. -/
theorem receiveFin_error {cb : ControlBlock σ} {env : Env} {fault : Fault}
    (ran : cb.receiveFin env = .error fault) :
    fault = .badTcpState .closed ∧ cb.state = .closed ∨
      cb.receiveSide.consumeFin.Overflows fault := by
  rcases bind_eq_error.mp ran with state | ⟨state, after, ran⟩
  · exact .inl (stateAfterFin_error state)
  · have overflow := sendAck_error ran
    simp only [receiveSide, (stateAfterFin_ok after).2] at overflow
    exact .inr overflow

/-- The in-order branch stops on a FIN in CLOSED, or on the window it leaves. -/
theorem receiveInOrder_error {cb : ControlBlock σ} {env : Env} {seg : InSegment} {fault : Fault}
    (ran : cb.receiveInOrder env seg = .error fault) :
    fault = .badTcpState .closed ∧ cb.state = .closed ∧ seg.header.fin = true ∨
      (cb.receiveSide.inOrder seg).Overflows fault := by
  have peer : cb.receiveSide.peer = cb.state.peerSide := rfl
  unfold receiveInOrder at ran
  unfold ReceiveSide.inOrder
  by_cases text : seg.data ≠ [] ∧ cb.receiveSide.peer = .sending
  · have mayReceive : (!seg.data.isEmpty && mayReceiveData cb.state) = true := by
      rw [Bool.and_eq_true, mayReceiveData_iff, ← peer]
      exact ⟨by simpa using text.1, text.2⟩
    rw [if_pos mayReceive] at ran
    rw [if_pos text]
    rw [← (receiveData_receiveSide cb seg.data).1, ← (receiveData_receiveSide cb seg.data).2]
    have state : (cb.receiveData seg.data).2.state = cb.state := rfl
    rcases taken : cb.receiveData seg.data with ⟨released, cb₁⟩
    simp only [taken] at ran state ⊢
    split at ran
    next fin =>
      rw [if_pos fin]
      rcases receiveFin_error ran with ⟨-, closed⟩ | overflow
      · -- a connection that takes data is not closed
        have sending := text.2
        rw [peer, ← state, closed] at sending
        cases sending
      · exact .inr overflow
    next noFin =>
      rw [if_neg noFin]
      exact .inr (scheduleAck_error ran)
  · have mayNot : ¬(!seg.data.isEmpty && mayReceiveData cb.state) = true := by
      rw [Bool.and_eq_true, mayReceiveData_iff, ← peer]
      exact fun h => text ⟨by simpa using h.1, h.2⟩
    rw [if_neg mayNot] at ran
    rw [if_neg text]
    split at ran
    next fin =>
      rw [if_pos fin]
      rcases receiveFin_error ran with ⟨bad, closed⟩ | overflow
      · exact .inl ⟨bad, closed, fin⟩
      · exact .inr overflow
    next => cases ran

/-- The out-of-order branch stops on a cut in the store, or on the window, which it does not change. -/
theorem receiveOutOfOrder_error {cb : ControlBlock σ} {env : Env} {seg : InSegment} {fault : Fault}
    (ran : cb.receiveOutOfOrder env seg = .error fault) :
    cb.receiveSide.store seg = .error fault ∨ cb.receiveSide.Overflows fault := by
  have peer : cb.receiveSide.peer = cb.state.peerSide := rfl
  -- storing can fail in its cuts, and the ACK that follows in the window
  have stored : ∀ (fin : Option SeqNumber) {last : SeqNumber},
      (({ cb with outOfOrderFin := fin } : ControlBlock σ).storeOutOfOrderSegment seg.segStart last
        seg.data >>= fun cb => cb.sendAck env) = .error fault →
      storePasses (cb.outOfOrder.length + 1) seg.segStart last seg.data cb.outOfOrder =
        .error fault ∨ cb.receiveSide.Overflows fault := by
    intro fin last ran
    rcases bind_eq_error.mp ran with cut | ⟨cb', stored, ran⟩
    · rcases bind_eq_error.mp cut with cut | ⟨store, -, cut⟩
      · exact .inl cut
      · cases cut
    · obtain ⟨store, -, rfl⟩ := storeOutOfOrderSegment_ok stored
      have overflow := sendAck_error ran
      exact .inr overflow
  unfold receiveOutOfOrder at ran
  split at ran
  next text =>
    have inStore : 0 < seg.segLen ∧ cb.receiveSide.peer = .sending := by
      rwa [Bool.and_eq_true, mayReceiveData_iff, ← peer, decide_eq_true_eq] at text
    unfold ReceiveSide.store
    rw [if_pos inStore]
    split at ran
    next fin =>
      rw [if_pos fin]
      dsimp only at ran ⊢
      split at ran
      next more =>
        rw [if_pos more]
        rcases stored _ ran with cut | overflow
        · exact .inl (bind_eq_error.mpr (.inl cut))
        · exact .inr overflow
      next =>
        have overflow := sendAck_error ran
        exact .inr overflow
    next noFin =>
      rw [if_neg noFin]
      rcases stored cb.outOfOrderFin ran with cut | overflow
      · exact .inl (bind_eq_error.mpr (.inl cut))
      · exact .inr overflow
  next => cases ran

/-- What is acknowledged is more than there is. -/
theorem removeAcknowledged_error {now : Instant} {queue : List UnackedSegment} {n : Nat}
    {rto : RtoCalculator} {fault : Fault}
    (ran : Sender.removeAcknowledged now n queue rto = .error fault) : fault = .unackedUnderrun := by
  fun_induction Sender.removeAcknowledged now n queue rto with
  | case1 => cases ran
  | case2 => exact (Except.error.inj ran).symm
  | case3 => cases ran
  | case4 => cases ran
  | case5 n segment rest rto _ _ ih => exact ih ran

variable [CongestionControl σ]

/-- The processing of an ACK can only spin. -/
theorem processAck_error {cb : ControlBlock σ} {now : Instant} {header : TcpHeader} {fault : Fault}
    (ran : cb.processAck now header = .error fault) : fault = .unackedUnderrun := by
  unfold processAck at ran
  dsimp only at ran
  split at ran
  · split at ran
    · rcases bind_eq_error.mp ran with removed | ⟨⟨queue, rto⟩, -, ran⟩
      · exact removeAcknowledged_error removed
      · dsimp only at ran
        split at ran <;> cases ran
    · cases ran
  · cases ran

/-- **What `receive` can stop with.** -/
theorem receive_error {cb : ControlBlock σ} {env : Env} {header : TcpHeader} {data : Buffer}
    {fault : Fault} (ran : cb.receive env header data = .error fault) :
    InSegment.accept cb.receiver.receiveNext cb.getReceiveWindowSize header data = .error fault ∨
      cb.receiveSide.Overflows fault ∨ fault = .unackedUnderrun ∨
    ∃ seg, InSegment.accept cb.receiver.receiveNext cb.getReceiveWindowSize header data =
        .ok (some seg) ∧
      (seg.header.rst = true ∧ cb.state = .closed ∧ fault = .badTcpState .closed ∨
        ∃ cb₁, seg.Acks ∧ cb.processAck env.now seg.header = .ok (true, cb₁) ∧
          (seg.segStart = cb.receiver.receiveNext ∧ cb₁.receiveInOrder env seg = .error fault ∨
            seg.segStart ≠ cb.receiver.receiveNext ∧
              cb₁.receiveOutOfOrder env seg = .error fault)) := by
  rcases bind_eq_error.mp ran with accept | ⟨accepted, accept, ran⟩
  · exact .inl accept
  cases accepted with
  | none =>
    dsimp only at ran
    split at ran
    · cases ran
    · exact .inr (.inl (sendAck_error ran))
  | some seg =>
    simp only [receiveInWindow] at ran
    split at ran
    next rst =>
      unfold receiveRst at ran
      split at ran
      next closed =>
        rw [closed] at ran
        exact .inr (.inr (.inr ⟨seg, accept, .inl ⟨rst, closed, (Except.error.inj ran).symm⟩⟩))
      · cases ran
    next noRst =>
    split at ran
    · cases ran
    next noSyn =>
    split at ran
    · cases ran
    next ack =>
    have acks : seg.Acks := ⟨by simpa using noRst, by simpa using noSyn, by simpa using ack⟩
    -- the ACK is processed before the text, and a refused one is answered at once
    rcases bind_eq_error.mp ran with spins | ⟨⟨go, cb₁⟩, processed, ran⟩
    · exact .inr (.inr (.inl (processAck_error spins)))
    cases go with
    | false =>
      refine .inr (.inl ?_)
      obtain ⟨overflow, window⟩ := sendAck_error ran
      refine ⟨overflow, ?_⟩
      obtain ⟨peer, side, -⟩ := processAck_receiveSide processed
      rwa [side] at window
    | true =>
      refine .inr (.inr (.inr ⟨seg, accept, .inr ⟨cb₁, acks, processed, ?_⟩⟩))
      dsimp only at ran
      split at ran
      next atNext => exact .inl ⟨atNext, ran⟩
      next later => exact .inr ⟨later, ran⟩

/-! ## Sending -/

omit [CongestionControl σ] in
/-- The probe stops on an empty queue, on an empty buffer, or on the window. -/
theorem senderProbe_error {cb : ControlBlock σ} {now : Instant} {sendNext : SeqNumber}
    {mac : MacAddress} {fault : Fault} (ran : cb.senderProbe now sendNext mac = .error fault) :
    fault = .noUnsentData ∧ cb.sender.unsentQueue = [] ∨ fault = .adjustBeyondLength ∨
      fault = .trimBeyondLength ∨ cb.receiveSide.Overflows fault := by
  unfold senderProbe Sender.popOneUnsentByte at ran
  cases queue : cb.sender.unsentQueue with
  | nil =>
    simp only [queue] at ran
    exact .inl ⟨(Except.error.inj ran).symm, rfl⟩
  | cons front rest =>
    simp only [queue] at ran
    refine .inr ?_
    rcases bind_eq_error.mp ran with pop | ⟨popped, pop, ran⟩
    · rcases bind_eq_error.mp pop with adjust | ⟨left, -, pop⟩
      · exact .inl (Buffer.adjust_error adjust).1
      rcases bind_eq_error.mp pop with trim | ⟨byte, -, pop⟩
      · exact .inr (.inl (Buffer.trim_error trim).1)
      · cases pop
    · obtain ⟨left, -, pop⟩ := bind_eq_ok.mp pop
      obtain ⟨byte, -, pop⟩ := bind_eq_ok.mp pop
      cases pop
      rcases bind_eq_error.mp ran with header | ⟨header, -, ran⟩
      · have overflow := tcpHeader_error header
        exact .inr (.inr overflow)
      · cases ran

omit [CongestionControl σ] in
/-- A repetition of the probe stops on the window only. -/
theorem senderProbeAgain_error {cb : ControlBlock σ} {sendNext : SeqNumber} {buf : Buffer}
    {mac : MacAddress} {timeout : Duration} {fault : Fault}
    (ran : cb.senderProbeAgain sendNext buf mac timeout = .error fault) :
    cb.receiveSide.Overflows fault := by
  rcases bind_eq_error.mp ran with header | ⟨header, -, ran⟩
  · exact tcpHeader_error header
  · cases ran

/-- An iteration stops on an empty queue only. -/
theorem senderIterate_error {cb : ControlBlock σ} {now : Instant} {fault : Fault}
    (ran : cb.senderIterate now = .error fault) :
    fault = .noBufferInUnsentQueue ∧ cb.sender.sendNext ≠ cb.sender.unsentSeqNo ∧
      cb.sender.unsentQueue = [] := by
  unfold senderIterate at ran
  dsimp only at ran
  split at ran
  · cases ran
  next unsent =>
  split at ran
  · cases ran
  cases queue : cb.sender.unsentQueue with
  | nil =>
    simp only [Sender.topSizeUnsent, queue, List.head?_nil, Option.map_none] at ran
    exact ⟨(Except.error.inj ran).symm, unsent, rfl⟩
  | cons front rest =>
    simp only [Sender.topSizeUnsent, queue, List.head?_cons, Option.map_some] at ran
    split at ran <;> cases ran

/-- A normal transmission stops on an empty queue or on the window. -/
theorem senderTransmit_error {cb : ControlBlock σ} {now : Instant} {sendNext : SeqNumber}
    {winSz effectiveCwnd sentData : UInt32} {mac : MacAddress} {fault : Fault}
    (ran : cb.senderTransmit now sendNext winSz effectiveCwnd sentData mac = .error fault) :
    fault = .unsentSequenceGap ∧ cb.sender.unsentQueue = [] ∨ cb.receiveSide.Overflows fault := by
  unfold senderTransmit at ran
  split at ran
  next pop =>
    unfold Sender.popUnsent at pop
    split at pop
    next empty => exact .inl ⟨(Except.error.inj ran).symm, empty⟩
    next => split at pop <;> cases pop
  next =>
    rcases bind_eq_error.mp ran with header | ⟨header, -, ran⟩
    · have overflow := tcpHeader_error header
      exact .inr overflow
    · cases ran

/-- `send` stops on the window only. -/
theorem send_error {cb : ControlBlock σ} {env : Env} {buf : Buffer} {fault : Fault}
    (ran : cb.send env buf = .error fault) : cb.receiveSide.Overflows fault := by
  rcases cb.send_ways env buf with ⟨-, fail, eq⟩ | ⟨-, -, ⟨-, cc, mac, eq⟩ | ⟨-, cc, eq⟩⟩
  · rw [eq] at ran
    cases ran
  · rw [eq] at ran
    cases sent : ({ cb with cc := cc } : ControlBlock σ).sendImmediate env.now buf mac with
    | ok cb' =>
      rw [sent] at ran
      cases ran
    | error fault' =>
      rw [sent] at ran
      cases ran
      rcases bind_eq_error.mp sent with header | ⟨header, -, sent⟩
      · have overflow := tcpHeader_error header
        exact overflow
      · cases sent
  · rw [eq] at ran
    cases ran

/-- Closing fails in sending the FIN, or in the window of a segment. -/
theorem close_error {cb : ControlBlock σ} {env : Env} {fault : Fault}
    (ran : cb.close env = .error fault) : fault = .sendFailed ∨ cb.receiveSide.Overflows fault := by
  unfold close at ran
  split at ran
  · cases ran
  rcases bind_eq_error.mp ran with sent | ⟨⟨result, cb₁⟩, -, ran⟩
  · exact .inr (send_error sent)
  · cases result with
    | ok u => cases ran
    | error fail => exact .inl (Except.error.inj ran).symm

end ControlBlock

namespace Endpoint

variable {σ : Type} [CongestionControl σ]

/-- A poll of the background sender stops on an empty queue it was to take from, on an empty buffer,
or on the window. -/
theorem senderStep_error {e : Endpoint σ} {env : Env} {poll : SenderPoll} {fault : Fault}
    (stopped : e.senderStep env poll = .error fault) :
    e.cb.sender.unsentQueue = [] ∧
        (e.cb.sender.sendNext ≠ e.cb.sender.unsentSeqNo ∨
          (∃ sendNext, e.task = .awaitProbe sendNext) ∨
          ∃ sendNext winSz effectiveCwnd sentData,
            e.task = .awaitSend sendNext winSz effectiveCwnd sentData) ∧
        fault ≠ .windowSizeOverflow ∨
      fault = .adjustBeyondLength ∨ fault = .trimBeyondLength ∨
      e.cb.receiveSide.Overflows fault := by
  unfold senderStep at stopped
  split at stopped
  next =>
    rcases bind_eq_error.mp stopped with ran | ⟨_, -, ran⟩
    · obtain ⟨rfl, unsent, empty⟩ := ControlBlock.senderIterate_error ran
      exact .inl ⟨empty, .inl unsent, by decide⟩
    · cases ran
  next waiting =>
    rcases bind_eq_error.mp stopped with ran | ⟨_, -, ran⟩
    · rcases ControlBlock.senderProbe_error ran with ⟨rfl, empty⟩ | cut
      · exact .inl ⟨empty, .inr (.inl ⟨_, waiting⟩), by decide⟩
      · exact .inr cut
    · cases ran
  next waiting =>
    rcases bind_eq_error.mp stopped with ran | ⟨_, -, ran⟩
    · rcases ControlBlock.senderTransmit_error ran with ⟨rfl, empty⟩ | overflow
      · exact .inl ⟨empty, .inr (.inr ⟨_, _, _, _, waiting⟩), by decide⟩
      · exact .inr (.inr (.inr overflow))
    · cases ran
  next => cases stopped
  next => cases stopped
  next =>
    rcases bind_eq_error.mp stopped with ran | ⟨_, -, ran⟩
    · exact .inr (.inr (.inr (ControlBlock.senderProbeAgain_error ran)))
    · cases ran
  next => cases stopped
  next => cases stopped

/-- A call stops on the window only when the window does not fit before the call. -/
theorem call_overflow {e : Endpoint σ} {env : Env} {c : Call}
    (stopped : e.call env c = .error .windowSizeOverflow) :
    e.cb.receiveSide.Overflows .windowSizeOverflow := by
  cases c with
  | send buf =>
    rcases bind_eq_error.mp stopped with ran | ⟨⟨result, cb⟩, -, ran⟩
    · exact ControlBlock.send_error ran
    · cases result <;> cases ran
  | close =>
    rcases bind_eq_error.mp stopped with ran | ⟨_, -, ran⟩
    · rcases ControlBlock.close_error ran with impossible | overflow
      · cases impossible
      · exact overflow
    · cases ran
  | pollRecv =>
    simp only [call] at stopped
    split at stopped <;> cases stopped
  | sender poll =>
    rcases senderStep_error stopped with ⟨-, -, other⟩ | impossible | impossible | overflow
    · exact absurd rfl other
    · cases impossible
    · cases impossible
    · exact overflow
  | acknowledger =>
    simp only [call] at stopped
    split at stopped
    · cases stopped
    · rcases bind_eq_error.mp stopped with ran | ⟨_, -, ran⟩
      · exact ControlBlock.sendAck_error ran
      · cases ran
  | retransmitter =>
    simp only [call] at stopped
    split at stopped <;> cases stopped

end Endpoint

end Inetstack.Tcp
