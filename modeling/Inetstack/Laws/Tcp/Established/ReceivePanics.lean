import Inetstack.Laws.Tcp.Established.ReceiveWindow

/-!
# When `receive` panics

A control block is kept and fed after it has been closed, and two arms of `receive` did not expect
that: an RST in CLOSED panics, and so does a FIN that is processed in CLOSED, even when the ACK of the
same segment closed the connection. The acceptance test panics on a SYN at RCV.NXT when the window is
zero. The remaining panic is the window field of a header, which the receive window's law is about.

Where a run avoids these, `receive` does not panic. It may still not return: an ACK that runs out of
unacknowledged segments leaves `remove_acknowledged_data` spinning.
-/

namespace Inetstack.Tcp

open Machine (bind_eq_error)

namespace ControlBlock

variable {σ : Type}

/-- The connection is closed once the ACK of a segment has been processed. -/
def closedAfterAck (cb : ControlBlock σ) (header : TcpHeader) : Bool :=
  cb.state == .closed ||
    (cb.state == .lastAck && cb.sender.sendUnacked.lt header.ackNum &&
      header.ackNum == cb.sender.sendNext)

theorem stateAfterAllAcked_closed {state : State} (closed : stateAfterAllAcked state = .closed) :
    state = .closed ∨ state = .lastAck := by
  cases state <;> first | exact .inl rfl | exact .inr rfl | cases closed

variable [CongestionControl σ]

theorem closedAfterAck_of_processAck {cb cb' : ControlBlock σ} {now : Instant} {header : TcpHeader}
    {go : Bool} (ran : cb.processAck now header = .ok (go, cb')) (closed : cb'.state = .closed) :
    cb.closedAfterAck header = true := by
  rcases processAck_cases ran with
    ⟨cc, rfl, -⟩ | ⟨-, newer, -, cc, queue, rto, deadline, state, after, rfl⟩
  · have closed : cb.state = .closed := closed
    simp [closedAfterAck, closed]
  · have closed : state = .closed := closed
    rcases after with same | ⟨all, after⟩
    · simp [closedAfterAck, ← same, closed]
    · have all : (header.ackNum == cb.sender.sendNext) = true := beq_iff_eq.mpr all
      rcases stateAfterAllAcked_closed (after.symm.trans closed) with before | before
      · simp [closedAfterAck, before]
      · simp [closedAfterAck, before, newer, all]

/-- **What is left for `receive` to stop with**, when the window is in order and the segment is none of
those that panic. -/
theorem receive_spins {cb : ControlBlock σ} {fins : Nat} (h : cb.receiveSide.Windowed fins)
    {env : Env} {header : TcpHeader} {data : Buffer} (short : data.length < 2 ^ 16)
    (safe : ∀ seg, cb.goesOn seg = true →
      InSegment.accept cb.receiver.receiveNext cb.getReceiveWindowSize header data = .ok (some seg) →
      seg.segStart = cb.receiver.receiveNext →
      cb.receiveSide.recent = true ∧ cb.receiveSide.roomForFin seg = true)
    (syn : header.syn = true → header.seqNum = cb.receiver.receiveNext → cb.getReceiveWindowSize ≠ 0)
    (rst : ∀ seg, InSegment.accept cb.receiver.receiveNext cb.getReceiveWindowSize header data =
      .ok (some seg) → seg.header.rst = true → cb.state ≠ .closed)
    (fin : ∀ seg, InSegment.accept cb.receiver.receiveNext cb.getReceiveWindowSize header data =
      .ok (some seg) → cb.goesOn seg = true → seg.segStart = cb.receiver.receiveNext →
      seg.header.fin = true → cb.closedAfterAck seg.header = false)
    {fault : Fault} (stopped : cb.receive env header data = .error fault) :
    fault = .unackedUnderrun := by
  have small : cb.getReceiveWindowSize.toNat < 2 ^ 30 := h.window_small
  have noOverflow : cb.receive env header data ≠ .error .windowSizeOverflow :=
    receive_not_overflows h short safe
  rcases receive_error stopped with accept | ⟨overflow, -⟩ | spins |
    ⟨seg, accepted, ⟨isRst, closed, -⟩ | ⟨cb₁, acks, processed, ⟨atNext, inOrder⟩ | ⟨-, later⟩⟩⟩
  · obtain ⟨accepted, ok, -⟩ := InSegment.accept_eq small short syn
    rw [ok] at accept
    cases accept
  · rw [overflow] at stopped
    exact absurd stopped noOverflow
  · exact spins
  · exact absurd closed (rst seg accepted isRst)
  · rcases receiveInOrder_error inOrder with ⟨-, closed, isFin⟩ | ⟨overflow, -⟩
    · have open_ := fin seg accepted (goesOn_of_processAck acks processed) atNext isFin
      rw [closedAfterAck_of_processAck processed closed] at open_
      cases open_
    · rw [overflow] at stopped
      exact absurd stopped noOverflow
  · rcases receiveOutOfOrder_error later with cut | ⟨overflow, -⟩
    · obtain ⟨shaped, -⟩ := InSegment.accept_fits small short accepted
      obtain ⟨r', stored⟩ := cb₁.receiveSide.store_ok shaped acks.syn
      rw [stored] at cut
      cases cut
    · rw [overflow] at stopped
      exact absurd stopped noOverflow

end ControlBlock

namespace Endpoint

variable {σ : Type} [CongestionControl σ]

/-- The arriving segment is none of those that panic: no SYN at RCV.NXT into a zero window, and in the
window no RST in CLOSED and no in-order FIN that is processed in CLOSED. -/
def expects (e : Endpoint σ) : Event → Bool
  | .receive header data _ =>
    !(header.syn && header.seqNum == e.cb.receiver.receiveNext && e.cb.getReceiveWindowSize == 0) &&
    match InSegment.accept e.cb.receiver.receiveNext e.cb.getReceiveWindowSize header data with
    | .ok (some seg) =>
      !(seg.header.rst && e.cb.state == .closed) &&
        !(e.cb.goesOn seg && seg.segStart == e.cb.receiver.receiveNext && seg.header.fin &&
          e.cb.closedAfterAck seg.header)
    | _ => true
  | .call _ _ => true

/-- One event that leaves room keeps the window in order, however many FINs the peer sends. -/
theorem step_windowed {e e' : Endpoint σ} {event : Event}
    (h : ∃ fins, e.cb.receiveSide.Windowed fins) (short : event.Short)
    (room : e.leavesRoom event = true) (stepped : e.step event = .ok e') :
    ∃ fins, e'.cb.receiveSide.Windowed fins := by
  obtain ⟨fins, h⟩ := h
  cases step_receiveStep stepped with
  | untouched side delivered peerFin =>
    rw [side]
    exact ⟨fins, h⟩
  | read popped side delivered peerFin =>
    rw [side]
    exact ⟨fins, h.read popped⟩
  | received side delivered peerFin =>
    rcases h.receive short side (leavesRoom_spec room) with ⟨-, kept⟩ | ⟨-, more, -⟩
    · exact ⟨fins, kept⟩
    · exact ⟨fins + 1, more⟩

/-- **`receive` does not panic**, in a run that leaves room, on a segment that is none of those that do.
The one way left for it not to return is the loop over the unacknowledged queue. -/
theorem receive_panic_free (o : Opening) (w : UInt16)
    (scaled : o.receiverWindowSize.toNat = w.toNat * 2 ^ o.receiverWindowScale.toNat)
    (small : o.receiverWindowSize.toNat < 2 ^ 30) (events : List Event) (e : Endpoint σ)
    (short : ∀ event ∈ events, event.Short)
    (room : Machine.Admits step (leavesRoom · · = true) (opened (σ := σ) o) events)
    (ran : (opened o).run events = .ok e) (header : TcpHeader) (data : Buffer) (env : Env)
    (fault : Fault) (next : (Event.receive header data env).Short)
    (roomNext : e.leavesRoom (.receive header data env) = true)
    (expected : e.expects (.receive header data env) = true)
    (stopped : e.cb.receive env header data = .error fault) : fault = .unackedUnderrun := by
  obtain ⟨fins, windowed⟩ : ∃ fins, e.cb.receiveSide.Windowed fins := by
    refine Machine.invariant_of_admits (fun e : Endpoint σ =>
      ∃ fins, e.cb.receiveSide.Windowed fins)
      (fun e event => e.leavesRoom event = true ∧ event.Short) ?_ ?_
      (room.and (Machine.admits_of_forall short _)) ran
    · exact fun h ok stepped => step_windowed h ok.2 ok.1 stepped
    · exact ⟨0, opened_windowed scaled small⟩
  simp only [expects, Bool.and_eq_true, Bool.not_eq_true'] at expected
  refine ControlBlock.receive_spins windowed next (leavesRoom_spec roomNext) ?_ ?_ ?_ stopped
  · intro syn here none
    simp [syn, here, none] at expected
  · intro seg accepted rst closed
    simp [accepted, rst, closed] at expected
  · intro seg accepted goes atNext fin
    simp only [accepted, Bool.and_eq_true, Bool.not_eq_true'] at expected
    simpa [goes, atNext, fin] using expected.2.2

/-- An RST closes the connection; an ACK that arrives after it does not panic. -/
theorem receive_panic_free_closed :
    ∃ e : Endpoint CongestionControl.None,
      (Endpoint.start (sampleBlock ⟨1⟩ ⟨40⟩ 100 100 1460)).run
        [.receive { sampleHeader 1 40 10 with rst := true } [] sampleEnv] = .ok e ∧
      e.cb.state = .closed ∧
      ∀ fault, e.cb.receive sampleEnv (sampleHeader 1 40 10) [5] = .error fault →
        fault = .unackedUnderrun := by
  obtain ⟨e, ran, view⟩ := Machine.map_eq_ok
    (x := (Endpoint.start (sampleBlock ⟨1⟩ ⟨40⟩ 100 100 1460)).run
      [.receive { sampleHeader 1 40 10 with rst := true } [] sampleEnv])
    (fun e => (e.cb.state, e.leavesRoom (.receive (sampleHeader 1 40 10) [5] sampleEnv),
      e.expects (.receive (sampleHeader 1 40 10) [5] sampleEnv)))
    (t := (.closed, true, true)) (by decide +kernel)
  simp only [Prod.mk.injEq] at view
  obtain ⟨closed, room, expected⟩ := view
  refine ⟨e, ran, closed, ?_⟩
  intro fault stopped
  refine receive_panic_free (sampleOpening ⟨1⟩ ⟨40⟩ 100 100 1460) 100 (by decide) (by decide) _ e ?_
    (Machine.Admits.of_admits (by decide +kernel)) ran _ _ sampleEnv fault ?_ room expected stopped
  · simp [Event.Short]
  · simp [Event.Short]

/-- Four runs whose last segment panics: an RST after an RST, a FIN after an RST, a SYN at RCV.NXT when
the window is full, and a FIN that the stored data releases past the end of the buffer. -/
theorem receive_panics :
    ((Endpoint.start (sampleBlock ⟨1⟩ ⟨40⟩ 100 100 1460)).run
      [.receive { sampleHeader 1 40 10 with rst := true } [] sampleEnv,
        .receive { sampleHeader 1 40 10 with rst := true } [] sampleEnv]).map (fun _ => ()) =
      .error (.badTcpState .closed) ∧
    ((Endpoint.start (sampleBlock ⟨1⟩ ⟨40⟩ 100 100 1460)).run
      [.receive { sampleHeader 1 40 10 with rst := true } [] sampleEnv,
        .receive { sampleHeader 1 40 10 with fin := true } [] sampleEnv]).map (fun _ => ()) =
      .error (.badTcpState .closed) ∧
    ((Endpoint.start (sampleBlock ⟨1⟩ ⟨40⟩ 1 100 1460)).run
      [.receive (sampleHeader 1 40 10) [5] sampleEnv,
        .receive { sampleHeader 2 40 10 with syn := true } [] sampleEnv]).map (fun _ => ()) =
      .error .trimBeyondLength ∧
    ((Endpoint.start (sampleBlock ⟨1⟩ ⟨40⟩ 4 100 1460)).run
      [.receive { sampleHeader 3 40 10 with fin := true } [] sampleEnv,
        .receive (sampleHeader 3 40 10) [7, 8] sampleEnv,
        .receive (sampleHeader 1 40 10) [5, 6] sampleEnv]).map (fun _ => ()) =
      .error .windowSizeOverflow := by
  refine ⟨?_, ?_, ?_, ?_⟩ <;> decide +kernel

end Endpoint

end Inetstack.Tcp
