import Inetstack.Laws.Tcp.Established.PeerFin

/-!
# Connection states and what must have happened

The state of a connection changes in three places: when an ACK of everything sent is processed, when
a FIN of the peer is consumed, and when a segment with our FIN goes out. One segment can pass through
the first two, and the third may happen in the fast path of `send` or in the background task. Each
state therefore says something about the past: whether our FIN is out, whether the peer's has been
consumed, whether ours has been acknowledged.

`Closed` is entered from anywhere on an RST or a SYN in the window, and from LAST-ACK on the ACK of
our FIN. It is never left.
-/

namespace Inetstack.Tcp

open Machine (bind_eq_ok Occurs)

/-! ## The state diagram -/

namespace State

/-- The edges of the state diagram of RFC 793 between states of a connection that is not closed. -/
def edge : State → State → Bool
  | .established, .finWait1 => true
  | .established, .closeWait => true
  | .finWait1, .finWait2 => true
  | .finWait1, .closing => true
  | .finWait2, .timeWait => true
  | .closing, .timeWait => true
  | .closeWait, .lastAck => true
  | _, _ => false

/-- One edge, or two in a row. -/
def Path (s s' : State) : Prop :=
  s.edge s' = true ∨ ∃ between : State, s.edge between = true ∧ between.edge s' = true

/-- The states before a FIN of ours. -/
def beforeOurFin : State → Bool
  | .established | .closeWait => true
  | _ => false

/-- The states that follow a FIN of ours. -/
def afterOurFin : State → Bool
  | .finWait1 | .finWait2 | .closing | .timeWait | .lastAck => true
  | _ => false

/-- The states that follow an ACK of our FIN. -/
def afterFinAcked : State → Bool
  | .finWait2 | .timeWait => true
  | _ => false

end State

namespace ControlBlock

variable {σ : Type}

/-- Consuming the peer's FIN is an edge of the diagram, or no move. -/
theorem stateAfterFin_edge {state state' : State} (ran : stateAfterFin state = .ok state') :
    state' = state ∨ state.edge state' = true := by
  cases state <;> simp only [stateAfterFin, Except.ok.injEq, reduceCtorEq] at ran <;> subst ran <;>
    simp [State.edge]

/-- So is the ACK of our FIN, but for the last one, which closes the connection. -/
theorem stateAfterAllAcked_edge (state : State) :
    stateAfterAllAcked state = state ∨ state.edge (stateAfterAllAcked state) = true ∨
      state = .lastAck ∧ stateAfterAllAcked state = .closed := by
  cases state <;> simp [stateAfterAllAcked, State.edge]

/-- And so is sending our FIN. -/
theorem stateAfterFinSent_edge (state : State) :
    stateAfterFinSent state = state ∨ state.edge (stateAfterFinSent state) = true := by
  cases state <;> simp [stateAfterFinSent, State.edge]

/-- Wherever our FIN is sent from, it has been sent then. -/
theorem stateAfterFinSent_passed (state : State) :
    (stateAfterFinSent state).beforeOurFin = false := by
  cases state <;> rfl

/-- The ACK is of everything sent, and of something not acknowledged before. -/
def acksAll (cb : ControlBlock σ) (header : TcpHeader) : Bool :=
  cb.sender.sendUnacked.lt header.ackNum && header.ackNum == cb.sender.sendNext

/-- `receive` consumes a FIN of the peer with this segment: its own, or a remembered one. -/
def consumesFin (cb : ControlBlock σ) (seg : InSegment) : Bool :=
  seg.segStart == cb.receiver.receiveNext &&
    (seg.header.fin ||
      !seg.data.isEmpty && mayReceiveData cb.state && cb.receiveSide.releasesFin seg.data)

theorem sendAck_state {cb cb' : ControlBlock σ} {env : Env} (ran : cb.sendAck env = .ok cb') :
    cb'.state = cb.state := by
  rcases sendAck_cases ran with rfl | ⟨segment, -, rfl⟩ <;> rfl

theorem scheduleAck_state {cb cb' : ControlBlock σ} {env : Env}
    (ran : cb.scheduleAck env = .ok cb') : cb'.state = cb.state := by
  unfold scheduleAck at ran
  split at ran
  · cases ran; rfl
  · have same := sendAck_state ran
    exact same

/-- The state a consumed FIN leads to. -/
theorem receiveFin_state {cb cb' : ControlBlock σ} {env : Env} (ran : cb.receiveFin env = .ok cb') :
    stateAfterFin cb.state = .ok cb'.state := by
  obtain ⟨state, after, ran⟩ := bind_eq_ok.mp ran
  rw [sendAck_state ran, after]

/-- Storing a segment changes no state. -/
theorem receiveOutOfOrder_state {cb cb' : ControlBlock σ} {env : Env} {seg : InSegment}
    (ran : cb.receiveOutOfOrder env seg = .ok cb') : cb'.state = cb.state := by
  unfold receiveOutOfOrder at ran
  split at ran
  · split at ran
    · dsimp only at ran
      split at ran
      · obtain ⟨cb₁, stored, ran⟩ := bind_eq_ok.mp ran
        obtain ⟨store, -, rfl⟩ := storeOutOfOrderSegment_ok stored
        rw [sendAck_state ran]
        rfl
      · rw [sendAck_state ran]
        rfl
    · obtain ⟨cb₁, stored, ran⟩ := bind_eq_ok.mp ran
      obtain ⟨store, -, rfl⟩ := storeOutOfOrderSegment_ok stored
      rw [sendAck_state ran]
  · cases ran; rfl

/-- In-order text moves the state only by consuming a FIN. -/
theorem receiveInOrder_state {cb cb' : ControlBlock σ} {env : Env} {seg : InSegment}
    (atNext : seg.segStart = cb.receiver.receiveNext)
    (ran : cb.receiveInOrder env seg = .ok cb') :
    cb'.state = cb.state ∨ cb.consumesFin seg = true ∧ stateAfterFin cb.state = .ok cb'.state := by
  unfold receiveInOrder at ran
  split at ran
  next text =>
    rw [Bool.and_eq_true] at text
    rcases hdata : cb.receiveData seg.data with ⟨released, cb₁⟩
    have same : cb₁.state = cb.state := by
      have := congrArg (fun x => x.2.state) hdata
      exact this.symm
    have releases : released = cb.receiveSide.releasesFin seg.data := by
      rw [← (receiveData_receiveSide cb seg.data).2, hdata]
    simp only [hdata] at ran
    split at ran
    next fin =>
      refine .inr ⟨?_, by rw [← same]; exact receiveFin_state ran⟩
      rw [releases] at fin
      simp only [consumesFin, atNext, beq_self_eq_true, text.1, text.2, Bool.true_and]
      exact fin
    next => exact .inl ((scheduleAck_state ran).trans same)
  next =>
    split at ran
    next fin =>
      refine .inr ⟨?_, receiveFin_state ran⟩
      simp only [consumesFin, atNext, beq_self_eq_true, fin, Bool.true_and, Bool.true_or]
    next => cases ran; exact .inl rfl

variable [CongestionControl σ]

/-- An ACK changes the state only when it is of everything sent, and leaves alone what the
consumption of a FIN depends on. -/
theorem processAck_state {cb cb' : ControlBlock σ} {now : Instant} {header : TcpHeader} {go : Bool}
    (ran : cb.processAck now header = .ok (go, cb')) :
    (cb'.state = cb.state ∨
      cb.acksAll header = true ∧ cb'.state = stateAfterAllAcked cb.state) ∧
      ∀ seg, cb'.consumesFin seg = cb.consumesFin seg := by
  obtain ⟨peer, side, gone⟩ := processAck_receiveSide ran
  constructor
  · rcases processAck_cases ran with
      ⟨cc, rfl, -⟩ | ⟨-, newer, -, cc, queue, rto, deadline, state, hstate, rfl⟩
    · exact .inl rfl
    · rcases hstate with rfl | ⟨all, rfl⟩
      · exact .inl rfl
      · refine .inr ⟨?_, rfl⟩
        rw [acksAll, newer, all, beq_self_eq_true, Bool.and_self]
  · intro seg
    have receiver : cb'.receiver = cb.receiver := congrArg ReceiveSide.receiver side
    have releases : cb'.receiveSide.releasesFin seg.data = cb.receiveSide.releasesFin seg.data := by
      rw [side]
      rfl
    have may : mayReceiveData cb'.state = mayReceiveData cb.state := by
      have peer' : cb'.state.peerSide = peer := congrArg ReceiveSide.peer side
      rw [Bool.eq_iff_iff, mayReceiveData_iff, mayReceiveData_iff, peer']
      rcases gone with same | ⟨finished, rfl⟩
      · rw [same]
        rfl
      · have finished : cb.state.peerSide = .finished := finished
        rw [finished]
        simp
    simp only [consumesFin, receiver, releases, may]

/-- **How `receive` moves the state.** An RST or a SYN in the window closes the connection; otherwise
the state passes the ACK and then the FIN. -/
theorem receive_state {cb cb' : ControlBlock σ} {env : Env} {header : TcpHeader} {data : Buffer}
    (ran : cb.receive env header data = .ok cb') :
    cb'.state = cb.state ∨
    ∃ seg, InSegment.accept cb.receiver.receiveNext cb.getReceiveWindowSize header data =
        .ok (some seg) ∧
      ((seg.header.rst = true ∨ seg.header.syn = true) ∧ cb'.state = .closed ∨
        seg.Acks ∧ ∃ state,
          (state = cb.state ∨
            cb.acksAll seg.header = true ∧ state = stateAfterAllAcked cb.state) ∧
          (cb'.state = state ∨ cb.goesOn seg = true ∧ cb.consumesFin seg = true ∧
            stateAfterFin state = .ok cb'.state)) := by
  rcases receive_cases ran with rfl | ran | ⟨seg, accepted, flag, rfl⟩ |
    ⟨seg, cb₁, accepted, acks, processed, ran⟩ |
    ⟨seg, cb₁, accepted, acks, processed, ⟨atNext, ran⟩ | ⟨-, ran⟩⟩
  · exact .inl rfl
  · exact .inl (sendAck_state ran)
  · exact .inr ⟨seg, accepted, .inl ⟨flag, rfl⟩⟩
  · obtain ⟨moved, -⟩ := processAck_state processed
    exact .inr ⟨seg, accepted, .inr ⟨acks, cb₁.state, moved, .inl (sendAck_state ran)⟩⟩
  · obtain ⟨moved, consumes⟩ := processAck_state processed
    obtain ⟨peer, side, -⟩ := processAck_receiveSide processed
    have receiver : cb₁.receiver = cb.receiver := congrArg ReceiveSide.receiver side
    refine .inr ⟨seg, accepted, .inr ⟨acks, cb₁.state, moved, ?_⟩⟩
    rw [← consumes seg]
    rcases receiveInOrder_state (by rw [atNext, receiver]) ran with same | consumed
    · exact .inl same
    · exact .inr ⟨goesOn_of_processAck acks processed, consumed⟩
  · obtain ⟨moved, -⟩ := processAck_state processed
    exact .inr ⟨seg, accepted, .inr ⟨acks, cb₁.state, moved, .inl (receiveOutOfOrder_state ran)⟩⟩

end ControlBlock

/-- A segment with a FIN. -/
def Event.bringsFin : Event → Bool
  | .receive header _ _ => header.fin
  | .call _ _ => false

/-- A segment leaves a FIN consumed or remembered only where there was one, or it brought one. -/
theorem ReceiveSide.Received.fin_arises {r r' : ReceiveSide} {goesOn : InSegment → Bool}
    {header : TcpHeader} {data : Buffer} (received : r.Received goesOn header data r')
    (known : r'.peer = .finished ∨ r'.outOfOrderFin.isSome = true) :
    (r.peer = .finished ∨ r.outOfOrderFin.isSome = true) ∨ header.fin = true := by
  cases received with
  | dropped => exact .inl known
  | gone => exact .inl (.inr (known.resolve_left (by simp)))
  | @inOrder seg peer accepted goes noSyn acked atNext expected =>
    have kept (finished : peer = .finished) : r.peer = .finished := by
      rcases acked with same | ⟨here, -⟩
      · rw [← same, finished]
      · exact here
    unfold ReceiveSide.inOrder at known
    split at known
    · split at known
      next consumed =>
        rw [Bool.or_eq_true] at consumed
        rcases consumed with own | released
        · exact .inr (InSegment.accept_fin accepted own).1
        · simp only [ReceiveSide.releasesFin, Bool.and_eq_true] at released
          exact .inl (.inr released.2)
      next =>
        rcases known with finished | remembered
        · exact .inl (.inl (kept finished))
        · exact .inl (.inr remembered)
    · split at known
      next own => exact .inr (InSegment.accept_fin accepted own).1
      next =>
        rcases known with finished | remembered
        · exact .inl (.inl (kept finished))
        · exact .inl (.inr remembered)
  | @outOfOrder seg peer r' accepted goes noSyn acked later stored =>
    obtain ⟨store, fin, rfl, -, same | ⟨own, -⟩⟩ := ReceiveSide.store_cases stored
    · rcases known with finished | remembered
      · rcases acked with same | ⟨here, -⟩
        · exact .inl (.inl (same ▸ finished))
        · exact .inl (.inl here)
      · exact .inl (.inr (same ▸ remembered))
    · exact .inr (InSegment.accept_fin accepted own).1

/-! ## Our FIN -/

namespace Endpoint

variable {σ : Type}

/-- What an event other than the arrival of a segment does to the state: nothing, or what the sending
of a FIN does. -/
def FinSent (e e' : Endpoint σ) : Prop :=
  ∃ segments, e'.cb.rt.transmitted = e.cb.rt.transmitted ++ segments ∧
    ((∀ segment ∈ segments, segment.tcpHdr.fin = false) ∧ e'.cb.state = e.cb.state ∨
      (∃ segment ∈ segments, segment.tcpHdr.fin = true) ∧
        e'.cb.state = ControlBlock.stateAfterFinSent e.cb.state)

theorem FinSent.of_eq {e e' : Endpoint σ} (rt : e'.cb.rt = e.cb.rt)
    (state : e'.cb.state = e.cb.state) : FinSent e e' :=
  ⟨[], by rw [rt, List.append_nil], .inl ⟨fun _ h => absurd h List.not_mem_nil, state⟩⟩

/-- What goes out with text in it is data, or the FIN that changes the state. -/
theorem FinSent.of_sentText {e e' : Endpoint σ} {segment : TcpSegment} {sender : Sender}
    (sent : e.cb.SentText segment sender e'.cb) : FinSent e e' := by
  refine ⟨[segment], sent.transmitted, ?_⟩
  obtain ⟨cc, deadline, eq⟩ := sent
  rw [eq]
  cases fin : segment.tcpHdr.fin with
  | false => exact .inl ⟨fun s hs => by rwa [List.mem_singleton.mp hs], rfl⟩
  | true => exact .inr ⟨⟨segment, List.mem_singleton_self _, fin⟩, rfl⟩

theorem FinSent.of_sendAck {e e' : Endpoint σ} {env : Env} (ran : e.cb.sendAck env = .ok e'.cb) :
    FinSent e e' := by
  obtain ⟨acks, transmitted, pure⟩ := (ControlBlock.sendAck_acked ran).transmitted
  exact ⟨acks, transmitted, .inl ⟨fun s hs => (pure s hs).fin, ControlBlock.sendAck_state ran⟩⟩

variable [CongestionControl σ]

/-- `send` sends no FIN, unless its buffer is the end-of-send marker. -/
theorem FinSent.of_send {e e' : Endpoint σ} {env : Env} {buf : Buffer} {result : Except Fail Unit}
    {cb : ControlBlock σ} (ran : e.cb.send env buf = .ok (result, cb)) (rt : e'.cb.rt = cb.rt)
    (state : e'.cb.state = cb.state) : FinSent e e' := by
  rcases ControlBlock.send_cases ran with
    ⟨fail, cc, -, rfl, -⟩ | ⟨-, -, -, ⟨-, segment, -, sent⟩ | ⟨-, -, cc, rfl⟩⟩
  · exact .of_eq rt state
  · have text : FinSent e { e' with cb := cb } := .of_sentText sent
    obtain ⟨segments, transmitted, moved⟩ := text
    refine ⟨segments, by rw [rt]; exact transmitted, ?_⟩
    rw [state]
    exact moved
  · exact .of_eq rt state

/-- **A poll of the background sender** changes the state by sending our FIN, or not at all. -/
theorem senderStep_finSent {e e' : Endpoint σ} {env : Env} {poll : SenderPoll}
    (stepped : e.senderStep env poll = .ok e') : FinSent e e' := by
  unfold senderStep at stepped
  split at stepped
  · obtain ⟨⟨task, cb⟩, ran, eq⟩ := bind_eq_ok.mp stepped
    obtain ⟨cc, rfl, -⟩ := ControlBlock.senderIterate_cases ran
    cases eq
    exact .of_eq rfl rfl
  · obtain ⟨⟨task, cb⟩, ran, eq⟩ := bind_eq_ok.mp stepped
    obtain ⟨_, _, _, _, _, segment, _, sent⟩ := ControlBlock.senderProbe_sentText ran
    cases eq
    exact .of_sentText sent
  · obtain ⟨⟨task, cb⟩, ran, eq⟩ := bind_eq_ok.mp stepped
    obtain ⟨_, _, _, _, segment, _, sent⟩ := ControlBlock.senderTransmit_sentText ran
    cases eq
    exact .of_sentText sent
  · cases stepped
    exact .of_eq rfl rfl
  · cases stepped
    exact .of_eq rfl rfl
  · obtain ⟨⟨task, cb⟩, ran, eq⟩ := bind_eq_ok.mp stepped
    obtain ⟨_, segment, _, sent⟩ := ControlBlock.senderProbeAgain_sentText ran
    cases eq
    exact .of_sentText sent
  · cases stepped
    exact .of_eq rfl rfl
  · cases stepped
    exact .of_eq rfl rfl

/-- **Every event but the arrival of a segment moves the state only by sending a FIN.** -/
theorem call_finSent {e e' : Endpoint σ} {c : Call} {env : Env}
    (stepped : e.step (.call c env) = .ok e') : FinSent e e' := by
  cases c with
  | send buf =>
    obtain ⟨⟨result, cb⟩, ran, eq⟩ := bind_eq_ok.mp stepped
    cases result <;> cases eq <;> exact .of_send ran rfl rfl
  | close =>
    obtain ⟨cb, ran, eq⟩ := bind_eq_ok.mp stepped
    cases eq
    rcases ControlBlock.close_cases ran with ⟨-, rfl⟩ | ⟨cb₁, sent, rfl⟩
    · exact .of_eq rfl rfl
    · exact .of_send sent rfl rfl
  | pollRecv =>
    simp only [step, call, ControlBlock.pollRecv] at stepped
    cases popped : e.cb.receiver.pop with
    | none =>
      simp only [popped, Except.ok.injEq] at stepped
      subst stepped
      exact .of_eq rfl rfl
    | some read =>
      obtain ⟨buf, receiver⟩ := read
      simp only [popped, Except.ok.injEq] at stepped
      subst stepped
      exact .of_eq rfl rfl
  | sender poll => exact senderStep_finSent stepped
  | acknowledger =>
    simp only [step, call] at stepped
    split at stepped
    · cases stepped
      exact .of_eq rfl rfl
    · obtain ⟨cb, ran, eq⟩ := bind_eq_ok.mp stepped
      cases eq
      exact .of_sendAck ran
  | retransmitter =>
    simp only [step, call] at stepped
    split at stepped
    · cases stepped
      exact .of_eq rfl rfl
    · cases stepped
      exact .of_eq rfl rfl

/-- Where our FIN stands. `n` segments had been transmitted before the connection began, and every
FIN since then is at a number that has been used. A task that waits to send is still where SND.NXT
was when it began to wait, since nothing goes out at once while there is something in the queue. -/
structure FinNumbered (isn : SeqNumber) (n : Nat) (e : Endpoint σ) : Prop where
  next : e.cb.sender.sendNext = isn + e.history.used
  waiting : ∀ x winSz cwnd sentData, e.task = .awaitSend x winSz cwnd sentData →
    x = e.cb.sender.sendNext ∧ e.cb.sender.unsentQueue ≠ []
  length : n ≤ e.cb.rt.transmitted.length
  numbered : ∀ segment ∈ e.cb.rt.transmitted.drop n, segment.tcpHdr.fin = true →
    ∃ k < e.history.used, segment.tcpHdr.seqNum = isn + (k : SeqNumber)

/-- There is no FIN of ours before it, and one after it. -/
structure FinLogged (isn : SeqNumber) (n : Nat) (e : Endpoint σ) : Prop
    extends FinNumbered isn n e where
  before : e.cb.state.beforeOurFin = true → ∀ segment ∈ e.cb.rt.transmitted.drop n,
    segment.tcpHdr.fin = false
  after : e.cb.state.afterOurFin = true → ∃ segment ∈ e.cb.rt.transmitted.drop n,
    segment.tcpHdr.fin = true

namespace FinNumbered

variable {isn : SeqNumber} {n : Nat} {e e' : Endpoint σ}

omit [CongestionControl σ]

/-- What comes after the first `n` segments. -/
theorem drop_transmitted (h : e.FinNumbered isn n) {segments : List TcpSegment}
    (transmitted : e'.cb.rt.transmitted = e.cb.rt.transmitted ++ segments) :
    e'.cb.rt.transmitted.drop n = e.cb.rt.transmitted.drop n ++ segments := by
  rw [transmitted, List.drop_append_of_le_length h.length]

/-- Segments without a FIN, while SND.NXT stays. -/
theorem quiet (h : e.FinNumbered isn n) {segments : List TcpSegment}
    (transmitted : e'.cb.rt.transmitted = e.cb.rt.transmitted ++ segments)
    (noFin : ∀ segment ∈ segments, segment.tcpHdr.fin = false)
    (next : e'.cb.sender.sendNext = e.cb.sender.sendNext)
    (used : e'.history.used = e.history.used)
    (waiting : ∀ x winSz cwnd sentData, e'.task = .awaitSend x winSz cwnd sentData →
      x = e'.cb.sender.sendNext ∧ e'.cb.sender.unsentQueue ≠ []) : e'.FinNumbered isn n where
  next := by rw [next, used, h.next]
  waiting := waiting
  length := by
    rw [transmitted, List.length_append]
    exact Nat.le_add_right_of_le h.length
  numbered := by
    intro segment member fin
    rw [h.drop_transmitted transmitted] at member
    rw [used]
    rcases List.mem_append.mp member with old | new
    · exact h.numbered segment old fin
    · rw [noFin segment new] at fin
      cases fin

/-- A piece sent at SND.NXT. -/
theorem piece (h : e.FinNumbered isn n) {segment : TcpSegment} {fin : Bool} {buf : Buffer}
    {x : SeqNumber} (transmitted : e'.cb.rt.transmitted = e.cb.rt.transmitted ++ [segment])
    (text : segment.Text x fin buf) (marker : fin = true → x = e.cb.sender.sendNext ∧ buf = [])
    (next : e'.cb.sender.sendNext = e.cb.sender.sendNext + buf.seqLength)
    (recorded : Transmitted e segment buf e')
    (waiting : ∀ x winSz cwnd sentData, e'.task = .awaitSend x winSz cwnd sentData →
      x = e'.cb.sender.sendNext ∧ e'.cb.sender.unsentQueue ≠ []) : e'.FinNumbered isn n where
  next := by
    rw [next, recorded.used, h.next, Nat.cast_add, SeqNumber.cast_toNat, add_assoc]
  waiting := waiting
  length := by
    rw [transmitted, List.length_append]
    exact Nat.le_add_right_of_le h.length
  numbered := by
    intro s member isFin
    rw [h.drop_transmitted transmitted] at member
    rw [recorded.used]
    rcases List.mem_append.mp member with old | new
    · obtain ⟨k, lt, at_⟩ := h.numbered s old isFin
      exact ⟨k, by omega, at_⟩
    · rw [List.mem_singleton.mp new] at isFin ⊢
      obtain ⟨rfl, rfl⟩ := marker (text.fin ▸ isFin)
      refine ⟨e.history.used, ?_, by rw [text.seqNum, h.next]⟩
      have one : ((Buffer.seqLength [] : Nat) : SeqNumber).toNat = 1 := rfl
      omega

end FinNumbered

/-- **One step** keeps our FIN at a number that has been used. -/
theorem step_finNumbered {isn : SeqNumber} {n : Nat} {e e' : Endpoint σ} {event : Event}
    (h : e.FinNumbered isn n) (stepped : e.step event = .ok e') : e'.FinNumbered isn n := by
  -- nothing is sent at once while the task waits, for the queue is not empty then
  have notWaiting : ∀ {env : Env} {buf : Buffer}, e.cb.sendsAtOnce env buf = true →
      ∀ x winSz cwnd sentData, e.task ≠ .awaitSend x winSz cwnd sentData := by
    intro env buf atOnce x winSz cwnd sentData waiting
    exact (h.waiting _ _ _ _ waiting).2 (ControlBlock.sendsAtOnce_empty atOnce)
  cases step_sendStep stepped with
  | quiet acks task history window =>
    obtain ⟨segments, transmitted, pure⟩ := acks.transmitted
    refine h.quiet transmitted (fun s hs => (pure s hs).fin) acks.sendNext history.used ?_
    intro x winSz cwnd sentData waiting
    rw [acks.sendNext, acks.unsentQueue]
    rcases task with same | top | ⟨fail, ended⟩
    · exact h.waiting x winSz cwnd sentData (same ▸ waiting)
    · rw [top] at waiting
      cases waiting
    · rw [ended] at waiting
      cases waiting
  | waits acks atTop unsent task history window =>
    obtain ⟨segments, transmitted, pure⟩ := acks.transmitted
    refine h.quiet transmitted (fun s hs => (pure s hs).fin) acks.sendNext history.used ?_
    intro x winSz cwnd sentData waiting
    rw [acks.sendNext, acks.unsentQueue]
    rcases task with ⟨probe, -⟩ | ⟨cwnd', front, rest, sends, queue, -⟩
    · rw [probe] at waiting
      cases waiting
    · rw [sends] at waiting
      cases waiting
      exact ⟨rfl, by rw [queue]; exact List.cons_ne_nil _ _⟩
  | sent notDone small atOnce text sent task accepted transmitted =>
    refine h.piece sent.transmitted text (fun fin => ⟨rfl, by simpa using fin⟩)
      (by rw [sent.sender_eq]; rfl) transmitted ?_
    intro x winSz cwnd sentData waiting
    exact absurd (task ▸ waiting) (notWaiting atOnce x winSz cwnd sentData)
  | queued notDone small below side same task window accepted first used =>
    have next := congrArg SendSide.sendNext side
    have queue := congrArg SendSide.unsentQueue side
    have transmitted : e'.cb.rt.transmitted = e.cb.rt.transmitted ++ [] := by
      rw [same, List.append_nil]
    refine h.quiet transmitted (fun _ member => absurd member List.not_mem_nil) next used ?_
    intro x winSz cwnd sentData waiting
    obtain ⟨here, -⟩ := h.waiting x winSz cwnd sentData (task ▸ waiting)
    refine ⟨here.trans next.symm, fun empty => ?_⟩
    have empty : e.cb.sender.unsentQueue ++ [_] = [] := queue.symm.trans empty
    simp at empty
  | sentFin notDone atOnce text sent closed task accepted transmitted =>
    refine h.piece (by rw [closed]; exact sent.transmitted) text (fun _ => ⟨rfl, rfl⟩)
      (by rw [closed]; exact congrArg Sender.sendNext sent.sender_eq) transmitted ?_
    intro x winSz cwnd sentData waiting
    exact absurd (task ▸ waiting) (notWaiting atOnce x winSz cwnd sentData)
  | queuedFin notDone notAtOnce side same task window history =>
    have next := congrArg SendSide.sendNext side
    have queue := congrArg SendSide.unsentQueue side
    have transmitted : e'.cb.rt.transmitted = e.cb.rt.transmitted ++ [] := by
      rw [same, List.append_nil]
    refine h.quiet transmitted (fun _ member => absurd member List.not_mem_nil) next history.used ?_
    intro x winSz cwnd sentData waiting
    obtain ⟨here, -⟩ := h.waiting x winSz cwnd sentData (task ▸ waiting)
    refine ⟨here.trans next.symm, fun empty => ?_⟩
    have empty : e.cb.sender.unsentQueue ++ [[]] = [] := queue.symm.trans empty
    simp at empty
  | probed waiting queue text sent task accepted transmitted =>
    refine h.piece sent.transmitted text (fun fin => by cases fin)
      (by rw [sent.sender_eq]; rfl) transmitted ?_
    intro x winSz cwnd sentData waiting
    rw [task] at waiting
    cases waiting
  | probedAgain probing text sent task history =>
    refine h.quiet sent.transmitted ?_ (by rw [sent.sender_eq]) history.used ?_
    · intro s member
      rw [List.mem_singleton.mp member]
      exact text.fin
    · intro x winSz cwnd sentData waiting
      rw [task] at waiting
      cases waiting
  | popped waiting queue room text sent task accepted transmitted =>
    refine h.piece sent.transmitted text ?_ (by rw [sent.sender_eq]; rfl) transmitted ?_
    · intro fin
      exact ⟨(h.waiting _ _ _ _ waiting).1, by simpa using fin⟩
    · intro x winSz cwnd sentData waiting
      rw [task] at waiting
      cases waiting

/-- Receiving a segment takes no connection back to before our FIN, nor past it. -/
theorem receive_ourFin {cb cb' : ControlBlock σ} {env : Env} {header : TcpHeader} {data : Buffer}
    (ran : cb.receive env header data = .ok cb') :
    (cb'.state.beforeOurFin = true → cb.state.beforeOurFin = true) ∧
      (cb'.state.afterOurFin = true → cb.state.afterOurFin = true) := by
  have acked (s : State) : (State.beforeOurFin (ControlBlock.stateAfterAllAcked s) = true →
      s.beforeOurFin = true) ∧
      (State.afterOurFin (ControlBlock.stateAfterAllAcked s) = true → s.afterOurFin = true) := by
    cases s <;> decide
  have consumed {s s' : State} (after : ControlBlock.stateAfterFin s = .ok s') :
      (s'.beforeOurFin = true → s.beforeOurFin = true) ∧
      (s'.afterOurFin = true → s.afterOurFin = true) := by
    cases s <;> simp only [ControlBlock.stateAfterFin, Except.ok.injEq, reduceCtorEq] at after <;>
      subst after <;> decide
  rcases ControlBlock.receive_state ran with
    same | ⟨seg, -, ⟨-, closed⟩ | ⟨-, state, first, second⟩⟩
  · rw [same]
    exact ⟨id, id⟩
  · rw [closed]
    constructor
    · intro before
      cases before
    · intro after
      cases after
  · have first : (state.beforeOurFin = true → cb.state.beforeOurFin = true) ∧
        (state.afterOurFin = true → cb.state.afterOurFin = true) := by
      rcases first with rfl | ⟨-, rfl⟩
      · exact ⟨id, id⟩
      · exact acked cb.state
    rcases second with same | ⟨-, -, after⟩
    · rw [same]
      exact first
    · exact ⟨fun h => first.1 ((consumed after).1 h), fun h => first.2 ((consumed after).2 h)⟩

/-- **One step** keeps our FIN in the log exactly from FIN-WAIT-1 on. -/
theorem step_finLogged {isn : SeqNumber} {n : Nat} {e e' : Endpoint σ} {event : Event}
    (h : e.FinLogged isn n) (stepped : e.step event = .ok e') : e'.FinLogged isn n := by
  have numbered := step_finNumbered h.toFinNumbered stepped
  cases event with
  | receive header data env =>
    obtain ⟨cb, ran, eq⟩ := bind_eq_ok.mp stepped
    cases eq
    obtain ⟨acks, transmitted, pure⟩ := (ControlBlock.receive_acksOnly ran).transmitted
    have log : (e.after false cb e.task).cb.rt.transmitted.drop n =
        e.cb.rt.transmitted.drop n ++ acks := h.drop_transmitted transmitted
    obtain ⟨before, after⟩ := receive_ourFin ran
    refine ⟨numbered, fun hb => ?_, fun ha => ?_⟩
    · rw [log]
      intro segment member
      rcases List.mem_append.mp member with old | new
      · exact h.before (before hb) segment old
      · exact (pure segment new).fin
    · obtain ⟨segment, member, fin⟩ := h.after (after ha)
      exact ⟨segment, by rw [log]; exact List.mem_append_left _ member, fin⟩
  | call c env =>
    obtain ⟨segments, transmitted, moved⟩ := call_finSent stepped
    have log := h.drop_transmitted transmitted
    refine ⟨numbered, fun hb => ?_, fun ha => ?_⟩
    · rw [log]
      intro segment member
      rcases moved with ⟨noFin, same⟩ | ⟨-, sent⟩
      · rcases List.mem_append.mp member with old | new
        · exact h.before (same ▸ hb) segment old
        · exact noFin segment new
      · rw [sent, ControlBlock.stateAfterFinSent_passed] at hb
        cases hb
    · rw [log]
      rcases moved with ⟨-, same⟩ | ⟨⟨segment, member, fin⟩, -⟩
      · obtain ⟨segment, member, fin⟩ := h.after (same ▸ ha)
        exact ⟨segment, List.mem_append_left _ member, fin⟩
      · exact ⟨segment, List.mem_append_right _ member, fin⟩

/-- Nothing has gone out since the connection began. -/
theorem opened_finLogged (o : Opening) :
    (opened (σ := σ) o).FinLogged o.senderSeqNo o.rt.transmitted.length where
  next := (add_zero o.senderSeqNo).symm
  waiting := fun _ _ _ _ waiting => by cases waiting
  length := le_rfl
  numbered := fun segment member => by
    simp only [opened, start, Opening.block, ControlBlock.new, List.drop_length] at member
    cases member
  before := fun _ segment member => by
    simp only [opened, start, Opening.block, ControlBlock.new, List.drop_length] at member
    cases member
  after := fun closed => by cases closed

/-! ## What brought the states about -/

/-- A segment of which `receive` consumes a FIN, its own or a remembered one. -/
def processesPeerFin (e : Endpoint σ) : Event → Bool
  | .receive header data _ =>
    match InSegment.accept e.cb.receiver.receiveNext e.cb.getReceiveWindowSize header data with
    | .ok (some seg) => e.cb.goesOn seg && e.cb.consumesFin seg
    | _ => false
  | .call _ _ => false

/-- A processed segment that acknowledges SND.NXT, when SND.NXT is past a FIN sent since the
connection began. -/
def AcknowledgesFin (isn : SeqNumber) (n : Nat) (e : Endpoint σ) (event : Event) : Prop :=
  ∃ header data env seg, event = .receive header data env ∧
    InSegment.accept e.cb.receiver.receiveNext e.cb.getReceiveWindowSize header data =
      .ok (some seg) ∧ seg.Acks ∧ e.cb.acksAll seg.header = true ∧
    e.cb.sender.sendNext = isn + e.history.used ∧
    ∃ segment ∈ e.cb.rt.transmitted.drop n, segment.tcpHdr.fin = true ∧
      ∃ k < e.history.used, segment.tcpHdr.seqNum = isn + (k : SeqNumber)

/-- A move to CLOSED: on an RST or a SYN in the window, or on the ACK of our FIN in LAST-ACK. -/
def Closes (isn : SeqNumber) (n : Nat) (e : Endpoint σ) (event : Event) : Prop :=
  (∃ header data env seg, event = .receive header data env ∧
    InSegment.accept e.cb.receiver.receiveNext e.cb.getReceiveWindowSize header data =
      .ok (some seg) ∧ (seg.header.rst = true ∨ seg.header.syn = true)) ∨
  e.cb.state = .lastAck ∧ e.AcknowledgesFin isn n event

omit [CongestionControl σ] in
/-- An ACK of SND.NXT in a state with our FIN in the log acknowledges the FIN. -/
theorem FinLogged.acknowledges {isn : SeqNumber} {n : Nat} {e : Endpoint σ}
    (h : e.FinLogged isn n) {header : TcpHeader} {data : Buffer} {env : Env} {seg : InSegment}
    (accepted : InSegment.accept e.cb.receiver.receiveNext e.cb.getReceiveWindowSize header data =
      .ok (some seg)) (acks : seg.Acks) (all : e.cb.acksAll seg.header = true)
    (out : e.cb.state.afterOurFin = true) :
    e.AcknowledgesFin isn n (.receive header data env) := by
  obtain ⟨segment, member, fin⟩ := h.after out
  exact ⟨header, data, env, seg, rfl, accepted, acks, all, h.next, segment, member, fin,
    h.numbered segment member fin⟩

/-- A state after the peer's FIN comes from one, or from a segment of which a FIN is consumed. -/
theorem peerFin_arises {e e' : Endpoint σ} {event : Event} (stepped : e.step event = .ok e')
    (after : e'.cb.state.afterPeerFin = true) :
    e.cb.state.afterPeerFin = true ∨ e.processesPeerFin event = true := by
  cases event with
  | call c env =>
    obtain ⟨-, -, ⟨-, same⟩ | ⟨-, sent⟩⟩ := call_finSent stepped
    · exact .inl (same ▸ after)
    · rw [sent, State.afterPeerFin_eq, ControlBlock.stateAfterFinSent_peerSide,
        ← State.afterPeerFin_eq] at after
      exact .inl after
  | receive header data env =>
    obtain ⟨cb, ran, eq⟩ := bind_eq_ok.mp stepped
    cases eq
    rcases ControlBlock.receive_state ran with
      same | ⟨seg, accepted, ⟨-, closed⟩ | ⟨-, state, first, second⟩⟩
    · exact .inl (same ▸ after)
    · have after : cb.state.afterPeerFin = true := after
      rw [closed] at after
      cases after
    · rcases second with same | ⟨goes, consumes, -⟩
      · have after : cb.state.afterPeerFin = true := after
        rw [same] at after
        refine .inl ?_
        rcases first with rfl | ⟨-, rfl⟩
        · exact after
        · revert after
          cases e.cb.state <;> decide
      · refine .inr ?_
        simp only [processesPeerFin, accepted, goes, consumes, Bool.and_self]

/-- A FIN of the peer that is consumed or remembered has arrived. -/
theorem peerFin_brought {e e' : Endpoint σ} {event : Event} (stepped : e.step event = .ok e')
    (known : e'.cb.receiveSide.peer = .finished ∨ e'.cb.receiveSide.outOfOrderFin.isSome = true) :
    (e.cb.receiveSide.peer = .finished ∨ e.cb.receiveSide.outOfOrderFin.isSome = true) ∨
      event.bringsFin = true := by
  cases step_receiveStep stepped with
  | untouched side delivered peerFin =>
    rw [side] at known
    exact .inl known
  | read popped side delivered peerFin =>
    rw [side] at known
    exact .inl known
  | received side delivered peerFin => exact side.fin_arises known

/-- The ACK of our FIN is what leads to the states that follow it. -/
theorem finAcked_arises {isn : SeqNumber} {n : Nat} {e e' : Endpoint σ} {event : Event}
    (h : e.FinLogged isn n) (stepped : e.step event = .ok e')
    (after : e'.cb.state.afterFinAcked = true) :
    e.cb.state.afterFinAcked = true ∨ e.AcknowledgesFin isn n event := by
  cases event with
  | call c env =>
    obtain ⟨-, -, ⟨-, same⟩ | ⟨-, sent⟩⟩ := call_finSent stepped
    · exact .inl (same ▸ after)
    · rw [sent] at after
      refine .inl ?_
      revert after
      cases e.cb.state <;> decide
  | receive header data env =>
    obtain ⟨cb, ran, eq⟩ := bind_eq_ok.mp stepped
    cases eq
    have after : cb.state.afterFinAcked = true := after
    rcases ControlBlock.receive_state ran with
      same | ⟨seg, accepted, ⟨-, closed⟩ | ⟨acks, state, first, second⟩⟩
    · exact .inl (same ▸ after)
    · rw [closed] at after
      cases after
    · have between : state.afterFinAcked = true := by
        rcases second with same | ⟨-, -, consumed⟩
        · rwa [same] at after
        · generalize cb.state = s' at consumed after
          cases state <;>
            simp only [ControlBlock.stateAfterFin, Except.ok.injEq, reduceCtorEq] at consumed <;>
            subst consumed <;> first | rfl | exact after
      rcases first with rfl | ⟨all, rfl⟩
      · exact .inl between
      · refine .inr (h.acknowledges accepted acks all ?_)
        revert between
        cases e.cb.state <;> decide

/-- **Every state change follows the diagram**, by one edge or two, or closes the connection. -/
theorem step_state {isn : SeqNumber} {n : Nat} {e e' : Endpoint σ} {event : Event}
    (h : e.FinLogged isn n) (stepped : e.step event = .ok e') :
    e'.cb.state = e.cb.state ∨ e.cb.state.Path e'.cb.state ∨
      e'.cb.state = .closed ∧ e.Closes isn n event := by
  cases event with
  | call c env =>
    obtain ⟨-, -, ⟨-, same⟩ | ⟨-, sent⟩⟩ := call_finSent stepped
    · exact .inl same
    · rw [sent]
      rcases ControlBlock.stateAfterFinSent_edge e.cb.state with same | edge
      · exact .inl same
      · exact .inr (.inl (.inl edge))
  | receive header data env =>
    obtain ⟨cb, ran, eq⟩ := bind_eq_ok.mp stepped
    cases eq
    change cb.state = e.cb.state ∨ e.cb.state.Path cb.state ∨ cb.state = .closed ∧ _
    rcases ControlBlock.receive_state ran with
      same | ⟨seg, accepted, ⟨flag, closed⟩ | ⟨acks, state, first, second⟩⟩
    · exact .inl same
    · exact .inr (.inr ⟨closed, .inl ⟨header, data, env, seg, rfl, accepted, flag⟩⟩)
    · have second : cb.state = state ∨ state.edge cb.state = true := by
        rcases second with same | ⟨-, -, consumed⟩
        · exact .inl same
        · exact ControlBlock.stateAfterFin_edge consumed
      rcases first with rfl | ⟨all, rfl⟩
      · rcases second with same | edge
        · exact .inl same
        · exact .inr (.inl (.inl edge))
      · rcases ControlBlock.stateAfterAllAcked_edge e.cb.state with same | edge | ⟨last, closed⟩
        · rw [same] at second
          rcases second with same | edge
          · exact .inl same
          · exact .inr (.inl (.inl edge))
        · rcases second with same | edge'
          · exact .inr (.inl (.inl (by rw [same]; exact edge)))
          · exact .inr (.inl (.inr ⟨_, edge, edge'⟩))
        · rw [closed] at second
          have closed : cb.state = .closed := second.resolve_right (by cases cb.state <;> decide)
          exact .inr (.inr ⟨closed, .inr ⟨last, h.acknowledges accepted acks all (by rw [last]; rfl)⟩⟩)

/-- **Connection states are justified by history.** Wherever a run from ESTABLISHED ends: before our
FIN none has gone out, and after it one has; after the peer's FIN a segment has brought one and
`receive` has consumed one; after the ACK of our FIN a processed segment has acknowledged a SND.NXT
past our FIN; and every event from there on changes the state along the diagram or closes the
connection for one of the three reasons there are. -/
theorem states_justified (o : Opening) (events : List Event) (e : Endpoint σ)
    (ran : (opened o).run events = .ok e) :
    (e.cb.state = .established ∨ e.cb.state = .closeWait →
      ∀ segment ∈ e.cb.rt.transmitted.drop o.rt.transmitted.length, segment.tcpHdr.fin = false) ∧
    (e.cb.state = .finWait1 ∨ e.cb.state = .finWait2 ∨ e.cb.state = .closing ∨
        e.cb.state = .timeWait ∨ e.cb.state = .lastAck →
      ∃ segment ∈ e.cb.rt.transmitted.drop o.rt.transmitted.length, segment.tcpHdr.fin = true) ∧
    (e.cb.state = .closeWait ∨ e.cb.state = .closing ∨ e.cb.state = .timeWait ∨
        e.cb.state = .lastAck →
      Occurs step (fun e event => e.processesPeerFin event = true) (opened (σ := σ) o) events ∧
      ∃ event ∈ events, event.bringsFin = true) ∧
    (e.cb.state = .finWait2 ∨ e.cb.state = .timeWait →
      Occurs step (AcknowledgesFin o.senderSeqNo o.rt.transmitted.length) (opened (σ := σ) o) events) ∧
    ∀ event e', e.step event = .ok e' → e'.cb.state ≠ e.cb.state →
      e.cb.state.Path e'.cb.state ∨
        e'.cb.state = .closed ∧ e.Closes o.senderSeqNo o.rt.transmitted.length event := by
  have start := opened_finLogged (σ := σ) o
  have logged : e.FinLogged o.senderSeqNo o.rt.transmitted.length :=
    Machine.invariant (FinLogged o.senderSeqNo o.rt.transmitted.length)
      (fun h stepped => step_finLogged h stepped) start ran
  refine ⟨fun state => logged.before ?_, fun state => logged.after ?_, fun state => ⟨?_, ?_⟩,
    fun state => ?_, ?_⟩
  · rcases state with state | state <;> rw [state] <;> rfl
  · rcases state with state | state | state | state | state <;> rw [state] <;> rfl
  · refine Machine.occurs_of_run (fun _ => True) (fun e => e.cb.state.afterPeerFin = true) _
      (fun _ _ => trivial) (fun _ stepped after => peerFin_arises stepped after) trivial nofun ran ?_
    rcases state with state | state | state | state <;> rw [state] <;> rfl
  · apply Machine.exists_of_occurs
    refine Machine.occurs_of_run (fun _ => True)
      (fun e => e.cb.receiveSide.peer = .finished ∨ e.cb.receiveSide.outOfOrderFin.isSome = true)
      (fun _ event => event.bringsFin = true) (fun _ _ => trivial)
      (fun _ stepped known => peerFin_brought stepped known) trivial ?_ ran (.inl ?_)
    · rintro (finished | remembered)
      · cases finished
      · cases remembered
    · change e.cb.state.peerSide = .finished
      rcases state with state | state | state | state <;> rw [state] <;> rfl
  · refine Machine.occurs_of_run (FinLogged o.senderSeqNo o.rt.transmitted.length)
      (fun e => e.cb.state.afterFinAcked = true) _ (fun h stepped => step_finLogged h stepped)
      (fun h stepped after => finAcked_arises h stepped after) start nofun ran ?_
    rcases state with state | state <;> rw [state] <;> rfl
  · intro event e' stepped changed
    exact (step_state logged stepped).resolve_left changed

/-- The user closes, and one segment brings the ACK of our FIN and the FIN of the peer: from FIN-WAIT-1
through FIN-WAIT-2 to TIME-WAIT. -/
theorem states_justified_closed :
    ∃ e : Endpoint CongestionControl.None,
      (Endpoint.start (sampleBlock ⟨50⟩ ⟨40⟩ 100 100 1460)).run
        [.call .close sampleEnv, .receive { sampleHeader 50 41 10 with fin := true } [] sampleEnv] =
          .ok e ∧
      e.cb.state = .timeWait ∧
      (∃ segment ∈ e.cb.rt.transmitted, segment.tcpHdr.fin = true) ∧
      Occurs step (AcknowledgesFin ⟨40⟩ 0) (Endpoint.start (sampleBlock ⟨50⟩ ⟨40⟩ 100 100 1460))
        [.call .close sampleEnv,
          .receive { sampleHeader 50 41 10 with fin := true } [] sampleEnv] := by
  obtain ⟨e, ran, state⟩ := Machine.map_eq_ok
    (x := (Endpoint.start (sampleBlock ⟨50⟩ ⟨40⟩ 100 100 1460)).run
      [.call .close sampleEnv, .receive { sampleHeader 50 41 10 with fin := true } [] sampleEnv])
    (fun e => e.cb.state) (t := .timeWait) (by decide +kernel)
  obtain ⟨-, sent, -, acked, -⟩ := states_justified (sampleOpening ⟨50⟩ ⟨40⟩ 100 100 1460) _ e ran
  exact ⟨e, ran, state, sent (.inr (.inr (.inr (.inl state)))), acked (.inr state)⟩

end Endpoint

end Inetstack.Tcp
