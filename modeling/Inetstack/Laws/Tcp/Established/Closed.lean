import Inetstack.Laws.Tcp.Established.States

/-!
# After the connection is closed

Closing a connection writes one cell: the state. It is not written again: no transition leaves CLOSED,
and no data is taken in it. But nothing on the send side looks at the state. `send` and `close` still
put a buffer or a FIN on the wire, the background sender still sends what was queued and repeats its
probe, and an acceptable ACK still moves SND.UNA. `staysSilent` is the condition under which none of
this happens.
-/

namespace Inetstack.Tcp

open Machine (bind_eq_ok Admits)

/-- A segment leaves the receive side of a closed connection alone. -/
theorem ReceiveSide.Received.of_gone {r r' : ReceiveSide} {goesOn : InSegment → Bool}
    {header : TcpHeader} {data : Buffer} (received : r.Received goesOn header data r')
    (gone : r.peer = .gone) : r' = r := by
  have same {peer : PeerSide} (acked : peer = r.peer ∨ r.peer = .finished ∧ peer = .gone) :
      ({ r with peer := peer } : ReceiveSide) = r := by
    rcases acked with rfl | ⟨finished, -⟩
    · rfl
    · rw [gone] at finished
      cases finished
  cases received with
  | dropped => rfl
  | gone =>
    rw [← gone]
  | inOrder accepted goes noSyn acked atNext expected =>
    rw [same acked]
    have peer : ∀ peer, peer = r.peer ∨ r.peer = .finished ∧ peer = .gone → peer = .gone := by
      rintro peer (rfl | ⟨-, rfl⟩)
      · exact gone
      · rfl
    unfold ReceiveSide.inOrder
    rw [if_neg (by rw [gone]; simp), if_neg (fun fin => expected fin (peer _ acked))]
  | outOfOrder accepted goes noSyn acked later stored =>
    rw [same acked] at stored
    unfold ReceiveSide.store at stored
    rw [if_neg (by rw [gone]; simp)] at stored
    exact (Except.ok.inj stored).symm

/-- The operations on a connection other than the user's read. -/
def Event.isOperation : Event → Bool
  | .call .pollRecv _ => false
  | _ => true

namespace Endpoint

variable {σ : Type}

/-- Nothing happened but the sending of segments without text: the connection is closed, the receive
queue and the sequence variables of both sides are as they were. -/
structure Silent (e e' : Endpoint σ) : Prop where
  state : e'.cb.state = .closed
  receiver : e'.cb.receiver = e.cb.receiver
  outOfOrderFin : e'.cb.outOfOrderFin = e.cb.outOfOrderFin
  sendUnacked : e'.cb.sender.sendUnacked = e.cb.sender.sendUnacked
  sendNext : e'.cb.sender.sendNext = e.cb.sender.sendNext
  unsentSeqNo : e'.cb.sender.unsentSeqNo = e.cb.sender.unsentSeqNo
  lastUpdateSeq : e'.cb.sender.sendWindowLastUpdateSeq = e.cb.sender.sendWindowLastUpdateSeq
  lastUpdateAck : e'.cb.sender.sendWindowLastUpdateAck = e.cb.sender.sendWindowLastUpdateAck
  transmitted : ∃ segments, e'.cb.rt.transmitted = e.cb.rt.transmitted ++ segments ∧
    ∀ segment ∈ segments, segment.carriesText = false

theorem Silent.trans {e e' e'' : Endpoint σ} (h : Silent e e') (h' : Silent e' e'') :
    Silent e e'' where
  state := h'.state
  receiver := h'.receiver.trans h.receiver
  outOfOrderFin := h'.outOfOrderFin.trans h.outOfOrderFin
  sendUnacked := h'.sendUnacked.trans h.sendUnacked
  sendNext := h'.sendNext.trans h.sendNext
  unsentSeqNo := h'.unsentSeqNo.trans h.unsentSeqNo
  lastUpdateSeq := h'.lastUpdateSeq.trans h.lastUpdateSeq
  lastUpdateAck := h'.lastUpdateAck.trans h.lastUpdateAck
  transmitted := by
    obtain ⟨segments, eq, silent⟩ := h.transmitted
    obtain ⟨segments', eq', silent'⟩ := h'.transmitted
    refine ⟨segments ++ segments', by rw [eq', eq, List.append_assoc], ?_⟩
    intro segment member
    rcases List.mem_append.mp member with old | new
    · exact silent segment old
    · exact silent' segment new

/-- Nothing on either side has changed but pure ACKs. -/
theorem Silent.of_same {e e' : Endpoint σ} (closed : e.cb.state = .closed)
    (state : e'.cb.state = e.cb.state) (receiver : e'.cb.receiver = e.cb.receiver)
    (fin : e'.cb.outOfOrderFin = e.cb.outOfOrderFin) (sender : e'.cb.sender = e.cb.sender)
    (transmitted : ∃ segments, e'.cb.rt.transmitted = e.cb.rt.transmitted ++ segments ∧
      ∀ segment ∈ segments, segment.PureAck) : Silent e e' where
  state := state.trans closed
  receiver := receiver
  outOfOrderFin := fin
  sendUnacked := congrArg Sender.sendUnacked sender
  sendNext := congrArg Sender.sendNext sender
  unsentSeqNo := congrArg Sender.unsentSeqNo sender
  lastUpdateSeq := congrArg Sender.sendWindowLastUpdateSeq sender
  lastUpdateAck := congrArg Sender.sendWindowLastUpdateAck sender
  transmitted := by
    obtain ⟨segments, eq, pure⟩ := transmitted
    refine ⟨segments, eq, fun segment member => ?_⟩
    simp only [TcpSegment.carriesText, (pure segment member).data, (pure segment member).fin,
      List.isEmpty_nil, Bool.not_true, Bool.or_self]

/-- Nothing has changed on either side. -/
theorem Silent.of_untouched {e e' : Endpoint σ} (closed : e.cb.state = .closed)
    (state : e'.cb.state = e.cb.state) (receiver : e'.cb.receiver = e.cb.receiver)
    (fin : e'.cb.outOfOrderFin = e.cb.outOfOrderFin) (sender : e'.cb.sender = e.cb.sender)
    (rt : e'.cb.rt = e.cb.rt) : Silent e e' :=
  .of_same closed state receiver fin sender
    ⟨[], by rw [rt, List.append_nil], fun _ member => absurd member List.not_mem_nil⟩

/-- A segment with text is heard. -/
theorem Silent.not_of_sentText {e e' : Endpoint σ} {segment : TcpSegment}
    (transmitted : e'.cb.rt.transmitted = e.cb.rt.transmitted ++ [segment])
    (text : segment.carriesText = true) : ¬Silent e e' := by
  intro silent
  obtain ⟨segments, eq, quiet⟩ := silent.transmitted
  rw [transmitted] at eq
  have same : segments = [segment] := (List.append_cancel_left eq).symm
  have := quiet segment (by rw [same]; exact List.mem_singleton_self _)
  rw [text] at this
  cases this

theorem carriesText_of_text {segment : TcpSegment} {seq : SeqNumber} {fin : Bool} {buf : Buffer}
    (text : segment.Text seq fin buf) (some : buf = [] → fin = true) :
    segment.carriesText = true := by
  rw [TcpSegment.carriesText, text.data, text.fin]
  cases buf with
  | nil => rw [some rfl]; rfl
  | cons b bs => rfl

/-- Sending text leaves a closed connection closed. -/
theorem closed_of_sentText {cb cb' : ControlBlock σ} {segment : TcpSegment} {sender : Sender}
    (closed : cb.state = .closed) (sent : cb.SentText segment sender cb') : cb'.state = .closed := by
  obtain ⟨cc, deadline, rfl⟩ := sent
  change (if segment.tcpHdr.fin then ControlBlock.stateAfterFinSent cb.state else cb.state) = .closed
  rw [closed]
  split <;> rfl

variable [CongestionControl σ]

/-- The events that leave a closed connection silent: a segment without an acceptable ACK of something
new; a buffer that is refused, or empty and has to wait; a `close` that is not the first, or has to
wait; and a poll of the background sender that is not the end of a wait to send. -/
def staysSilent (e : Endpoint σ) : Event → Bool
  | .receive header data _ =>
    match InSegment.accept e.cb.receiver.receiveNext e.cb.getReceiveWindowSize header data with
    | .ok (some seg) =>
      seg.header.rst || seg.header.syn || !seg.header.ack ||
        !(e.cb.sender.sendUnacked.lt seg.header.ackNum &&
          seg.header.ackNum.le e.cb.sender.sendNext)
    | _ => true
  | .call (.send buf) env => e.cb.refuses env buf || !e.cb.sendsAtOnce env buf && buf.isEmpty
  | .call .close env => e.cb.userIsDoneSending || !e.cb.sendsAtOnce env []
  | .call (.sender poll) _ =>
    match e.task, poll with
    | .awaitProbe _, .arpReply (.ok _) | .awaitSend _ _ _ _, .arpReply (.ok _)
    | .probing _ _ _ _, .probeTimeout => false
    | _, _ => true
  | _ => true

omit [CongestionControl σ] in
/-- A probe is repeated with the byte it was sent with. -/
def ProbesText (e : Endpoint σ) : Prop :=
  ∀ sendNext buf mac timeout, e.task = .probing sendNext buf mac timeout → buf ≠ []

/-! ## One event -/

section Steps

variable {e e' : Endpoint σ}

/-- A segment leaves a closed connection silent, or its ACK moves SND.UNA. -/
theorem receive_silent_iff {header : TcpHeader} {data : Buffer} {env : Env}
    (closed : e.cb.state = .closed) (ran : e.cb.receive env header data = .ok e'.cb) :
    e'.cb.state = .closed ∧
      (Silent e e' ↔ e.staysSilent (.receive header data env) = true) := by
  have side : e'.cb.receiveSide = e.cb.receiveSide :=
    (ControlBlock.receive_received ran).of_gone (by simp [ControlBlock.receiveSide, closed, State.peerSide])
  have state : e'.cb.state = .closed := by
    have gone : e'.cb.state.peerSide = e.cb.state.peerSide := congrArg ReceiveSide.peer side
    rw [closed] at gone
    revert gone
    cases e'.cb.state <;> simp [State.peerSide]
  refine ⟨state, ?_⟩
  have silent (same : e'.cb.sender = e.cb.sender) : Silent e e' :=
    .of_same closed (state.trans closed.symm) (congrArg ReceiveSide.receiver side)
      (congrArg ReceiveSide.outOfOrderFin side) same (ControlBlock.receive_acksOnly ran).transmitted
  simp only [staysSilent]
  rcases accepted : InSegment.accept e.cb.receiver.receiveNext e.cb.getReceiveWindowSize header
    data with fault | _ | seg
  · rcases ControlBlock.receive_sender ran with same | ⟨seg, queue, accepted', -⟩
    · simp only [iff_true]
      exact silent same
    · rw [accepted] at accepted'
      cases accepted'
  · rcases ControlBlock.receive_sender ran with same | ⟨seg, queue, accepted', -⟩
    · simp only [iff_true]
      exact silent same
    · rw [accepted] at accepted'
      cases accepted'
  · constructor
    · intro quiet
      by_contra heard
      simp only [Bool.not_eq_true, Bool.or_eq_false_iff, Bool.not_eq_false', Bool.and_eq_true] at heard
      obtain ⟨⟨⟨noRst, noSyn⟩, ack⟩, newer, known⟩ := heard
      have moved : e'.cb.sender.sendUnacked = seg.header.ackNum :=
        ControlBlock.receive_sendUnacked ran accepted ⟨noRst, noSyn, ack⟩ newer known
      rw [← moved, quiet.sendUnacked, SeqNumber.lt_irrefl] at newer
      cases newer
    · intro quiet
      rcases ControlBlock.receive_sender ran with
        same | ⟨seg', queue, accepted', acks, newer, known, -⟩
      · exact silent same
      · rw [accepted] at accepted'
        cases accepted'
        simp only [acks.rst, acks.syn, acks.ack, newer, known, Bool.not_true, Bool.or_self,
          Bool.and_self, Bool.false_eq_true] at quiet

theorem send_silent_iff {buf : Buffer} {env : Env} {result : Except Fail Unit}
    {cb : ControlBlock σ} (closed : e.cb.state = .closed)
    (ran : e.cb.send env buf = .ok (result, cb)) (state : e'.cb.state = cb.state)
    (receiver : e'.cb.receiver = cb.receiver) (fin : e'.cb.outOfOrderFin = cb.outOfOrderFin)
    (sender : e'.cb.sender = cb.sender) (rt : e'.cb.rt = cb.rt) :
    e'.cb.state = .closed ∧ (Silent e e' ↔
      (e.cb.refuses env buf || !e.cb.sendsAtOnce env buf && buf.isEmpty) = true) := by
  rcases ControlBlock.send_cases ran with ⟨fail, cc, -, rfl, refused⟩ |
    ⟨-, notDone, small, ⟨atOnce, segment, text, sent⟩ | ⟨notAtOnce, below, cc, rfl⟩⟩
  · refine ⟨state.trans closed, ?_⟩
    simp only [refused, Bool.true_or, iff_true]
    exact .of_untouched closed state receiver fin sender rt
  -- what is sent at once carries text or a FIN, so it is heard
  · have heard : ¬Silent e e' := by
      refine Silent.not_of_sentText (by rw [rt]; exact sent.transmitted)
        (carriesText_of_text text fun empty => ?_)
      rw [empty]
      rfl
    refine ⟨?_, ?_⟩
    · rw [state]
      exact closed_of_sentText closed sent
    · have accepted : e.cb.refuses env buf = false := by
        simp only [ControlBlock.refuses, notDone, decide_eq_false (Nat.not_le.mpr small), atOnce,
          Bool.not_true, Bool.false_and, Bool.or_self]
      simp only [heard, accepted, atOnce, Bool.not_true, Bool.false_and, Bool.or_self,
        Bool.false_eq_true]
  · refine ⟨state.trans closed, ?_⟩
    have accepted : e.cb.refuses env buf = false := by
      simp only [ControlBlock.refuses, notDone, decide_eq_false (Nat.not_le.mpr small),
        decide_eq_false (Nat.not_lt.mpr below), Bool.and_false, Bool.or_self]
    simp only [accepted, notAtOnce, Bool.not_false, Bool.true_and, Bool.false_or,
      List.isEmpty_iff]
    -- what is queued moves `unsentSeqNo`, unless it is empty
    constructor
    · intro silent
      have moved : e.cb.sender.unsentSeqNo + (buf.length : SeqNumber) = e.cb.sender.unsentSeqNo :=
        (congrArg Sender.unsentSeqNo sender).symm.trans silent.unsentSeqNo
      have none : (buf.length : SeqNumber).toNat = 0 := by
        rw [add_eq_left.mp moved]
        rfl
      rw [SeqNumber.toNat_cast, Nat.mod_eq_of_lt small] at none
      exact List.length_eq_zero_iff.mp none
    · rintro rfl
      exact
        { state := state.trans closed
          receiver := receiver
          outOfOrderFin := fin
          sendUnacked := by rw [sender]
          sendNext := by rw [sender]
          unsentSeqNo := by rw [sender]; exact add_zero _
          lastUpdateSeq := by rw [sender]
          lastUpdateAck := by rw [sender]
          transmitted := ⟨[], by rw [rt, List.append_nil], fun _ member =>
            absurd member List.not_mem_nil⟩ }

/-- A poll of the background sender that sends is heard, and any other leaves the control block alone. -/
theorem senderStep_silent_iff {poll : SenderPoll} {env : Env} (closed : e.cb.state = .closed)
    (probing : e.ProbesText) (stepped : e.senderStep env poll = .ok e') :
    e'.cb.state = .closed ∧ (Silent e e' ↔ e.staysSilent (.call (.sender poll) env) = true) := by
  have quiet (cc : σ) (same : e'.cb = { e.cb with cc := cc }) :
      e'.cb.state = .closed ∧ Silent e e' :=
    ⟨by rw [same]; exact closed, .of_untouched closed (by rw [same]) (by rw [same])
      (by rw [same]) (by rw [same]) (by rw [same])⟩
  have heard {segment : TcpSegment} {sender : Sender}
      (sent : e.cb.SentText segment sender e'.cb) (text : segment.carriesText = true) :
      e'.cb.state = .closed ∧ ¬Silent e e' :=
    ⟨closed_of_sentText closed sent, Silent.not_of_sentText sent.transmitted text⟩
  unfold senderStep at stepped
  split at stepped
  next atTop =>
    obtain ⟨⟨task, cb⟩, ran, eq⟩ := bind_eq_ok.mp stepped
    obtain ⟨cc, rfl, -⟩ := ControlBlock.senderIterate_cases ran
    cases eq
    obtain ⟨state, silent⟩ := quiet cc rfl
    exact ⟨state, by simp only [staysSilent, atTop, silent]⟩
  next sendNext mac waiting =>
    obtain ⟨⟨task, cb⟩, ran, eq⟩ := bind_eq_ok.mp stepped
    obtain ⟨b, bs, rest, -, -, segment, text, sent⟩ := ControlBlock.senderProbe_sentText ran
    cases eq
    obtain ⟨state, noise⟩ := heard sent (carriesText_of_text text nofun)
    exact ⟨state, by simp only [staysSilent, waiting, noise, Bool.false_eq_true]⟩
  next sendNext winSz cwnd sentData mac waiting =>
    obtain ⟨⟨task, cb⟩, ran, eq⟩ := bind_eq_ok.mp stepped
    obtain ⟨front, rest, -, -, segment, text, sent⟩ := ControlBlock.senderTransmit_sentText ran
    cases eq
    obtain ⟨state, noise⟩ := heard sent (carriesText_of_text text List.isEmpty_iff.mpr)
    exact ⟨state, by simp only [staysSilent, waiting, noise, Bool.false_eq_true]⟩
  next fail waiting =>
    cases stepped
    obtain ⟨state, silent⟩ := quiet e.cb.cc rfl
    exact ⟨state, by simp only [staysSilent, waiting, silent]⟩
  next fail waiting =>
    cases stepped
    obtain ⟨state, silent⟩ := quiet e.cb.cc rfl
    exact ⟨state, by simp only [staysSilent, waiting, silent]⟩
  next sendNext buf mac timeout repeats =>
    obtain ⟨⟨task, cb⟩, ran, eq⟩ := bind_eq_ok.mp stepped
    obtain ⟨-, segment, text, sent⟩ := ControlBlock.senderProbeAgain_sentText ran
    cases eq
    obtain ⟨state, noise⟩ := heard sent
      (carriesText_of_text text fun empty => absurd empty (probing _ _ _ _ repeats))
    exact ⟨state, by simp only [staysSilent, repeats, noise, Bool.false_eq_true]⟩
  next waiting =>
    cases stepped
    obtain ⟨state, silent⟩ := quiet e.cb.cc rfl
    exact ⟨state, by simp only [staysSilent, waiting, silent]⟩
  next =>
    cases stepped
    obtain ⟨state, silent⟩ := quiet e.cb.cc rfl
    exact ⟨state, by simp only [silent, staysSilent]⟩

/-- **An operation on a closed connection leaves it closed, and leaves it silent exactly when
`staysSilent` says so.** -/
theorem step_silent_iff {event : Event} (closed : e.cb.state = .closed) (probing : e.ProbesText)
    (operation : event.isOperation = true) (stepped : e.step event = .ok e') :
    e'.cb.state = .closed ∧ (Silent e e' ↔ e.staysSilent event = true) := by
  cases event with
  | receive header data env =>
    obtain ⟨cb, ran, eq⟩ := bind_eq_ok.mp stepped
    cases eq
    exact receive_silent_iff closed ran
  | call c env =>
    cases c with
    | send buf =>
      obtain ⟨⟨result, cb⟩, ran, eq⟩ := bind_eq_ok.mp stepped
      cases result with
      | ok u =>
        cases eq
        exact send_silent_iff closed ran rfl rfl rfl rfl rfl
      | error fail =>
        cases eq
        exact send_silent_iff closed ran rfl rfl rfl rfl rfl
    | close =>
      obtain ⟨cb, ran, eq⟩ := bind_eq_ok.mp stepped
      cases eq
      rcases ControlBlock.close_cases ran with ⟨done, rfl⟩ | ⟨cb₁, marker, rfl⟩
      · have silent : Silent e (e.after true e.cb e.task) :=
          .of_untouched closed rfl rfl rfl rfl rfl
        exact ⟨closed, by simp only [silent, staysSilent, done, Bool.true_or]⟩
      · -- a marker that was sent or queued was not refused
        have accepted : e.cb.refuses env [] = e.cb.userIsDoneSending := by
          rcases ControlBlock.send_cases marker with ⟨fail, cc, refused, -, -⟩ |
            ⟨-, notDone, -, ⟨atOnce, -⟩ | ⟨-, below, -⟩⟩
          · cases refused
          · simp [ControlBlock.refuses, notDone, atOnce]
          · simp [ControlBlock.refuses, notDone, below]
        have sent : ∀ e' : Endpoint σ, e'.cb = { cb₁ with userIsDoneSending := true } →
            e'.cb.state = .closed ∧ (Silent e e' ↔
              (e.cb.refuses env [] || !e.cb.sendsAtOnce env [] && ([] : Buffer).isEmpty) = true) :=
          fun e' eq => send_silent_iff closed marker (by rw [eq]) (by rw [eq]) (by rw [eq])
            (by rw [eq]) (by rw [eq])
        obtain ⟨state, silent⟩ := sent (e.after true { cb₁ with userIsDoneSending := true } e.task) rfl
        refine ⟨state, silent.trans ?_⟩
        simp only [staysSilent, accepted, List.isEmpty_nil, Bool.and_true]
    | pollRecv => cases operation
    | sender poll => exact senderStep_silent_iff closed probing stepped
    | acknowledger =>
      simp only [step, call] at stepped
      split at stepped
      · cases stepped
        have silent : Silent e e :=
          .of_untouched closed rfl rfl rfl rfl rfl
        exact ⟨closed, by simp only [silent, staysSilent]⟩
      · obtain ⟨cb, ran, eq⟩ := bind_eq_ok.mp stepped
        cases eq
        have acked := ControlBlock.sendAck_acked ran
        have side := ControlBlock.sendAck_receiveSide ran
        have state : cb.state = e.cb.state := ControlBlock.sendAck_state ran
        have silent : Silent e (e.after false cb e.task) :=
          .of_same closed state (congrArg ReceiveSide.receiver side)
            (congrArg ReceiveSide.outOfOrderFin side) acked.sender acked.transmitted
        exact ⟨state.trans closed, by simp only [silent, staysSilent]⟩
    | retransmitter =>
      simp only [step, call] at stepped
      split at stepped
      · cases stepped
        have silent : Silent e e :=
          .of_untouched closed rfl rfl rfl rfl rfl
        exact ⟨closed, by simp only [silent, staysSilent]⟩
      · cases stepped
        have silent : Silent e (e.after false (e.cb.retransmitTimeout env.now) e.task) :=
          .of_untouched closed rfl rfl rfl rfl rfl
        exact ⟨closed, by simp only [silent, staysSilent]⟩

/-- The background sender probes with a byte, and keeps that byte. -/
theorem step_probesText {event : Event} (probing : e.ProbesText) (stepped : e.step event = .ok e') :
    e'.ProbesText := by
  intro sendNext buf mac timeout repeats
  cases step_sendStep stepped with
  | quiet acks task history window =>
    rcases task with same | top | ⟨fail, ended⟩
    · exact probing _ _ _ _ (same.symm.trans repeats)
    · cases top.symm.trans repeats
    · cases ended.symm.trans repeats
  | waits acks atTop unsent task history window =>
    rcases task with ⟨waiting, -⟩ | ⟨cwnd, front, rest, waiting, -⟩
    · cases waiting.symm.trans repeats
    · cases waiting.symm.trans repeats
  | sent notDone small atOnce text sent task => exact probing _ _ _ _ (task.symm.trans repeats)
  | queued notDone small below side same task => exact probing _ _ _ _ (task.symm.trans repeats)
  | sentFin notDone atOnce text sent closed task => exact probing _ _ _ _ (task.symm.trans repeats)
  | queuedFin notDone notAtOnce side same task => exact probing _ _ _ _ (task.symm.trans repeats)
  | probed waiting queue text sent task =>
    cases task.symm.trans repeats
    exact List.cons_ne_nil _ _
  | probedAgain before text sent task =>
    cases task.symm.trans repeats
    exact probing _ _ _ _ before
  | popped waiting queue room text sent task => cases task.symm.trans repeats

end Steps

/-! ## Runs -/

/-- **Closed is final, and silent exactly as far as `staysSilent` goes.** Wherever a run has closed the
connection, an operation leaves it closed, and is silent if and only if it is one that `staysSilent`
admits; so operations that are all admitted are silent from first to last. -/
theorem closed_silent_iff (o : Opening) (events : List Event) (e : Endpoint σ)
    (ran : (opened o).run events = .ok e) (closed : e.cb.state = .closed) :
    (∀ event e', event.isOperation = true → e.step event = .ok e' →
      e'.cb.state = .closed ∧ (Silent e e' ↔ e.staysSilent event = true)) ∧
    ∀ later e', (∀ event ∈ later, event.isOperation = true) → e.run later = .ok e' →
      e'.cb.state = .closed ∧
        (Admits step (fun e event => e.staysSilent event = true) e later → Silent e e') := by
  have probing : e.ProbesText :=
    Machine.invariant ProbesText (fun h stepped => step_probesText h stepped)
      (fun _ _ _ _ task => by cases task) ran
  refine ⟨fun event e' operation stepped => step_silent_iff closed probing operation stepped, ?_⟩
  intro later e' operations ran
  have operates : Admits step (fun _ event => event.isOperation = true) e later :=
    Machine.admits_of_forall operations e
  refine ⟨?_, fun admits => ?_⟩
  · exact (Machine.invariant_of_admits (fun e => e.cb.state = .closed ∧ e.ProbesText)
      (fun _ event => event.isOperation = true)
      (fun inv operation stepped => ⟨(step_silent_iff inv.1 inv.2 operation stepped).1,
        step_probesText inv.2 stepped⟩) ⟨closed, probing⟩ operates ran).1
  · refine (Machine.invariant_of_admits (fun e' => Silent e e' ∧ e'.ProbesText)
      (fun e event => event.isOperation = true ∧ e.staysSilent event = true)
      (fun inv admitted stepped => ⟨inv.1.trans ((step_silent_iff inv.1.state inv.2 admitted.1
        stepped).2.mpr admitted.2), step_probesText inv.2 stepped⟩)
      ⟨.of_untouched closed rfl rfl rfl rfl rfl, probing⟩
      (operates.and admits) ran).1

/-- An RST of the peer. -/
def sampleRst : Event := .receive { sampleHeader 50 40 10 with rst := true } [] sampleEnv

/-- After an RST the acknowledger is silent, and `send` is not. -/
theorem closed_silent_iff_rst :
    ∃ e : Endpoint CongestionControl.None,
      (Endpoint.start (sampleBlock ⟨50⟩ ⟨40⟩ 100 100 1460)).run [sampleRst] = .ok e ∧
      e.cb.state = .closed ∧
      (∀ e', e.step (.call .acknowledger sampleEnv) = .ok e' → Silent e e') ∧
      ∀ e', e.step (.call (.send [7]) sampleEnv) = .ok e' → ¬Silent e e' := by
  obtain ⟨e, ran, view⟩ := Machine.map_eq_ok
    (x := (Endpoint.start (sampleBlock ⟨50⟩ ⟨40⟩ 100 100 1460)).run [sampleRst])
    (fun e => (e.cb.state, e.staysSilent (.call (.send [7]) sampleEnv))) (t := (.closed, false))
    (by decide +kernel)
  obtain ⟨state, heard⟩ := Prod.mk.inj view
  obtain ⟨one, -⟩ := closed_silent_iff (sampleOpening ⟨50⟩ ⟨40⟩ 100 100 1460) _ e ran state
  refine ⟨e, ran, state, fun e' stepped => (one _ e' rfl stepped).2.mpr rfl, fun e' stepped => ?_⟩
  rw [(one _ e' rfl stepped).2, heard]
  exact Bool.false_ne_true

/-- After an RST `send` still puts its buffer on the wire. -/
theorem closed_not_silent :
    ¬∀ (events : List Event) (e : Endpoint CongestionControl.None) (event : Event)
      (e' : Endpoint CongestionControl.None),
      (Endpoint.start (sampleBlock ⟨50⟩ ⟨40⟩ 100 100 1460)).run events = .ok e →
      e.cb.state = .closed → event.isOperation = true → e.step event = .ok e' → Silent e e' := by
  intro claim
  obtain ⟨e, ran, view⟩ := Machine.map_eq_ok
    (x := (Endpoint.start (sampleBlock ⟨50⟩ ⟨40⟩ 100 100 1460)).run [sampleRst])
    (fun e => (e.cb.state, e.cb.sender.sendNext,
      (e.step (.call (.send [7]) sampleEnv)).map fun e' => e'.cb.sender.sendNext))
    (t := (.closed, ⟨40⟩, .ok ⟨41⟩)) (by decide +kernel)
  obtain ⟨state, view⟩ := Prod.mk.inj view
  obtain ⟨next, sent⟩ := Prod.mk.inj view
  obtain ⟨e', stepped, next'⟩ := Machine.map_eq_ok _ sent
  have silent := claim _ e _ e' ran state rfl stepped
  rw [← silent.sendNext, next'] at next
  cases next

end Endpoint

end Inetstack.Tcp
