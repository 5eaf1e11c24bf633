import Inetstack.Laws.Tcp.Established.Faults
import Inetstack.Laws.Tcp.Established.SendStream

/-!
# The accounting of the unsent queue

The background sender learns that there is something to send from two counters, SND.NXT and
`unsent_seq_no`, not from the queue. The two agree with the queue as long as every buffer of the
queue is counted when it comes and when it goes. `close` on its slow path queues the end-of-send
marker and counts nothing for it, although the marker takes one sequence number when it is sent; that
marker is then invisible. `accountsForQueue` leaves out such a close, the unclean splits of the send
stream, and a queue that holds `2 ^ 32` bytes or more, where the counters have wrapped around.
-/

namespace Inetstack.Tcp

/-- The sequence length of a queue. -/
def queueSeqLength (queue : List Buffer) : Nat := (queue.map Buffer.seqLength).sum

theorem queueSeqLength_of_full {q : List Buffer} (full : ∀ buf ∈ q, buf ≠ []) :
    queueSeqLength q = q.flatten.length := by
  induction q with
  | nil => rfl
  | cons buf q ih =>
    have rest := ih fun b member => full b (List.mem_cons_of_mem _ member)
    have first := Buffer.seqLength_of_ne_nil (full buf List.mem_cons_self)
    simp only [queueSeqLength, List.map_cons, List.sum_cons] at rest ⊢
    rw [rest, first, List.flatten_cons, List.length_append]

/-- The panics of the background sender on an empty unsent queue. -/
def Fault.isEmptyQueue : Fault → Bool
  | .noUnsentData | .noBufferInUnsentQueue | .unsentSequenceGap => true
  | _ => false

namespace Endpoint

variable {σ : Type}

/-- The invariant of the accounting. -/
structure Accounts (base : SeqNumber) (e : Endpoint σ) : Prop where
  streams : e.Streams base
  short : e.cb.sender.unsentQueue.flatten.length < 2 ^ 32
  closed : e.cb.userIsDoneSending = true → e.cb.sender.unsentQueue = []

variable {base : SeqNumber} {e e' : Endpoint σ}

/-- The queue holds data only, and the counters are as far apart as its bytes. -/
theorem Accounts.queue (h : e.Accounts base) :
    (∀ buf ∈ e.cb.sender.unsentQueue, buf ≠ []) ∧
      e.cb.sender.unsentSeqNo - e.cb.sender.sendNext =
        (e.cb.sender.unsentQueue.flatten.length : SeqNumber) ∧
      (e.task.captured.isSome = true → e.cb.sender.unsentQueue ≠ []) := by
  rcases h.streams.phase with ⟨q, g⟩ | g
  · cases done : e.cb.userIsDoneSending with
    | true =>
      -- a queued marker would be there to see
      have queue := g.queue
      rw [h.closed done, done] at queue
      simp at queue
    | false =>
      have queue : e.cb.sender.unsentQueue = q := by
        rw [g.queue, done]
        simp
      rw [queue]
      refine ⟨g.full, ?_, ?_⟩
      · rw [g.unsent, g.next, h.streams.accepted, queue, ReceiveSide.bytes_length_cast,
          add_sub_cancel_left]
      · intro captured
        obtain ⟨x, captured⟩ := Option.isSome_iff_exists.mp captured
        exact (g.waiting x captured).2
  · rw [g.queue, g.next, g.idle]
    exact ⟨fun _ member => (by cases member), sub_self _, fun captured => (by cases captured)⟩

/-- The counters are the sequence length of the queue apart. -/
theorem Accounts.seqLength (h : e.Accounts base) :
    (e.cb.sender.unsentSeqNo - e.cb.sender.sendNext).toNat =
      queueSeqLength e.cb.sender.unsentQueue := by
  obtain ⟨full, apart, -⟩ := h.queue
  rw [apart, queueSeqLength_of_full full, SeqNumber.toNat_cast, Nat.mod_eq_of_lt h.short]

/-- The counters meet exactly when the queue is empty. -/
theorem Accounts.empty_iff (h : e.Accounts base) :
    e.cb.sender.sendNext = e.cb.sender.unsentSeqNo ↔ e.cb.sender.unsentQueue = [] := by
  obtain ⟨full, apart, -⟩ := h.queue
  constructor
  · intro equal
    cases queue : e.cb.sender.unsentQueue with
    | nil => rfl
    | cons front rest =>
      have short := h.short
      have zero : (e.cb.sender.unsentQueue.flatten.length : SeqNumber).toNat = 0 := by
        rw [← apart, equal, sub_self, SeqNumber.toNat_zero]
      rw [SeqNumber.toNat_cast, Nat.mod_eq_of_lt short, queue, List.flatten_cons,
        List.length_append] at zero
      have bytes := full front (by rw [queue]; exact List.mem_cons_self)
      have := List.length_pos_iff.mpr bytes
      omega
  · intro empty
    rw [empty] at apart
    exact (sub_eq_zero.mp apart).symm

/-- A pop leaves a shorter queue, and takes from a queue that was not empty. -/
theorem Accounts.popped (h : e.Accounts base) {front : Buffer} {rest : List Buffer}
    (queue : e.cb.sender.unsentQueue = front :: rest)
    (done : e'.cb.userIsDoneSending = e.cb.userIsDoneSending) (taken : Buffer)
    (flow : taken ++ e'.cb.sender.unsentQueue.flatten = front ++ rest.flatten) :
    e'.cb.sender.unsentQueue.flatten.length < 2 ^ 32 ∧
      (e'.cb.userIsDoneSending = true → e'.cb.sender.unsentQueue = []) := by
  have short := h.short
  have length := congrArg List.length flow
  rw [queue, List.flatten_cons] at short
  rw [List.length_append] at length
  refine ⟨by omega, ?_⟩
  intro closed
  rw [done] at closed
  have empty := h.closed closed
  rw [queue] at empty
  cases empty

variable [CongestionControl σ]

/-- The step keeps the counters and the queue together: a close finds room to send the FIN at once,
a buffer that is accepted keeps the queue below `2 ^ 32` bytes, and the background sender splits
cleanly. -/
def accountsForQueue (e : Endpoint σ) : Event → Bool
  | .call .close env => e.cb.userIsDoneSending || e.cb.sendsAtOnce env []
  | .call (.send buf) _ =>
    e.cb.userIsDoneSending || 2 ^ 32 ≤ buf.length ||
      UNSENT_QUEUE_CUTOFF < e.cb.sender.unsentQueue.length ||
      e.cb.sender.unsentQueue.flatten.length + buf.length < 2 ^ 32
  | event => e.splitsCleanly event

theorem splitsCleanly_of_accounts {e : Endpoint σ} {event : Event}
    (ok : e.accountsForQueue event = true) : e.splitsCleanly event = true := by
  unfold accountsForQueue at ok
  split at ok
  · rfl
  · rfl
  · exact ok

/-- **One event keeps the accounting.** -/
theorem step_accounts {event : Event} (h : e.Accounts base) (data : event.SendsData)
    (ok : e.accountsForQueue event = true) (stepped : e.step event = .ok e') : e'.Accounts base := by
  -- where the send side stays as it is, so does what is said of the queue
  have same : e'.cb.sendSide = e.cb.sendSide →
      e'.cb.sender.unsentQueue.flatten.length < 2 ^ 32 ∧
      (e'.cb.userIsDoneSending = true → e'.cb.sender.unsentQueue = []) := by
    intro side
    have queue : e'.cb.sender.unsentQueue = e.cb.sender.unsentQueue :=
      congrArg SendSide.unsentQueue side
    have done : e'.cb.userIsDoneSending = e.cb.userIsDoneSending :=
      congrArg SendSide.userIsDoneSending side
    rw [queue, done]
    exact ⟨h.short, h.closed⟩
  have both : e'.cb.sender.unsentQueue.flatten.length < 2 ^ 32 ∧
      (e'.cb.userIsDoneSending = true → e'.cb.sender.unsentQueue = []) := by
    cases step_sendStep stepped with
    | quiet acks task history window => exact same acks.sendSide
    | waits acks atTop unsent task history window => exact same acks.sendSide
    | sent notDone small atOnce text sent task accepted transmitted =>
      have queue : e'.cb.sender.unsentQueue = [] := by
        rw [sent.sender_eq]
        exact ControlBlock.sendsAtOnce_empty atOnce
      rw [queue]
      exact ⟨by decide, fun _ => rfl⟩
    | queued notDone small below side same task window accepted first used =>
      have queue := congrArg SendSide.unsentQueue side
      have done := congrArg SendSide.userIsDoneSending side
      simp only [ControlBlock.sendSide, notDone] at queue done
      simp only [accountsForQueue, notDone, Bool.false_or, Bool.or_eq_true, decide_eq_true_eq] at ok
      rw [queue, done, List.flatten_append, List.flatten_singleton, List.length_append]
      exact ⟨by omega, fun closed => by cases closed⟩
    | @sentFin env _ cb segment notDone atOnce text sent closed task accepted transmitted =>
      have queue : e'.cb.sender.unsentQueue = [] := by
        rw [closed]
        change cb.sender.unsentQueue = []
        rw [sent.sender_eq]
        exact ControlBlock.sendsAtOnce_empty atOnce
      rw [queue]
      exact ⟨by decide, fun _ => rfl⟩
    | queuedFin notDone notAtOnce side same task window history =>
      -- a FIN that is queued is what the condition excludes
      simp only [accountsForQueue, notDone, notAtOnce, Bool.or_self, Bool.false_eq_true] at ok
    | @probed env _ sendNext mac b bs rest segment waiting queue text sent task accepted transmitted =>
      refine h.popped queue sent.userIsDoneSending [b] ?_
      rw [sent.sender_eq]
      rfl
    | probedAgain probing text sent task history =>
      refine same ?_
      simp only [ControlBlock.sendSide, sent.sender_eq, sent.userIsDoneSending]
    | @popped env _ sendNext winSz cwnd sentData mac front rest n segment waiting queue room text
        sent task accepted transmitted =>
      refine h.popped queue sent.userIsDoneSending (front.take n) ?_
      rw [sent.sender_eq]
      exact ControlBlock.take_append_popLeft n front rest
  exact ⟨step_streams h.streams data (splitsCleanly_of_accounts ok) stepped, both.1, both.2⟩

/-- No poll of the background sender finds the queue empty where it expects something. -/
theorem Accounts.poll (h : e.Accounts base) {env : Env} {poll : SenderPoll} {fault : Fault}
    (stopped : e.senderStep env poll = .error fault) : fault.isEmptyQueue = false := by
  obtain ⟨-, -, some_⟩ := h.queue
  rcases senderStep_error stopped with ⟨empty, expects, -⟩ | rfl | rfl | ⟨rfl, -⟩
  · rcases expects with unsent | ⟨_, waiting⟩ | ⟨_, _, _, _, waiting⟩
    · exact absurd (h.empty_iff.mpr empty) unsent
    · exact absurd empty (some_ (by rw [waiting]; rfl))
    · exact absurd empty (some_ (by rw [waiting]; rfl))
  · rfl
  · rfl
  · rfl

/-- **Unsent accounting**, where every step accounts for the queue. The two counters are the
sequence length of the queue apart, so they meet exactly when it is empty, and the background sender
never panics on an empty queue. -/
theorem unsent_accounting (o : Opening) (events : List Event) (e : Endpoint σ)
    (handshake : ∀ segment ∈ o.rt.transmitted, segment.tcpHdr.fin = false)
    (data : ∀ event ∈ events, event.SendsData)
    (accounted : Machine.Admits step (accountsForQueue · · = true) (opened (σ := σ) o) events)
    (ran : (opened o).run events = .ok e) :
    (e.cb.sender.unsentSeqNo - e.cb.sender.sendNext).toNat =
        queueSeqLength e.cb.sender.unsentQueue ∧
      (e.cb.sender.sendNext = e.cb.sender.unsentSeqNo ↔ e.cb.sender.unsentQueue = []) ∧
      ∀ env poll fault, e.senderStep env poll = .error fault → fault.isEmptyQueue = false := by
  have accounts : e.Accounts o.senderSeqNo := by
    refine Machine.invariant_of_admits (Accounts o.senderSeqNo)
      (fun e event => e.accountsForQueue event = true ∧ event.SendsData) ?_ ?_
      (accounted.and (Machine.admits_of_forall data _)) ran
    · intro e event e' h ok stepped
      exact step_accounts h ok.2 ok.1 stepped
    · exact ⟨opened_streams handshake, (by decide : 0 < 2 ^ 32), fun closed => by cases closed⟩
  exact ⟨accounts.seqLength, accounts.empty_iff, fun env poll fault => accounts.poll⟩

/-- Five bytes, three of them still unsent. -/
theorem unsent_accounting_queued :
    ∃ e : Endpoint CongestionControl.None,
      (Endpoint.start (sampleBlock ⟨50⟩ ⟨40⟩ 100 3 2)).run (splitEvents.take 2) = .ok e ∧
      e.cb.sender.unsentQueue = [[3, 4, 5]] ∧
      (e.cb.sender.unsentSeqNo - e.cb.sender.sendNext).toNat =
        queueSeqLength e.cb.sender.unsentQueue ∧
      (e.cb.sender.sendNext = e.cb.sender.unsentSeqNo ↔ e.cb.sender.unsentQueue = []) ∧
      ∀ env poll fault, e.senderStep env poll = .error fault → fault.isEmptyQueue = false := by
  obtain ⟨e, ran, view⟩ := Machine.map_eq_ok
    (x := (Endpoint.start (sampleBlock ⟨50⟩ ⟨40⟩ 100 3 2)).run (splitEvents.take 2))
    (fun e => e.cb.sender.unsentQueue) (t := [[3, 4, 5]]) (by decide +kernel)
  refine ⟨e, ran, view, ?_⟩
  refine unsent_accounting (sampleOpening ⟨50⟩ ⟨40⟩ 100 3 2) _ e ?_ ?_
    (Machine.Admits.of_admits (by decide +kernel)) ran
  · exact fun _ member => by cases member
  · simp [splitEvents, Event.SendsData]

/-- A close into a zero window. The marker is in the queue, the counters are equal, and an iteration
of the background sender finds nothing to send. -/
theorem marker_not_counted :
    ∃ e : Endpoint CongestionControl.None,
      (Endpoint.start (sampleBlock ⟨50⟩ ⟨40⟩ 100 0 1460)).run
        [.call .close sampleEnv, .call (.sender .iterate) sampleEnv] = .ok e ∧
      e.cb.sender.unsentQueue = [[]] ∧ queueSeqLength e.cb.sender.unsentQueue = 1 ∧
      e.cb.sender.sendNext = e.cb.sender.unsentSeqNo ∧ e.task = .top := by
  obtain ⟨e, ran, view⟩ := Machine.map_eq_ok
    (x := (Endpoint.start (sampleBlock ⟨50⟩ ⟨40⟩ 100 0 1460)).run
      [.call .close sampleEnv, .call (.sender .iterate) sampleEnv])
    (fun e => (e.cb.sender.unsentQueue, e.cb.sender.sendNext, e.cb.sender.unsentSeqNo, e.task))
    (t := ([[]], ⟨40⟩, ⟨40⟩, .top)) (by decide +kernel)
  simp only [Prod.mk.injEq] at view
  obtain ⟨queue, next, unsent, task⟩ := view
  exact ⟨e, ran, queue, by rw [queue]; rfl, next.trans unsent.symm, task⟩

end Endpoint

end Inetstack.Tcp
