import Inetstack.Laws.Tcp.Established.SendStream
import Inetstack.Laws.Tcp.Established.Unacceptable

/-!
# Closing the send side

`close` hands an empty buffer, the end-of-send marker, to `send`, and expects `send` to take it. `send`
refuses a buffer that has to wait when the unsent queue is past its cutoff, and the marker is no exception,
so `close` panics after a user has sent faster than the peer lets the data go. It also panics, as every
transmission does, when the marker can go out at once and the window does not fit the header.

Otherwise `close` marks the end, and it is the only mark if the background sender has left none behind by
splitting a buffer into an empty piece and the rest.
-/

namespace Inetstack.Tcp

open Machine (bind_eq_ok)

namespace ControlBlock

variable {σ : Type}

/-- The number of FINs sent. -/
def finsSent (cb : ControlBlock σ) : Nat := cb.rt.transmitted.countP fun segment => segment.tcpHdr.fin

/-- There is one end-of-send marker. It has been sent, or it stands last in the unsent queue. -/
def MarkedOnce (cb : ControlBlock σ) : Prop :=
  (cb.finsSent = 1 ∧ [] ∉ cb.sender.unsentQueue) ∨
    (cb.finsSent = 0 ∧ ∃ q, cb.sender.unsentQueue = q ++ [[]] ∧ [] ∉ q)

variable [CongestionControl σ]

/-- Another `close` returns and does nothing, and `send` refuses every buffer and does nothing. -/
structure DoneSending (cb : ControlBlock σ) : Prop where
  close : ∀ env, cb.close env = .ok cb
  send : ∀ env buf, ∃ fail, cb.send env buf = .ok (.error fail, cb)

theorem doneSending_of_flag {cb : ControlBlock σ} (done : cb.userIsDoneSending = true) :
    cb.DoneSending where
  close env := by
    unfold close
    rw [if_pos done]
  send env buf := by
    unfold send
    rw [if_pos done]
    exact ⟨_, rfl⟩

/-- `close` can return: the marker goes out at once with a window that fits, or it has to wait and the
queue is not past the cutoff. -/
def closes (cb : ControlBlock σ) (env : Env) : Bool :=
  if cb.sendsAtOnce env [] then cb.advertises
  else cb.sender.unsentQueue.length ≤ UNSENT_QUEUE_CUTOFF

/-- A transmission needs a window that fits the header. -/
theorem sendImmediate_ok_iff (cb : ControlBlock σ) (cc : σ) (now : Instant) (buf : Buffer)
    (mac : MacAddress) :
    (∃ cb', ({ cb with cc := cc } : ControlBlock σ).sendImmediate now buf mac = .ok cb') ↔
      cb.advertises = true := by
  have fits := tcpHeader_ok_iff { cb with
    cc := CongestionControl.onSend now cb.rto.estimate cb.sender.sentData cc }
  unfold sendImmediate
  exact Machine.bind_returns_iff.trans fits

/-- **When the first `close` returns.** -/
theorem close_ok_iff {cb : ControlBlock σ} (env : Env) (notDone : cb.userIsDoneSending = false) :
    (∃ cb', cb.close env = .ok cb') ↔ cb.closes env = true := by
  have small : ([] : Buffer).length < 2 ^ 32 := by simp
  unfold close closes
  rw [if_neg (Bool.eq_false_iff.mp notDone)]
  cases atOnce : cb.sendsAtOnce env [] with
  | true =>
    obtain ⟨cc, mac, eq⟩ := send_of_atOnce notDone small atOnce
    rw [eq, if_pos rfl, ← sendImmediate_ok_iff cb cc env.now [] mac]
    cases ({ cb with cc := cc } : ControlBlock σ).sendImmediate env.now [] mac with
    | ok cb' => exact iff_of_true ⟨_, rfl⟩ ⟨cb', rfl⟩
    | error fault =>
      constructor
      · rintro ⟨cb', ran⟩
        cases ran
      · rintro ⟨cb', ran⟩
        cases ran
  | false =>
    obtain ⟨cc, eq⟩ := send_of_waits notDone small atOnce
    rw [eq, if_neg Bool.false_ne_true, decide_eq_true_eq]
    unfold sendLater
    by_cases long : UNSENT_QUEUE_CUTOFF < cb.sender.unsentQueue.length
    · rw [if_pos long]
      refine iff_of_false ?_ (Nat.not_le.mpr long)
      rintro ⟨cb', ran⟩
      cases ran
    · rw [if_neg long]
      exact iff_of_true ⟨_, rfl⟩ (Nat.not_lt.mp long)

end ControlBlock

namespace Endpoint

variable {σ : Type} {base : SeqNumber} {e e' : Endpoint σ}

/-- While the FIN is not out, none has been sent. -/
theorem Unfinished.finsSent {q : List Buffer} (g : e.Unfinished base q) : e.cb.finsSent = 0 := by
  rw [ControlBlock.finsSent, List.countP_eq_zero]
  intro segment member
  rw [g.noFin segment member]
  exact Bool.false_ne_true

variable [CongestionControl σ]

/-- **What `close` leaves**, where the queue holds data only: one marker. -/
theorem Unfinished.close {q : List Buffer} (g : e.Unfinished base q)
    (notDone : e.cb.userIsDoneSending = false) {env : Env} {cb : ControlBlock σ}
    (ran : e.cb.close env = .ok cb) : cb.userIsDoneSending = true ∧ cb.MarkedOnce := by
  have none : e.cb.finsSent = 0 := g.finsSent
  have queue : e.cb.sender.unsentQueue = q := by
    rw [g.queue, notDone]
    exact List.append_nil q
  have data : [] ∉ q := fun member => g.full [] member rfl
  rcases ControlBlock.close_cases ran with ⟨done, -⟩ | ⟨cb₁, taken, rfl⟩
  · rw [notDone] at done
    cases done
  refine ⟨rfl, ?_⟩
  rcases ControlBlock.send_cases taken with ⟨fail, cc, refused, -⟩ |
    ⟨-, -, -, ⟨-, segment, text, sent⟩ | ⟨-, -, cc, rfl⟩⟩
  · cases refused
  · have fin : segment.tcpHdr.fin = true := text.fin
    refine .inl ⟨?_, ?_⟩
    · change (cb₁.rt.transmitted.countP fun segment => segment.tcpHdr.fin) = 1
      rw [sent.transmitted, List.countP_append]
      change e.cb.finsSent + _ = 1
      rw [none]
      simp [fin]
    · change [] ∉ cb₁.sender.unsentQueue
      rw [sent.sender_eq]
      change [] ∉ e.cb.sender.unsentQueue
      rw [queue]
      exact data
  · refine .inr ⟨none, q, ?_, data⟩
    rw [← queue]

/-- Once `close` has been called, it has been called. -/
theorem step_done {event : Event} (done : e.cb.userIsDoneSending = true)
    (stepped : e.step event = .ok e') : e'.cb.userIsDoneSending = true := by
  have of_side (side : e'.cb.sendSide = e.cb.sendSide) : e'.cb.userIsDoneSending = true :=
    (congrArg SendSide.userIsDoneSending side).trans done
  cases step_sendStep stepped with
  | quiet acks => exact of_side acks.sendSide
  | waits acks => exact of_side acks.sendSide
  | sent notDone => rw [done] at notDone; cases notDone
  | queued notDone => rw [done] at notDone; cases notDone
  | sentFin _ _ _ _ closed => rw [closed]
  | queuedFin _ _ side => exact congrArg SendSide.userIsDoneSending side
  | probed _ _ _ sent => rw [sent.userIsDoneSending, done]
  | probedAgain _ _ sent => rw [sent.userIsDoneSending, done]
  | popped _ _ _ _ sent => rw [sent.userIsDoneSending, done]

/-- `close` does what it is for: it returns, there is then one end-of-send marker, and the user is done
sending from there on. -/
def ClosesOnce (e : Endpoint σ) (env : Env) : Prop :=
  ∃ e' : Endpoint σ, e.step (.call .close env) = .ok e' ∧ e'.cb.MarkedOnce ∧
    ∀ events e'', e'.run events = .ok e'' → e''.cb.DoneSending

/-- **Closing once**, where every step splits cleanly. The first `close` of a run does what it is for
exactly if the marker goes out at once with a window that fits the header, or has to wait and finds the
unsent queue not past its cutoff. -/
theorem close_marks_once_iff (o : Opening) (events : List Event) (e : Endpoint σ) (env : Env)
    (handshake : ∀ segment ∈ o.rt.transmitted, segment.tcpHdr.fin = false)
    (data : ∀ event ∈ events, event.SendsData)
    (clean : Machine.Admits step (splitsCleanly · · = true) (opened (σ := σ) o) events)
    (ran : (opened o).run events = .ok e)
    (notDone : e.cb.userIsDoneSending = false) :
    e.ClosesOnce env ↔ e.cb.closes env = true := by
  have streams : e.Streams o.senderSeqNo := run_streams (opened_streams handshake) data clean ran
  obtain ⟨q, unfinished⟩ := streams.unfinished notDone
  rw [← ControlBlock.close_ok_iff env notDone]
  constructor
  · rintro ⟨e', stepped, -⟩
    obtain ⟨cb, closed, -⟩ := bind_eq_ok.mp stepped
    exact ⟨cb, closed⟩
  · rintro ⟨cb, closed⟩
    obtain ⟨done, marked⟩ := unfinished.close notDone closed
    refine ⟨e.after true cb e.task, bind_eq_ok.mpr ⟨cb, closed, rfl⟩, marked, ?_⟩
    intro events e'' ran
    have later : e''.cb.userIsDoneSending = true :=
      Machine.invariant (fun e => e.cb.userIsDoneSending = true) step_done done ran
    exact ControlBlock.doneSending_of_flag later

/-- Five bytes in two calls and a window of three: the second buffer waits, and the marker behind it. -/
theorem close_marks_once_iff_queued :
    ∃ e : Endpoint CongestionControl.None,
      (Endpoint.start (sampleBlock ⟨50⟩ ⟨40⟩ 100 3 2)).run
        [.call (.send [1, 2]) sampleEnv, .call (.send [3, 4, 5]) sampleEnv] = .ok e ∧
      e.cb.sender.unsentQueue = [[3, 4, 5]] ∧ e.ClosesOnce sampleEnv := by
  obtain ⟨e, ran, view⟩ := Machine.map_eq_ok
    (x := (Endpoint.start (sampleBlock ⟨50⟩ ⟨40⟩ 100 3 2)).run
      [.call (.send [1, 2]) sampleEnv, .call (.send [3, 4, 5]) sampleEnv])
    (fun e => (e.cb.sender.unsentQueue, e.cb.userIsDoneSending, e.cb.closes sampleEnv))
    (t := ([[3, 4, 5]], false, true)) (by decide +kernel)
  simp only [Prod.mk.injEq] at view
  obtain ⟨queue, notDone, closes⟩ := view
  refine ⟨e, ran, queue, ?_⟩
  refine (close_marks_once_iff (sampleOpening ⟨50⟩ ⟨40⟩ 100 3 2) _ e sampleEnv ?_ ?_
    (Machine.Admits.of_admits (by decide +kernel)) ran notDone).mpr closes
  · exact fun _ member => by cases member
  · simp [Event.SendsData]

/-! ## A queue past the cutoff -/

/-- With the window shut nothing goes out at once. -/
theorem not_atOnce_of_shut {cb : ControlBlock σ} (shut : cb.sender.sendWindow = 0) (env : Env)
    (buf : Buffer) : cb.sendsAtOnce env buf = false := by
  simp [ControlBlock.sendsAtOnce, ControlBlock.roomToSend, shut]

/-- A buffer that has to wait is queued, unless the queue is past the cutoff. -/
theorem step_send_waits {env : Env} {buf : Buffer} (notDone : e.cb.userIsDoneSending = false)
    (small : buf.length < 2 ^ 32) (waits : e.cb.sendsAtOnce env buf = false)
    (below : e.cb.sender.unsentQueue.length ≤ UNSENT_QUEUE_CUTOFF) :
    ∃ e' : Endpoint σ, e.step (.call (.send buf) env) = .ok e' ∧ e.cb.Queued buf e'.cb := by
  obtain ⟨cc, sent⟩ := ControlBlock.send_of_waits notDone small waits
  rw [ControlBlock.sendLater, if_neg (Nat.not_lt.mpr below)] at sent
  exact ⟨_, bind_eq_ok.mpr ⟨_, sent, rfl⟩, cc, rfl⟩

/-- **With the window shut, what is sent piles up**, until the queue is one past the cutoff. -/
theorem sends_pile_up (bufs : List Buffer) (env : Env) (shut : e.cb.sender.sendWindow = 0)
    (notDone : e.cb.userIsDoneSending = false) (small : ∀ buf ∈ bufs, buf.length < 2 ^ 32)
    (room : e.cb.sender.unsentQueue.length + bufs.length ≤ UNSENT_QUEUE_CUTOFF + 1) :
    ∃ e' : Endpoint σ, e.run (bufs.map fun buf => .call (.send buf) env) = .ok e' ∧
      e'.cb.state = e.cb.state ∧ e'.cb.userIsDoneSending = false ∧ e'.cb.sender.sendWindow = 0 ∧
      e'.cb.sender.unsentQueue = e.cb.sender.unsentQueue ++ bufs := by
  induction bufs generalizing e with
  | nil => exact ⟨e, rfl, rfl, notDone, shut, (List.append_nil _).symm⟩
  | cons buf bufs ih =>
    rw [List.length_cons] at room
    obtain ⟨t, stepped, cc, queued⟩ := step_send_waits notDone (small buf List.mem_cons_self)
      (not_atOnce_of_shut shut env buf) (by omega)
    have length : t.cb.sender.unsentQueue.length = e.cb.sender.unsentQueue.length + 1 := by
      rw [queued, List.length_append, List.length_singleton]
    obtain ⟨e', ran, state, notDone, shut, queue⟩ := @ih t (by rw [queued]; exact shut)
      (by rw [queued]; exact notDone) (fun buf member => small buf (List.mem_cons_of_mem _ member))
      (by omega)
    refine ⟨e', Machine.run_cons_ok.mpr ⟨t, stepped, ran⟩, ?_, notDone, shut, ?_⟩
    · rw [state, queued]
    · rw [queue, queued, List.append_assoc]
      rfl

/-- A run after which `close` panics: the peer's window is zero, and the user has sent one byte as many
times as `send` lets it. -/
theorem close_panics_past_cutoff :
    ∃ e : Endpoint CongestionControl.None,
      (Endpoint.start (sampleBlock ⟨50⟩ ⟨40⟩ 100 0 1460)).run
        ((List.replicate (UNSENT_QUEUE_CUTOFF + 1) [1]).map fun buf => .call (.send buf) sampleEnv) =
          .ok e ∧
      e.cb.state = .established ∧ e.cb.userIsDoneSending = false ∧
      e.cb.close sampleEnv = .error .sendFailed ∧ ¬e.ClosesOnce sampleEnv := by
  have filled := sends_pile_up (e := Endpoint.start (sampleBlock ⟨50⟩ ⟨40⟩ 100 0 1460))
    (List.replicate (UNSENT_QUEUE_CUTOFF + 1) [1]) sampleEnv rfl rfl
    (fun buf member => by rw [List.eq_of_mem_replicate member]; decide)
    (by rw [List.length_replicate]; exact Nat.le_of_eq (Nat.zero_add _))
  obtain ⟨e, ran, state, notDone, shut, queue⟩ := filled
  have long : UNSENT_QUEUE_CUTOFF < e.cb.sender.unsentQueue.length := by
    rw [queue, List.length_append, List.length_replicate]
    exact Nat.lt_of_lt_of_le (Nat.lt_succ_self _) (Nat.le_add_left _ _)
  have panics : e.cb.close sampleEnv = .error .sendFailed := by
    obtain ⟨cc, refused⟩ := ControlBlock.send_of_waits notDone (by decide)
      (not_atOnce_of_shut shut sampleEnv [])
    rw [ControlBlock.sendLater, if_pos long] at refused
    rw [ControlBlock.close, if_neg (Bool.eq_false_iff.mp notDone), refused]
    rfl
  refine ⟨e, ran, state, notDone, panics, ?_⟩
  rintro ⟨e', stepped, -⟩
  obtain ⟨cb, closed, -⟩ := bind_eq_ok.mp stepped
  rw [panics] at closed
  cases closed

end Endpoint

end Inetstack.Tcp
