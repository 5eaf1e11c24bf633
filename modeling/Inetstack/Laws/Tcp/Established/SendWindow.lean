import Inetstack.Laws.Tcp.Established.Endpoint

/-!
# The peer's window

Text goes out for the first time from the fast path of `send`, which checks the room and sends in one
call, and from the background sender, which checks the room, waits for ARP, and then sends as much as
the window it read had room for. What is in flight afterwards is within the window where three things
go right, and `keepsWindow` says of a step that they do:

* a sum of the bytes in flight and a buffer's length does not wrap around;
* a FIN is not sent at once into a window that is exactly full: the check counts nothing for it;
* when the answer of ARP comes, the window has the room the background sender read before it waited, or room
  for all of the first buffer: an ACK that arrives in between may have moved its right edge to the left.
-/

namespace Inetstack.Tcp

open Machine (bind_eq_ok)

namespace Endpoint

variable {σ : Type} [CongestionControl σ]

/-- A piece that is sent at once fits the window without wrapping around: a FIN finds the window not
exactly full, and data does not take the count of bytes in flight past `2 ^ 32`. -/
def fitsAtOnce (e : Endpoint σ) (env : Env) (buf : Buffer) : Bool :=
  e.cb.userIsDoneSending || 2 ^ 32 ≤ buf.length || !e.cb.sendsAtOnce env buf ||
    if buf.isEmpty then e.cb.sender.sentData ≠ e.cb.sender.sendWindow
    else e.cb.sender.sentData.toNat + buf.length < 2 ^ 32

/-- The window has the room the background sender read before it waited for ARP, or room for all of the
first buffer. The right edge of a window is where SND.UNA and the window end; both sides are measured from
SND.NXT. -/
def roomIsLeft (e : Endpoint σ) (winSz sentData : UInt32) : Bool :=
  e.cb.sender.sentData.toNat + winSz.toNat ≤ sentData.toNat + e.cb.sender.sendWindow.toNat ||
    match e.cb.sender.unsentQueue with
    | front :: _ => e.cb.sender.sentData.toNat + front.seqLength ≤ e.cb.sender.sendWindow.toNat
    | [] => true

/-- The step gives no reason to overrun the window. -/
def keepsWindow (e : Endpoint σ) : Event → Bool
  | .call (.send buf) env => e.fitsAtOnce env buf
  | .call .close env => e.fitsAtOnce env []
  | .call (.sender .iterate) _ =>
    match e.task, e.cb.sender.topSizeUnsent with
    | .top, some size => e.cb.sender.sentData.toNat + size < 2 ^ 32
    | _, _ => true
  | .call (.sender (.arpReply (.ok _))) _ =>
    match e.task with
    | .awaitSend _ winSz _ sentData => e.roomIsLeft winSz sentData
    | _ => true
  | _ => true

/-- The step is a window probe. -/
def probes (e : Endpoint σ) : Event → Bool
  | .call (.sender (.arpReply (.ok _))) _ =>
    match e.task with
    | .awaitProbe _ => true
    | _ => false
  | _ => false

/-- While the background sender waits for ARP before a normal transmission, there is something to send, and
the window it read had room. -/
def KeepsRoom (e : Endpoint σ) : Prop :=
  ∀ x winSz effectiveCwnd sentData, e.task = .awaitSend x winSz effectiveCwnd sentData →
    e.cb.sender.unsentQueue ≠ [] ∧ sentData.toNat < winSz.toNat

variable {e e' : Endpoint σ}

omit [CongestionControl σ] in
/-- A sum that does not wrap around is the sum of the numbers. -/
theorem toNat_sum_of_lt {a : UInt32} {n : Nat} (h : a.toNat + n < 2 ^ 32) :
    (a + UInt32.ofNat n).toNat = a.toNat + n := by
  rw [UInt32.toNat_add, UInt32.toNat_ofNat', Nat.mod_eq_of_lt (by omega : n < 2 ^ 32),
    Nat.mod_eq_of_lt h]

omit [CongestionControl σ] in
/-- A buffer that joins the queue leaves the room as it is. -/
theorem KeepsRoom.queued (h : e.KeepsRoom) {buf : Buffer} (task : e'.task = e.task)
    (queue : e'.cb.sender.unsentQueue = e.cb.sender.unsentQueue ++ [buf]) : e'.KeepsRoom := by
  intro x winSz cwnd sentData waiting
  rw [task] at waiting
  obtain ⟨-, room⟩ := h x winSz cwnd sentData waiting
  exact ⟨by rw [queue]; simp, room⟩

/-- **One event keeps the room.** -/
theorem step_keepsRoom {event : Event} (h : e.KeepsRoom) (ok : e.keepsWindow event = true)
    (stepped : e.step event = .ok e') : e'.KeepsRoom := by
  intro x winSz cwnd sentData waiting
  cases step_sendStep stepped with
  | quiet acks task history window =>
    have same : e'.task = e.task := by
      rcases task with same | top | ⟨fail, terminated⟩
      · exact same
      · rw [top] at waiting
        cases waiting
      · rw [terminated] at waiting
        cases waiting
    rw [same] at waiting
    rw [acks.unsentQueue]
    exact h x winSz cwnd sentData waiting
  | waits acks atTop unsent task history window =>
    rcases task with ⟨probe, -⟩ | ⟨cwnd', front, rest, await, queue, room⟩
    · rw [probe] at waiting
      cases waiting
    · rw [await] at waiting
      cases waiting
      simp only [keepsWindow, atTop, Sender.topSizeUnsent, queue, List.head?_cons, Option.map_some,
        decide_eq_true_eq] at ok
      rw [UInt32.lt_iff_toNat_lt, toNat_sum_of_lt ok] at room
      exact ⟨by rw [acks.unsentQueue, queue]; exact List.cons_ne_nil _ _, by omega⟩
  | sent notDone small atOnce text sent task accepted transmitted =>
    rw [task] at waiting
    exact absurd (ControlBlock.sendsAtOnce_empty atOnce) (h x winSz cwnd sentData waiting).1
  | queued notDone small below side same task window accepted first used =>
    exact h.queued task (congrArg SendSide.unsentQueue side) x winSz cwnd sentData waiting
  | sentFin notDone atOnce text sent closed task accepted transmitted =>
    rw [task] at waiting
    exact absurd (ControlBlock.sendsAtOnce_empty atOnce) (h x winSz cwnd sentData waiting).1
  | queuedFin notDone notAtOnce side same task window history =>
    exact h.queued task (congrArg SendSide.unsentQueue side) x winSz cwnd sentData waiting
  | probed _ _ _ _ task _ _ =>
    rw [task] at waiting
    cases waiting
  | probedAgain _ _ _ task _ =>
    rw [task] at waiting
    cases waiting
  | popped _ _ _ _ _ task _ _ =>
    rw [task] at waiting
    cases waiting

omit [CongestionControl σ] in
/-- What is in flight after a piece has gone out, if the sum does not wrap around. -/
theorem inFlight_after {buf : Buffer} (next : e'.cb.sender.sendNext = e.cb.sender.sendNext +
      buf.seqLength) (unacked : e'.cb.sender.sendUnacked = e.cb.sender.sendUnacked)
    (used : e'.history.used = e.history.used + (buf.seqLength : SeqNumber).toNat)
    (fits : e.cb.sender.sentData.toNat + buf.seqLength < 2 ^ 32) :
    e'.cb.sender.sentData.toNat = e.cb.sender.sentData.toNat + buf.seqLength ∧
      e'.history.used - e.history.used = buf.seqLength := by
  have short : (buf.seqLength : SeqNumber).toNat = buf.seqLength := by
    rw [SeqNumber.toNat_cast, Nat.mod_eq_of_lt (by omega)]
  constructor
  · have sum : e'.cb.sender.sendNext - e'.cb.sender.sendUnacked =
        (e.cb.sender.sendNext - e.cb.sender.sendUnacked) + (buf.seqLength : SeqNumber) := by
      rw [next, unacked, add_sub_right_comm]
    change (e'.cb.sender.sendNext - e'.cb.sender.sendUnacked).toNat = _
    rw [sum, SeqNumber.toNat_add, short]
    exact Nat.mod_eq_of_lt fits
  · omega

/-- What the window test of `send` found. -/
theorem sendsAtOnce_room {cb : ControlBlock σ} {env : Env} {buf : Buffer}
    (atOnce : cb.sendsAtOnce env buf = true) :
    cb.sender.sentData + UInt32.ofNat buf.length ≤ cb.sender.sendWindow := by
  simp only [ControlBlock.sendsAtOnce, ControlBlock.roomToSend, Bool.and_eq_true,
    decide_eq_true_eq] at atOnce
  exact atOnce.1.2.1.2

/-- A piece the fast path sends fits the window. -/
theorem fits_atOnce {env : Env} {buf : Buffer} (notDone : e.cb.userIsDoneSending = false)
    (small : buf.length < 2 ^ 32) (atOnce : e.cb.sendsAtOnce env buf = true)
    (ok : e.fitsAtOnce env buf = true) :
    e.cb.sender.sentData.toNat + buf.seqLength ≤ e.cb.sender.sendWindow.toNat := by
  have room := sendsAtOnce_room atOnce
  have notLarge : ¬ 2 ^ 32 ≤ buf.length := by omega
  simp only [fitsAtOnce, notDone, notLarge, atOnce, decide_false, Bool.not_true, Bool.or_self,
    Bool.false_or] at ok
  cases buf with
  | nil =>
    -- the test counted nothing for the FIN; the window is not exactly full, so there is room for one
    simp only [List.isEmpty_nil, if_true, ne_eq, decide_not, Bool.not_eq_true',
      decide_eq_false_iff_not] at ok
    have bound := e.cb.sender.sentData.toNat_lt
    have differ : e.cb.sender.sentData.toNat ≠ e.cb.sender.sendWindow.toNat :=
      fun equal => ok (UInt32.toNat_inj.mp equal)
    rw [List.length_nil, UInt32.le_iff_toNat_le, toNat_sum_of_lt (by omega)] at room
    rw [Buffer.seqLength_nil]
    omega
  | cons b bs =>
    simp only [List.isEmpty_cons, Bool.false_eq_true, if_false, decide_eq_true_eq] at ok
    rw [UInt32.le_iff_toNat_le, toNat_sum_of_lt ok] at room
    exact room

omit [CongestionControl σ] in
/-- A piece the background sender sends fits the room that is left. -/
theorem fits_room {x : SeqNumber} {winSz cwnd sentData : UInt32} {front : Buffer} {rest : List Buffer}
    {n : Nat} (h : e.KeepsRoom) (waiting : e.task = .awaitSend x winSz cwnd sentData)
    (queue : e.cb.sender.unsentQueue = front :: rest) (room : n = e.cb.maxSize winSz cwnd sentData)
    (left : e.roomIsLeft winSz sentData = true) :
    e.cb.sender.sentData.toNat + Buffer.seqLength (front.take n) ≤ e.cb.sender.sendWindow.toNat ∧
      (front.take n).length < 2 ^ 32 := by
  obtain ⟨-, positive⟩ := h x winSz cwnd sentData waiting
  have difference : (winSz - sentData).toNat = winSz.toNat - sentData.toNat :=
    UInt32.toNat_sub_of_le _ _ (UInt32.le_iff_toNat_le.mpr positive.le)
  have bound : n ≤ winSz.toNat - sentData.toNat := by
    rw [room, ControlBlock.maxSize, ← difference]
    exact (min_le_left _ _).trans (min_le_left _ _)
  have length : (front.take n).length ≤ n := by
    rw [List.length_take]
    exact min_le_left _ _
  have window := winSz.toNat_lt
  refine ⟨?_, by omega⟩
  have piece : Buffer.seqLength (front.take n) ≤ winSz.toNat - sentData.toNat := by
    unfold Buffer.seqLength
    split <;> omega
  simp only [roomIsLeft, queue, Bool.or_eq_true, decide_eq_true_eq] at left
  rcases left with edge | whole
  · omega
  · -- the piece takes up no more sequence space than the buffer it is cut from
    have shorter : Buffer.seqLength (front.take n) ≤ front.seqLength := by
      cases front with
      | nil => rw [List.take_nil]
      | cons b bs =>
        rw [Buffer.seqLength_of_ne_nil (List.cons_ne_nil b bs)]
        unfold Buffer.seqLength
        rw [List.length_take]
        split
        · exact Nat.succ_le_of_lt (List.length_pos_of_ne_nil (List.cons_ne_nil b bs))
        · exact min_le_right _ _
    omega

/-- **One first transmission outside probing stays within the window**, and the count of what is in
flight does not wrap around. -/
theorem step_withinWindow {event : Event} (h : e.KeepsRoom) (ok : e.keepsWindow event = true)
    (stepped : e.step event = .ok e')
    (sends : e'.history.firstTransmissions ≠ e.history.firstTransmissions)
    (outside : e.probes event = false) :
    e'.cb.sender.sentData.toNat =
        e.cb.sender.sentData.toNat + (e'.history.used - e.history.used) ∧
      e'.cb.sender.sentData.toNat ≤ e'.cb.sender.sendWindow.toNat := by
  have piece : ∀ {buf : Buffer} {sender : Sender},
      e'.cb.sender = sender → sender.sendNext = e.cb.sender.sendNext + buf.seqLength →
      sender.sendUnacked = e.cb.sender.sendUnacked → sender.sendWindow = e.cb.sender.sendWindow →
      e'.history.used = e.history.used + (buf.seqLength : SeqNumber).toNat →
      buf.length < 2 ^ 32 →
      e.cb.sender.sentData.toNat + buf.seqLength ≤ e.cb.sender.sendWindow.toNat →
      e'.cb.sender.sentData.toNat =
          e.cb.sender.sentData.toNat + (e'.history.used - e.history.used) ∧
        e'.cb.sender.sentData.toNat ≤ e'.cb.sender.sendWindow.toNat := by
    rintro buf sender rfl next unacked window used small fits
    have := e.cb.sender.sendWindow.toNat_lt
    obtain ⟨inFlight, count⟩ := inFlight_after next unacked used (by omega)
    rw [count, window]
    exact ⟨inFlight, by omega⟩
  cases step_sendStep stepped with
  | quiet acks task history window => exact absurd history.firstTransmissions sends
  | waits acks atTop unsent task history window => exact absurd history.firstTransmissions sends
  | sent notDone small atOnce text sent task accepted transmitted =>
    exact piece sent.sender_eq rfl rfl rfl transmitted.used small
      (fits_atOnce notDone small atOnce ok)
  | queued notDone small below side same task window accepted first used => exact absurd first sends
  | sentFin notDone atOnce text sent closed task accepted transmitted =>
    have sender := congrArg ControlBlock.sender closed
    exact piece (sender.trans sent.sender_eq) rfl rfl rfl transmitted.used (by decide)
      (fits_atOnce notDone (by decide) atOnce ok)
  | queuedFin notDone notAtOnce side same task window history =>
    exact absurd history.firstTransmissions sends
  | probed waiting queue text sent task accepted transmitted =>
    simp only [probes, waiting, Bool.true_eq_false] at outside
  | probedAgain probing text sent task history => exact absurd history.firstTransmissions sends
  | popped waiting queue room text sent task accepted transmitted =>
    simp only [keepsWindow, waiting] at ok
    obtain ⟨fits, small⟩ := fits_room h waiting queue room ok
    exact piece sent.sender_eq rfl rfl rfl transmitted.used small fits

/-- **The peer's window is not overrun**, where every step keeps the window: after each first
transmission outside zero-window probing, what is in flight, the FIN counted, has grown by what was
sent and is at most the window. -/
theorem window_not_overrun (o : Opening) (events : List Event) (event : Event) (e e' : Endpoint σ)
    (kept : Machine.Admits step (keepsWindow · · = true) (opened (σ := σ) o) events)
    (ran : (opened o).run events = .ok e)
    (keeps : e.keepsWindow event = true) (stepped : e.step event = .ok e')
    (sends : e'.history.firstTransmissions ≠ e.history.firstTransmissions)
    (outside : e.probes event = false) :
    (e'.cb.sender.sendNext - e'.cb.sender.sendUnacked).toNat =
        (e.cb.sender.sendNext - e.cb.sender.sendUnacked).toNat +
          (e'.history.used - e.history.used) ∧
      (e'.cb.sender.sendNext - e'.cb.sender.sendUnacked).toNat ≤ e'.cb.sender.sendWindow.toNat := by
  have room : e.KeepsRoom := by
    refine Machine.invariant_of_admits KeepsRoom (keepsWindow · · = true)
      (fun h ok stepped => step_keepsRoom h ok stepped) ?_ kept ran
    intro x winSz cwnd sentData waiting
    cases waiting
  exact step_withinWindow room keeps stepped sends outside

/-- An ACK arrives while the background sender waits for ARP; what it then sends fits. -/
theorem window_not_overrun_awaiting :
    ∃ e e' : Endpoint CongestionControl.None,
      (Endpoint.start (sampleBlock ⟨50⟩ ⟨40⟩ 100 6 2)).run
        [.call (.send [1, 2, 3, 4]) sampleEnv, .call (.send [5, 6, 7]) sampleEnv,
          .receive (sampleHeader 50 42 6) [] sampleEnv, .call (.sender .iterate) sampleEnv,
          .receive (sampleHeader 50 43 6) [] sampleEnv] = .ok e ∧
      e.step (.call (.sender (.arpReply (.ok 9))) sampleEnv) = .ok e' ∧
      (e'.cb.sender.sendNext - e'.cb.sender.sendUnacked).toNat = 3 ∧
      (e'.cb.sender.sendNext - e'.cb.sender.sendUnacked).toNat ≤ e'.cb.sender.sendWindow.toNat := by
  obtain ⟨e, ran, view⟩ := Machine.map_eq_ok
    (x := (Endpoint.start (sampleBlock ⟨50⟩ ⟨40⟩ 100 6 2)).run
      [.call (.send [1, 2, 3, 4]) sampleEnv, .call (.send [5, 6, 7]) sampleEnv,
        .receive (sampleHeader 50 42 6) [] sampleEnv, .call (.sender .iterate) sampleEnv,
        .receive (sampleHeader 50 43 6) [] sampleEnv])
    (fun e => (e.keepsWindow (.call (.sender (.arpReply (.ok 9))) sampleEnv),
      e.probes (.call (.sender (.arpReply (.ok 9))) sampleEnv), e.history.firstTransmissions.length,
      (e.step (.call (.sender (.arpReply (.ok 9))) sampleEnv)).map fun e' =>
        (e'.history.firstTransmissions.length,
          (e'.cb.sender.sendNext - e'.cb.sender.sendUnacked).toNat)))
    (t := (true, false, 1, .ok (2, 3))) (by decide +kernel)
  simp only [Prod.mk.injEq] at view
  obtain ⟨keeps, outside, before, after⟩ := view
  obtain ⟨e', stepped, after⟩ := Machine.map_eq_ok _ after
  obtain ⟨length, inFlight⟩ := Prod.mk.inj after
  refine ⟨e, e', ran, stepped, inFlight, ?_⟩
  refine (window_not_overrun (sampleOpening ⟨50⟩ ⟨40⟩ 100 6 2) _ _ e e'
    (Machine.Admits.of_admits (by decide +kernel)) ran keeps stepped ?_ outside).2
  intro same
  rw [same, before] at length
  cases length

/-- A close with the window exactly full: the FIN goes out, and one more is in flight than the
window has room for. -/
theorem fin_overruns_window :
    ∃ e e' : Endpoint CongestionControl.None,
      (Endpoint.start (sampleBlock ⟨50⟩ ⟨40⟩ 100 2 1460)).run [.call (.send [1, 2]) sampleEnv] =
        .ok e ∧
      e.step (.call .close sampleEnv) = .ok e' ∧
      e'.history.firstTransmissions ≠ e.history.firstTransmissions ∧
      e.probes (.call .close sampleEnv) = false ∧ e'.cb.sender.sendWindow.toNat = 2 ∧
      (e'.cb.sender.sendNext - e'.cb.sender.sendUnacked).toNat = 3 := by
  obtain ⟨e, ran, view⟩ := Machine.map_eq_ok
    (x := (Endpoint.start (sampleBlock ⟨50⟩ ⟨40⟩ 100 2 1460)).run [.call (.send [1, 2]) sampleEnv])
    (fun e => (e.history.firstTransmissions.length,
      (e.step (.call .close sampleEnv)).map fun e' => (e'.history.firstTransmissions.length,
        e'.cb.sender.sendWindow.toNat, (e'.cb.sender.sendNext - e'.cb.sender.sendUnacked).toNat)))
    (t := (1, .ok (2, 2, 3))) (by decide +kernel)
  simp only [Prod.mk.injEq] at view
  obtain ⟨before, after⟩ := view
  obtain ⟨e', stepped, after⟩ := Machine.map_eq_ok _ after
  simp only [Prod.mk.injEq] at after
  obtain ⟨length, window, inFlight⟩ := after
  refine ⟨e, e', ran, stepped, ?_, rfl, window, inFlight⟩
  intro same
  rw [same, before] at length
  cases length

end Endpoint

end Inetstack.Tcp
