import Inetstack.Laws.Tcp.Established.Unacceptable

/-!
# Using an open window

The background sender cuts the first buffer of the queue to what the window has room for. It gets that far
only when the window has room for all of the buffer and one byte more: the test it makes first compares the
window with the whole buffer, and waits for a change otherwise. A buffer as large as the window, or larger,
is never sent, though nothing may be in flight whose acknowledgement could bring a change.

The congestion control is `None`, so the congestion window is never in the way, except that its rest after
what is in flight has to be more than the MSS.
-/

namespace Inetstack.Tcp

open Machine (bind_eq_ok)

namespace ControlBlock

section Transmit

variable {σ : Type} [CongestionControl σ] {cb : ControlBlock σ} {front : Buffer} {rest : List Buffer}

/-- A transmission off the queue needs a window that fits the header. -/
theorem senderTransmit_ok_iff (queue : cb.sender.unsentQueue = front :: rest) (now : Instant)
    (sendNext : SeqNumber) (winSz effectiveCwnd sentData : UInt32) (mac : MacAddress) :
    (∃ r, cb.senderTransmit now sendNext winSz effectiveCwnd sentData mac = .ok r) ↔
      cb.advertises = true := by
  obtain ⟨segmentData, sender, popped⟩ : ∃ segmentData sender,
      cb.sender.popUnsent (cb.maxSize winSz effectiveCwnd sentData) = some (segmentData, sender) := by
    rw [Sender.popUnsent, queue]
    dsimp only
    split <;> exact ⟨_, _, rfl⟩
  have fits := tcpHeader_ok_iff { cb with
    sender := sender
    cc := CongestionControl.onSend now cb.rto.estimate sentData cb.cc }
  unfold senderTransmit
  rw [popped]
  exact Machine.bind_returns_iff.trans fits

end Transmit

/-- The test of the background sender, for a queue that begins with `front`: there is something to send,
the window has room for more than the buffer, and the congestion window for more than the MSS. -/
def findsRoom (cb : ControlBlock CongestionControl.None) (front : Buffer) : Bool :=
  cb.sender.sendNext ≠ cb.sender.unsentSeqNo &&
    (cb.sender.sentData + UInt32.ofNat front.length < cb.sender.sendWindow &&
      UInt32.ofNat cb.sender.mss < 0xffffffff - cb.sender.sentData)

variable {cb : ControlBlock CongestionControl.None} {front : Buffer} {rest : List Buffer}

/-- What an iteration does with an open window. -/
theorem senderIterate_open (now : Instant) (queue : cb.sender.unsentQueue = front :: rest)
    (opened : cb.sender.sentData < cb.sender.sendWindow) :
    cb.senderIterate now = .ok (if cb.findsRoom front then
      .awaitSend cb.sender.sendNext cb.sender.sendWindow 0xffffffff cb.sender.sentData else .top, cb) := by
  have nonzero : cb.sender.sendWindow ≠ 0 := by
    intro zero
    rw [zero] at opened
    exact UInt32.not_lt_zero opened
  have below : ¬(0xffffffff : UInt32) ≤ cb.sender.sentData := by
    have bound := cb.sender.sendWindow.toNat_lt
    rw [UInt32.lt_iff_toNat_lt] at opened
    rw [UInt32.le_iff_toNat_le]
    change ¬2 ^ 32 - 1 ≤ _
    omega
  have top : cb.sender.topSizeUnsent = some front.length := by
    rw [Sender.topSizeUnsent, queue]
    rfl
  have whole : CongestionControl.getCwnd cb.cc + CongestionControl.getLimitedTransmitCwndIncrease cb.cc =
      0xffffffff := rfl
  unfold senderIterate findsRoom
  by_cases same : cb.sender.sendNext = cb.sender.unsentSeqNo
  · simp only [same, if_true, ne_eq, not_true_eq_false, decide_false, Bool.false_and, Bool.false_eq_true,
      if_false]
  have test : (decide (cb.sender.sendWindow ≤ cb.sender.sentData + UInt32.ofNat front.length) ||
      decide ((0xffffffff : UInt32) ≤ cb.sender.sentData) ||
      decide (0xffffffff - cb.sender.sentData ≤ UInt32.ofNat cb.sender.mss)) =
    !(decide (cb.sender.sentData + UInt32.ofNat front.length < cb.sender.sendWindow) &&
      decide (UInt32.ofNat cb.sender.mss < 0xffffffff - cb.sender.sentData)) := by
    simp only [below, decide_false, Bool.or_false, Bool.not_and, ← decide_not, UInt32.not_lt]
  simp only [same, nonzero, if_false, top]
  rw [whole, test]
  cases (decide (cb.sender.sentData + UInt32.ofNat front.length < cb.sender.sendWindow) &&
      decide (UInt32.ofNat cb.sender.mss < 0xffffffff - cb.sender.sentData)) with
  | true => simp [same]
  | false => simp

end ControlBlock

namespace Endpoint

variable {e : Endpoint CongestionControl.None} {front : Buffer} {rest : List Buffer}

/-- One iteration of the background sender, with the link address known: the query for it does not wait. -/
def iteration (env : Env) (mac : MacAddress) : List Event :=
  [.call (.sender .iterate) env, .call (.sender (.arpReply (.ok mac))) env]

/-- An iteration sends as much of the first buffer as the window has room for. -/
def UsesWindow (e : Endpoint CongestionControl.None) (front : Buffer) (env : Env) (mac : MacAddress) :
    Prop :=
  ∃ (e' : Endpoint CongestionControl.None) (segment : TcpSegment),
    e.run (iteration env mac) = .ok e' ∧
    e'.cb.rt.transmitted = e.cb.rt.transmitted ++ [segment] ∧ segment.data <+: front ∧
    segment.data.length = min (min front.length e.cb.sender.mss)
      (e.cb.sender.sendWindow.toNat - (e.cb.sender.sendNext - e.cb.sender.sendUnacked).toNat) ∧
    1 ≤ segment.data.length

/-- What the background sender takes off the queue: the congestion window is larger than any window. -/
theorem maxSize_open {cb : ControlBlock CongestionControl.None}
    (opened : cb.sender.sentData < cb.sender.sendWindow) :
    cb.maxSize cb.sender.sendWindow 0xffffffff cb.sender.sentData =
      min cb.sender.mss (cb.sender.sendWindow.toNat - cb.sender.sentData.toNat) := by
  have bound := cb.sender.sendWindow.toNat_lt
  have below := UInt32.lt_iff_toNat_lt.mp opened
  have all : (0xffffffff : UInt32).toNat = 2 ^ 32 - 1 := rfl
  have room : cb.sender.sentData ≤ 0xffffffff := by
    rw [UInt32.le_iff_toNat_le, all]
    omega
  rw [ControlBlock.maxSize, UInt32.toNat_sub_of_le _ _ (UInt32.le_iff_toNat_le.mpr below.le),
    UInt32.toNat_sub_of_le _ _ room, all]
  omega

/-- **The open window is used exactly if there is room for the whole buffer and more.** -/
theorem usesWindow_iff (atTop : e.task = .top) (queue : e.cb.sender.unsentQueue = front :: rest)
    (data : front ≠ []) (opened : e.cb.sender.sentData < e.cb.sender.sendWindow)
    (mss : 1 ≤ e.cb.sender.mss) (env : Env) (mac : MacAddress) :
    e.UsesWindow front env mac ↔ (e.cb.findsRoom front && e.cb.advertises) = true := by
  have iterated := ControlBlock.senderIterate_open env.now queue opened
  cases room : e.cb.findsRoom front with
  | false =>
    simp only [room, Bool.false_eq_true, if_false] at iterated
    -- without room the iteration starts over and says nothing
    have ran : e.run (iteration env mac) = .ok (e.after true e.cb .top) := by
      refine Machine.run_cons_ok.mpr ⟨e.after true e.cb .top, ?_, rfl⟩
      simp only [step, call, senderStep, atTop, iterated]
      rfl
    simp only [Bool.false_and, Bool.false_eq_true, iff_false]
    rintro ⟨e', segment, again, transmitted, -⟩
    rw [ran] at again
    cases again
    have length := congrArg List.length transmitted
    rw [List.length_append, List.length_singleton] at length
    change e.cb.rt.transmitted.length = _ at length
    omega
  | true =>
    simp only [room, if_true] at iterated
    rw [Bool.true_and, ← ControlBlock.senderTransmit_ok_iff queue env.now e.cb.sender.sendNext
      e.cb.sender.sendWindow 0xffffffff e.cb.sender.sentData mac]
    -- with room it waits for ARP, and the next poll transmits
    have first : e.step (.call (.sender .iterate) env) = .ok (e.after true e.cb (.awaitSend
        e.cb.sender.sendNext e.cb.sender.sendWindow 0xffffffff e.cb.sender.sentData)) := by
      simp only [step, call, senderStep, atTop, iterated]
      rfl
    constructor
    · rintro ⟨e', segment, ran, -⟩
      obtain ⟨t, stepped, ran⟩ := Machine.run_cons_ok.mp ran
      rw [first] at stepped
      cases stepped
      obtain ⟨u, stepped, -⟩ := Machine.run_cons_ok.mp ran
      obtain ⟨r, transmits, -⟩ := bind_eq_ok.mp stepped
      exact ⟨r, transmits⟩
    · rintro ⟨⟨task, cb⟩, transmits⟩
      obtain ⟨front', rest', same, -, segment, text, sent⟩ :=
        ControlBlock.senderTransmit_sentText transmits
      rw [queue] at same
      obtain ⟨rfl, rfl⟩ := List.cons.inj same
      rw [maxSize_open opened] at text
      have size : segment.data.length = min (min front.length e.cb.sender.mss)
          (e.cb.sender.sendWindow.toNat - (e.cb.sender.sendNext - e.cb.sender.sendUnacked).toNat) := by
        rw [text.data, List.length_take, min_comm, min_assoc]
        rfl
      have some_ : 0 < front.length := List.length_pos_iff.mpr data
      have below : (e.cb.sender.sendNext - e.cb.sender.sendUnacked).toNat <
          e.cb.sender.sendWindow.toNat := UInt32.lt_iff_toNat_lt.mp opened
      refine ⟨_, segment, Machine.run_cons_ok.mpr ⟨_, first, Machine.run_cons_ok.mpr
        ⟨_, bind_eq_ok.mpr ⟨_, transmits, rfl⟩, rfl⟩⟩, sent.transmitted, ?_, size, ?_⟩
      · rw [text.data]
        exact List.take_prefix _ _
      · rw [size]
        omega

/-- **The background sender uses an open window**, in every state a connection can reach, exactly if it has
room for the whole of the first buffer and one byte more. -/
theorem open_window_used_iff (o : Opening) (events : List Event) (e : Endpoint CongestionControl.None)
    (_ran : (Endpoint.opened o).run events = .ok e) (front : Buffer) (rest : List Buffer) (env : Env)
    (mac : MacAddress) (atTop : e.task = .top) (queue : e.cb.sender.unsentQueue = front :: rest)
    (data : front ≠ []) (opened : e.cb.sender.sentData < e.cb.sender.sendWindow) (mss : 1 ≤ e.cb.sender.mss) :
    e.UsesWindow front env mac ↔ (e.cb.findsRoom front && e.cb.advertises) = true :=
  usesWindow_iff atTop queue data opened mss env mac

set_option synthInstance.maxSize 512 in
/-- Three bytes that were sent before the link address was known go out, as far as the MSS allows. -/
theorem open_window_used_iff_resolved :
    ∃ e : Endpoint CongestionControl.None,
      (Endpoint.start (sampleBlock ⟨50⟩ ⟨40⟩ 100 10 2)).run [.call (.send [1, 2, 3]) ⟨0, none⟩] = .ok e ∧
      e.UsesWindow [1, 2, 3] sampleEnv 9 := by
  obtain ⟨e, ran, view⟩ := Machine.map_eq_ok
    (x := (Endpoint.start (sampleBlock ⟨50⟩ ⟨40⟩ 100 10 2)).run [.call (.send [1, 2, 3]) ⟨0, none⟩])
    (fun e => (e.task, e.cb.sender.unsentQueue, e.cb.sender.sentData, e.cb.sender.sendWindow,
      e.cb.sender.mss, e.cb.findsRoom [1, 2, 3] && e.cb.advertises))
    (t := (.top, [[1, 2, 3]], 0, 10, 2, true)) (by decide +kernel)
  simp only [Prod.mk.injEq] at view
  obtain ⟨atTop, queue, inFlight, window, mss, uses⟩ := view
  refine ⟨e, ran, (open_window_used_iff (sampleOpening ⟨50⟩ ⟨40⟩ 100 10 2) _ e ran [1, 2, 3] [] sampleEnv 9
    atTop queue (by decide) ?_ (by omega)).mpr uses⟩
  rw [inFlight, window]
  decide

set_option synthInstance.maxSize 1024 in
/-- Ten bytes and a window of five: nothing is in flight, and nothing is sent. -/
theorem open_window_not_used :
    ∃ e : Endpoint CongestionControl.None,
      (Endpoint.start (sampleBlock ⟨50⟩ ⟨40⟩ 100 5 1460)).run
        [.call (.send [1, 2, 3, 4, 5, 6, 7, 8, 9, 10]) sampleEnv] = .ok e ∧
      e.task = .top ∧ e.cb.sender.unsentQueue = [[1, 2, 3, 4, 5, 6, 7, 8, 9, 10]] ∧
      e.cb.sender.sentData = 0 ∧ e.cb.sender.sendWindow = 5 ∧ e.cb.sender.mss = 1460 ∧
      (e.run (iteration sampleEnv 9)).map (fun e' => (e'.task, e'.cb.rt.transmitted.length)) =
        .ok (.top, e.cb.rt.transmitted.length) ∧
      ¬e.UsesWindow [1, 2, 3, 4, 5, 6, 7, 8, 9, 10] sampleEnv 9 := by
  obtain ⟨e, ran, view⟩ := Machine.map_eq_ok
    (x := (Endpoint.start (sampleBlock ⟨50⟩ ⟨40⟩ 100 5 1460)).run
      [.call (.send [1, 2, 3, 4, 5, 6, 7, 8, 9, 10]) sampleEnv])
    (fun e => (e.task, e.cb.sender.unsentQueue, e.cb.sender.sentData, e.cb.sender.sendWindow,
      e.cb.sender.mss, e.cb.rt.transmitted.length,
      (e.run (iteration sampleEnv 9)).map fun e' => (e'.task, e'.cb.rt.transmitted.length)))
    (t := (.top, [[1, 2, 3, 4, 5, 6, 7, 8, 9, 10]], 0, 5, 1460, 0, .ok (.top, 0))) (by decide +kernel)
  simp only [Prod.mk.injEq] at view
  obtain ⟨atTop, queue, inFlight, window, mss, sent, iterated⟩ := view
  refine ⟨e, ran, atTop, queue, inFlight, window, mss, by rw [iterated, sent], ?_⟩
  rintro ⟨e', segment, again, transmitted, -⟩
  rw [again] at iterated
  have length := congrArg List.length transmitted
  rw [(Prod.mk.inj (Except.ok.inj iterated)).2, List.length_append, List.length_singleton] at length
  cases length

end Endpoint

end Inetstack.Tcp
