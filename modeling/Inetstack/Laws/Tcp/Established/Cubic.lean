import Inetstack.Laws.Tcp.SequenceNumber
import Inetstack.Lib.Machine
import Inetstack.Tcp.Established.Cubic

/-!
# Cubic and the ACKs it is told of

The limited transmit allowance grows by an MSS with the first and the second duplicate ACK of a row, and is
spent by sending. A new ACK begins a new row and leaves what is left of the allowance, so the two of the next
row come on top of it.

`receive` tells the congestion control of an ACK before it looks whether the ACK is of something that was
sent. An old ACK, and one of data not yet sent, is a new ACK to `on_ack_received`: it ends the row of
duplicates, is remembered as the last one, and moves the window by a distance that has wrapped around or is
larger than what is in flight. In fast recovery the bytes a new ACK acknowledges are taken off a window that
has been reduced and may be less.
-/

namespace Inetstack.Tcp.Cubic

open Machine (bind_eq_ok)

variable {float : CubicFloat} {c c' : Cubic} {call : CubicCall} {now : Instant} {rto : Duration}
  {sendUnacked sendNext ackSeqNo : SeqNumber}

/-! ## What the calls do -/

/-- Only `wMax` changes. -/
theorem rememberCwnd_ok (ran : c.rememberCwnd float = .ok c') : ∃ wMax, c' = { c with wMax := wMax } := by
  unfold rememberCwnd converge at ran
  split at ran
  · split at ran
    · cases ran
    · split at ran
      · cases ran
        exact ⟨_, rfl⟩
      · cases ran
        exact ⟨_, rfl⟩
  · cases ran
    exact ⟨_, rfl⟩

/-- The counter and the allowance after a call that does not touch them. -/
structure SameAllowance (c c' : Cubic) : Prop where
  mss : c'.mss = c.mss
  count : c'.duplicateAckCount = c.duplicateAckCount
  allowance : c'.limitedTransmitCwndIncrease = c.limitedTransmitCwndIncrease

/-- A duplicate ACK counts, and the first two of a row add to the allowance. -/
theorem onDupAckReceived_counts (ran : c.onDupAckReceived float sendNext ackSeqNo = .ok c') :
    SameAllowance c.incrementDupAckCount.2 c' := by
  unfold onDupAckReceived at ran
  dsimp only at ran
  split at ran
  · obtain ⟨next, remembered, ran⟩ := bind_eq_ok.mp ran
    obtain ⟨wMax, rfl⟩ := rememberCwnd_ok remembered
    cases ran
    exact ⟨rfl, rfl, rfl⟩
  · split at ran
    · cases ran
      exact ⟨rfl, rfl, rfl⟩
    · cases ran
      exact ⟨rfl, rfl, rfl⟩

/-- A duplicate ACK counts once. -/
theorem onAckReceived_dup (ran : c.onAckReceived float now rto sendUnacked sendNext sendUnacked = .ok c') :
    SameAllowance c.incrementDupAckCount.2 c' := by
  unfold onAckReceived at ran
  rw [sub_self] at ran
  obtain ⟨next, counted, ran⟩ := bind_eq_ok.mp ran
  cases ran
  obtain ⟨mss, count, allowance⟩ := onDupAckReceived_counts counted
  exact ⟨mss, count, allowance⟩

/-- A new ACK acknowledges something. -/
theorem acknowledged_ne_zero (new : ackSeqNo ≠ sendUnacked) : (ackSeqNo - sendUnacked).value ≠ 0 := by
  intro none
  have zero : ackSeqNo - sendUnacked = 0 := SeqNumber.value_injective none
  exact new (sub_eq_zero.mp zero)

/-- What a new ACK does: the count begins anew, and the window moves. -/
theorem onAckReceived_new (float : CubicFloat) (c : Cubic) (now : Instant) (rto : Duration)
    (sendNext : SeqNumber) (new : ackSeqNo ≠ sendUnacked) :
    c.onAckReceived float now rto sendUnacked sendNext ackSeqNo =
      .ok { (if c.inFastRecovery then
          onAckReceivedFastRecovery { c with duplicateAckCount := 0 } now sendUnacked sendNext ackSeqNo
        else onAckReceivedSsCa float { c with duplicateAckCount := 0 } now rto sendUnacked ackSeqNo) with
        prevAckSeqNo := ackSeqNo } := by
  unfold onAckReceived
  rw [if_neg (acknowledged_ne_zero new)]

/-- A new ACK ends the row of duplicate ones. -/
theorem onAckReceived_counts (new : ackSeqNo ≠ sendUnacked)
    (ran : c.onAckReceived float now rto sendUnacked sendNext ackSeqNo = .ok c') :
    SameAllowance { c with duplicateAckCount := 0 } c' := by
  rw [onAckReceived_new float c now rto sendNext new] at ran
  cases ran
  split
  · unfold onAckReceivedFastRecovery
    dsimp only
    split
    · exact ⟨rfl, rfl, rfl⟩
    · split
      · exact ⟨rfl, rfl, rfl⟩
      · exact ⟨rfl, rfl, rfl⟩
  · unfold onAckReceivedSsCa
    dsimp only
    split
    · exact ⟨rfl, rfl, rfl⟩
    · exact ⟨rfl, rfl, rfl⟩

/-- A timeout leaves the count alone. -/
theorem onRto_counts (ran : c.onRto float sendUnacked = .ok c') : SameAllowance c c' := by
  obtain ⟨next, lost, ran⟩ := bind_eq_ok.mp ran
  cases ran
  obtain ⟨remembered, remembers, lost⟩ := bind_eq_ok.mp lost
  obtain ⟨wMax, rfl⟩ := rememberCwnd_ok remembers
  cases lost
  dsimp only [onRtoFastRecovery]
  split
  · exact ⟨rfl, rfl, rfl⟩
  · exact ⟨rfl, rfl, rfl⟩

/-! ## The limited transmit allowance -/

/-- The call is a duplicate ACK, and one of the first two of its row. The count may wrap around. -/
def addsAllowance (c : Cubic) : CubicCall → Bool
  | .onAckReceived _ _ sendUnacked _ ackSeqNo =>
    ackSeqNo = sendUnacked && c.duplicateAckCount + 1 < DUP_ACK_THRESHOLD
  | _ => false

/-- A duplicate ACK that adds to the allowance finds at most one MSS of it left over, or takes the sum past
`2 ^ 32`. -/
def keepsAllowance (c : Cubic) (call : CubicCall) : Bool :=
  !c.addsAllowance call || c.limitedTransmitCwndIncrease ≤ c.mss ||
    2 ^ 32 ≤ c.limitedTransmitCwndIncrease.toNat + c.mss.toNat

/-- The invariant: the bound, and the MSS it is of. -/
structure Allowed (mss : Nat) (c : Cubic) : Prop where
  size : c.mss.toNat = mss
  allowance : c.limitedTransmitCwndIncrease.toNat ≤ 2 * mss

/-- Nothing of the allowance has changed. -/
theorem Allowed.same {mss : Nat} (h : c.Allowed mss) (same : SameAllowance c c') : c'.Allowed mss := by
  refine ⟨?_, ?_⟩
  · rw [same.mss, h.size]
  · rw [same.allowance]
    exact h.allowance

/-- The allowance has become smaller. -/
theorem Allowed.less {mss : Nat} (h : c.Allowed mss) (same : c'.mss = c.mss)
    (less : c'.limitedTransmitCwndIncrease ≤ c.limitedTransmitCwndIncrease) : c'.Allowed mss := by
  refine ⟨by rw [same, h.size], ?_⟩
  exact (UInt32.le_iff_toNat_le.mp less).trans h.allowance

/-- The allowance after a duplicate ACK. -/
theorem incrementDupAckCount_allowance (c : Cubic) :
    c.incrementDupAckCount.2.limitedTransmitCwndIncrease =
      if c.duplicateAckCount + 1 < DUP_ACK_THRESHOLD then c.limitedTransmitCwndIncrease + c.mss
      else c.limitedTransmitCwndIncrease := by
  unfold incrementDupAckCount
  dsimp only
  split
  · rfl
  · rfl

/-- Counting leaves the segment size alone. -/
theorem incrementDupAckCount_mss (c : Cubic) : c.incrementDupAckCount.2.mss = c.mss := by
  unfold incrementDupAckCount
  dsimp only
  split
  · rfl
  · rfl

/-- Adding an MSS keeps the bound exactly if at most one MSS is left over, or the sum wraps around. -/
theorem Allowed.add_le_iff {mss : Nat} (h : c.Allowed mss) :
    (c.limitedTransmitCwndIncrease + c.mss).toNat ≤ 2 * mss ↔
      c.limitedTransmitCwndIncrease ≤ c.mss ∨
        2 ^ 32 ≤ c.limitedTransmitCwndIncrease.toNat + c.mss.toNat := by
  have size := h.size
  have allowance := h.allowance
  have small := c.mss.toNat_lt
  rw [UInt32.le_iff_toNat_le, UInt32.toNat_add]
  by_cases wraps : 2 ^ 32 ≤ c.limitedTransmitCwndIncrease.toNat + c.mss.toNat
  · -- what wraps around is less than it was
    have around : (c.limitedTransmitCwndIncrease.toNat + c.mss.toNat) % 2 ^ 32 =
        c.limitedTransmitCwndIncrease.toNat + c.mss.toNat - 2 ^ 32 := by
      have := c.limitedTransmitCwndIncrease.toNat_lt
      omega
    rw [around]
    omega
  · rw [Nat.mod_eq_of_lt (Nat.lt_of_not_le wraps)]
    omega

/-- What a duplicate ACK adds stays within two segments exactly where the condition says so. -/
theorem Allowed.increment_iff {mss : Nat} (h : c.Allowed mss) {now : Instant} {rto : Duration}
    {sendUnacked sendNext : SeqNumber} :
    c.incrementDupAckCount.2.limitedTransmitCwndIncrease.toNat ≤ 2 * mss ↔
      c.keepsAllowance (.onAckReceived now rto sendUnacked sendNext sendUnacked) = true := by
  rw [incrementDupAckCount_allowance]
  unfold keepsAllowance addsAllowance
  by_cases adds : c.duplicateAckCount + 1 < DUP_ACK_THRESHOLD
  · rw [if_pos adds, h.add_le_iff]
    simp [adds]
  · rw [if_neg adds]
    simpa [adds] using h.allowance

/-- Subtraction gives nothing larger. -/
theorem saturatingSub_le (a b : UInt32) : saturatingSub a b ≤ a := by
  unfold saturatingSub
  split
  next le =>
    rw [UInt32.le_iff_toNat_le, UInt32.toNat_sub_of_le _ _ le]
    exact Nat.sub_le _ _
  next => exact UInt32.zero_le

/-- **One call keeps the bound**, if it is admitted. -/
theorem step_allowed {mss : Nat} (h : c.Allowed mss) (keeps : c.keepsAllowance call = true)
    (stepped : c.step float call = .ok c') : c'.Allowed mss := by
  cases call with
  | onAckReceived now rto sendUnacked sendNext ackSeqNo =>
    by_cases same : ackSeqNo = sendUnacked
    · subst same
      have added : c.incrementDupAckCount.2.Allowed mss :=
        ⟨(congrArg UInt32.toNat c.incrementDupAckCount_mss).trans h.size, h.increment_iff.mpr keeps⟩
      exact added.same (onAckReceived_dup stepped)
    · have anew : Allowed mss { c with duplicateAckCount := 0 } := ⟨h.size, h.allowance⟩
      exact anew.same (onAckReceived_counts same stepped)
  | onSend now rto numBytesSent =>
    cases stepped
    exact h.less rfl (saturatingSub_le _ _)
  | onCwndCheckBeforeSend now =>
    cases stepped
    unfold onCwndCheckBeforeSend
    split
    · exact h.less rfl UInt32.zero_le
    · exact h
  | onRto sendUnacked => exact h.same (onRto_counts stepped)
  | onFastRetransmit =>
    cases stepped
    exact h.same ⟨rfl, rfl, rfl⟩

/-- A call that is not admitted breaks the bound. -/
theorem step_exceeds {mss : Nat} (h : c.Allowed mss) (refused : ¬c.keepsAllowance call = true)
    (stepped : c.step float call = .ok c') : ¬c'.limitedTransmitCwndIncrease.toNat ≤ 2 * mss := by
  cases call with
  | onAckReceived now rto sendUnacked sendNext ackSeqNo =>
    by_cases same : ackSeqNo = sendUnacked
    · subst same
      rw [(onAckReceived_dup stepped).allowance, h.increment_iff]
      exact refused
    · simp [keepsAllowance, addsAllowance, same] at refused
  | onSend now rto numBytesSent => simp [keepsAllowance, addsAllowance] at refused
  | onCwndCheckBeforeSend now => simp [keepsAllowance, addsAllowance] at refused
  | onRto sendUnacked => simp [keepsAllowance, addsAllowance] at refused
  | onFastRetransmit => simp [keepsAllowance, addsAllowance] at refused

/-- Nothing is allowed at the start. -/
theorem allowed_new {mss : Nat} {seqNo : SeqNumber} {fastConvergence : Option Bool}
    (made : Cubic.new now mss seqNo fastConvergence = .ok c) : c.Allowed mss := by
  unfold Cubic.new at made
  split at made
  next small =>
    cases made
    refine ⟨?_, ?_⟩
    · rw [UInt32.toNat_ofNat', Nat.mod_eq_of_lt small]
    · exact Nat.zero_le _
  next => cases made

/-- **The limited transmit allowance is at most two MSS** after every call of a list, exactly if no duplicate
ACK that adds to it finds more than one MSS left over. -/
theorem limited_transmit_bounded {mss : Nat} {seqNo : SeqNumber} {fastConvergence : Option Bool} {c₀ : Cubic}
    (made : Cubic.new now mss seqNo fastConvergence = .ok c₀) {calls : List CubicCall}
    (ran : Machine.run (step float) c₀ calls = .ok c) :
    (∀ n t, Machine.run (step float) c₀ (calls.take n) = .ok t →
        t.limitedTransmitCwndIncrease.toNat ≤ 2 * mss) ↔
      Machine.Admits (step float) (fun c call => c.keepsAllowance call = true) c₀ calls :=
  Machine.forall_take_iff_admits (Allowed mss) (fun c => c.limitedTransmitCwndIncrease.toNat ≤ 2 * mss) _
    step_allowed (fun allowed => allowed.allowance) step_exceeds (allowed_new made) ran

/-- Results for the computations in `f32`: seven tenths of the window, and no growth. -/
def sampleFloat : CubicFloat where
  reducedCwnd cwnd := UInt32.ofNat (cwnd.toNat * 7 / 10)
  convergedCwnd cwnd := UInt32.ofNat (cwnd.toNat * 17 / 20)
  cubicBelowEst _ _ _ _ _ := false
  wEst _ _ _ _ := 0
  cwndInc _ _ _ _ _ _ := 0

/-- The ACK `ack` when the bytes from `unacked` to 4100 are in flight. -/
def sampleAck (unacked ack : UInt32) : CubicCall := .onAckReceived 0 1 ⟨unacked⟩ ⟨4100⟩ ⟨ack⟩

/-- Two duplicate ACKs, what they allow is sent but for one MSS, and a new row begins. -/
theorem limited_transmit_bounded_spent :
    ∃ c₀ c, Cubic.new 0 1000 ⟨100⟩ none = .ok c₀ ∧
      Machine.run (step sampleFloat) c₀ [sampleAck 100 100, sampleAck 100 100, .onSend 0 1 1000,
        sampleAck 100 1100, sampleAck 1100 1100] = .ok c ∧
      c.limitedTransmitCwndIncrease.toNat ≤ 2 * 1000 := by
  obtain ⟨c₀, made, same⟩ := Machine.map_eq_ok (x := Cubic.new 0 1000 ⟨100⟩ none)
    (fun c₀ => ((Machine.admits (step sampleFloat) keepsAllowance c₀ [sampleAck 100 100, sampleAck 100 100,
      .onSend 0 1 1000, sampleAck 100 1100, sampleAck 1100 1100]),
      (Machine.run (step sampleFloat) c₀ [sampleAck 100 100, sampleAck 100 100, .onSend 0 1 1000,
        sampleAck 100 1100, sampleAck 1100 1100]).isOk)) (t := (true, true)) (by decide +kernel)
  obtain ⟨keeps, returns⟩ := Prod.mk.inj same
  cases ran : Machine.run (step sampleFloat) c₀ [sampleAck 100 100, sampleAck 100 100, .onSend 0 1 1000,
      sampleAck 100 1100, sampleAck 1100 1100] with
  | error fault =>
    rw [ran] at returns
    cases returns
  | ok c =>
    have bounded := (limited_transmit_bounded made ran).mpr (Machine.Admits.of_admits keeps)
    exact ⟨c₀, c, made, ran, bounded 5 c ran⟩

/-- Two duplicate ACKs, a new one, and another duplicate: three MSS. -/
theorem limited_transmit_unbounded :
    ∃ c₀ c, Cubic.new 0 1000 ⟨100⟩ none = .ok c₀ ∧
      Machine.run (step sampleFloat) c₀ [sampleAck 100 100, sampleAck 100 100, sampleAck 100 1100,
        sampleAck 1100 1100] = .ok c ∧
      c.limitedTransmitCwndIncrease = 3000 ∧ ¬c.limitedTransmitCwndIncrease.toNat ≤ 2 * 1000 := by
  obtain ⟨⟨c₀, c⟩, ran, view⟩ := Machine.map_eq_ok
    (x := do
      let c₀ ← Cubic.new 0 1000 ⟨100⟩ none
      let c ← Machine.run (step sampleFloat) c₀ [sampleAck 100 100, sampleAck 100 100,
        sampleAck 100 1100, sampleAck 1100 1100]
      .ok (c₀, c))
    (fun r => r.2.limitedTransmitCwndIncrease) (t := 3000) (by decide +kernel)
  obtain ⟨c₀', made, ran⟩ := bind_eq_ok.mp ran
  obtain ⟨c', ran, same⟩ := bind_eq_ok.mp ran
  cases same
  refine ⟨c₀, c, made, ran, view, ?_⟩
  rw [view]
  decide

/-! ## ACKs of what is not in flight -/

/-- The ACK is of something in flight: it is in `(send_unacked, send_next]`. -/
def inFlight (sendUnacked sendNext ackSeqNo : SeqNumber) : Bool :=
  ackSeqNo ≠ sendUnacked ∧ (ackSeqNo - sendUnacked).value ≤ (sendNext - sendUnacked).value

/-- The window, the row of duplicates and the flags of fast recovery are as before. -/
structure Unmoved (c c' : Cubic) : Prop where
  cwnd : c'.cwnd = c.cwnd
  count : c'.duplicateAckCount = c.duplicateAckCount
  prev : c'.prevAckSeqNo = c.prevAckSeqNo
  recovering : c'.inFastRecovery = c.inFastRecovery
  retransmit : c'.fastRetransmitNow = c.fastRetransmitNow

/-- What the congestion control should make of an ACK: one that is not of something in flight, and no
duplicate, changes nothing, and what a partial ACK acknowledges in fast recovery can be taken off the
window. -/
structure HeedsValid (float : CubicFloat) (c : Cubic) (now : Instant) (rto : Duration)
    (sendUnacked sendNext ackSeqNo : SeqNumber) : Prop where
  ignores : inFlight sendUnacked sendNext ackSeqNo = false → ackSeqNo ≠ sendUnacked →
    ∃ c', c.onAckReceived float now rto sendUnacked sendNext ackSeqNo = .ok c' ∧ c.Unmoved c'
  subtracts : inFlight sendUnacked sendNext ackSeqNo = true → c.inFastRecovery = true →
    ackSeqNo.gt c.recover = false →
    ∃ c' left, c.onAckReceived float now rto sendUnacked sendNext ackSeqNo = .ok c' ∧
      left.toNat + (ackSeqNo - sendUnacked).value.toNat = c.cwnd.toNat ∧
      c'.cwnd = if c.mss ≤ (ackSeqNo - sendUnacked).value then left + c.mss else left

/-- A new ACK leaves the window and the flags of fast recovery as they are. -/
def standsStill (float : CubicFloat) (c : Cubic) (now : Instant) (rto : Duration)
    (sendUnacked ackSeqNo : SeqNumber) : Bool :=
  if c.inFastRecovery then
    !ackSeqNo.gt c.recover && c.fastRetransmitNow && (ackSeqNo - sendUnacked).value = c.mss
  else if c.cwnd < c.ssthresh then c.mss = 0
  else if float.cubicBelowEst c.lastCongestionWasRto c.wMax c.mss (now - c.caStart) rto then
    float.wEst c.wMax c.mss (now - c.caStart) rto = c.cwnd
  else float.cwndInc c.lastCongestionWasRto c.wMax c.mss c.cwnd (now - c.caStart) rto = 0

/-- The states and the ACKs for which `on_ack_received` does as it should. -/
def heeds (float : CubicFloat) (c : Cubic) (now : Instant) (rto : Duration)
    (sendUnacked sendNext ackSeqNo : SeqNumber) : Bool :=
  if ackSeqNo = sendUnacked then true
  else if inFlight sendUnacked sendNext ackSeqNo then
    !c.inFastRecovery || ackSeqNo.gt c.recover || (ackSeqNo - sendUnacked).value ≤ c.cwnd
  else
    c.duplicateAckCount = 0 && c.prevAckSeqNo = ackSeqNo && c.standsStill float now rto sendUnacked ackSeqNo

/-- A partial ACK in fast recovery leaves the window if it acknowledges one MSS, and a full one ends the
recovery. -/
theorem onAckReceivedFastRecovery_still (recovering : c.inFastRecovery = true)
    (new : ackSeqNo ≠ sendUnacked) :
    ((c.onAckReceivedFastRecovery now sendUnacked sendNext ackSeqNo).cwnd = c.cwnd ∧
      (c.onAckReceivedFastRecovery now sendUnacked sendNext ackSeqNo).inFastRecovery = c.inFastRecovery ∧
      (c.onAckReceivedFastRecovery now sendUnacked sendNext ackSeqNo).fastRetransmitNow =
        c.fastRetransmitNow) ↔
      ackSeqNo.gt c.recover = false ∧ c.fastRetransmitNow = true ∧
        (ackSeqNo - sendUnacked).value = c.mss := by
  have some_ := acknowledged_ne_zero new
  unfold onAckReceivedFastRecovery
  dsimp only
  split
  next full =>
    rw [full, recovering]
    simp
  next partial_ =>
    rw [Bool.not_eq_true] at partial_
    rw [partial_]
    split
    next enough =>
      have back : c.cwnd - (ackSeqNo - sendUnacked).value + c.mss = c.cwnd ↔
          (ackSeqNo - sendUnacked).value = c.mss := by
        rw [← UInt32.eq_sub_iff_add_eq, UInt32.sub_right_inj]
      rw [back]
      tauto
    next short =>
      have moved : c.cwnd - (ackSeqNo - sendUnacked).value ≠ c.cwnd := by
        rw [ne_eq, UInt32.sub_eq_iff_eq_add, eq_comm, UInt32.add_eq_left]
        exact some_
      have other : (ackSeqNo - sendUnacked).value ≠ c.mss := by
        intro same
        exact short (UInt32.le_of_eq same.symm)
      simp only [moved, other, false_and, and_false]

/-- Outside fast recovery only the window can move. -/
theorem onAckReceivedSsCa_still (going : c.inFastRecovery = false) (new : ackSeqNo ≠ sendUnacked) :
    (c.onAckReceivedSsCa float now rto sendUnacked ackSeqNo).cwnd = c.cwnd ↔
      c.standsStill float now rto sendUnacked ackSeqNo = true := by
  unfold onAckReceivedSsCa standsStill avoidedCwnd
  dsimp only
  rw [going, if_neg Bool.false_ne_true]
  split
  next slow =>
    have least : min (ackSeqNo - sendUnacked).value c.mss =
        if (ackSeqNo - sendUnacked).value ≤ c.mss then (ackSeqNo - sendUnacked).value else c.mss := rfl
    rw [UInt32.add_eq_left, decide_eq_true_eq, least]
    split
    next all =>
      refine iff_of_false (acknowledged_ne_zero new) ?_
      intro none
      rw [none, UInt32.le_zero_iff] at all
      exact acknowledged_ne_zero new all
    next segment => rfl
  next fast =>
    split
    · rw [decide_eq_true_eq]
    · rw [UInt32.add_eq_left, decide_eq_true_eq]

/-- Slow start and congestion avoidance have nothing to do with fast recovery. -/
theorem onAckReceivedSsCa_recovery :
    (c.onAckReceivedSsCa float now rto sendUnacked ackSeqNo).inFastRecovery = c.inFastRecovery ∧
      (c.onAckReceivedSsCa float now rto sendUnacked ackSeqNo).fastRetransmitNow = c.fastRetransmitNow := by
  unfold onAckReceivedSsCa
  dsimp only
  split
  · exact ⟨rfl, rfl⟩
  · exact ⟨rfl, rfl⟩

/-- What is seen of a new ACK afterwards. -/
theorem onAckReceived_seen (float : CubicFloat) (c : Cubic) (now : Instant) (rto : Duration)
    (sendNext : SeqNumber) (new : ackSeqNo ≠ sendUnacked) :
    ∃ c', c.onAckReceived float now rto sendUnacked sendNext ackSeqNo = .ok c' ∧
      c'.duplicateAckCount = 0 ∧ c'.prevAckSeqNo = ackSeqNo ∧
      ((c'.cwnd = c.cwnd ∧ c'.inFastRecovery = c.inFastRecovery ∧
        c'.fastRetransmitNow = c.fastRetransmitNow) ↔
        c.standsStill float now rto sendUnacked ackSeqNo = true) := by
  have ran := onAckReceived_new float c now rto sendNext new
  refine ⟨_, ran, (onAckReceived_counts new ran).count, rfl, ?_⟩
  dsimp only
  by_cases recovering : c.inFastRecovery = true
  · rw [if_pos recovering]
    refine (onAckReceivedFastRecovery_still (c := { c with duplicateAckCount := 0 }) recovering new).trans ?_
    rw [standsStill, if_pos recovering, Bool.and_eq_true, Bool.and_eq_true, Bool.not_eq_true',
      decide_eq_true_eq, and_assoc]
  · rw [if_neg recovering]
    rw [Bool.not_eq_true] at recovering
    exact (and_iff_left onAckReceivedSsCa_recovery).trans
      (onAckReceivedSsCa_still (c := { c with duplicateAckCount := 0 }) recovering new)

/-- When a new ACK leaves the congestion control as it is. -/
theorem onAckReceived_unmoved_iff (float : CubicFloat) (c : Cubic) (now : Instant) (rto : Duration)
    (sendNext : SeqNumber) (new : ackSeqNo ≠ sendUnacked) :
    (∃ c', c.onAckReceived float now rto sendUnacked sendNext ackSeqNo = .ok c' ∧ c.Unmoved c') ↔
      c.duplicateAckCount = 0 ∧ c.prevAckSeqNo = ackSeqNo ∧
        c.standsStill float now rto sendUnacked ackSeqNo = true := by
  obtain ⟨next, ran, count, prev, still⟩ := onAckReceived_seen float c now rto sendNext new
  rw [ran]
  constructor
  · rintro ⟨c', same, unmoved⟩
    cases same
    refine ⟨?_, ?_, still.mp ⟨unmoved.cwnd, unmoved.recovering, unmoved.retransmit⟩⟩
    · rw [← unmoved.count, count]
    · rw [← unmoved.prev, prev]
  · rintro ⟨noRow, last, stands⟩
    obtain ⟨cwnd, recovering, retransmit⟩ := still.mpr stands
    exact ⟨next, rfl, cwnd, by rw [count, noRow], by rw [prev, last], recovering, retransmit⟩

/-- A partial ACK in fast recovery takes what it acknowledges off the window, if there is so much. -/
theorem onAckReceived_subtracts_iff (new : ackSeqNo ≠ sendUnacked) (recovering : c.inFastRecovery = true)
    (partial_ : ackSeqNo.gt c.recover = false) :
    (∃ c' left, c.onAckReceived float now rto sendUnacked sendNext ackSeqNo = .ok c' ∧
      left.toNat + (ackSeqNo - sendUnacked).value.toNat = c.cwnd.toNat ∧
      c'.cwnd = if c.mss ≤ (ackSeqNo - sendUnacked).value then left + c.mss else left) ↔
      (ackSeqNo - sendUnacked).value ≤ c.cwnd := by
  constructor
  · rintro ⟨c', left, -, whole, -⟩
    rw [UInt32.le_iff_toNat_le]
    omega
  · intro enough
    have ran := onAckReceived_new float c now rto sendNext new
    refine ⟨_, c.cwnd - (ackSeqNo - sendUnacked).value, ran, ?_, ?_⟩
    · rw [UInt32.toNat_sub_of_le _ _ enough]
      exact Nat.sub_add_cancel (UInt32.le_iff_toNat_le.mp enough)
    · rw [if_pos recovering]
      unfold onAckReceivedFastRecovery
      dsimp only
      rw [partial_, if_neg Bool.false_ne_true]
      split
      · rfl
      · rfl

/-- **The congestion control heeds only the ACKs of what is in flight**, in the states and for the ACKs that
`heeds` names. -/
theorem valid_acks_heeded_iff (float : CubicFloat) (c : Cubic) (now : Instant) (rto : Duration)
    (sendUnacked sendNext ackSeqNo : SeqNumber) :
    c.HeedsValid float now rto sendUnacked sendNext ackSeqNo ↔
      c.heeds float now rto sendUnacked sendNext ackSeqNo = true := by
  unfold heeds
  split
  next duplicate =>
    refine iff_of_true ⟨fun _ new => absurd duplicate new, ?_⟩ rfl
    intro flying
    simp [inFlight, duplicate] at flying
  next new =>
    cases flying : inFlight sendUnacked sendNext ackSeqNo with
    | true =>
      rw [if_pos rfl, Bool.or_eq_true, Bool.or_eq_true, Bool.not_eq_true', decide_eq_true_eq]
      constructor
      · intro heeds
        cases recovering : c.inFastRecovery with
        | false => exact .inl (.inl rfl)
        | true =>
          cases partial_ : ackSeqNo.gt c.recover with
          | true => exact .inl (.inr rfl)
          | false =>
            exact .inr ((onAckReceived_subtracts_iff new recovering partial_).mp
              (heeds.subtracts flying recovering partial_))
      · intro enough
        refine ⟨fun notFlying => ?_, fun _ recovering partial_ => ?_⟩
        · rw [flying] at notFlying
          cases notFlying
        · refine (onAckReceived_subtracts_iff new recovering partial_).mpr ?_
          rw [recovering, partial_] at enough
          simpa using enough
    | false =>
      rw [if_neg Bool.false_ne_true, Bool.and_eq_true, Bool.and_eq_true, decide_eq_true_eq,
        decide_eq_true_eq, and_assoc, ← onAckReceived_unmoved_iff float c now rto sendNext new]
      constructor
      · intro heeds
        exact heeds.ignores flying new
      · intro unmoved
        refine ⟨fun _ _ => unmoved, fun isFlying => ?_⟩
        rw [flying] at isFlying
        cases isFlying

set_option synthInstance.maxSize 512 in
/-- Four segments are in flight. An old ACK makes the window larger. If the first of them is lost, the ACK of
all four that follows the retransmission finds a window of 2800 bytes and takes 4000 off it. -/
theorem valid_acks_not_heeded :
    ∃ c₀ c, Cubic.new 0 1000 ⟨100⟩ none = .ok c₀ ∧
      Machine.run (step sampleFloat) c₀ [sampleAck 100 100, sampleAck 100 100, sampleAck 100 100] = .ok c ∧
      c₀.cwnd = 4000 ∧
      (c₀.onAckReceived sampleFloat 0 1 ⟨100⟩ ⟨4100⟩ ⟨50⟩).map Cubic.cwnd = .ok 5000 ∧
      ¬c₀.HeedsValid sampleFloat 0 1 ⟨100⟩ ⟨4100⟩ ⟨50⟩ ∧
      c.cwnd = 2800 ∧
      (c.onAckReceived sampleFloat 0 1 ⟨100⟩ ⟨4100⟩ ⟨4100⟩).map Cubic.cwnd = .ok 4294967096 ∧
      ¬c.HeedsValid sampleFloat 0 1 ⟨100⟩ ⟨4100⟩ ⟨4100⟩ := by
  obtain ⟨⟨c₀, c⟩, ran, view⟩ := Machine.map_eq_ok
    (x := do
      let c₀ ← Cubic.new 0 1000 ⟨100⟩ none
      let c ← Machine.run (step sampleFloat) c₀ [sampleAck 100 100, sampleAck 100 100, sampleAck 100 100]
      .ok (c₀, c))
    (fun r => (r.1.prevAckSeqNo, r.1.cwnd,
      (r.1.onAckReceived sampleFloat 0 1 ⟨100⟩ ⟨4100⟩ ⟨50⟩).map Cubic.cwnd,
      r.2.inFastRecovery, r.2.recover, r.2.cwnd,
      (r.2.onAckReceived sampleFloat 0 1 ⟨100⟩ ⟨4100⟩ ⟨4100⟩).map Cubic.cwnd))
    (t := (⟨100⟩, 4000, .ok 5000, true, ⟨4100⟩, 2800, .ok 4294967096)) (by decide +kernel)
  obtain ⟨c₀', made, ran⟩ := bind_eq_ok.mp ran
  obtain ⟨c', ran, same⟩ := bind_eq_ok.mp ran
  cases same
  simp only [Prod.mk.injEq] at view
  obtain ⟨prev, window, grown, recovering, recover, reduced, wrapped⟩ := view
  refine ⟨c₀, c, made, ran, window, grown, ?_, reduced, wrapped, ?_⟩
  · intro heeds
    obtain ⟨-, last, -⟩ := (onAckReceived_unmoved_iff _ _ _ _ _ (by decide)).mp
      (heeds.ignores (by decide) (by decide))
    rw [prev] at last
    revert last
    decide
  · intro heeds
    have partial_ : SeqNumber.gt ⟨4100⟩ c.recover = false := by
      rw [recover]
      decide
    have enough := (onAckReceived_subtracts_iff (by decide) recovering partial_).mp
      (heeds.subtracts (by decide) recovering partial_)
    rw [reduced] at enough
    revert enough
    decide

end Inetstack.Tcp.Cubic
