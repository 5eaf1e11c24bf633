import Mathlib.Tactic.Linarith
import Inetstack.Tcp.Established.Rto

/-!
# The retransmission timeout and RFC 6298

RFC 6298 has two recurrences over the samples, SRTT and RTTVAR, and takes the timeout to be SRTT and four
times RTTVAR, or the granularity of the clock if that is more. The recurrences are the source's too. The
timeout is not: four times RTTVAR is compared with the granularity, and RTTVAR is what is added. The two
timeouts differ unless the granularity counts, or both are below the bound of 100 ms, or both above that of
60 s.
-/

namespace Inetstack.Tcp

/-! ## The estimate of RFC 6298 -/

/-- SRTT and RTTVAR. -/
structure RttEstimate where
  srtt : ℚ
  rttvar : ℚ

namespace RttEstimate

/-- The estimate after a sample, from the one before it, if there is one. -/
def next : Option RttEstimate → Duration → RttEstimate
  | none, rtt => { srtt := rtt, rttvar := rtt / 2 }
  | some e, rtt =>
    { srtt := 7 / 8 * e.srtt + 1 / 8 * rtt
      rttvar := 3 / 4 * e.rttvar + 1 / 4 * |e.srtt - rtt| }

/-- The estimate after a list of samples. -/
def after (samples : List Duration) : Option RttEstimate :=
  samples.foldl (fun e rtt => some (next e rtt)) none

/-- The bounds on the timeout. -/
def clamp (rto : ℚ) : ℚ := max (1 / 10) (min rto 60)

/-- The timeout. -/
def rto (e : RttEstimate) : ℚ := clamp (e.srtt + max (1 / 1000) (4 * e.rttvar))

/-- Four times RTTVAR is below the granularity, or the timeout with it is at the lower bound, or the timeout
without the factor is at the upper bound. -/
def Insensitive (e : RttEstimate) : Prop :=
  4 * e.rttvar < 1 / 1000 ∨ e.srtt + 4 * e.rttvar ≤ 1 / 10 ∨ 60 ≤ e.srtt + e.rttvar

theorem after_append (samples : List Duration) (rtt : Duration) :
    after (samples ++ [rtt]) = some (next (after samples) rtt) := by
  rw [after, List.foldl_append]
  rfl

/-- The bounds hide a difference only where both numbers are beyond the same one. -/
theorem clamp_eq_clamp_iff {x y : ℚ} (less : x < y) : clamp x = clamp y ↔ y ≤ 1 / 10 ∨ 60 ≤ x := by
  unfold clamp
  constructor
  · intro same
    by_contra apart
    obtain ⟨above, below⟩ := not_or.mp apart
    rw [not_le] at above below
    rw [min_eq_left below.le] at same
    have more : max (1 / 10) x < max (1 / 10) (min y 60) := by
      apply max_lt
      · exact lt_max_of_lt_right (lt_min above (by norm_num))
      · exact lt_max_of_lt_right (lt_min less below)
    exact absurd same more.ne
  · rintro (low | high)
    · rw [max_eq_left ((min_le_left _ _).trans low),
        max_eq_left ((min_le_left _ _).trans (less.le.trans low))]
    · rw [min_eq_right high, min_eq_right (high.trans less.le)]

/-- **When the factor makes no difference.** -/
theorem rto_eq_iff (e : RttEstimate) :
    clamp (e.srtt + if 4 * e.rttvar < 1 / 1000 then 1 / 1000 else e.rttvar) = e.rto ↔ e.Insensitive := by
  unfold rto Insensitive
  by_cases coarse : 4 * e.rttvar < 1 / 1000
  · simp only [coarse, if_true, max_eq_left coarse.le, true_or]
  · rw [if_neg coarse, max_eq_right (not_lt.mp coarse), clamp_eq_clamp_iff (by linarith)]
    simp only [coarse, false_or]

end RttEstimate

/-! ## Runs of the calculator -/

inductive RtoCall where
  | addSample (rtt : Duration)
  | recordFailure

/-- The samples among the calls. -/
def RtoCall.samples (calls : List RtoCall) : List Duration :=
  calls.filterMap fun
    | .addSample rtt => some rtt
    | .recordFailure => none

namespace RtoCalculator

variable {r : RtoCalculator}

def step (r : RtoCalculator) : RtoCall → RtoCalculator
  | .addSample rtt => r.addSample rtt
  | .recordFailure => r.recordFailure

/-- A new calculator after a list of calls. -/
def after (calls : List RtoCall) : RtoCalculator := calls.foldl step new

theorem after_append (calls : List RtoCall) (call : RtoCall) :
    after (calls ++ [call]) = (after calls).step call := by
  rw [after, List.foldl_append]
  rfl

/-- What is held between the bounds. -/
theorem updateRto_rto (r : RtoCalculator) (newRto : ℚ) :
    (r.updateRto newRto).rto = RttEstimate.clamp newRto := by
  unfold updateRto RttEstimate.clamp
  dsimp only
  split
  next low => rw [min_eq_left (low.le.trans (by norm_num)), max_eq_left low.le]
  next high =>
  split
  next above => rw [min_eq_right above.le, max_eq_right (by norm_num)]
  next below => rw [min_eq_left (not_lt.mp below), max_eq_right (not_lt.mp high)]

/-- The estimate a calculator holds, if there has been a sample. -/
def estimates (r : RtoCalculator) : Option RttEstimate :=
  if r.receivedSample then some { srtt := r.srtt, rttvar := r.rttvar } else none

/-- What `add_sample` does: the estimate is that of RFC 6298, and the timeout is not. -/
theorem addSample_eq (r : RtoCalculator) (rtt : Duration) :
    (r.addSample rtt).estimates = some (RttEstimate.next r.estimates rtt) ∧
    (r.addSample rtt).srtt = (RttEstimate.next r.estimates rtt).srtt ∧
    (r.addSample rtt).rttvar = (RttEstimate.next r.estimates rtt).rttvar ∧
    (r.addSample rtt).rto = RttEstimate.clamp ((RttEstimate.next r.estimates rtt).srtt +
      if 4 * (RttEstimate.next r.estimates rtt).rttvar < 1 / 1000 then 1 / 1000
      else (RttEstimate.next r.estimates rtt).rttvar) := by
  have gain : (1 : ℚ) - 1 / 4 = 3 / 4 := by norm_num
  have smooth : (1 : ℚ) - 1 / 8 = 7 / 8 := by norm_num
  unfold addSample estimates
  cases received : r.receivedSample with
  | true =>
    simp only [if_true, gain, smooth, updateRto_rto]
    refine ⟨?_, rfl, rfl, rfl⟩
    simp only [updateRto, if_true]
    rfl
  | false =>
    simp only [Bool.false_eq_true, if_false, updateRto_rto]
    exact ⟨rfl, rfl, rfl, rfl⟩

/-! ## Following RFC 6298 -/

/-- The timeout is within its bounds. -/
def Bounded (r : RtoCalculator) : Prop := 1 / 10 ≤ r.rto ∧ r.rto ≤ 60

theorem bounded_of_clamp {rto : ℚ} (clamped : r.rto = RttEstimate.clamp rto) : r.Bounded := by
  rw [Bounded, clamped]
  exact ⟨le_max_left _ _, max_le (by norm_num) (min_le_right _ _)⟩

theorem bounded_step (r : RtoCalculator) (call : RtoCall) : (r.step call).Bounded := by
  cases call with
  | addSample rtt => exact bounded_of_clamp (r.addSample_eq rtt).2.2.2
  | recordFailure => exact bounded_of_clamp (updateRto_rto r _)

/-- **The timeout never leaves its bounds.** -/
theorem bounded_after (calls : List RtoCall) : (after calls).Bounded := by
  induction calls using List.reverseRecOn with
  | nil => exact ⟨by norm_num [after, new], by norm_num [after, new]⟩
  | append_singleton calls call _ =>
    rw [after_append]
    exact bounded_step _ _

/-- **The estimate is that of RFC 6298**, whatever the calls. -/
theorem estimates_after (calls : List RtoCall) :
    (after calls).estimates = RttEstimate.after (RtoCall.samples calls) := by
  induction calls using List.reverseRecOn with
  | nil => rfl
  | append_singleton calls call ih =>
    rw [after_append, RtoCall.samples, List.filterMap_append]
    cases call with
    | addSample rtt =>
      change ((after calls).addSample rtt).estimates =
        RttEstimate.after (RtoCall.samples calls ++ [rtt])
      rw [RttEstimate.after_append, ← ih]
      exact ((after calls).addSample_eq rtt).1
    | recordFailure =>
      rw [List.filterMap_cons, List.filterMap_nil, List.append_nil]
      exact ih

/-- What RFC 6298, and the source's bounds, have a call do after the calls before it. -/
def FollowsAt (before : List RtoCall) : RtoCall → Prop
  | .addSample rtt =>
    let e := RttEstimate.next (RttEstimate.after (RtoCall.samples before)) rtt
    (after (before ++ [.addSample rtt])).srtt = e.srtt ∧
      (after (before ++ [.addSample rtt])).rttvar = e.rttvar ∧
      (after (before ++ [.addSample rtt])).rto = e.rto
  | .recordFailure => (after (before ++ [.recordFailure])).rto = min (2 * (after before).rto) 60

/-- Which calls do so: a sample only if the factor of RTTVAR makes no difference. -/
def InsensitiveAt (before : List RtoCall) : RtoCall → Prop
  | .addSample rtt => (RttEstimate.next (RttEstimate.after (RtoCall.samples before)) rtt).Insensitive
  | .recordFailure => True

theorem followsAt_iff (before : List RtoCall) (call : RtoCall) :
    FollowsAt before call ↔ InsensitiveAt before call := by
  cases call with
  | addSample rtt =>
    obtain ⟨-, srtt, rttvar, rto⟩ := (after before).addSample_eq rtt
    rw [estimates_after] at srtt rttvar rto
    simp only [FollowsAt, InsensitiveAt, after_append, step]
    rw [← RttEstimate.rto_eq_iff, ← rto]
    exact ⟨fun follows => follows.2.2, fun same => ⟨srtt, rttvar, same⟩⟩
  | recordFailure =>
    have low := (bounded_after before).1
    simp only [FollowsAt, InsensitiveAt, after_append, step, iff_true]
    rw [recordFailure, updateRto_rto, RttEstimate.clamp, mul_comm, max_eq_right]
    exact le_min (by linarith) (by norm_num)

/-- The calculator follows RFC 6298 in a run. -/
def FollowsRfc (calls : List RtoCall) : Prop :=
  (∀ before rest, calls = before ++ rest → (after before).Bounded) ∧
    ∀ before call rest, calls = before ++ call :: rest → FollowsAt before call

/-- **The calculator follows RFC 6298** in a run of samples and failures exactly if the factor of RTTVAR
makes no difference at any sample. -/
theorem follows_rfc_iff (calls : List RtoCall) :
    FollowsRfc calls ↔
      ∀ before call rest, calls = before ++ call :: rest → InsensitiveAt before call := by
  constructor
  · rintro ⟨-, follows⟩ before call rest split
    exact (followsAt_iff before call).mp (follows before call rest split)
  · intro insensitive
    refine ⟨fun before rest _ => bounded_after before, ?_⟩
    intro before call rest split
    exact (followsAt_iff before call).mpr (insensitive before call rest split)

/-- One sample of a second gives a timeout of one second and a half. -/
theorem follows_rfc_not : (after [.addSample 1]).rto = 3 / 2 ∧
    (RttEstimate.next none 1).rto = 3 ∧ ¬FollowsRfc [.addSample 1] := by
  have code : (after [.addSample 1]).rto = 3 / 2 := by decide +kernel
  have rfc : (RttEstimate.next none 1).rto = 3 := by decide +kernel
  refine ⟨code, rfc, ?_⟩
  rintro ⟨-, follows⟩
  have same := (follows [] (.addSample 1) [] rfl).2.2
  change (after [.addSample 1]).rto = (RttEstimate.next none 1).rto at same
  rw [code, rfc] at same
  norm_num at same

end RtoCalculator

end Inetstack.Tcp
