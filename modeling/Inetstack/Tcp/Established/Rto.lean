import Mathlib.Algebra.Order.Ring.Unbundled.Rat
import Mathlib.Algebra.Order.Group.Abs
import Inetstack.Tcp.Basic

/-!
# The retransmission timeout (`established/rto.rs`)

The calculator of RFC 6298, over exact rationals where the source has `f64`. No value is ever NaN
here, so the two panics on NaN have no counterpart.
-/

namespace Inetstack.Tcp

structure RtoCalculator where
  srtt : ℚ
  rttvar : ℚ
  rto : ℚ
  receivedSample : Bool
  deriving DecidableEq

namespace RtoCalculator

def new : RtoCalculator where
  srtt := 1
  rttvar := 0
  rto := 1
  receivedSample := false

/-- The new timeout, held between 100 ms and 60 s. -/
def updateRto (r : RtoCalculator) (newRto : ℚ) : RtoCalculator :=
  { r with rto := if newRto < 1 / 10 then 1 / 10 else if 60 < newRto then 60 else newRto }

def addSample (r : RtoCalculator) (rtt : Duration) : RtoCalculator :=
  let r :=
    if r.receivedSample then
      { r with
        rttvar := (1 - 1 / 4) * r.rttvar + 1 / 4 * |r.srtt - rtt|
        srtt := (1 - 1 / 8) * r.srtt + 1 / 8 * rtt }
    else { r with srtt := rtt, rttvar := rtt / 2, receivedSample := true }
  -- the granularity test is on four times `rttvar`, the value taken is `rttvar` itself
  let rttvarX4 := if 4 * r.rttvar < 1 / 1000 then 1 / 1000 else r.rttvar
  r.updateRto (r.srtt + rttvarX4)

def recordFailure (r : RtoCalculator) : RtoCalculator := r.updateRto (r.rto * 2)

def estimate (r : RtoCalculator) : Duration := r.rto

end RtoCalculator

end Inetstack.Tcp
