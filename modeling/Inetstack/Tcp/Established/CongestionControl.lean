import Inetstack.Tcp.Basic

/-!
# Congestion control (`established/congestion_control/mod.rs`, `none.rs`)

The control block holds its congestion control behind a trait object. Here it is a type with an
instance of `CongestionControl`, and a control block is generic in that type. The hooks that read
the clock in some implementation are given the time of the call. The watching accessors
(`watch_cwnd` and its like) return the same value as the plain ones, with a future that says when to
look again, so one function stands for both.

`None` is the implementation every connection of the stack is created with. It takes the trait's
defaults: the window is the largest `u32`, the limited-transmit increase is zero, no hook does
anything.
-/

namespace Inetstack.Tcp

class CongestionControl (σ : Type) where
  new : Nat → SeqNumber → σ
  getCwnd : σ → UInt32
  onCwndCheckBeforeSend : Instant → σ → σ
  onAckReceived : Instant → Duration → SeqNumber → SeqNumber → SeqNumber → σ → σ
  onRto : Instant → SeqNumber → σ → σ
  onSend : Instant → Duration → UInt32 → σ → σ
  getLimitedTransmitCwndIncrease : σ → UInt32

/-- Congestion control that does nothing. -/
structure CongestionControl.None where
  deriving DecidableEq, Repr

instance : CongestionControl CongestionControl.None where
  new _ _ := ⟨⟩
  getCwnd _ := 0xffffffff
  onCwndCheckBeforeSend _ cc := cc
  onAckReceived _ _ _ _ _ cc := cc
  onRto _ _ cc := cc
  onSend _ _ _ cc := cc
  getLimitedTransmitCwndIncrease _ := 0

end Inetstack.Tcp
