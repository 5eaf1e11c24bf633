import Mathlib.Data.UInt

/-!
# Sequence numbers (`protocols/tcp/sequence_number.rs`)

A TCP sequence number is a 32-bit unsigned integer that wraps around. The source defines its own
type for it, with wrapping addition and subtraction and four comparisons, each of which reads the
wrapped difference as a signed 32-bit integer. The four are four separate functions here, as in the
source: `gt` is not `lt` with its arguments swapped, and `ge` is not `le` with its arguments
swapped, because the two disagree at a distance of exactly `2 ^ 31`.
-/

namespace Inetstack.Tcp

/-- A TCP sequence number. -/
structure SeqNumber where
  value : UInt32
  deriving DecidableEq, Repr, Inhabited

namespace SeqNumber

instance : Add SeqNumber := ⟨fun a b => ⟨a.value + b.value⟩⟩

instance : Sub SeqNumber := ⟨fun a b => ⟨a.value - b.value⟩⟩

/-- `SeqNumber::from(n as u32)`: the cast keeps the low 32 bits of a length. -/
def ofLen (n : Nat) : SeqNumber := ⟨UInt32.ofNat n⟩

/-- The number as a natural number, for the arithmetic of the laws. -/
def toNat (a : SeqNumber) : Nat := a.value.toNat

def lt (a b : SeqNumber) : Bool := (a.value - b.value).toInt32 < 0

def le (a b : SeqNumber) : Bool := (a.value - b.value).toInt32 ≤ 0

def gt (a b : SeqNumber) : Bool := (a.value - b.value).toInt32 > 0

def ge (a b : SeqNumber) : Bool := (a.value - b.value).toInt32 ≥ 0

end SeqNumber

end Inetstack.Tcp
