import Inetstack.Laws.Tcp.Established.OutOfOrder

/-!
# What an in-order segment takes out of the store

Counted from RCV.NXT, an in-order segment covers the numbers up to its length, and `receive_data` goes on
from there with `Intervals.drain`: it takes the entries that follow one another. It looks for an entry at
the very number it has come to, so an entry that begins before the end of the segment stops it for good.
-/

namespace Inetstack.Tcp

open Intervals (Apart Covers drain)

/-- The drain loop of `receive_data` is a drain of the store, counted from `b`. -/
theorem drainOutOfOrder_from {b recvNext : SeqNumber} {receiver : Receiver}
    {store : List (SeqNumber × Buffer)}
    (near : ∀ entry ∈ store, entryFirst b entry + entryLen entry < 2 ^ 32)
    (same : receiver.receiveNext = recvNext) :
    ((drainOutOfOrder recvNext receiver store).1.receiveNext - b).toNat =
        (drain (entryFirst b) entryLen (recvNext - b).toNat store).1 ∧
      (drainOutOfOrder recvNext receiver store).2.1 =
        (drain (entryFirst b) entryLen (recvNext - b).toNat store).2 := by
  induction store generalizing recvNext receiver with
  | nil => exact ⟨congrArg (fun n => (n - b).toNat) same, rfl⟩
  | cons entry rest ih =>
    obtain ⟨start, buf⟩ := entry
    unfold drainOutOfOrder drain
    by_cases here : start = recvNext
    · have first : entryFirst b (start, buf) = (recvNext - b).toNat := congrArg (fun n => (n - b).toNat) here
      have bound := near (start, buf) List.mem_cons_self
      have next : (recvNext + .ofLen buf.length - b).toNat = (recvNext - b).toNat + entryLen (start, buf) :=
        SeqNumber.toNat_add_from (first ▸ bound)
      have pushed : (receiver.push buf).receiveNext = recvNext + .ofLen buf.length :=
        congrArg (· + SeqNumber.ofLen buf.length) same
      rw [if_pos here, if_pos first, ← next]
      exact ih (fun entry member => near entry (List.mem_cons_of_mem _ member)) pushed
    · have apart : entryFirst b (start, buf) ≠ (recvNext - b).toNat := fun first =>
        here (SeqNumber.eq_of_from first)
      rw [if_neg here, if_neg apart]
      exact ⟨congrArg (fun n => (n - b).toNat) same, rfl⟩

namespace ControlBlock

variable {σ : Type}

/-- Nothing that continues `len` numbers from `b` on is left in the store: RCV.NXT is the first number after
them that no entry covered, and every entry that is left begins after it. -/
structure Drained (b : SeqNumber) (len : Nat) (store : List (SeqNumber × Buffer))
    (cb : ControlBlock σ) : Prop where
  least : IsLeast {m | len ≤ m ∧ ∀ entry ∈ store, ¬Covers (entryFirst b) entryLen entry m}
    (cb.receiver.receiveNext - b).toNat
  beyond : ∀ entry ∈ cb.outOfOrder, (cb.receiver.receiveNext - b).toNat < entryFirst b entry

/-- **An in-order segment drains the store exactly if no entry begins before its end.** -/
theorem receiveData_drained_iff (cb : ControlBlock σ) (buf : Buffer) (short : buf.length < 2 ^ 32)
    (near : ∀ entry ∈ cb.outOfOrder,
      entryFirst cb.receiver.receiveNext entry + entryLen entry < 2 ^ 32)
    (apart : Apart (entryFirst cb.receiver.receiveNext) entryLen cb.outOfOrder) :
    Drained cb.receiver.receiveNext buf.length cb.outOfOrder (cb.receiveData buf).2 ↔
      ∀ entry ∈ cb.outOfOrder, buf.length ≤ entryFirst cb.receiver.receiveNext entry := by
  have text : (cb.receiver.receiveNext + .ofLen buf.length - cb.receiver.receiveNext).toNat =
      buf.length := by
    rw [add_sub_cancel_left, SeqNumber.ofLen_eq_cast, SeqNumber.toNat_cast, Nat.mod_eq_of_lt short]
  have drained := drainOutOfOrder_from near
    (show (cb.receiver.push buf).receiveNext = cb.receiver.receiveNext + .ofLen buf.length from rfl)
  rw [text] at drained
  have next : ((cb.receiveData buf).2.receiver.receiveNext - cb.receiver.receiveNext).toNat = _ := drained.1
  have left : (cb.receiveData buf).2.outOfOrder = _ := drained.2
  constructor
  · intro complete entry member
    by_contra before
    rw [Intervals.drain_of_lt apart member (Nat.not_le.mp before)] at next left
    have beyond := complete.beyond entry (left ▸ member)
    rw [next] at beyond
    exact before beyond.le
  · intro beyond
    obtain ⟨least, after⟩ := Intervals.drain_isLeast apart beyond
    exact ⟨next ▸ least, by rw [left, next]; exact after⟩

/-- Bytes 60 to 62 are stored in two entries, and byte 70. -/
def sampleHoles : ControlBlock CongestionControl.None :=
  { sampleBlock ⟨50⟩ ⟨40⟩ 100 10 1 with outOfOrder := [(⟨60⟩, [1, 2]), (⟨62⟩, [3]), (⟨70⟩, [4])] }

/-- Bytes 50 to 59 come, and with them all up to byte 62 is received. -/
theorem receiveData_drained_iff_filled :
    (sampleHoles.receiveData (List.replicate 10 0)).2.receiver.receiveNext = ⟨63⟩ ∧
      Drained ⟨50⟩ 10 sampleHoles.outOfOrder (sampleHoles.receiveData (List.replicate 10 0)).2 := by
  refine ⟨by decide, ?_⟩
  exact (receiveData_drained_iff sampleHoles (List.replicate 10 0) (by decide) (by decide)
    (by unfold Apart; decide)).mpr (by decide)

/-- Byte 60 comes again with the bytes before it, and the entry that begins with it stays. -/
theorem receiveData_not_drained :
    (sampleHoles.receiveData (List.replicate 11 0)).2.receiver.receiveNext = ⟨61⟩ ∧
      (sampleHoles.receiveData (List.replicate 11 0)).2.outOfOrder = sampleHoles.outOfOrder ∧
      ¬Drained ⟨50⟩ 11 sampleHoles.outOfOrder (sampleHoles.receiveData (List.replicate 11 0)).2 := by
  refine ⟨by decide, by decide, fun complete => ?_⟩
  have beyond := complete.beyond (⟨60⟩, [1, 2]) (by decide)
  revert beyond
  decide

end ControlBlock

end Inetstack.Tcp
