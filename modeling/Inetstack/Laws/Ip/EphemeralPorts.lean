import Mathlib.Data.List.Nodup
import Mathlib.Data.List.Perm.Basic
import Inetstack.Ip.EphemeralPorts

/-!
# Laws of the port pool

A pool is valid when no port is in it twice and all of them are private. Both ways to take a port
rearrange the pool to that port in front of the rest, and giving it back undoes this.
-/

namespace Inetstack.Ip.EphemeralPorts

open Tcp (Fail SocketAddrV4)

/-- A pool without duplicates, of private ports only. -/
structure Valid (p : EphemeralPorts) : Prop where
  nodup : p.ports.Nodup
  privateOnly : ∀ port ∈ p.ports, isPrivate port = true

variable {p p' : EphemeralPorts} {port : UInt16}

/-- Port 0 is not private: it asks for any. -/
theorem ne_zero_of_isPrivate (isPrivate : isPrivate port = true) : port ≠ 0 := by
  rintro rfl
  cases isPrivate

/-- The order of the pool does not matter. -/
theorem Valid.perm (h : p.Valid) (perm : p'.ports.Perm p.ports) : p'.Valid where
  nodup := perm.nodup_iff.mpr h.nodup
  privateOnly port mem := h.privateOnly port (perm.mem_iff.mp mem)

/-- A port that has been taken is no longer in the pool. -/
theorem Valid.taken (h : p.Valid) (perm : p.ports.Perm (port :: p'.ports)) :
    port ∉ p'.ports ∧ isPrivate port = true ∧ p'.Valid := by
  obtain ⟨fresh, nodup⟩ := List.nodup_cons.mp (perm.nodup_iff.mp h.nodup)
  have all (other : UInt16) (mem : other ∈ port :: p'.ports) : isPrivate other = true :=
    h.privateOnly other (perm.mem_iff.mpr mem)
  exact ⟨fresh, all port List.mem_cons_self, nodup,
    fun other mem => all other (List.mem_cons_of_mem _ mem)⟩

theorem Valid.taken_ne_zero (h : p.Valid) (perm : p.ports.Perm (port :: p'.ports)) : port ≠ 0 :=
  ne_zero_of_isPrivate (h.taken perm).2.1

/-- Any port, once allocated, leaves the pool. -/
theorem allocAny_perm (ran : p.allocAny = .ok (port, p')) : p.ports.Perm (port :: p'.ports) := by
  unfold allocAny at ran
  split at ran
  next last found =>
    cases ran
    have split := List.dropLast_append_getLast? port found
    have perm := List.perm_append_singleton port p.ports.dropLast
    rwa [split] at perm
  next => cases ran

/-- A port that is asked for leaves the pool, in which it was once. -/
theorem allocPort_perm (h : p.Valid) (ran : p.allocPort port = .ok p') :
    p.ports.Perm (port :: p'.ports) := by
  unfold allocPort at ran
  split at ran
  · cases ran
  next mem =>
    cases ran
    have erased : p.ports.erase port = p.ports.filter (· ≠ port) := by
      rw [h.nodup.erase_eq_filter]
      exact List.filter_congr fun other _ => by simp [bne, beq_eq_decide]
    rw [← erased]
    exact List.perm_cons_erase (not_not.mp mem)

/-- A port that is freed comes back. -/
theorem free_perm (perm : p.ports.Perm (port :: p'.ports)) : (p'.free port).ports.Perm p.ports :=
  (List.perm_append_singleton port p'.ports).trans perm.symm

/-- Consecutive ports from the first private one on are all different and private. -/
theorem valid_range {count : Nat} (small : count ≤ 16384) :
    Valid { ports := (List.range count).map fun n => UInt16.ofNat (FIRST_PRIVATE_PORT.toNat + n) } := by
  have value {n : Nat} (mem : n ∈ List.range count) :
      (UInt16.ofNat (FIRST_PRIVATE_PORT.toNat + n)).toNat = 49152 + n := by
    have small : n < count := List.mem_range.mp mem
    rw [UInt16.toNat_ofNat']
    change (49152 + n) % 65536 = _
    omega
  constructor
  · refine List.Nodup.map_on ?_ List.nodup_range
    intro n hn m hm same
    have eq := congrArg UInt16.toNat same
    rw [value hn, value hm] at eq
    omega
  · intro port mem
    obtain ⟨n, hn, rfl⟩ := List.mem_map.mp mem
    rw [isPrivate, decide_eq_true_eq, UInt16.le_iff_toNat_le, value hn]
    exact Nat.le_add_right _ _

/-- A new pool is valid, however it is shuffled. -/
theorem valid_new {shuffle : List UInt16 → List UInt16} (perm : ∀ l, (shuffle l).Perm l) :
    (new shuffle).Valid := by
  have size : LAST_PRIVATE_PORT.toNat - FIRST_PRIVATE_PORT.toNat ≤ 16384 := by
    change 65535 - 49152 ≤ 16384
    omega
  have start : Valid { ports := privatePorts } := by
    unfold privatePorts
    exact valid_range size
  exact start.perm (perm privatePorts)

/-- The numbers from the first private port on, as long as they fit. -/
theorem mem_range_iff {count : Nat} (small : count ≤ 16384) :
    port ∈ (List.range count).map (fun n => UInt16.ofNat (FIRST_PRIVATE_PORT.toNat + n)) ↔
      49152 ≤ port.toNat ∧ port.toNat < 49152 + count := by
  rw [List.mem_map]
  constructor
  · rintro ⟨n, member, rfl⟩
    have below : n < count := List.mem_range.mp member
    rw [UInt16.toNat_ofNat']
    change 49152 ≤ (49152 + n) % 65536 ∧ (49152 + n) % 65536 < 49152 + count
    omega
  · rintro ⟨least, below⟩
    refine ⟨port.toNat - 49152, List.mem_range.mpr (by omega), ?_⟩
    change UInt16.ofNat (49152 + (port.toNat - 49152)) = port
    rw [Nat.add_sub_cancel' least, UInt16.ofNat_toNat]

theorem first_toNat : FIRST_PRIVATE_PORT.toNat = 49152 := rfl

theorem last_toNat : LAST_PRIVATE_PORT.toNat = 65535 := rfl

/-- The last private port is not in the pool: the range of the source leaves it out. -/
theorem mem_privatePorts_iff :
    port ∈ privatePorts ↔ isPrivate port = true ∧ port ≠ LAST_PRIVATE_PORT := by
  have bound : port.toNat < 65536 := port.toNat_lt
  have size : LAST_PRIVATE_PORT.toNat - FIRST_PRIVATE_PORT.toNat ≤ 16384 := by
    rw [first_toNat, last_toNat]
    omega
  have first : isPrivate port = true ↔ 49152 ≤ port.toNat := by
    unfold isPrivate
    rw [decide_eq_true_eq, UInt16.le_iff_toNat_le, first_toNat]
  have last : port ≠ LAST_PRIVATE_PORT ↔ port.toNat ≠ 65535 := by
    rw [ne_eq, ← UInt16.toNat_inj, last_toNat]
  rw [first, last]
  unfold privatePorts
  rw [mem_range_iff size, last_toNat, first_toNat]
  omega

/-- **A new pool has every private port but the last.** -/
theorem mem_new_iff {shuffle : List UInt16 → List UInt16} (perm : ∀ l, (shuffle l).Perm l) :
    port ∈ (new shuffle).ports ↔ isPrivate port = true ∧ port ≠ LAST_PRIVATE_PORT :=
  (perm privatePorts).mem_iff.trans mem_privatePorts_iff

/-- A port in the pool can be asked for. -/
theorem allocPort_of_mem (member : port ∈ p.ports) :
    p.allocPort port = .ok { ports := p.ports.filter (· ≠ port) } := by
  unfold allocPort
  rw [if_neg (not_not.mpr member)]

/-- As long as there is a port in the pool, some port is found. -/
theorem allocAny_of_mem (member : port ∈ p.ports) : ∃ got left, p.allocAny = .ok (got, left) := by
  unfold allocAny
  cases last : p.ports.getLast? with
  | some got => exact ⟨got, _, rfl⟩
  | none =>
    rw [List.getLast?_eq_none_iff.mp last] at member
    cases member

/-! ## Claiming an address -/

/-- How the port of a newly bound address has been come by: it was taken from the pool, or it is not
private, and the address is the one that was asked for. -/
def Claimed (p : EphemeralPorts) (asked got : SocketAddrV4) (left : EphemeralPorts) : Prop :=
  p.ports.Perm (got.port :: left.ports) ∨
    got = asked ∧ left = p ∧ isPrivate got.port = false

variable {asked got : SocketAddrV4} {left : EphemeralPorts}

/-- A claim takes no other port. -/
theorem Claimed.fewer (claimed : p.Claimed asked got left) : ∀ port ∈ left.ports, port ∈ p.ports := by
  intro port mem
  obtain perm | ⟨-, rfl, -⟩ := claimed
  · exact perm.mem_iff.mpr (List.mem_cons_of_mem _ mem)
  · exact mem

/-- The port of a claimed address is not in what is left of the pool. -/
theorem Claimed.notMem (claimed : p.Claimed asked got left) (valid : p.Valid) :
    got.port ∉ left.ports ∧ left.Valid := by
  obtain perm | ⟨-, rfl, notPrivate⟩ := claimed
  · obtain ⟨fresh, -, leftValid⟩ := valid.taken perm
    exact ⟨fresh, leftValid⟩
  · refine ⟨fun mem => ?_, valid⟩
    cases notPrivate.symm.trans (valid.privateOnly _ mem)

/-- Giving the port back, if it is private, restores the pool. -/
theorem Claimed.rollback (claimed : p.Claimed asked got left) (valid : p.Valid) :
    (if isPrivate got.port then left.free got.port else left).ports.Perm p.ports := by
  obtain perm | ⟨-, rfl, notPrivate⟩ := claimed
  · rw [if_pos (valid.taken perm).2.1]
    exact free_perm perm
  · rw [notPrivate, if_neg (by decide)]

end Inetstack.Ip.EphemeralPorts
