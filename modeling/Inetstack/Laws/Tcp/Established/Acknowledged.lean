import Inetstack.Laws.Tcp.Established.Endpoint

/-!
# Removing what has been acknowledged

The unacknowledged queue stands for a row of positions in the sequence space: the bytes of its entries,
and one for the FIN where an entry is the end-of-send marker. `remove_acknowledged_data` takes positions
off the front. Its loop would spin on a queue that runs out before the count does, and the marker takes
whatever is left of the count with it, so the count has to fit the queue and the marker has to be last.
-/

namespace Inetstack.Tcp

namespace UnackedSegment

/-- The positions of an entry: its bytes, or the FIN. -/
def positions (segment : UnackedSegment) : List (Option UInt8) :=
  if segment.bytes = [] then [none] else segment.bytes.map some

theorem positions_of_marker {segment : UnackedSegment} (marker : segment.bytes = []) :
    segment.positions = [none] := by
  rw [positions, if_pos marker]

theorem positions_of_data {segment : UnackedSegment} (data : segment.bytes ≠ []) :
    segment.positions = segment.bytes.map some := by
  rw [positions, if_neg data]

theorem length_positions (segment : UnackedSegment) :
    segment.positions.length = segment.bytes.seqLength := by
  by_cases data : segment.bytes = []
  · rw [positions_of_marker data, data]
    rfl
  · rw [positions_of_data data, List.length_map, Buffer.seqLength_of_ne_nil data]

end UnackedSegment

namespace Sender

/-- The positions an unacknowledged queue stands for. -/
def positions (queue : List UnackedSegment) : List (Option UInt8) :=
  queue.flatMap UnackedSegment.positions

/-- Only the last entry may be the end-of-send marker. -/
def MarkerLast (queue : List UnackedSegment) : Prop := ∀ segment ∈ queue.dropLast, segment.bytes ≠ []

theorem MarkerLast.tail {segment : UnackedSegment} {rest : List UnackedSegment}
    (h : MarkerLast (segment :: rest)) : MarkerLast rest := by
  cases rest with
  | nil => exact h
  | cons next rest => exact fun entry member => h entry (List.mem_cons_of_mem _ member)

/-- Nothing follows the marker. -/
theorem MarkerLast.of_marker {segment : UnackedSegment} {rest : List UnackedSegment}
    (h : MarkerLast (segment :: rest)) (marker : segment.bytes = []) : rest = [] := by
  cases rest with
  | nil => rfl
  | cons next rest => exact absurd marker (h segment List.mem_cons_self)

/-- `left` is what the queue still holds after `n` positions of it have been acknowledged. -/
structure Removed (n : Nat) (queue left : List UnackedSegment) : Prop where
  positions : positions left = (positions queue).drop n
  /-- The entries left are as they were, but for a first one that has been cut. -/
  entries : (∃ gone, queue = gone ++ left) ∨
    ∃ gone segment rest k, queue = gone ++ segment :: rest ∧ 0 < k ∧ k < segment.bytes.length ∧
      left = { bytes := segment.bytes.drop k, initialTx := none } :: rest

/-- An entry that has been acknowledged as a whole. -/
theorem Removed.cons {n : Nat} {queue left : List UnackedSegment} (h : Removed n queue left)
    (segment : UnackedSegment) :
    Removed (segment.positions.length + n) (segment :: queue) left where
  positions := by
    rw [h.positions, Sender.positions, Sender.positions, List.flatMap_cons, List.drop_length_add_append]
  entries := by
    rcases h.entries with ⟨gone, split⟩ | ⟨gone, first, rest, k, split, cut⟩
    · exact .inl ⟨segment :: gone, by rw [split, List.cons_append]⟩
    · exact .inr ⟨segment :: gone, first, rest, k, by rw [split, List.cons_append], cut⟩

/-- **Acknowledged data is removed exactly.** -/
theorem removeAcknowledged_exact (now : Instant) (n : Nat) (queue : List UnackedSegment)
    (rto : RtoCalculator) (marker : MarkerLast queue) (enough : n ≤ (positions queue).length) :
    ∃ left rto', removeAcknowledged now n queue rto = .ok (left, rto') ∧ Removed n queue left := by
  induction queue generalizing n rto with
  | nil =>
    have none : n = 0 := Nat.le_zero.mp enough
    subst none
    exact ⟨[], rto, rfl, rfl, .inl ⟨[], rfl⟩⟩
  | cons segment rest ih =>
    cases n with
    | zero => exact ⟨segment :: rest, rto, rfl, rfl, .inl ⟨[], rfl⟩⟩
    | succ n =>
      rw [removeAcknowledged]
      have length : (positions (segment :: rest)).length =
          segment.positions.length + (positions rest).length := by
        rw [positions, List.flatMap_cons, List.length_append]
        rfl
      rw [length] at enough
      by_cases within : n + 1 < segment.bytes.length
      · -- the count ends inside the entry
        rw [if_pos within]
        have data : segment.bytes ≠ [] := List.ne_nil_of_length_pos (by omega)
        have left : segment.bytes.drop (n + 1) ≠ [] := by
          apply List.ne_nil_of_length_pos
          rw [List.length_drop]
          omega
        refine ⟨_, _, rfl, ?_, .inr ⟨[], segment, rest, n + 1, rfl, Nat.succ_pos n, within, rfl⟩⟩
        rw [positions, positions, List.flatMap_cons, List.flatMap_cons,
          UnackedSegment.positions_of_data data, UnackedSegment.positions_of_data left,
          List.map_drop, List.drop_append_of_le_length]
        rw [List.length_map]
        exact within.le
      rw [if_neg within]
      by_cases empty : segment.bytes = []
      · -- the marker, which has nothing behind it
        have last := marker.of_marker empty
        have one := UnackedSegment.positions_of_marker empty
        subst last
        have zero : n = 0 := by
          rw [one] at enough
          simpa [positions] using enough
        subst zero
        rw [if_pos (List.length_eq_zero_iff.mpr empty)]
        refine ⟨[], _, rfl, ?_, .inl ⟨[segment], rfl⟩⟩
        rw [positions, positions, List.flatMap_cons, one]
        rfl
      · rw [if_neg (fun zero => empty (List.length_eq_zero_iff.mp zero))]
        have whole : segment.positions.length = segment.bytes.length := by
          rw [UnackedSegment.length_positions, Buffer.seqLength_of_ne_nil empty]
        obtain ⟨left, rto', ran, removed⟩ := ih (n + 1 - segment.bytes.length)
          (rttSample rto now segment) marker.tail (by omega)
        refine ⟨left, rto', ran, ?_⟩
        have all := removed.cons segment
        rwa [whole, Nat.add_sub_of_le (Nat.not_lt.mp within)] at all

/-- Four of five bytes and a FIN: the second entry is cut, and loses its time. -/
theorem removeAcknowledged_exact_cut :
    ∃ left rto', removeAcknowledged 9 4
        [⟨[1, 2, 3], some 1⟩, ⟨[4, 5], some 2⟩, ⟨[], some 3⟩] RtoCalculator.new = .ok (left, rto') ∧
      left = [⟨[5], none⟩, ⟨[], some 3⟩] ∧
      Removed 4 [⟨[1, 2, 3], some 1⟩, ⟨[4, 5], some 2⟩, ⟨[], some 3⟩] left := by
  obtain ⟨left, rto', ran, removed⟩ := removeAcknowledged_exact 9 4
    [⟨[1, 2, 3], some 1⟩, ⟨[4, 5], some 2⟩, ⟨[], some 3⟩] RtoCalculator.new (by simp [MarkerLast])
    (by decide)
  refine ⟨left, rto', ran, ?_, removed⟩
  have same := congrArg (Except.map Prod.fst) ran
  exact (Except.ok.inj same).symm

end Sender

end Inetstack.Tcp
