import Inetstack.Udp.Queue

/-!
# What the operations of a shared queue do

The count of a queue is that of its channel, and there are never more messages than its capacity. A push
to such a queue always finds room, except that it panics when the queue is full and its receiving end is
held: it would have to drop messages, and cannot.
-/

namespace Inetstack.Udp.SharedQueue

open Tcp (Fail Fault)

variable {q : SharedQueue} {msg : SharedQueueSlot}

/-- The invariant of a queue. -/
structure Counted (q : SharedQueue) : Prop where
  length : q.length = q.channel.length
  fits : q.channel.length ≤ q.capacity
  half : 2 ≤ q.capacity

/-- A new queue. -/
theorem Counted.new {size : Nat} (half : 2 ≤ size) : (new size).Counted := ⟨rfl, Nat.zero_le _, half⟩

/-- How many messages a push drops. -/
def overflow (q : SharedQueue) : Nat :=
  if q.channel.length = q.capacity then q.capacity - (q.capacity / 2 - 1) else 0

/-- What overflows is in the channel. -/
theorem overflow_le (h : q.Counted) : q.overflow ≤ q.channel.length := by
  have half := h.half
  unfold overflow
  split
  · omega
  · exact Nat.zero_le _

/-- The loop of `push` leaves one message less than half. -/
theorem discard_eq {half : Nat} (pos : 0 < half) (channel : List SharedQueueSlot) :
    discard half channel channel.length =
      .ok (channel.drop (channel.length - (half - 1)), min channel.length (half - 1)) := by
  induction channel with
  | nil =>
    have few : ¬half ≤ 0 := Nat.not_le_of_lt pos
    simp only [discard, List.length_nil, few, if_false, List.drop_nil, Nat.zero_min]
  | cons msg rest ih =>
    simp only [discard, List.length_cons, Nat.add_sub_cancel, ih]
    split
    next many =>
      have more : rest.length + 1 - (half - 1) = rest.length - (half - 1) + 1 := by omega
      rw [more, List.drop_succ_cons]
      congr 2
      omega
    next few =>
      have none : rest.length + 1 - (half - 1) = 0 := by omega
      rw [none, List.drop_zero]
      congr 2
      omega

/-- A push that does not find the channel full and borrowed drops what overflows from the front. -/
theorem push_ok (h : q.Counted) (free : q.channel.length = q.capacity → q.borrowed = false) :
    q.push msg = .ok (.ok (), { q with
      channel := q.channel.drop q.overflow ++ [msg]
      length := q.length - q.overflow + 1 }) := by
  have fits := h.fits
  have half := h.half
  unfold push overflow
  by_cases full : q.channel.length = q.capacity
  · have room : q.capacity - (q.capacity - (q.capacity / 2 - 1)) = q.capacity / 2 - 1 := by omega
    have fewer : min q.channel.length (q.capacity / 2 - 1) = q.capacity / 2 - 1 := by omega
    have space : q.capacity / 2 - 1 ≤ q.capacity := by omega
    rw [if_pos (h.length.trans full), free full, if_pos full, h.length, discard_eq (by omega), fewer,
      full, room]
    simp [bind, Except.bind, trySend, full, room, space]
  · rw [if_neg (h.length ▸ full), if_neg full]
    simp only [trySend, fits, if_true, List.drop_zero, Nat.sub_zero]

/-- A push that does panics. -/
theorem push_error (h : q.Counted) (full : q.channel.length = q.capacity) (held : q.borrowed = true) :
    q.push msg = .error .alreadyBorrowed := by
  unfold push
  rw [if_pos (h.length.trans full), held]
  rfl

/-- What a push makes of a queue. -/
theorem Counted.pushed (h : q.Counted) : Counted { q with
      channel := q.channel.drop q.overflow ++ [msg]
      length := q.length - q.overflow + 1 } := by
  have length := h.length
  have fits := h.fits
  have half := h.half
  refine ⟨?_, ?_, half⟩
  · simp only [List.length_append, List.length_drop, List.length_singleton, length]
  · simp only [List.length_append, List.length_drop, List.length_singleton, overflow]
    split
    · omega
    · omega

/-- `try_pop` takes the oldest message, if there is one. -/
theorem tryPop_ok (h : q.Counted) (free : q.borrowed = false) :
    q.tryPop = .ok (q.channel.head?, { q with
      channel := q.channel.tail
      length := q.length - 1 }) := by
  have length := h.length
  unfold tryPop
  rw [if_neg (Bool.eq_false_iff.mp free)]
  obtain ⟨channel, count, capacity, borrowed⟩ := q
  cases channel with
  | nil =>
    cases length
    rfl
  | cons msg rest => rfl

/-- The count goes down with the channel. -/
theorem Counted.tryPopped (h : q.Counted) : Counted { q with
      channel := q.channel.tail
      length := q.length - 1 } := by
  refine ⟨?_, ?_, h.half⟩
  · rw [List.length_tail, h.length]
  · rw [List.length_tail]
    exact (Nat.sub_le _ _).trans h.fits

/-- A pop takes the front message, -/
theorem pop_cons {rest : List SharedQueueSlot} (more : q.channel = msg :: rest) :
    q.pop = (some msg, { q with channel := rest, length := q.length - 1, borrowed := false }) := by
  rw [pop, more]

/-- and waits on an empty channel, which it borrows. -/
theorem pop_nil (empty : q.channel = []) : q.pop = (none, { q with borrowed := true }) := by
  rw [pop, empty]

/-- A pop keeps the count. -/
theorem Counted.pop (h : q.Counted) : q.pop.2.Counted := by
  have length := h.length
  have fits := h.fits
  cases more : q.channel with
  | nil =>
    rw [pop_nil more]
    exact ⟨length, fits, h.half⟩
  | cons msg rest =>
    rw [pop_cons more]
    rw [more, List.length_cons] at length fits
    refine ⟨?_, Nat.le_of_succ_le fits, h.half⟩
    rw [length, Nat.add_sub_cancel]

end Inetstack.Udp.SharedQueue
