import Inetstack.Laws.Udp.Peer
import Inetstack.Laws.Udp.Queue

/-!
# The shared queue as a queue that drops its oldest messages

A run of a queue is a list of pushes and `try_pop`s, through whatever clones: the clones of a queue share
its channel, its count and its capacity, and there is one state. The run remembers what was pushed and what
has left the queue, popped or dropped, each in order.

The futures of `UdpPeer::pop` take messages with `try_pop`, so no future holds the receiving end of a queue
of received datagrams, and a push to one always finds room or makes it.
-/

namespace Inetstack.Udp

open Machine (bind_eq_ok)
open Tcp (Buffer Fail Fault Ipv4Addr MacAddress SocketAddrV4)

/-- The calls on a shared queue. -/
inductive QueueCall where
  | push (msg : SharedQueueSlot)
  | tryPop
  deriving DecidableEq, Repr

/-- A queue, and what is not in the code: the messages pushed, the messages that left, and what the pushes
returned. -/
structure QueueRun where
  queue : SharedQueue
  pushed : List SharedQueueSlot
  left : List SharedQueueSlot
  results : List (Except Fail Unit)

namespace QueueRun

/-- A new queue, to which nothing has been pushed. -/
def start (capacity : Nat) : QueueRun where
  queue := .new capacity
  pushed := []
  left := []
  results := []

/-- One call. What a push drops is what was in the queue and is not there any more. -/
def step (r : QueueRun) : QueueCall → Except Fault QueueRun
  | .push msg => do
    let (result, queue) ← r.queue.push msg
    let dropped := r.queue.channel.length + 1 - queue.channel.length
    .ok {
      queue := queue
      pushed := r.pushed ++ [msg]
      left := r.left ++ r.queue.channel.take dropped
      results := r.results ++ [result] }
  | .tryPop => do
    let (msg, queue) ← r.queue.tryPop
    .ok { r with queue := queue, left := r.left ++ msg.toList }

/-- How many messages a push is to drop: none, unless as many are queued as there may be. -/
def surplus (capacity : Nat) (r : QueueRun) : Nat :=
  if r.queue.channel.length = capacity then capacity - capacity / 2 + 1 else 0

/-- A queue of some capacity that drops its oldest messages: where its messages are, and what the next push
and the next `try_pop` do. -/
structure DropsOldest (capacity : Nat) (r : QueueRun) : Prop where
  length : r.queue.length = r.queue.channel.length
  bounded : r.queue.length ≤ capacity
  order : r.pushed = r.left ++ r.queue.channel
  accepted : ∀ result ∈ r.results, result = .ok ()
  pushes : ∀ msg, ∃ r', r.step (.push msg) = .ok r' ∧
    r'.results = r.results ++ [.ok ()] ∧
    r'.left = r.left ++ r.queue.channel.take (r.surplus capacity) ∧
    r'.queue.channel = r.queue.channel.drop (r.surplus capacity) ++ [msg]
  pops : ∃ r', r.step .tryPop = .ok r' ∧
    r'.left = r.left ++ r.queue.channel.head?.toList ∧ r'.queue.channel = r.queue.channel.tail

/-- The invariant. -/
structure Ordered (capacity : Nat) (r : QueueRun) : Prop where
  counted : r.queue.Counted
  capacity : r.queue.capacity = capacity
  free : r.queue.borrowed = false
  order : r.pushed = r.left ++ r.queue.channel
  accepted : ∀ result ∈ r.results, result = .ok ()

variable {r r' : QueueRun} {capacity : Nat}

/-- What is over the capacity is what the next push will drop. -/
theorem Ordered.surplus_eq (h : r.Ordered capacity) : r.surplus capacity = r.queue.overflow := by
  have half := h.counted.half
  rw [surplus, SharedQueue.overflow, h.capacity]
  rw [h.capacity] at half
  split
  · omega
  · rfl

/-- What a push does. -/
theorem Ordered.push_eq (h : r.Ordered capacity) (msg : SharedQueueSlot) :
    r.step (.push msg) = .ok {
      queue := { r.queue with
        channel := r.queue.channel.drop (r.surplus capacity) ++ [msg]
        length := r.queue.length - r.surplus capacity + 1 }
      pushed := r.pushed ++ [msg]
      left := r.left ++ r.queue.channel.take (r.surplus capacity)
      results := r.results ++ [.ok ()] } := by
  have fits := SharedQueue.overflow_le h.counted
  have dropped : r.queue.channel.length + 1 -
      (r.queue.channel.drop r.queue.overflow ++ [msg]).length = r.queue.overflow := by
    rw [List.length_append, List.length_drop, List.length_singleton]
    omega
  simp only [step, SharedQueue.push_ok h.counted fun _ => h.free, bind, Except.bind, dropped, h.surplus_eq]

/-- What `try_pop` does. -/
theorem Ordered.pop_eq (h : r.Ordered capacity) :
    r.step .tryPop = .ok { r with
      queue := { r.queue with channel := r.queue.channel.tail, length := r.queue.length - 1 }
      left := r.left ++ r.queue.channel.head?.toList } := by
  simp only [step, SharedQueue.tryPop_ok h.counted h.free, bind, Except.bind]

/-- **A push** of a run returns, and keeps the order. -/
theorem Ordered.push (h : r.Ordered capacity) (msg : SharedQueueSlot) :
    ∃ r', r.step (.push msg) = .ok r' ∧ r'.Ordered capacity := by
  refine ⟨_, h.push_eq msg, ?_, h.capacity, h.free, ?_, ?_⟩
  · rw [h.surplus_eq]
    exact h.counted.pushed
  · change r.pushed ++ [msg] = r.left ++ _ ++ (_ ++ [msg])
    rw [h.order, List.append_assoc, List.append_assoc, ← List.append_assoc (List.take _ _),
      List.take_append_drop]
  · intro result member
    rcases List.mem_append.mp member with earlier | now
    · exact h.accepted result earlier
    · exact List.mem_singleton.mp now

/-- **A pop** of a run returns, and keeps the order. -/
theorem Ordered.pop (h : r.Ordered capacity) :
    ∃ r', r.step .tryPop = .ok r' ∧ r'.Ordered capacity := by
  refine ⟨_, h.pop_eq, h.counted.tryPopped, h.capacity, h.free, ?_, h.accepted⟩
  rw [h.order, List.append_assoc]
  cases r.queue.channel with
  | nil => rfl
  | cons msg rest => rfl

/-- A call never stops the run, and keeps the order. -/
theorem Ordered.step (h : r.Ordered capacity) (call : QueueCall) :
    ∃ r', r.step call = .ok r' ∧ r'.Ordered capacity := by
  cases call with
  | push msg => exact h.push msg
  | tryPop => exact h.pop

/-- **A run of calls** returns, and keeps the order. -/
theorem Ordered.run (h : r.Ordered capacity) (calls : List QueueCall) :
    ∃ r', Machine.run QueueRun.step r calls = .ok r' ∧ r'.Ordered capacity := by
  induction calls generalizing r with
  | nil => exact ⟨r, rfl, h⟩
  | cons call calls ih =>
    obtain ⟨next, stepped, ordered⟩ := h.step call
    obtain ⟨r', ran, ordered⟩ := ih ordered
    exact ⟨r', Machine.run_cons_ok.mpr ⟨next, stepped, ran⟩, ordered⟩

theorem Ordered.start (half : 2 ≤ capacity) : (QueueRun.start capacity).Ordered capacity := by
  refine ⟨.new half, rfl, rfl, rfl, ?_⟩
  intro result member
  cases member

/-- What the order says about what is kept and what is dropped. -/
theorem Ordered.dropsOldest (h : r.Ordered capacity) : r.DropsOldest capacity where
  length := h.counted.length
  bounded := by
    rw [h.counted.length, ← h.capacity]
    exact h.counted.fits
  order := h.order
  accepted := h.accepted
  pushes msg := ⟨_, h.push_eq msg, rfl, rfl, rfl⟩
  pops := ⟨_, h.pop_eq, rfl, rfl⟩

end QueueRun

/-! ## The queues of a peer -/

namespace UdpPeer

variable {p p' : UdpPeer}

/-- Every queue of received datagrams has its count, and no future holds it. -/
def Queued (p : UdpPeer) : Prop :=
  ∀ localAddr queue, p.bound.lookup localAddr = some queue → queue.Counted ∧ queue.borrowed = false

/-- One receive queue is made or replaced. -/
theorem Queued.insert (h : p.Queued) {localAddr : SocketAddrV4} {queue : SharedQueue}
    (bound : p'.bound = p.bound.insert localAddr queue) (counted : queue.Counted)
    (free : queue.borrowed = false) : p'.Queued := by
  intro other queue' found
  rw [bound, Table.lookup_insert] at found
  split at found
  · cases found
    exact ⟨counted, free⟩
  · exact h other queue' found

theorem Queued.of_same (h : p.Queued) (bound : p'.bound = p.bound) : p'.Queued := by
  rw [Queued, bound]
  exact h

/-- A new binding has a new queue. -/
theorem doBind_bound (p : UdpPeer) (qd : QDesc) (addr : SocketAddrV4) :
    (p.doBind qd addr).2.bound = p.bound ∨
    ∃ got, (p.doBind qd addr).2.bound = p.bound.insert got (.new RECV_QUEUE_MAX_SIZE) := by
  have registered (q : UdpPeer) (got : SocketAddrV4) : (q.register qd got).2.bound = q.bound ∨
      (q.register qd got).2.bound = q.bound.insert got (.new RECV_QUEUE_MAX_SIZE) := by
    unfold register
    split
    · exact .inr rfl
    · exact .inl rfl
  unfold doBind
  split
  · exact .inl rfl
  split
  · exact .inl rfl
  next got ports claimed =>
    have entered := registered { p with ephemeralPorts := ports } got
    split
    next q ok =>
      rw [ok] at entered
      exact entered.imp_right fun same => ⟨got, same⟩
    next fail q failed =>
      rw [failed] at entered
      split
      · exact entered.imp_right fun same => ⟨got, same⟩
      · exact entered.imp_right fun same => ⟨got, same⟩

theorem Queued.close (h : p.Queued) (qd : QDesc) : (p.doClose qd).2.Queued := by
  unfold doClose
  split
  · exact h
  next socket found =>
    cases socket with
    | none => exact h
    | some localAddr =>
      dsimp only
      split
      · intro other queue found
        rw [Table.lookup_erase] at found
        split at found
        · cases found
        · exact h other queue found
      · exact h

/-- **A datagram arrives**: its queue grows by one, or drops its oldest entry. -/
theorem Queued.receive (h : p.Queued) {ipv4Hdr : Ipv4.Ipv4Header} {buf : Buffer}
    {result : Except Fail Unit} (ran : p.doReceive ipv4Hdr buf = .ok (result, p')) : p'.Queued := by
  obtain ⟨parsed, -, ran⟩ := bind_eq_ok.mp ran
  split at ran
  · cases ran
    exact h
  dsimp only at ran
  split at ran
  · cases ran
    exact h
  next queue known =>
    obtain ⟨counted, free⟩ := h _ _ known
    rw [SharedQueue.push_ok counted fun _ => free] at ran
    cases ran
    exact h.insert rfl counted.pushed free

/-- **A read** takes the oldest entry. -/
theorem Queued.pollPop (h : p.Queued) {localAddr : SocketAddrV4}
    {result : Option (SocketAddrV4 × Buffer)} (ran : p.pollPop localAddr = .ok (result, p')) :
    p'.Queued := by
  unfold UdpPeer.pollPop at ran
  split at ran
  · cases ran
    exact h
  next queue known =>
    obtain ⟨counted, free⟩ := h _ _ known
    rw [SharedQueue.tryPop_ok counted free] at ran
    cases ran
    exact h.insert rfl counted.tryPopped free

/-- The sender touches no queue of received datagrams. -/
theorem senderPoll_bound (p : UdpPeer) (reply : Except Fail MacAddress) :
    (p.senderPoll reply).bound = p.bound := by
  have iterated (q : UdpPeer) : q.senderIterate.bound = q.bound := by
    unfold senderIterate
    split
    · rfl
    · rfl
  unfold senderPoll
  split
  · exact iterated p
  · exact iterated p
  next slot remoteLinkAddr _ => exact iterated (p.doSend slot remoteLinkAddr)
  · exact iterated p

/-- **Every event** of a UDP peer keeps its receive queues counted. -/
theorem step_queued {event : PeerEvent} (h : p.Queued) (stepped : p.step event = .ok p') : p'.Queued := by
  cases event with
  | socket qd =>
    cases stepped
    unfold doSocket
    split
    · exact h.of_same rfl
    · exact h
  | bind qd addr =>
    cases stepped
    rcases doBind_bound p qd addr with same | ⟨got, bound⟩
    · exact h.of_same same
    · exact h.insert bound (.new (by decide)) rfl
  | close qd =>
    cases stepped
    exact h.close qd
  | pushto qd data remoteAddr env =>
    obtain ⟨⟨result, peer⟩, ran, stepped⟩ := bind_eq_ok.mp stepped
    cases stepped
    unfold doPushto at ran
    split at ran
    · dsimp only at ran
      split at ran
      · cases ran
        exact h.of_same rfl
      · obtain ⟨⟨answer, queue⟩, -, ran⟩ := bind_eq_ok.mp ran
        cases ran
        exact h.of_same rfl
    · cases ran
      exact h
  | pop qd =>
    obtain ⟨queue, -, stepped⟩ := bind_eq_ok.mp stepped
    cases stepped
    exact h
  | pollPop localAddr =>
    obtain ⟨⟨result, peer⟩, ran, stepped⟩ := bind_eq_ok.mp stepped
    cases stepped
    exact h.pollPop ran
  | receive ipv4Hdr buf =>
    obtain ⟨⟨result, peer⟩, ran, stepped⟩ := bind_eq_ok.mp stepped
    cases stepped
    exact h.receive ran
  | sender reply =>
    cases stepped
    exact h.of_same (senderPoll_bound p reply)

/-- A datagram that is well formed, for a bound address, is queued: the push does not fail. -/
def Receives (p : UdpPeer) : Prop :=
  ∀ (ipv4Hdr : Ipv4.Ipv4Header) (buf : Buffer) (hdr : UdpHeader) (data : Buffer),
    UdpHeader.parse ipv4Hdr buf p.checksumOffload = pure (hdr, data) →
    (p.bound.lookup ⟨ipv4Hdr.dstAddr, hdr.destPort⟩).isSome = true →
    ∃ p', p.doReceive ipv4Hdr buf = .ok (.ok (), p')

/-- A datagram for a socket always finds its way in. -/
theorem Queued.receives (h : p.Queued) : p.Receives := by
  intro ipv4Hdr buf hdr data parsed bound
  obtain ⟨queue, known⟩ := Option.isSome_iff_exists.mp bound
  obtain ⟨counted, free⟩ := h _ _ known
  have read : (UdpHeader.parse ipv4Hdr buf p.checksumOffload).run = .ok (.ok (hdr, data)) := by
    rw [parsed]
    rfl
  have pushed := @SharedQueue.push_ok queue ⟨⟨ipv4Hdr.dstAddr, hdr.destPort⟩,
    ⟨ipv4Hdr.srcAddr, hdr.srcPort⟩, data⟩ counted fun _ => free
  simp only [doReceive, read, known, pushed, bind, Except.bind]
  exact ⟨_, rfl⟩

end UdpPeer

/-- **A shared queue drops its oldest messages and keeps the others in order**: no list of pushes and
`try_pop`s stops it, whatever its capacity from two on. In every state a peer can reach, the push of
`do_receive` does not fail. -/
theorem shared_queue_drops_oldest {capacity : Nat} (half : 2 ≤ capacity) (calls : List QueueCall)
    (shuffle : List UInt16 → List UInt16) (localLinkAddr : MacAddress) (localIpv4Addr : Ipv4Addr)
    (checksumOffload : Bool) (events : List PeerEvent) :
    (∃ r, Machine.run QueueRun.step (QueueRun.start capacity) calls = .ok r ∧
      r.DropsOldest capacity) ∧
    ∀ p, Machine.run UdpPeer.step (UdpPeer.new shuffle localLinkAddr localIpv4Addr checksumOffload)
      events = .ok p → p.Receives := by
  constructor
  · obtain ⟨r, ran, ordered⟩ := (QueueRun.Ordered.start half).run calls
    exact ⟨r, ran, ordered.dropsOldest⟩
  · intro p ran
    refine UdpPeer.Queued.receives (Machine.invariant UdpPeer.Queued UdpPeer.step_queued ?_ ran)
    intro localAddr queue found
    cases found

/-- A queue of four, and a fifth message: the three oldest are gone. -/
theorem shared_queue_drops_oldest_fifth :
    ∃ r, Machine.run QueueRun.step (QueueRun.start 4)
        ((List.range 5).map fun i => .push ⟨⟨1, 1⟩, ⟨2, 2⟩, [UInt8.ofNat i]⟩) = .ok r ∧
      r.DropsOldest 4 ∧ r.left.map (·.data) = [[0], [1], [2]] ∧
      r.queue.channel.map (·.data) = [[3], [4]] := by
  obtain ⟨⟨r, ran, drops⟩, -⟩ := shared_queue_drops_oldest (by decide : 2 ≤ 4)
    ((List.range 5).map fun i => .push ⟨⟨1, 1⟩, ⟨2, 2⟩, [UInt8.ofNat i]⟩) id 7 0x0a000001 false []
  refine ⟨r, ran, drops, ?_⟩
  obtain ⟨r', ran', view⟩ := Machine.map_eq_ok
    (x := Machine.run QueueRun.step (QueueRun.start 4)
      ((List.range 5).map fun i => .push ⟨⟨1, 1⟩, ⟨2, 2⟩, [UInt8.ofNat i]⟩))
    (fun r => (r.left.map (·.data), r.queue.channel.map (·.data)))
    (t := ([[0], [1], [2]], [[3], [4]])) (by decide +kernel)
  cases ran.symm.trans ran'
  exact Prod.mk.inj view

end Inetstack.Udp
