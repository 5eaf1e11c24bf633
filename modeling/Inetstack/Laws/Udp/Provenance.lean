import Inetstack.Laws.Udp.Fifo

/-!
# Where datagrams come from

A peer sends what it was asked to send, to where it was asked to send it, and gives its user what has arrived.
Both are invariants of the queues in between: one for what was asked for, and one for what was read.
-/

namespace Inetstack.Udp

open Machine (bind_eq_ok)
open Tcp (Buffer Env Fail MacAddress Outcome SocketAddrV4)

/-! ## Queues -/

namespace SharedQueue

variable {q q' : SharedQueue} {P : SharedQueueSlot → Prop} {msg : SharedQueueSlot}

/-- All that is in the queue has a property. -/
def All (P : SharedQueueSlot → Prop) (q : SharedQueue) : Prop := ∀ slot ∈ q.channel, P slot

/-- What is dropped is at the front. -/
theorem discard_suffix {half : Nat} {channel channel' : List SharedQueueSlot} {length length' : Nat}
    (ran : discard half channel length = .ok (channel', length')) : channel' <:+ channel := by
  induction channel generalizing length with
  | nil =>
    unfold discard at ran
    split at ran
    · cases ran
    · cases ran
      exact List.suffix_rfl
  | cons slot rest ih =>
    unfold discard at ran
    split at ran
    · exact (ih ran).trans (List.suffix_cons slot rest)
    · cases ran
      exact List.suffix_rfl

/-- A new entry may drop old ones. -/
theorem All.trySend (h : q.All P) (new : P msg) : (q.trySend msg).2.All P := by
  unfold SharedQueue.trySend
  split
  · intro slot member
    rcases List.mem_append.mp member with old | last
    · exact h slot old
    · rwa [List.mem_singleton.mp last]
  · exact h

/-- What is pushed joins what is left. -/
theorem All.push (h : q.All P) (new : P msg) {result : Except Fail Unit}
    (ran : q.push msg = .ok (result, q')) : q'.All P := by
  unfold SharedQueue.push at ran
  split at ran
  · split at ran
    · cases ran
    · obtain ⟨⟨channel, length⟩, discarded, ran⟩ := bind_eq_ok.mp ran
      have left : SharedQueue.All P { q with channel := channel, length := length } :=
        fun slot member => h slot ((discard_suffix discarded).subset member)
      have sent := left.trySend new
      rwa [Except.ok.inj ran] at sent
  · have sent := h.trySend new
    rwa [Except.ok.inj ran] at sent

/-- What is popped was in the queue. -/
theorem All.tryPop (h : q.All P) {taken : Option SharedQueueSlot}
    (ran : q.tryPop = .ok (taken, q')) : q'.All P ∧ ∀ slot, taken = some slot → P slot := by
  unfold SharedQueue.tryPop at ran
  split at ran
  · cases ran
  split at ran
  next slot rest channel =>
    cases ran
    refine ⟨fun other member => h other (channel ▸ List.mem_cons_of_mem _ member), fun other eq => ?_⟩
    cases eq
    exact h slot (channel ▸ List.mem_cons_self)
  next empty =>
    cases ran
    exact ⟨h, fun slot eq => by cases eq⟩

/-- The oldest entry comes out. -/
theorem All.pop (h : q.All P) : q.pop.2.All P ∧ ∀ slot, q.pop.1 = some slot → P slot := by
  unfold SharedQueue.pop
  split
  next slot rest channel =>
    refine ⟨fun other member => h other (channel ▸ List.mem_cons_of_mem _ member), fun other eq => ?_⟩
    cases eq
    exact h slot (channel ▸ List.mem_cons_self)
  next empty => exact ⟨h, fun slot eq => by cases eq⟩

end SharedQueue

namespace UdpPeer

variable {p p' : UdpPeer} {event : PeerEvent}

/-! ## What is sent -/

/-- All that waits to be sent, and all that was sent, was asked for. -/
structure Asked (asked : SocketAddrV4 → Buffer → Prop) (p : UdpPeer) : Prop where
  queued : p.sendQueue.All fun slot => asked slot.remoteAddr slot.data
  waiting : ∀ slot, p.background = .awaitArp slot → asked slot.remoteAddr slot.data
  sent : ∀ datagram ∈ p.transmitted,
    asked ⟨datagram.ipv4Hdr.dstAddr, datagram.udpHdr.destPort⟩ datagram.data

variable {asked : SocketAddrV4 → Buffer → Prop}

theorem Asked.of_same (h : p.Asked asked) (sendQueue : p'.sendQueue = p.sendQueue)
    (background : p'.background = p.background) (transmitted : p'.transmitted = p.transmitted) :
    p'.Asked asked := by
  refine ⟨?_, ?_, ?_⟩
  · rw [sendQueue]
    exact h.queued
  · rw [background]
    exact h.waiting
  · rw [transmitted]
    exact h.sent

/-- A datagram the user asked for goes out. -/
theorem Asked.doSend (h : p.Asked asked) {slot : SharedQueueSlot} (own : asked slot.remoteAddr slot.data)
    (remoteLinkAddr : MacAddress) : (p.doSend slot remoteLinkAddr).Asked asked := by
  refine ⟨h.queued, h.waiting, ?_⟩
  intro datagram member
  rcases List.mem_append.mp member with old | last
  · exact h.sent datagram old
  · rw [List.mem_singleton.mp last]
    exact own

/-- The background task takes the next entry off the queue. -/
theorem Asked.senderIterate (h : p.Asked asked) : p.senderIterate.Asked asked := by
  obtain ⟨left, taken⟩ := h.queued.pop
  unfold UdpPeer.senderIterate
  split
  next slot sendQueue popped =>
    rw [popped] at left taken
    refine ⟨left, fun other waits => ?_, h.sent⟩
    cases waits
    exact taken slot rfl
  next sendQueue popped =>
    rw [popped] at left
    exact ⟨left, fun other waits => (by cases waits), h.sent⟩

/-- Neither `bind` nor `close` sends anything. -/
theorem register_send (p : UdpPeer) (qd : QDesc) (addr : SocketAddrV4) :
    (p.register qd addr).2.sendQueue = p.sendQueue ∧ (p.register qd addr).2.background = p.background ∧
      (p.register qd addr).2.transmitted = p.transmitted := by
  unfold register
  split <;> exact ⟨rfl, rfl, rfl⟩

theorem doBind_send (p : UdpPeer) (qd : QDesc) (addr : SocketAddrV4) :
    (p.doBind qd addr).2.sendQueue = p.sendQueue ∧ (p.doBind qd addr).2.background = p.background ∧
      (p.doBind qd addr).2.transmitted = p.transmitted := by
  unfold doBind
  split
  · exact ⟨rfl, rfl, rfl⟩
  split
  · exact ⟨rfl, rfl, rfl⟩
  next got ports _ =>
    have kept := register_send { p with ephemeralPorts := ports } qd got
    split
    next same =>
      rw [same] at kept
      exact kept
    next same =>
      rw [same] at kept
      split <;> exact kept

theorem doClose_send (p : UdpPeer) (qd : QDesc) :
    (p.doClose qd).2.sendQueue = p.sendQueue ∧ (p.doClose qd).2.background = p.background ∧
      (p.doClose qd).2.transmitted = p.transmitted := by
  unfold doClose
  split
  · exact ⟨rfl, rfl, rfl⟩
  dsimp only
  split
  · exact ⟨rfl, rfl, rfl⟩
  split <;> exact ⟨rfl, rfl, rfl⟩

/-- **A peer sends what it was asked to.** -/
theorem step_asked (h : p.Asked asked)
    (asks : ∀ qd data remoteAddr env, event = .pushto qd data remoteAddr env → asked remoteAddr data)
    (stepped : p.step event = .ok p') : p'.Asked asked := by
  cases event with
  | socket qd =>
    cases stepped
    unfold doSocket
    split
    · exact h.of_same rfl rfl rfl
    · exact h
  | bind qd addr =>
    cases stepped
    obtain ⟨sendQueue, background, transmitted⟩ := doBind_send p qd addr
    exact h.of_same sendQueue background transmitted
  | close qd =>
    cases stepped
    obtain ⟨sendQueue, background, transmitted⟩ := doClose_send p qd
    exact h.of_same sendQueue background transmitted
  | pushto qd data remoteAddr env =>
    obtain ⟨⟨result, peer⟩, ran, stepped⟩ := bind_eq_ok.mp stepped
    cases stepped
    -- the datagram is sent at once or waits in the shared queue: it was asked for now
    have own := asks qd data remoteAddr env rfl
    unfold doPushto at ran
    split at ran
    · dsimp only at ran
      split at ran
      · cases ran
        exact h.doSend own _
      · obtain ⟨⟨answer, sendQueue⟩, pushed, ran⟩ := bind_eq_ok.mp ran
        cases ran
        exact ⟨h.queued.push own pushed, h.waiting, h.sent⟩
    · cases ran
      exact h
  | pop qd =>
    obtain ⟨queue, -, stepped⟩ := bind_eq_ok.mp stepped
    cases stepped
    exact h
  | pollPop addr =>
    obtain ⟨⟨result, peer⟩, ran, stepped⟩ := bind_eq_ok.mp stepped
    cases stepped
    unfold pollPop at ran
    split at ran
    · cases ran
      exact h
    · obtain ⟨⟨msg, queue⟩, -, ran⟩ := bind_eq_ok.mp ran
      cases ran
      exact h.of_same rfl rfl rfl
  | receive ipv4Hdr buf =>
    obtain ⟨⟨result, peer⟩, ran, stepped⟩ := bind_eq_ok.mp stepped
    cases stepped
    obtain ⟨parsed, -, ran⟩ := bind_eq_ok.mp ran
    split at ran
    · cases ran
      exact h
    dsimp only at ran
    split at ran
    · cases ran
      exact h
    · obtain ⟨⟨answer, queue⟩, -, ran⟩ := bind_eq_ok.mp ran
      split at ran
      · cases ran
        exact h.of_same rfl rfl rfl
      · cases ran
  | sender reply =>
    cases stepped
    unfold senderPoll
    split
    · exact h.senderIterate
    · exact h.senderIterate
    -- the task sends what it waited with; the queue is only read
    next slot remoteLinkAddr waits => exact (h.doSend (h.waiting slot waits) remoteLinkAddr).senderIterate
    · exact h.senderIterate

/-! ## What is received -/

/-- All that has been received, and not been read, is from somewhere. -/
def Got (got : SocketAddrV4 → SocketAddrV4 → Buffer → Prop) (p : UdpPeer) : Prop :=
  ∀ localAddr queue, p.bound.lookup localAddr = some queue →
    queue.All fun slot => got localAddr slot.remoteAddr slot.data

variable {got : SocketAddrV4 → SocketAddrV4 → Buffer → Prop} {localAddr remoteAddr : SocketAddrV4}
  {data : Buffer}

/-- One receive queue is replaced. -/
theorem Got.insert (h : p.Got got) {queue : SharedQueue} (bound : p'.bound = p.bound.insert localAddr queue)
    (all : queue.All fun slot => got localAddr slot.remoteAddr slot.data) : p'.Got got := by
  intro other queue' found
  rw [bound, Table.lookup_insert] at found
  split at found
  next same =>
    cases found
    exact same ▸ all
  next => exact h other queue' found

theorem Got.of_same (h : p.Got got) (bound : p'.bound = p.bound) : p'.Got got := by
  rw [Got, bound]
  exact h

/-- **What is read has been received.** -/
theorem Got.pollPop (h : p.Got got) {result : Option (SocketAddrV4 × Buffer)}
    (ran : p.pollPop localAddr = .ok (result, p')) :
    p'.Got got ∧ ∀ msg, result = some msg → got localAddr msg.1 msg.2 := by
  unfold UdpPeer.pollPop at ran
  split at ran
  · cases ran
    exact ⟨h, fun msg eq => by cases eq⟩
  next queue known =>
    obtain ⟨⟨taken, queue'⟩, popped, ran⟩ := bind_eq_ok.mp ran
    cases ran
    obtain ⟨left, was⟩ := (h _ _ known).tryPop popped
    refine ⟨h.insert rfl left, fun msg eq => ?_⟩
    obtain ⟨slot, rfl, rfl⟩ := Option.map_eq_some_iff.mp eq
    exact was slot rfl

/-- **One event**: a queue gets only what was parsed from a datagram for its address. -/
theorem step_got (h : p.Got got)
    (arrives : ∀ ipv4Hdr buf udpHdr data, event = .receive ipv4Hdr buf →
      UdpHeader.parse ipv4Hdr buf p.checksumOffload = pure (udpHdr, data) →
        got ⟨ipv4Hdr.dstAddr, udpHdr.destPort⟩ ⟨ipv4Hdr.srcAddr, udpHdr.srcPort⟩ data)
    (stepped : p.step event = .ok p') : p'.Got got := by
  cases event with
  | socket qd =>
    cases stepped
    unfold doSocket
    split
    · exact h.of_same rfl
    · exact h
  | bind qd addr =>
    cases stepped
    -- a bound address starts with an empty queue
    rcases doBind_bound p qd addr with same | ⟨claimed, bound⟩
    · exact h.of_same same
    · exact h.insert bound fun slot member => absurd member List.not_mem_nil
  | close qd =>
    cases stepped
    unfold doClose
    split
    · exact h
    next socket found =>
      cases socket with
      | none => exact h
      | some localAddr =>
        dsimp only
        split
        · intro other queue found
          rw [Table.lookup_erase] at found
          split at found
          · cases found
          · exact h other queue found
        · exact h
  | pushto qd data remoteAddr env =>
    obtain ⟨⟨result, peer⟩, ran, stepped⟩ := bind_eq_ok.mp stepped
    cases stepped
    unfold doPushto at ran
    split at ran
    · dsimp only at ran
      split at ran
      · cases ran
        exact h
      · obtain ⟨⟨answer, sendQueue⟩, pushed, ran⟩ := bind_eq_ok.mp ran
        cases ran
        exact h.of_same rfl
    · cases ran
      exact h
  | pop qd =>
    obtain ⟨queue, -, stepped⟩ := bind_eq_ok.mp stepped
    cases stepped
    exact h
  | pollPop addr =>
    obtain ⟨⟨result, peer⟩, ran, stepped⟩ := bind_eq_ok.mp stepped
    cases stepped
    exact (h.pollPop ran).1
  | receive ipv4Hdr buf =>
    obtain ⟨⟨result, peer⟩, ran, stepped⟩ := bind_eq_ok.mp stepped
    cases stepped
    obtain ⟨parsed, parses, ran⟩ := bind_eq_ok.mp ran
    cases parsed with
    | error fail =>
      cases ran
      exact h
    | ok parsed =>
    obtain ⟨udpHdr, data⟩ := parsed
    -- the datagram was parsed and its address is bound
    have new := arrives ipv4Hdr buf udpHdr data rfl parses
    dsimp only at ran
    split at ran
    · cases ran
      exact h
    next queue known =>
      obtain ⟨⟨answer, queue'⟩, pushed, ran⟩ := bind_eq_ok.mp ran
      split at ran
      next eq =>
        cases ran
        cases eq
        exact h.insert rfl ((h _ _ known).push new pushed)
      next => cases ran
  | sender reply =>
    cases stepped
    exact h.of_same (senderPoll_bound p reply)

end UdpPeer

end Inetstack.Udp
