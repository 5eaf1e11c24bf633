import Inetstack.Tcp.PassiveOpen
import Inetstack.Lib.Machine
import Inetstack.Lib.Table
import Inetstack.Laws.Tcp.Established.Endpoint

/-!
# The backlog of a listener

A SYN that is admitted opens an in-flight entry, and the ACK of the SYN+ACK turns the entry into a
result. Each of the two steps keeps the number of entries and results within the backlog, and the
second closes the account of its SYN. A retry task that gives up does neither: it puts a result into
the accept queue and leaves the entry where it is. So the books are in order exactly as long as no
task gives up.
-/

namespace Inetstack.Tcp

open Machine (bind_eq_ok Admits)

namespace PassiveSocket

variable {crc : List UInt8 → UInt32} {fallbackMss : Nat} {s s' : PassiveSocket}
  {remoteAddr : SocketAddrV4}

theorem controlBlock_addresses {accept : InflightAccept} {cb : ControlBlock CongestionControl.None}
    (built : s.controlBlock remoteAddr accept = .ok cb) :
    cb.localAddr = s.localAddr ∧ cb.remoteAddr = remoteAddr := by
  unfold controlBlock at built
  dsimp only at built
  obtain ⟨tx, -, built⟩ := bind_eq_ok.mp built
  obtain ⟨rx, -, built⟩ := bind_eq_ok.mp built
  cases built
  exact ⟨rfl, rfl⟩

/-- **What a segment can do to a listener**: nothing, or finish the remote's handshake, or open one. -/
theorem receive_cases {header : TcpHeader} {result : Except Fail Unit}
    (ran : s.receive crc fallbackMss remoteAddr header = .ok (result, s')) :
    s' = s ∨
    (∃ accept cb, remoteAddr ∉ s.ready.endpoints ∧ s.inflight.lookup remoteAddr = some accept ∧
      header.ack = true ∧ header.ackNum = accept.localIsn + SeqNumber.mk 1 ∧
      cb.localAddr = s.localAddr ∧ cb.remoteAddr = remoteAddr ∧
      s' = { s with
        inflight := s.inflight.erase remoteAddr
        ready :=
          { ready := s.ready.ready ++ [.ok cb]
            endpoints := insert remoteAddr s.ready.endpoints } }) ∨
    ∃ accept isnGenerator, s.inflight.lookup remoteAddr = none ∧
      (header.syn = true ∧ header.ack = false ∧ header.rst = false) ∧
      s.inflight.entries.length + s.ready.ready.length < s.maxBacklog ∧
      s' = { s with
        isnGenerator := isnGenerator
        inflight := s.inflight.insert remoteAddr accept } := by
  unfold receive at ran
  split at ran
  · exact .inl (Prod.mk.inj (Except.ok.inj ran)).2.symm
  next notReady =>
  cases known : s.inflight.lookup remoteAddr with
  | some accept =>
    rw [known] at ran
    dsimp only [receiveInflight] at ran
    split at ran
    · exact .inl (Prod.mk.inj (Except.ok.inj ran)).2.symm
    next ack =>
    split at ran
    · exact .inl (Prod.mk.inj (Except.ok.inj ran)).2.symm
    next expected =>
    obtain ⟨cb, built, ran⟩ := bind_eq_ok.mp ran
    obtain ⟨ready, pushed, ran⟩ := bind_eq_ok.mp ran
    obtain ⟨own, remote⟩ := controlBlock_addresses built
    unfold ReadySockets.pushOk at pushed
    rw [remote, if_neg notReady] at pushed
    cases pushed
    cases ran
    exact .inr (.inl ⟨accept, cb, notReady, rfl, by simpa using ack, by simpa using expected, own,
      remote, rfl⟩)
  | none =>
    rw [known] at ran
    dsimp only [receiveNew] at ran
    split at ran
    · exact .inl (Prod.mk.inj (Except.ok.inj ran)).2.symm
    next flags =>
    split at ran
    · exact .inl (Prod.mk.inj (Except.ok.inj ran)).2.symm
    next room =>
    cases ran
    simp only [Bool.or_eq_true, Bool.not_eq_true', not_or, Bool.not_eq_false,
      Bool.not_eq_true] at flags
    exact .inr (.inr ⟨_, _, rfl, ⟨flags.1.1, flags.1.2, flags.2⟩, by omega, rfl⟩)

/-- The retry task of the remote's in-flight connection gives up at this poll. -/
def givesUp (s : PassiveSocket) (remoteAddr : SocketAddrV4) (poll : RetryPoll) : Bool :=
  match s.inflight.lookup remoteAddr with
  | none => false
  | some accept => (accept.handle.poll s.rt.tcpOptions.handshakeRetries poll).2 == .giveUp

/-- **What a poll of a retry task can do to a listener.** The entry stays, with its task moved on, and a
task that gives up leaves an error in the accept queue. -/
theorem background_cases (s : PassiveSocket) (remoteAddr : SocketAddrV4) (poll : RetryPoll) :
    s.inflight.lookup remoteAddr = none ∧ s.background remoteAddr poll = s ∨
    ∃ accept accept' rt, s.inflight.lookup remoteAddr = some accept ∧
      s.background remoteAddr poll = { s with
        rt := rt
        inflight := s.inflight.insert remoteAddr accept'
        ready :=
          if s.givesUp remoteAddr poll then
            s.ready.pushErr { errno := .ETIMEDOUT, cause := "handshake timeout" }
          else s.ready } := by
  cases known : s.inflight.lookup remoteAddr with
  | none => exact .inl ⟨rfl, by simp only [background, known]⟩
  | some accept =>
    refine .inr ⟨accept, { accept with
      handle := (accept.handle.poll s.rt.tcpOptions.handshakeRetries poll).1 }, ?_⟩
    simp only [background, known, givesUp]
    split
    next nothing =>
      rw [nothing]
      exact ⟨s.rt, trivial, rfl⟩
    next mac transmits =>
      rw [transmits]
      exact ⟨_, trivial, rfl⟩
    next giveUp =>
      rw [giveUp]
      exact ⟨s.rt, trivial, rfl⟩

/-- **What the user's poll can do to a listener**: take the oldest result. -/
theorem pollAccept_cases {result : Option OpenResult} (ran : s.pollAccept = .ok (result, s')) :
    result = none ∧ s.ready.ready = [] ∧ s' = s ∨
    ∃ first rest endpoints, result = some first ∧ s.ready.ready = first :: rest ∧
      s' = { s with ready := { ready := rest, endpoints := endpoints } } := by
  obtain ⟨⟨polled, ready⟩, taken, ran⟩ := bind_eq_ok.mp ran
  cases ran
  unfold ReadySockets.poll at taken
  split at taken
  next empty =>
    cases taken
    exact .inl ⟨rfl, empty, rfl⟩
  next cb rest queue =>
    split at taken
    · cases taken
      exact .inr ⟨_, rest, _, rfl, queue, rfl⟩
    · cases taken
  next fail rest queue =>
    cases taken
    exact .inr ⟨_, rest, _, rfl, queue, rfl⟩

end PassiveSocket

namespace Listener

/-- **The books of a listener are in order.** There are no more in-flight connections and results than
the backlog allows, no SYN has had two results, and a SYN that has had its result is not in flight. -/
structure Accounted (maxBacklog : Nat) (l : Listener) : Prop where
  bound : l.socket.inflight.entries.length + l.socket.ready.ready.length ≤ maxBacklog
  once : l.results.Nodup
  closed : ∀ remoteAddr, (l.socket.inflight.lookup remoteAddr).isSome = true →
    l.syn remoteAddr ∉ l.results

/-- The task of an in-flight connection gives up. -/
def expires (l : Listener) : ListenEvent → Bool
  | .retry remoteAddr poll => l.socket.givesUp remoteAddr poll
  | _ => false

/-- The books with what keeps them: the numbers of the SYNs in flight are all different, and they and
the numbers of the results have been given out. -/
structure Ledger (maxBacklog : Nat) (l : Listener) : Prop extends Accounted maxBacklog l where
  backlog : l.socket.maxBacklog = maxBacklog
  given : ∀ n ∈ l.results, n < l.admitted
  opened : ∀ remoteAddr, (l.socket.inflight.lookup remoteAddr).isSome = true →
    l.syn remoteAddr < l.admitted
  distinct : ∀ remoteAddr other, (l.socket.inflight.lookup remoteAddr).isSome = true →
    (l.socket.inflight.lookup other).isSome = true → l.syn remoteAddr = l.syn other →
    remoteAddr = other

variable {crc : List UInt8 → UInt32} {fallbackMss maxBacklog : Nat} {l l' : Listener}
  {remoteAddr : SocketAddrV4}

theorem record_self (l : Listener) (remoteAddr : SocketAddrV4) :
    l.record remoteAddr l.socket = l := by
  have same : ((l.socket.inflight.lookup remoteAddr).isNone &&
      (l.socket.inflight.lookup remoteAddr).isSome) = false := by
    cases l.socket.inflight.lookup remoteAddr <;> rfl
  simp only [record, same, Bool.false_eq_true, if_false, Nat.lt_irrefl]

/-- The ACK of a SYN+ACK turns the entry into a result. -/
theorem Ledger.finish (h : l.Ledger maxBacklog) {accept : InflightAccept} {result : OpenResult}
    {endpoints : Finset SocketAddrV4} (known : l.socket.inflight.lookup remoteAddr = some accept) :
    (l.record remoteAddr { l.socket with
      inflight := l.socket.inflight.erase remoteAddr
      ready :=
        { ready := l.socket.ready.ready ++ [result]
          endpoints := endpoints } }).Ledger maxBacklog := by
  have present : (l.socket.inflight.lookup remoteAddr).isSome = true := by rw [known]; rfl
  have longer : l.socket.ready.ready.length < (l.socket.ready.ready ++ [result]).length := by simp
  have kept : ∀ other, ((l.socket.inflight.erase remoteAddr).lookup other).isSome = true →
      other ≠ remoteAddr ∧ (l.socket.inflight.lookup other).isSome = true := by
    intro other found
    rw [Table.lookup_erase] at found
    split at found
    · cases found
    next ne => exact ⟨ne, found⟩
  simp only [record, known, Option.isNone_some, Bool.false_and, Bool.false_eq_true, if_false, longer,
    if_true]
  refine ⟨⟨?_, ?_, ?_⟩, h.backlog, ?_, ?_, ?_⟩
  -- what leaves the table comes to the queue
  · have fewer := Table.length_erase_of_some known
    have bound := h.bound
    simp only [List.length_append, List.length_singleton]
    omega
  -- the number was open until now, so it was not given out before
  · rw [List.nodup_append]
    refine ⟨h.once, List.nodup_singleton _, ?_⟩
    intro n old n' new
    rw [List.mem_singleton] at new
    rintro rfl
    exact h.closed remoteAddr present (new ▸ old)
  · intro other found again
    obtain ⟨ne, found⟩ := kept other found
    rcases List.mem_append.mp again with old | new
    · exact h.closed other found old
    · exact ne (h.distinct other remoteAddr found present (List.mem_singleton.mp new))
  · intro n member
    rcases List.mem_append.mp member with old | new
    · exact h.given n old
    · rw [List.mem_singleton.mp new]
      exact h.opened remoteAddr present
  · exact fun other found => h.opened other (kept other found).2
  · exact fun other other' found found' =>
      h.distinct other other' (kept other found).2 (kept other' found').2

/-- A SYN that is admitted opens an entry under a new number. -/
theorem Ledger.admit (h : l.Ledger maxBacklog) {accept : InflightAccept} {isns : IsnGenerator}
    (new : l.socket.inflight.lookup remoteAddr = none)
    (room : l.socket.inflight.entries.length + l.socket.ready.ready.length <
      l.socket.maxBacklog) :
    (l.record remoteAddr { l.socket with
      isnGenerator := isns
      inflight := l.socket.inflight.insert remoteAddr accept }).Ledger maxBacklog := by
  simp only [record, new, Option.isNone_none, AList.lookup_insert, Option.isSome_some, Bool.and_self,
    if_true, Nat.lt_irrefl, if_false]
  have cases : ∀ other, ((l.socket.inflight.insert remoteAddr accept).lookup other).isSome = true →
      other = remoteAddr ∧ Function.update l.syn remoteAddr l.admitted other = l.admitted ∨
      (l.socket.inflight.lookup other).isSome = true ∧
        Function.update l.syn remoteAddr l.admitted other = l.syn other := by
    intro other found
    rw [Table.lookup_insert] at found
    split at found
    next same =>
      subst same
      exact .inl ⟨rfl, Function.update_self ..⟩
    next ne => exact .inr ⟨found, Function.update_of_ne ne ..⟩
  refine ⟨⟨?_, h.once, ?_⟩, h.backlog, ?_, ?_, ?_⟩
  · dsimp only
    rw [Table.length_insert_of_none new, ← h.backlog]
    omega
  -- the new entry has the next number, which no ready connection has yet
  · intro other found again
    dsimp only at again
    rcases cases other found with ⟨-, number⟩ | ⟨found, number⟩
    · rw [number] at again
      exact Nat.lt_irrefl _ (h.given _ again)
    · rw [number] at again
      exact h.closed other found again
  · exact fun n member => Nat.lt_succ_of_lt (h.given n member)
  · intro other found
    dsimp only
    rcases cases other found with ⟨-, number⟩ | ⟨found, number⟩
    · rw [number]
      exact Nat.lt_succ_self _
    · rw [number]
      exact Nat.lt_succ_of_lt (h.opened other found)
  · intro other other' found found' same
    dsimp only at same
    rcases cases other found with ⟨eq, number⟩ | ⟨found, number⟩ <;>
      rcases cases other' found' with ⟨eq', number'⟩ | ⟨found', number'⟩ <;>
      rw [number, number'] at same
    · exact eq.trans eq'.symm
    · exact absurd same (h.opened other' found').ne'
    · exact absurd same (h.opened other found).ne
    · exact h.distinct other other' found found' same

/-- A retry task that goes on changes neither the entries nor the results. -/
theorem Ledger.retry (h : l.Ledger maxBacklog) {accept accept' : InflightAccept} {rt : Runtime}
    (known : l.socket.inflight.lookup remoteAddr = some accept) :
    (l.record remoteAddr { l.socket with
      rt := rt
      inflight := l.socket.inflight.insert remoteAddr accept' }).Ledger maxBacklog := by
  simp only [record, known, Option.isNone_some, Bool.false_and, Bool.false_eq_true, if_false,
    Nat.lt_irrefl]
  have kept : ∀ other, ((l.socket.inflight.insert remoteAddr accept').lookup other).isSome = true →
      (l.socket.inflight.lookup other).isSome = true := by
    intro other found
    rw [Table.lookup_insert] at found
    split at found
    next same => rw [same, known]; rfl
    next => exact found
  refine ⟨⟨?_, h.once, fun other found => h.closed other (kept other found)⟩, h.backlog, h.given,
    fun other found => h.opened other (kept other found),
    fun other other' found found' => h.distinct other other' (kept other found) (kept other' found')⟩
  rw [Table.length_insert_of_some known]
  exact h.bound

/-- **Every event but an expiry keeps the books.** -/
theorem step_ledger {event : ListenEvent} (h : l.Ledger maxBacklog)
    (going : l.expires event = false) (stepped : l.step crc fallbackMss event = .ok l') :
    l'.Ledger maxBacklog := by
  cases event with
  | receive remoteAddr header =>
    obtain ⟨⟨result, socket⟩, ran, eq⟩ := bind_eq_ok.mp stepped
    cases eq
    rcases PassiveSocket.receive_cases ran with rfl | ⟨accept, cb, -, known, -, -, -, -, rfl⟩ |
      ⟨accept, isns, new, -, room, rfl⟩
    · rw [record_self]
      exact h
    · exact h.finish known
    · exact h.admit new room
  | retry remoteAddr poll =>
    cases stepped
    rcases PassiveSocket.background_cases l.socket remoteAddr poll with ⟨-, same⟩ |
      ⟨accept, accept', rt, known, eq⟩
    · rw [same, record_self]
      exact h
    · have going : l.socket.givesUp remoteAddr poll = false := going
      rw [going] at eq
      rw [eq]
      exact h.retry known
  | pollAccept =>
    obtain ⟨⟨result, socket⟩, ran, eq⟩ := bind_eq_ok.mp stepped
    cases eq
    rcases PassiveSocket.pollAccept_cases ran with ⟨-, -, rfl⟩ |
      ⟨first, rest, endpoints, -, queue, rfl⟩
    · exact h
    · refine ⟨⟨?_, h.once, h.closed⟩, h.backlog, h.given, h.opened, h.distinct⟩
      have bound := h.bound
      rw [queue, List.length_cons] at bound
      simp only
      omega

/-- **An expiry breaks the books**: it leaves a SYN in flight that has had its result. -/
theorem expiry_not_accounted {event : ListenEvent} (expiry : l.expires event = true)
    (stepped : l.step crc fallbackMss event = .ok l') : ¬l'.Accounted maxBacklog := by
  cases event with
  | receive remoteAddr header => cases expiry
  | pollAccept => cases expiry
  | retry remoteAddr poll =>
    have expiry : l.socket.givesUp remoteAddr poll = true := expiry
    cases stepped
    rcases PassiveSocket.background_cases l.socket remoteAddr poll with ⟨unknown, -⟩ |
      ⟨accept, accept', rt, known, eq⟩
    · simp only [PassiveSocket.givesUp, unknown, Bool.false_eq_true] at expiry
    · rw [eq, expiry]
      intro accounted
      refine accounted.closed remoteAddr ?_ ?_
      · simp only [record, AList.lookup_insert, Option.isSome_some]
      · simp [record, known, ReadySockets.pushErr]

/-- **The books of a listener are in order exactly as long as no handshake task expires.** Whatever
segments arrive from whatever remotes, however the tasks are polled and whenever the user accepts:
they are in order after every part of the run if and only if no task gives up in it. -/
theorem accounted_iff_no_expiry (crc : List UInt8 → UInt32) (fallbackMss : Nat)
    (localAddr : SocketAddrV4) (maxBacklog : Nat) (rt : Runtime) (nonce : UInt32)
    (events : List ListenEvent) (l : Listener)
    (ran : Machine.run (step crc fallbackMss)
      (start (PassiveSocket.new localAddr maxBacklog rt nonce)) events = .ok l) :
    (∀ n l', Machine.run (step crc fallbackMss)
      (start (PassiveSocket.new localAddr maxBacklog rt nonce)) (events.take n) = .ok l' →
        l'.Accounted maxBacklog) ↔
    Admits (step crc fallbackMss) (fun l event => l.expires event = false)
      (start (PassiveSocket.new localAddr maxBacklog rt nonce)) events := by
  refine Machine.forall_take_iff_admits (Ledger maxBacklog) _ _
    (fun h going stepped => step_ledger h going stepped) (fun h => h.toAccounted)
    (fun _ expiry stepped => expiry_not_accounted (by simpa using expiry) stepped) ?_ ran
  have empty : ∀ remoteAddr, ¬((∅ : AList fun _ : SocketAddrV4 => InflightAccept).lookup
      remoteAddr).isSome = true := by
    intro remoteAddr found
    rw [AList.lookup_empty] at found
    cases found
  exact ⟨⟨Nat.zero_le _, List.nodup_nil, fun _ _ => List.not_mem_nil⟩, rfl, nofun,
    fun other found => absurd found (empty other),
    fun other _ found _ _ => absurd found (empty other)⟩

/-- A listener with a backlog of one, whose tasks try once. -/
def sampleListener : PassiveSocket :=
  .new ⟨1, 10⟩ 1 ⟨7, { sampleConfig with handshakeRetries := 1 }, []⟩ 0

/-- A SYN arrives, and the SYN+ACK goes out. -/
def sampleSyn : List ListenEvent :=
  [.receive ⟨2, 20⟩ { sampleHeader 50 0 10 with syn := true, ack := false },
    .retry ⟨2, 20⟩ .first, .retry ⟨2, 20⟩ (.arpReply (.ok 9))]

/-- A handshake that finishes, and is accepted. -/
theorem accounted_iff_no_expiry_finished :
    ∃ l, Machine.run (step (fun _ => 0) 536) (start sampleListener)
        (sampleSyn ++ [.receive ⟨2, 20⟩ (sampleHeader 51 1 10), .pollAccept]) = .ok l ∧
      l.results = [0] ∧ l.Accounted 1 := by
  obtain ⟨l, ran, results⟩ := Machine.map_eq_ok
    (x := Machine.run (step (fun _ => 0) 536) (start sampleListener)
      (sampleSyn ++ [.receive ⟨2, 20⟩ (sampleHeader 51 1 10), .pollAccept]))
    (fun l => l.results) (t := [0]) (by decide +kernel)
  refine ⟨l, ran, results, ?_⟩
  refine (accounted_iff_no_expiry _ _ _ _ _ _ _ l ran).mpr ?_ 5 l ran
  have going : Machine.admits (step (fun _ => 0) 536) (fun l event => !l.expires event)
      (start sampleListener)
      (sampleSyn ++ [.receive ⟨2, 20⟩ (sampleHeader 51 1 10), .pollAccept]) = true := by
    decide +kernel
  have admits := Machine.Admits.of_admits going
  simp only [Bool.not_eq_true'] at admits
  exact admits

/-- The task gives up, and then the ACK comes after all: one SYN, two results, and one more than the
backlog allows. -/
theorem accounted_broken :
    ∃ l, Machine.run (step (fun _ => 0) 536) (start sampleListener)
        (sampleSyn ++ [.retry ⟨2, 20⟩ .timeout, .receive ⟨2, 20⟩ (sampleHeader 51 1 10)]) = .ok l ∧
      ¬l.socket.inflight.entries.length + l.socket.ready.ready.length ≤ 1 ∧ ¬l.results.Nodup := by
  obtain ⟨l, ran, view⟩ := Machine.map_eq_ok
    (x := Machine.run (step (fun _ => 0) 536) (start sampleListener)
      (sampleSyn ++ [.retry ⟨2, 20⟩ .timeout, .receive ⟨2, 20⟩ (sampleHeader 51 1 10)]))
    (fun l => (l.socket.inflight.entries.length + l.socket.ready.ready.length, l.results))
    (t := (2, [0, 0])) (by decide +kernel)
  obtain ⟨size, results⟩ := Prod.mk.inj view
  exact ⟨l, ran, by rw [size]; decide, by rw [results]; decide⟩

end Listener

end Inetstack.Tcp
