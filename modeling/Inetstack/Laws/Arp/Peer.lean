import Inetstack.Arp.Peer
import Inetstack.Laws.Arp.Packet

/-!
# Concurrent ARP queries

There is one place for a waiter an address. A query that misses the cache while another waits for the same
address, or while the sender of one that was dropped is still in the table, panics. A query whose answer
has come but whose last timer has run out too may be told that it timed out, since `select!` looks at its
branches in any order; it then removes whatever sender is in the table for the address, and that may be
another query's.

Where neither happens, every query that waits is in the table under its address, a packet answers it, and
its next poll returns the answer.
-/

namespace Inetstack.Arp

open Machine (bind_eq_ok)
open Tcp (Buffer Fail Fault Instant Ipv4Addr MacAddress)

/-- A query whose sender is in the table under an address. -/
def QueryTask.Entered (ipv4Addr : Ipv4Addr) : QueryTask → Prop
  | .created _ => False
  | .waiting asked _ _ => asked = ipv4Addr
  | .ready _ => True
  | .dropped => True

/-- What a query that is at its end has returned. -/
def QueryTask.result : QueryTask → Option (Except Fail MacAddress)
  | .ready result => some result
  | _ => none

namespace ArpPeer

variable {p p' : ArpPeer} {query other : QueryId} {ipv4Addr asked : Ipv4Addr} {left : Nat}
  {linkAddr : MacAddress} {response : Response} {event : ArpEvent} {task : QueryTask}

/-- The first poll of a query for an address that is not in the cache, while there is a waiter for it; or
a poll of a query that has its answer, when `select!` takes its last timer in place of the answer. -/
def clashes (p : ArpPeer) : ArpEvent → Bool
  | .poll query s =>
    match p.queries.lookup query with
    | some (.created ipv4Addr) =>
      (p.cache.get ipv4Addr).isNone && (p.waiters.lookup ipv4Addr).isSome
    | some (.waiting _ 0 (.sent _)) => s.expired && s.timerFirst
    | _ => false
  | _ => false

/-- The invariant of the table of waiters. -/
structure Registered (p : ArpPeer) : Prop where
  waits : ∀ query asked left response,
    p.queries.lookup query = some (.waiting asked left response) →
      response ≠ .cancelled ∧ (response = .pending → p.waiters.lookup asked = some query)
  entered : ∀ ipv4Addr query, p.waiters.lookup ipv4Addr = some query →
    ∃ task, p.queries.lookup query = some task ∧ task.Entered ipv4Addr

/-! ## The table of waiters -/

/-- What becomes of the queries when a sender is taken out of the table. -/
theorem lookup_takeWaiter (p : ArpPeer) (ipv4Addr : Ipv4Addr) (response : Response) (query : QueryId) :
    (p.takeWaiter ipv4Addr response).queries.lookup query = p.queries.lookup query ∨
    p.waiters.lookup ipv4Addr = some query ∧ ∃ asked left,
      p.queries.lookup query = some (.waiting asked left .pending) ∧
      (p.takeWaiter ipv4Addr response).queries.lookup query = some (.waiting asked left response) := by
  unfold takeWaiter
  split
  next other found =>
    unfold notify
    split
    next asked left waiting =>
      dsimp only at waiting ⊢
      rw [Table.lookup_insert]
      split
      next same =>
        subst same
        exact .inr ⟨found, asked, left, waiting, rfl⟩
      next => exact .inl rfl
    next => exact .inl rfl
  next => exact .inl rfl

/-- Whoever waits for an address is taken off the list with the answer. -/
theorem waiters_takeWaiter (p : ArpPeer) (ipv4Addr : Ipv4Addr) (response : Response) :
    (p.takeWaiter ipv4Addr response).waiters = p.waiters.erase ipv4Addr := by
  unfold takeWaiter
  split
  next other found =>
    unfold notify
    split
    · rfl
    · rfl
  next absent => exact (Table.erase_of_none absent).symm

/-- A query with an answer does not hear of other senders. -/
theorem takeWaiter_answered (response : Response)
    (answered : p.queries.lookup query = some (.waiting asked left (.sent linkAddr))) :
    (p.takeWaiter ipv4Addr response).queries.lookup query =
      some (.waiting asked left (.sent linkAddr)) := by
  rcases lookup_takeWaiter p ipv4Addr response query with same | ⟨-, _, _, pending, -⟩
  · exact same.trans answered
  · cases answered.symm.trans pending

/-- A query that waits in the table for an address is told. -/
theorem takeWaiter_waiting (h : p.Registered) (response : Response)
    (waiting : p.queries.lookup query = some (.waiting ipv4Addr left .pending)) :
    (p.takeWaiter ipv4Addr response).queries.lookup query =
      some (.waiting ipv4Addr left response) := by
  have found := (h.waits query ipv4Addr left .pending waiting).2 rfl
  unfold takeWaiter
  rw [found]
  dsimp only [notify]
  rw [waiting]
  exact AList.lookup_insert _

/-! ## The invariant -/

/-- Only the two tables matter. -/
theorem Registered.of_same (h : p.Registered) (waiters : p'.waiters = p.waiters)
    (queries : p'.queries = p.queries) : p'.Registered := by
  refine ⟨?_, ?_⟩
  · rw [waiters, queries]
    exact h.waits
  · rw [waiters, queries]
    exact h.entered

theorem lookup_setQuery (p : ArpPeer) (query other : QueryId) (task : QueryTask) :
    (p.setQuery query task).queries.lookup other =
      if other = query then some task else p.queries.lookup other :=
  Table.lookup_insert p.queries query other task

/-- A query that is at its end, or dropped, waits no more; its sender may stay. -/
theorem Registered.finish (h : p.Registered) (query : QueryId) {task : QueryTask}
    (ended : ∀ asked left response, task ≠ .waiting asked left response)
    (stays : ∀ ipv4Addr, task.Entered ipv4Addr) : (p.setQuery query task).Registered := by
  refine ⟨?_, ?_⟩
  · intro other asked left response found
    rw [lookup_setQuery] at found
    split at found
    next => exact (ended asked left response (Option.some.inj found)).elim
    next => exact h.waits other asked left response found
  · intro ipv4Addr other found
    rw [lookup_setQuery]
    split
    next => exact ⟨task, rfl, stays ipv4Addr⟩
    next => exact h.entered ipv4Addr other found

/-- A query that is new waits for nothing yet. -/
theorem Registered.create (h : p.Registered) (new : p.queries.lookup query = none)
    (ipv4Addr : Ipv4Addr) : (p.setQuery query (.created ipv4Addr)).Registered := by
  refine ⟨?_, ?_⟩
  · intro other asked left response found
    rw [lookup_setQuery] at found
    split at found
    next => cases found
    next => exact h.waits other asked left response found
  · intro addr other found
    obtain ⟨task, known, entered⟩ := h.entered addr other found
    have ne : other ≠ query := by
      rintro rfl
      cases new.symm.trans known
    rw [lookup_setQuery, if_neg ne]
    exact ⟨task, known, entered⟩

/-- A packet answers the query in the table, and takes it out. -/
theorem Registered.answer (h : p.Registered) (ipv4Addr : Ipv4Addr) (linkAddr : MacAddress) :
    (p.takeWaiter ipv4Addr (.sent linkAddr)).Registered := by
  refine ⟨?_, ?_⟩
  · intro query asked left response found
    rw [waiters_takeWaiter, Table.lookup_erase]
    rcases lookup_takeWaiter p ipv4Addr (.sent linkAddr) query with
      same | ⟨-, asked', left', -, told⟩
    · rw [same] at found
      obtain ⟨alive, entered⟩ := h.waits query asked left response found
      refine ⟨alive, fun pending => ?_⟩
      subst pending
      have ne : asked ≠ ipv4Addr := by
        rintro rfl
        cases ((takeWaiter_waiting h _ found).symm.trans same).trans found
      rw [if_neg ne]
      exact entered rfl
    · cases told.symm.trans found
      exact ⟨nofun, nofun⟩
  · intro addr query found
    rw [waiters_takeWaiter, Table.lookup_erase] at found
    split at found
    next => cases found
    next =>
      obtain ⟨task, known, entered⟩ := h.entered addr query found
      rcases lookup_takeWaiter p ipv4Addr (.sent linkAddr) query with
        same | ⟨-, asked, left, pending, told⟩
      · exact ⟨task, same.trans known, entered⟩
      · cases known.symm.trans pending
        exact ⟨_, told, entered⟩

/-- A query that gives up takes its own sender out of the table. -/
theorem Registered.giveUp (h : p.Registered)
    (waiting : p.queries.lookup query = some (.waiting ipv4Addr left .pending)) {task : QueryTask}
    (ended : ∀ asked left response, task ≠ .waiting asked left response)
    (stays : ∀ ipv4Addr, task.Entered ipv4Addr) :
    ((p.doDrop ipv4Addr).setQuery query task).Registered := by
  have own := (h.waits query ipv4Addr left .pending waiting).2 rfl
  have others {other : QueryId} (ne : other ≠ query) :
      (p.doDrop ipv4Addr).queries.lookup other = p.queries.lookup other := by
    rcases lookup_takeWaiter p ipv4Addr .cancelled other with same | ⟨found, -⟩
    · exact same
    · exact (ne (Option.some.inj (found.symm.trans own))).elim
  have table : ((p.doDrop ipv4Addr).setQuery query task).waiters = p.waiters.erase ipv4Addr :=
    waiters_takeWaiter p ipv4Addr .cancelled
  refine ⟨?_, ?_⟩
  · intro other asked left response found
    rw [lookup_setQuery] at found
    split at found
    next => exact (ended asked left response (Option.some.inj found)).elim
    next ne =>
    rw [others ne] at found
    obtain ⟨alive, entered⟩ := h.waits other asked left response found
    refine ⟨alive, fun pending => ?_⟩
    have apart : asked ≠ ipv4Addr := by
      rintro rfl
      exact ne (Option.some.inj ((entered pending).symm.trans own))
    rw [table, Table.lookup_erase, if_neg apart]
    exact entered pending
  · intro addr other found
    rw [table, Table.lookup_erase] at found
    split at found
    next => cases found
    next =>
    rw [lookup_setQuery]
    split
    next => exact ⟨task, rfl, stays addr⟩
    next ne =>
      rw [others ne]
      exact h.entered addr other found

/-- A query that finds no other in the table enters it. -/
theorem Registered.enter (h : p.Registered) (created : p.queries.lookup query = some (.created asked))
    (free : p.waiters.lookup ipv4Addr = none) (left : Nat)
    (waiters : p'.waiters = p.waiters.insert ipv4Addr query)
    (queries : p'.queries = p.queries.insert query (.waiting ipv4Addr left .pending)) :
    p'.Registered := by
  refine ⟨?_, ?_⟩
  · intro other asked left response found
    rw [queries, Table.lookup_insert] at found
    rw [waiters, Table.lookup_insert]
    split at found
    next same =>
      cases found
      exact ⟨nofun, fun _ => by rw [if_pos rfl, same]⟩
    next =>
      obtain ⟨alive, entered⟩ := h.waits other asked left response found
      refine ⟨alive, fun pending => ?_⟩
      have apart : asked ≠ ipv4Addr := by
        rintro rfl
        cases free.symm.trans (entered pending)
      rw [if_neg apart]
      exact entered pending
  · intro addr other found
    rw [waiters, Table.lookup_insert] at found
    rw [queries, Table.lookup_insert]
    split at found
    next same =>
      cases found
      exact ⟨_, if_pos rfl, same.symm⟩
    next =>
      obtain ⟨task, known, entered⟩ := h.entered addr other found
      have ne : other ≠ query := by
        rintro rfl
        cases known.symm.trans created
        exact entered
      rw [if_neg ne]
      exact ⟨task, known, entered⟩

/-- A query that goes on waiting stays in the table. -/
theorem Registered.retry (h : p.Registered) {tries : Nat}
    (waiting : p.queries.lookup query = some (.waiting ipv4Addr tries .pending)) (left : Nat)
    (waiters : p'.waiters = p.waiters)
    (queries : p'.queries = p.queries.insert query (.waiting ipv4Addr left .pending)) :
    p'.Registered := by
  refine ⟨?_, ?_⟩
  · intro other asked left response found
    rw [queries, Table.lookup_insert] at found
    rw [waiters]
    split at found
    next same =>
      cases found
      exact ⟨nofun, fun _ => same ▸ (h.waits query ipv4Addr tries .pending waiting).2 rfl⟩
    next => exact h.waits other asked left response found
  · intro addr other found
    rw [waiters] at found
    rw [queries, Table.lookup_insert]
    obtain ⟨task, known, entered⟩ := h.entered addr other found
    split
    next same =>
      subst same
      cases known.symm.trans waiting
      exact ⟨_, rfl, entered⟩
    next => exact ⟨task, known, entered⟩

/-! ## Polls -/

/-- What a poll of a query brings about. -/
structure Polled (p : ArpPeer) (query : QueryId) (p' : ArpPeer) : Prop where
  registered : p'.Registered
  completes : ∀ asked left linkAddr,
    p.queries.lookup query = some (.waiting asked left (.sent linkAddr)) →
      p'.queries.lookup query = some (.ready (.ok linkAddr))
  keeps : ∀ other asked left linkAddr, other ≠ query →
    p.queries.lookup other = some (.waiting asked left (.sent linkAddr)) →
      p'.queries.lookup other = some (.waiting asked left (.sent linkAddr))

/-- A query that has an answer waits no longer. -/
theorem Registered.ready (h : p.Registered) (query : QueryId) (result : Except Fail MacAddress) :
    (p.setQuery query (.ready result)).Registered :=
  h.finish query nofun fun _ => trivial

/-- Another query hears nothing of it. -/
theorem lookup_other {q : ArpPeer} (ne : other ≠ query)
    (queries : q.queries = p.queries.insert query task) :
    q.queries.lookup other = p.queries.lookup other := by
  rw [queries, Table.lookup_insert, if_neg ne]

/-- A query that starts finds its address in the cache, or begins to wait for it. -/
theorem start_polled (h : p.Registered) (created : p.queries.lookup query = some (.created ipv4Addr))
    (free : p.cache.get ipv4Addr = none → p.waiters.lookup ipv4Addr = none) :
    ∃ p', p.start query ipv4Addr = .ok p' ∧ Polled p query p' := by
  unfold start
  cases hit : p.cache.get ipv4Addr with
  | some linkAddr =>
    refine ⟨_, rfl, h.ready query _, ?_, ?_⟩
    · intro asked left linkAddr answered
      cases created.symm.trans answered
    · intro other asked left linkAddr ne answered
      exact (lookup_other ne rfl).trans answered
  | none =>
    have empty := free hit
    refine ⟨({ p with waiters := p.waiters.insert ipv4Addr query }.transmit
      (p.requestFor ipv4Addr)).setQuery query (.waiting ipv4Addr p.retryCount .pending), ?_,
      h.enter created empty p.retryCount rfl rfl, ?_, ?_⟩
    · simp only [doWaitLinkAddr, hit, empty]
      rfl
    · intro asked left linkAddr answered
      cases created.symm.trans answered
    · intro other asked left linkAddr ne answered
      exact (lookup_other ne rfl).trans answered

/-- A query without an answer goes on waiting, or gives up at the end of its last timer. -/
theorem resume_pending (h : p.Registered)
    (waiting : p.queries.lookup query = some (.waiting ipv4Addr left .pending)) (s : Select) :
    ∃ p', p.resume query ipv4Addr left .pending s = .ok p' ∧ Polled p query p' := by
  have unanswered {q : ArpPeer} (asked : Ipv4Addr) (tries : Nat) (linkAddr : MacAddress)
      (answered : p.queries.lookup query = some (.waiting asked tries (.sent linkAddr))) :
      q.queries.lookup query = some (.ready (.ok linkAddr)) := by
    cases waiting.symm.trans answered
  cases expired : s.expired with
  | false =>
    refine ⟨p, ?_, h, unanswered, fun other asked left linkAddr ne answered => answered⟩
    simp [resume, Response.withTimeout, Response.poll, expired]
  | true =>
    have timeout : Response.pending.withTimeout s = .timeout := by
      simp [Response.withTimeout, Response.poll, expired]
    cases left with
    | succ left =>
      refine ⟨(p.transmit (p.requestFor ipv4Addr)).setQuery query (.waiting ipv4Addr left .pending), ?_,
        h.retry waiting left rfl rfl, unanswered, ?_⟩
      · rw [resume, timeout]
        rfl
      · intro other asked left linkAddr ne answered
        exact (lookup_other ne rfl).trans answered
    | zero =>
      have registered : ((p.doDrop ipv4Addr).setQuery query
          (.ready (.error { errno := .ETIMEDOUT, cause := "ARP query timeout" }))).Registered :=
        h.giveUp waiting nofun fun _ => trivial
      refine ⟨_, ?_, registered, unanswered, ?_⟩
      · rw [resume, timeout]
      · intro other asked left linkAddr ne answered
        rw [lookup_other ne rfl]
        exact takeWaiter_answered .cancelled answered

/-- A query that has its answer ends with it, whichever branch `select!` takes, unless that is the end of
its last timer. -/
theorem resume_answered (h : p.Registered) {s : Select}
    (waiting : p.queries.lookup query = some (.waiting ipv4Addr left (.sent linkAddr)))
    (calm : left = 0 → (s.expired && s.timerFirst) = false) :
    ∃ p', p.resume query ipv4Addr left (.sent linkAddr) s = .ok p' ∧ Polled p query p' := by
  have done {q : ArpPeer} (registered : q.Registered) (queries : q.queries = p.queries) :
      Polled p query (q.setQuery query (.ready (.ok linkAddr))) := by
    refine ⟨registered.ready query _, ?_, ?_⟩
    · intro asked tries other answered
      cases waiting.symm.trans answered
      rw [lookup_setQuery, if_pos rfl]
    · intro other asked tries linkAddr' ne answered
      rw [lookup_setQuery, if_neg ne, queries, answered]
  cases taken : s.timerFirst && s.expired with
  | false =>
    refine ⟨_, ?_, done h rfl⟩
    simp [resume, Response.withTimeout, Response.poll, taken]
  | true =>
    have timeout : (Response.sent linkAddr).withTimeout s = .timeout := by
      simp [Response.withTimeout, taken]
    cases left with
    | zero =>
      have quiet := calm rfl
      rw [Bool.and_comm, taken] at quiet
      cases quiet
    | succ left =>
      -- the next iteration finds the answer at once
      have registered : (p.transmit (p.requestFor ipv4Addr)).Registered := h.of_same rfl rfl
      refine ⟨_, ?_, done registered rfl⟩
      rw [resume, timeout]
      rfl

/-- **A poll that does not clash** returns, keeps the invariant, and ends a query that has its answer. -/
theorem poll_polled (h : p.Registered) {s : Select} (calm : p.clashes (.poll query s) = false) :
    ∃ p', p.poll query s = .ok p' ∧ Polled p query p' := by
  unfold poll
  simp only [clashes] at calm
  cases found : p.queries.lookup query with
  | none =>
    refine ⟨p, rfl, h, ?_, fun _ _ _ _ _ answered => answered⟩
    intro asked left linkAddr answered
    cases found.symm.trans answered
  | some task =>
    rw [found] at calm
    cases task with
    | created ipv4Addr =>
      refine start_polled h found fun miss => ?_
      simpa [miss] using calm
    | waiting ipv4Addr left response =>
      cases response with
      | pending => exact resume_pending h found s
      | sent linkAddr =>
        refine resume_answered h found ?_
        rintro rfl
        exact calm
      | cancelled => exact ((h.waits query ipv4Addr left .cancelled found).1 rfl).elim
    | ready result =>
      refine ⟨p, rfl, h, ?_, fun _ _ _ _ _ answered => answered⟩
      intro asked left linkAddr answered
      cases found.symm.trans answered
    | dropped =>
      refine ⟨p, rfl, h, ?_, fun _ _ _ _ _ answered => answered⟩
      intro asked left linkAddr answered
      cases found.symm.trans answered

/-! ## Packets -/

/-- What a packet that maps an address brings about. -/
structure Mapped (ipv4Addr : Ipv4Addr) (linkAddr : MacAddress) (p p' : ArpPeer) : Prop where
  registered : p.Registered → p'.Registered
  answers : p.Registered → ∀ query left,
    p.queries.lookup query = some (.waiting ipv4Addr left .pending) →
      p'.queries.lookup query = some (.waiting ipv4Addr left (.sent linkAddr))
  keeps : ∀ query asked left other,
    p.queries.lookup query = some (.waiting asked left (.sent other)) →
      p'.queries.lookup query = some (.waiting asked left (.sent other))

/-- What is inserted into the cache is there, and the query that waits for it is answered. -/
theorem doInsert_mapped (ran : p.doInsert ipv4Addr linkAddr = .ok p') : Mapped ipv4Addr linkAddr p p' := by
  obtain ⟨⟨replaced, cache⟩, -, ran⟩ := bind_eq_ok.mp ran
  cases ran
  refine ⟨?_, ?_, ?_⟩
  · intro h
    exact (h.answer ipv4Addr linkAddr).of_same rfl rfl
  · intro h query left waiting
    exact takeWaiter_waiting h (.sent linkAddr) waiting
  · intro query asked left other answered
    exact takeWaiter_answered (.sent linkAddr) answered

theorem Mapped.of_same (h : Mapped ipv4Addr linkAddr p p') {q : ArpPeer} (waiters : q.waiters = p'.waiters)
    (queries : q.queries = p'.queries) : Mapped ipv4Addr linkAddr p q := by
  refine ⟨fun registered => (h.registered registered).of_same waiters queries, ?_, ?_⟩
  · rw [queries]
    exact h.answers
  · rw [queries]
    exact h.keeps

/-- Answering a request changes neither. -/
theorem Mapped.respond (h : Mapped ipv4Addr linkAddr p p') {header : ArpHeader} {q : ArpPeer}
    {result : Except Fail Unit} (ran : p'.respond header = .ok (result, q)) :
    Mapped ipv4Addr linkAddr p q := by
  unfold ArpPeer.respond at ran
  split at ran
  · cases ran
    exact h.of_same rfl rfl
  · obtain ⟨⟨replaced, cache⟩, -, ran⟩ := bind_eq_ok.mp ran
    cases ran
    exact h.of_same rfl rfl

/-- **What a packet can do**: nothing, or map the sender's address; it is refused only in the first
case. -/
theorem receive_cases {buf : Buffer} {result : Except Fail Unit}
    (ran : p.receive buf = .ok (result, p')) :
    (∃ fail, result = .error fail) ∧ p' = p ∨
    ∃ header, ArpHeader.parse buf = pure header ∧
      Mapped header.senderProtocolAddr header.senderHardwareAddr p p' := by
  obtain ⟨parsed, read, ran⟩ := bind_eq_ok.mp ran
  cases parsed with
  | error fail =>
    cases ran
    exact .inl ⟨⟨fail, rfl⟩, rfl⟩
  | ok header =>
  dsimp only at ran
  split at ran
  next =>
    obtain ⟨p₁, merged, ran⟩ := bind_eq_ok.mp ran
    have mapped := doInsert_mapped merged
    refine .inr ⟨header, read, ?_⟩
    split at ran
    · cases ran
      exact mapped
    · exact mapped.respond ran
  next =>
    obtain ⟨p₁, same, ran⟩ := bind_eq_ok.mp ran
    cases same
    split at ran
    · cases ran
      exact .inl ⟨⟨_, rfl⟩, rfl⟩
    · obtain ⟨p₂, inserted, ran⟩ := bind_eq_ok.mp ran
      exact .inr ⟨header, read, (doInsert_mapped inserted).respond ran⟩

/-! ## One event -/

/-- What every query is owed at an event: its polls return; a packet that is accepted answers it if it
waits for the packet's address; no other event takes the answer away; and its next poll returns it. -/
structure Served (p : ArpPeer) (event : ArpEvent) : Prop where
  returns : ∀ query s, event = .poll query s → ∃ p', p.step event = .ok p'
  answers : ∀ buf header p' query left, event = .receive buf → ArpHeader.parse buf = pure header →
    p.receive buf = .ok (.ok (), p') →
    p.queries.lookup query = some (.waiting header.senderProtocolAddr left .pending) →
      p'.queries.lookup query =
        some (.waiting header.senderProtocolAddr left (.sent header.senderHardwareAddr))
  keeps : ∀ p' query asked left linkAddr, (∀ s, event ≠ .poll query s) → event ≠ .drop query →
    p.step event = .ok p' →
    p.queries.lookup query = some (.waiting asked left (.sent linkAddr)) →
      p'.queries.lookup query = some (.waiting asked left (.sent linkAddr))
  completes : ∀ p' query s asked left linkAddr, event = .poll query s → p.step event = .ok p' →
    p.queries.lookup query = some (.waiting asked left (.sent linkAddr)) →
      p'.queries.lookup query = some (.ready (.ok linkAddr))

/-- **One event** that does not clash keeps the waiters registered. -/
theorem step_registered (h : p.Registered) (calm : p.clashes event = false)
    (stepped : p.step event = .ok p') : p'.Registered := by
  cases event with
  | query query ipv4Addr =>
    simp only [step] at stepped
    split at stepped
    · cases stepped
      exact h
    next new =>
      cases stepped
      exact h.create new ipv4Addr
  | poll query s =>
    obtain ⟨q, ran, polled⟩ := poll_polled h calm
    cases ran.symm.trans stepped
    exact polled.registered
  | drop query =>
    simp only [step] at stepped
    split at stepped
    · cases stepped
      exact h.finish query nofun fun _ => trivial
    · cases stepped
      exact h
  | receive buf =>
    obtain ⟨⟨result, q⟩, ran, stepped⟩ := bind_eq_ok.mp stepped
    cases stepped
    rcases receive_cases ran with ⟨-, rfl⟩ | ⟨header, -, mapped⟩
    · exact h
    · exact mapped.registered h
  | background now =>
    obtain ⟨cache, -, stepped⟩ := bind_eq_ok.mp stepped
    cases stepped
    exact h.of_same rfl rfl

/-- No event but a poll or a drop of the query takes an answer away. -/
theorem step_keeps (h : p.Registered) (calm : p.clashes event = false)
    (notPolled : ∀ s, event ≠ .poll query s) (notDropped : event ≠ .drop query)
    (stepped : p.step event = .ok p')
    (answered : p.queries.lookup query = some (.waiting asked left (.sent linkAddr))) :
    p'.queries.lookup query = some (.waiting asked left (.sent linkAddr)) := by
  cases event with
  | query other ipv4Addr =>
    simp only [step] at stepped
    split at stepped
    · cases stepped
      exact answered
    next new =>
      cases stepped
      have ne : query ≠ other := by
        rintro rfl
        cases new.symm.trans answered
      exact (lookup_other ne rfl).trans answered
  | poll other s =>
    obtain ⟨q, ran, polled⟩ := poll_polled h calm
    cases ran.symm.trans stepped
    refine polled.keeps query asked left linkAddr ?_ answered
    rintro rfl
    exact notPolled s rfl
  | drop other =>
    simp only [step] at stepped
    split at stepped
    · cases stepped
      have ne : query ≠ other := by
        rintro rfl
        exact notDropped rfl
      exact (lookup_other ne rfl).trans answered
    · cases stepped
      exact answered
  | receive buf =>
    obtain ⟨⟨result, q⟩, ran, stepped⟩ := bind_eq_ok.mp stepped
    cases stepped
    rcases receive_cases ran with ⟨-, rfl⟩ | ⟨header, -, mapped⟩
    · exact answered
    · exact mapped.keeps query asked left linkAddr answered
  | background now =>
    obtain ⟨cache, -, stepped⟩ := bind_eq_ok.mp stepped
    cases stepped
    exact answered

/-- A query that does not clash is served. -/
theorem served_of_calm (h : p.Registered) (calm : p.clashes event = false) : p.Served event := by
  refine ⟨?_, ?_, ?_, ?_⟩
  · rintro query s rfl
    obtain ⟨q, ran, -⟩ := poll_polled h calm
    exact ⟨q, ran⟩
  · rintro buf header p' query left rfl parsed ran waiting
    rcases receive_cases ran with ⟨⟨fail, refused⟩, -⟩ | ⟨header', parsed', mapped⟩
    · cases refused
    · cases parsed.symm.trans parsed'
      exact mapped.answers h query left waiting
  · intro p' query asked left linkAddr notPolled notDropped stepped answered
    exact step_keeps h calm notPolled notDropped stepped answered
  · rintro p' query s asked left linkAddr rfl stepped answered
    obtain ⟨q, ran, polled⟩ := poll_polled h calm
    cases ran.symm.trans stepped
    exact polled.completes asked left linkAddr answered

/-- A poll that clashes panics, or gives up on an answer that is there. -/
theorem not_served_of_clash (clash : p.clashes event = true) : ¬p.Served event := by
  intro served
  cases event with
  | poll query s =>
    simp only [clashes] at clash
    split at clash
    next ipv4Addr created =>
      simp only [Bool.and_eq_true, Option.isNone_iff_eq_none, Option.isSome_iff_exists] at clash
      obtain ⟨miss, waiter, found⟩ := clash
      obtain ⟨p', ran⟩ := served.returns query s rfl
      simp only [step, poll, created, start, miss, doWaitLinkAddr, found] at ran
      cases ran
    next asked linkAddr answered =>
      simp only [Bool.and_eq_true] at clash
      have timeout : (Response.sent linkAddr).withTimeout s = .timeout := by
        simp [Response.withTimeout, clash.1, clash.2]
      have ran : p.step (.poll query s) = .ok ((p.doDrop asked).setQuery query
          (.ready (.error { errno := .ETIMEDOUT, cause := "ARP query timeout" }))) := by
        simp only [step, poll, answered, resume, timeout]
      have completed := served.completes _ query s asked 0 linkAddr rfl ran answered
      rw [lookup_setQuery, if_pos rfl] at completed
      cases completed
    next => cases clash
  | query query ipv4Addr => cases clash
  | drop query => cases clash
  | receive buf => cases clash
  | background now => cases clash

/-- **A query is served exactly if it does not clash.** -/
theorem served_iff (h : p.Registered) : p.Served event ↔ p.clashes event = false := by
  refine ⟨fun served => ?_, served_of_calm h⟩
  refine Bool.eq_false_of_not_eq_true fun clash => ?_
  exact not_served_of_clash clash served

/-! ## Runs -/

/-- Nobody waits at a new peer. -/
theorem registered_new {now : Instant} {localLinkAddr : MacAddress} {localIpv4Addr : Ipv4Addr}
    {options : ArpConfig} (made : new now localLinkAddr localIpv4Addr options = .ok p) :
    p.Registered := by
  obtain ⟨cache, -, made⟩ := bind_eq_ok.mp made
  cases made
  refine ⟨?_, ?_⟩
  · intro query asked left response found
    cases found
  · intro ipv4Addr query found
    cases found

/-- An answer is kept until the query is polled. -/
theorem run_keeps {events : List ArpEvent}
    (admits : Machine.Admits step Served p events)
    (untouched : ∀ event ∈ events, (∀ s, event ≠ .poll query s) ∧ event ≠ .drop query)
    (answered : p.queries.lookup query = some (.waiting asked left (.sent linkAddr)))
    (ran : Machine.run step p events = .ok p') :
    p'.queries.lookup query = some (.waiting asked left (.sent linkAddr)) := by
  have quiet : Machine.Admits step
      (fun _ event => (∀ s, event ≠ .poll query s) ∧ event ≠ .drop query) p events :=
    Machine.admits_of_forall untouched p
  refine Machine.invariant_of_admits
    (fun p => p.queries.lookup query = some (.waiting asked left (.sent linkAddr))) _ ?_ answered
    (admits.and quiet) ran
  intro q event q' answered admitted stepped
  exact admitted.1.keeps q' query asked left linkAddr admitted.2.1 admitted.2.2 stepped answered

/-- A query that waits when a packet for its address is accepted returns the packet's link address at its
next poll, whatever happens in between. -/
theorem run_completes {buf : Buffer} {header : ArpHeader} {p₁ p₂ : ArpPeer} {between : List ArpEvent}
    {s : Select}
    (admits : Machine.Admits step Served p (.receive buf :: (between ++ [.poll query s])))
    (parsed : ArpHeader.parse buf = pure header) (accepted : p.receive buf = .ok (.ok (), p₁))
    (waiting : p.queries.lookup query = some (.waiting header.senderProtocolAddr left .pending))
    (untouched : ∀ event ∈ between, (∀ s, event ≠ .poll query s) ∧ event ≠ .drop query)
    (ran : Machine.run step p₁ (between ++ [.poll query s]) = .ok p₂) :
    p₂.queries.lookup query = some (.ready (.ok header.senderHardwareAddr)) := by
  obtain ⟨served, later⟩ := admits
  have received : p.step (.receive buf) = .ok p₁ := bind_eq_ok.mpr ⟨(.ok (), p₁), accepted, rfl⟩
  have answered := served.answers buf header p₁ query left rfl parsed accepted waiting
  have rest := later p₁ received
  obtain ⟨p', first, last⟩ := Machine.run_append_ok.mp ran
  have part := rest.take between.length
  rw [List.take_left] at part
  have kept := run_keeps part untouched answered first
  obtain ⟨q, polled, done⟩ := Machine.run_cons_ok.mp last
  cases done
  exact (rest.rest first).1.completes p₂ query s _ left _ rfl polled kept

/-- **Queries and the events that break them.** From a new peer, every query is served at every event of a
run exactly when no poll of the run clashes; and in such a run a query that waits when a packet for its
address is accepted returns the packet's link address at its next poll. -/
theorem queries_served_iff {now : Instant} {localLinkAddr : MacAddress} {localIpv4Addr : Ipv4Addr}
    {options : ArpConfig} {p₀ : ArpPeer} (made : new now localLinkAddr localIpv4Addr options = .ok p₀)
    (events : List ArpEvent) :
    (Machine.Admits step Served p₀ events ↔
      Machine.Admits step (fun p event => p.clashes event = false) p₀ events) ∧
    (Machine.Admits step (fun p event => p.clashes event = false) p₀ events →
      ∀ before buf between query s p header left p₁ p₂,
        events = before ++ .receive buf :: (between ++ [.poll query s]) →
        Machine.run step p₀ before = .ok p →
        ArpHeader.parse buf = pure header → p.receive buf = .ok (.ok (), p₁) →
        p.queries.lookup query = some (.waiting header.senderProtocolAddr left .pending) →
        (∀ event ∈ between, (∀ s, event ≠ .poll query s) ∧ event ≠ .drop query) →
        Machine.run step p₁ (between ++ [.poll query s]) = .ok p₂ →
          p₂.queries.lookup query = some (.ready (.ok header.senderHardwareAddr))) := by
  have exact_iff : ∀ {events}, Machine.Admits step Served p₀ events ↔
      Machine.Admits step (fun p event => p.clashes event = false) p₀ events :=
    Machine.admits_iff Registered step_registered served_iff (registered_new made)
  refine ⟨exact_iff, ?_⟩
  rintro calm before buf between query s p header left p₁ p₂ rfl arrived parsed accepted waiting untouched
    ran
  have served := (exact_iff.mpr calm).rest arrived
  exact run_completes served parsed accepted waiting untouched ran

/-- One try for a query, and nothing in the cache. -/
def sampleConfig : ArpConfig where
  cacheTtl := 60
  retryCount := 0
  initialValues := []
  disableArp := false

def samplePeer : ArpPeer where
  cache := { cache := { map := ∅, graveyard := ∅, defaultTtl := some 60, clock := 0 }, disable := false }
  waiters := ∅
  queries := ∅
  retryCount := 0
  localLinkAddr := 7
  localIpv4Addr := 0x0a000001
  transmitted := []

/-- The reply of 10.0.0.2 to 10.0.0.1. -/
def sampleReply : ArpHeader := .new .reply 9 0x0a000002 7 0x0a000001

/-- The timer has not run out. -/
def early : Select := { expired := false, timerFirst := false }

/-- A query for 10.0.0.2 is polled once. -/
def sampleQuery : List ArpEvent := [.query 1 0x0a000002, .poll 1 early]

/-- The query waits. -/
def sampleWaiting : ArpPeer :=
  { samplePeer with
    waiters := (∅ : AList fun _ : Ipv4Addr => QueryId).insert 0x0a000002 1
    queries := (samplePeer.queries.insert 1 (.created 0x0a000002)).insert 1
      (.waiting 0x0a000002 0 .pending)
    transmitted := [samplePeer.requestFor 0x0a000002] }

/-- The query is answered, and returns the answer. -/
theorem queries_served_iff_reply :
    ∃ p₂, Machine.run step samplePeer (sampleQuery ++ [.receive sampleReply.bytes, .poll 1 early]) =
        .ok p₂ ∧
      p₂.queries.lookup 1 = some (.ready (.ok 9)) := by
  have made : new 0 7 0x0a000001 sampleConfig = .ok samplePeer := rfl
  have arrived : Machine.run step samplePeer sampleQuery = .ok sampleWaiting := rfl
  have parsed : ArpHeader.parse sampleReply.bytes = pure sampleReply := by
    have parsed := sampleReply.parse_bytes []
    rwa [List.append_nil] at parsed
  have calm : Machine.admits step (fun p event => !p.clashes event) samplePeer
      (sampleQuery ++ [.receive sampleReply.bytes, .poll 1 early]) = true := by decide +kernel
  obtain ⟨⟨result, p₁⟩, accepted, rfl⟩ := Machine.map_eq_ok
    (x := sampleWaiting.receive sampleReply.bytes) (fun r => r.1) (t := .ok ()) (by decide +kernel)
  obtain ⟨p₂, whole, -⟩ := Machine.map_eq_ok
    (x := Machine.run step samplePeer (sampleQuery ++ [.receive sampleReply.bytes, .poll 1 early]))
    (fun _ => ()) (t := ()) (by decide +kernel)
  refine ⟨p₂, whole, ?_⟩
  obtain ⟨p, arrived', last⟩ := Machine.run_append_ok.mp whole
  cases arrived.symm.trans arrived'
  obtain ⟨p₁', received, last⟩ := Machine.run_cons_ok.mp last
  have received' : sampleWaiting.step (.receive sampleReply.bytes) = .ok p₁ :=
    bind_eq_ok.mpr ⟨_, accepted, rfl⟩
  cases received'.symm.trans received
  refine (queries_served_iff made _).2 ?_ sampleQuery sampleReply.bytes [] 1 early sampleWaiting
    sampleReply 0 p₁ p₂ rfl arrived parsed accepted rfl (by simp) last
  have admitted := Machine.Admits.of_admits calm
  simp only [Bool.not_eq_true'] at admitted
  exact admitted

/-- A second query for the same address panics, also when the first has been dropped; and a query that
has its answer is told that it has timed out. -/
theorem queries_not_served :
    ∃ p₀, new 0 7 0x0a000001 sampleConfig = .ok p₀ ∧
      Machine.run step p₀ (sampleQuery ++ [.query 2 0x0a000002, .poll 2 early]) =
        .error .duplicateWaiter ∧
      Machine.run step p₀ (sampleQuery ++ [.drop 1, .query 2 0x0a000002, .poll 2 early]) =
        .error .duplicateWaiter ∧
      (Machine.run step p₀ (sampleQuery ++
          [.receive sampleReply.bytes, .poll 1 { expired := true, timerFirst := true }])).map
        (fun p => (p.queries.lookup 1).bind QueryTask.result) =
        .ok (some (.error { errno := .ETIMEDOUT, cause := "ARP query timeout" })) :=
  ⟨samplePeer, rfl, rfl, rfl, by decide +kernel⟩

end ArpPeer

end Inetstack.Arp
