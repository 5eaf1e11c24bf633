import Inetstack.Laws.Descriptors
import Inetstack.Laws.Host.Crashes
import Inetstack.Laws.Tcp.Polls

/-!
# Descriptors

Three tables are kept by descriptor: the one of the stack, which says what a descriptor is, and those of the
two peers. A socket has its descriptor from the first. An accept books one when it is called, for a socket
that is entered when a poll finds a connection, or never; so a booked descriptor belongs to its future until
then. What the runtime's table gives out is free in that table, and therefore free everywhere.
-/

namespace Inetstack

open Machine (bind_eq_ok bind_returns_iff)
open Tcp (Buffer Fail Instant Ipv4Addr MacAddress PeerRun Runtime SocketAddrV4 TcpPeer)
open Udp (UdpPeer)

/-! ## A host -/

namespace Host

variable {env : Platform} {h h' : Host} {qd newQd : QDesc}

/-- A descriptor that a future has booked: its accept is pending, or has failed and its result has not been
taken. -/
def Books (h : Host) (task : Nat) (newQd : QDesc) : Prop :=
  (∃ qd, h.stack.scheduled[task]? = some (.accept qd newQd)) ∧
    (h.completed.lookup task = none ∨ ∃ fail, h.completed.lookup task = some (.ready (.failed fail)))

/-- **The three tables agree.** A descriptor that an accept has booked is that of a TCP socket to be, which no
other accept has booked and no socket has. -/
structure Booked (h : Host) : Prop where
  tcp : ∀ qd, (h.stack.tcp.sockets.lookup qd).isSome = true →
    h.stack.fileTable.lookup qd = some .tcpSocket
  udp : ∀ qd, (h.stack.udp.sockets.lookup qd).isSome = true →
    h.stack.fileTable.lookup qd = some .udpSocket
  accepts : ∀ task qd, h.Books task qd →
    h.stack.fileTable.lookup qd = some .tcpSocket ∧ h.stack.tcp.sockets.lookup qd = none
  apart : ∀ task task' qd, h.Books task qd → h.Books task' qd → task = task'

/-- Nothing is opened or booked. -/
theorem Booked.of_within (h₀ : h.Booked) (fileTable : h'.stack.fileTable = h.stack.fileTable)
    (books : ∀ task qd, h'.Books task qd → h.Books task qd)
    (tcp : Table.Within h.stack.tcp.sockets h'.stack.tcp.sockets)
    (udp : Table.Within h.stack.udp.sockets h'.stack.udp.sockets) : h'.Booked where
  tcp := fileTable ▸ tcp.forall h₀.tcp
  udp := fileTable ▸ udp.forall h₀.udp
  accepts task qd booked := by
    obtain ⟨found, free⟩ := h₀.accepts task qd (books task qd booked)
    exact ⟨fileTable ▸ found, tcp qd free⟩
  apart task task' qd booked booked' := h₀.apart task task' qd (books task qd booked) (books task' qd booked')

/-- What is no descriptor of TCP has no socket there. -/
theorem Booked.no_tcp (h₀ : h.Booked) {kind : Option QType} (known : h.stack.fileTable.lookup qd = kind)
    (other : kind ≠ some .tcpSocket) : h.stack.tcp.sockets.lookup qd = none := by
  by_contra opened
  exact other (known.symm.trans (h₀.tcp qd (Option.isSome_iff_ne_none.mpr opened)))

/-- What is no descriptor of UDP has no socket there. -/
theorem Booked.no_udp (h₀ : h.Booked) {kind : Option QType} (known : h.stack.fileTable.lookup qd = kind)
    (other : kind ≠ some .udpSocket) : h.stack.udp.sockets.lookup qd = none := by
  by_contra opened
  exact other (known.symm.trans (h₀.udp qd (Option.isSome_iff_ne_none.mpr opened)))

/-- What is not in the table of descriptors is in none. -/
theorem Booked.unknown (h₀ : h.Booked) (free : h.stack.fileTable.lookup qd = none) :
    h.stack.tcp.sockets.lookup qd = none ∧ h.stack.udp.sockets.lookup qd = none ∧
      ∀ task, ¬h.Books task qd := by
  refine ⟨h₀.no_tcp free nofun, h₀.no_udp free nofun, fun task booked => ?_⟩
  cases free.symm.trans (h₀.accepts task qd booked).1

/-- A free descriptor is booked for an accept. -/
theorem Booked.accepted (h₀ : h.Booked) (new : h.stack.fileTable.lookup newQd = none)
    (fileTable : h'.stack.fileTable = h.stack.fileTable.insert newQd .tcpSocket)
    (scheduled : h'.stack.scheduled = h.stack.scheduled ++ [.accept qd newQd])
    (completed : h'.completed = h.completed) (tcp : h'.stack.tcp = h.stack.tcp)
    (udp : h'.stack.udp = h.stack.udp) : h'.Booked := by
  obtain ⟨noTcp, -, noBooking⟩ := h₀.unknown new
  have books {task : Nat} {q : QDesc} (booked : h'.Books task q) :
      h.Books task q ∨ task = h.stack.scheduled.length ∧ newQd = q := by
    obtain ⟨⟨qd', found⟩, state⟩ := booked
    rw [scheduled] at found
    rw [completed] at state
    rcases InetStack.scheduled_cases found with older | ⟨last, same⟩
    · exact .inl ⟨⟨qd', older⟩, state⟩
    · cases same
      exact .inr ⟨last, rfl⟩
  refine ⟨fun q known => ?_, fun q known => ?_, fun task q booked => ?_,
    fun task task' q booked booked' => ?_⟩
  · rw [fileTable]
    exact Table.lookup_insert_of_some new (h₀.tcp q (tcp ▸ known))
  · rw [fileTable]
    exact Table.lookup_insert_of_some new (h₀.udp q (udp ▸ known))
  · rw [fileTable, tcp]
    rcases books booked with older | ⟨-, rfl⟩
    · obtain ⟨found, free⟩ := h₀.accepts task q older
      exact ⟨Table.lookup_insert_of_some new found, free⟩
    · exact ⟨AList.lookup_insert _, noTcp⟩
  · rcases books booked with older | ⟨last, rfl⟩
    · rcases books booked' with older' | ⟨-, rfl⟩
      · exact h₀.apart task task' q older older'
      · exact (noBooking task older).elim
    · rcases books booked' with older' | ⟨last', -⟩
      · exact (noBooking task' older').elim
      · exact last.trans last'.symm

/-- A descriptor is freed that nothing has any more. -/
theorem Booked.freed (h₀ : h.Booked) (fileTable : h'.stack.fileTable = h.stack.fileTable.erase qd)
    (books : ∀ task q, h'.Books task q → h.Books task q) (unbooked : ∀ task, ¬h'.Books task qd)
    (tcp : Table.Within h.stack.tcp.sockets h'.stack.tcp.sockets)
    (noTcp : h'.stack.tcp.sockets.lookup qd = none)
    (udp : Table.Within h.stack.udp.sockets h'.stack.udp.sockets)
    (noUdp : h'.stack.udp.sockets.lookup qd = none) : h'.Booked := by
  have left {q : QDesc} (different : q ≠ qd) : h'.stack.fileTable.lookup q = h.stack.fileTable.lookup q := by
    rw [fileTable, Table.lookup_erase, if_neg different]
  refine ⟨fun q known => ?_, fun q known => ?_, fun task q booked => ?_,
    fun task task' q booked booked' => ?_⟩
  · have different : q ≠ qd := by
      rintro rfl
      rw [noTcp] at known
      cases known
    exact (left different).trans (tcp.forall h₀.tcp q known)
  · have different : q ≠ qd := by
      rintro rfl
      rw [noUdp] at known
      cases known
    exact (left different).trans (udp.forall h₀.udp q known)
  · have different : q ≠ qd := fun same => unbooked task (same ▸ booked)
    obtain ⟨found, free⟩ := h₀.accepts task q (books task q booked)
    exact ⟨(left different).trans found, tcp q free⟩
  · exact h₀.apart task task' q (books task q booked) (books task' q booked')

/-! ### Socket calls -/

/-- A socket gets a free descriptor. -/
theorem Booked.socket (free : ∀ table : IoQueueTable, table.lookup (env.alloc table) = none) (h₀ : h.Booked)
    (domain socketType protocol : Int) :
    Booked { h with stack := (h.stack.socket env.alloc domain socketType protocol).2 } := by
  have new := free h.stack.fileTable
  obtain ⟨noTcp, noUdp, noBooking⟩ := h₀.unknown new
  unfold InetStack.socket
  split
  · exact h₀
  split
  · simp only [TcpPeer.doSocket, noTcp]
    refine ⟨fun q known => ?_, fun q known => ?_, fun task q booked => ?_, h₀.apart⟩
    · exact Table.kind_insert h₀.tcp _ q known
    · exact Table.lookup_insert_of_some new (h₀.udp q known)
    · have different : q ≠ env.alloc h.stack.fileTable := fun same => noBooking task (same ▸ booked)
      obtain ⟨found, absent⟩ := h₀.accepts task q booked
      refine ⟨Table.lookup_insert_of_some new found, ?_⟩
      dsimp only
      rw [Table.lookup_insert, if_neg different, absent]
  split
  · simp only [UdpPeer.doSocket, noUdp]
    refine ⟨fun q known => ?_, fun q known => ?_, fun task q booked => ?_, h₀.apart⟩
    · exact Table.lookup_insert_of_some new (h₀.tcp q known)
    · exact Table.kind_insert h₀.udp _ q known
    · obtain ⟨found, absent⟩ := h₀.accepts task q booked
      exact ⟨Table.lookup_insert_of_some new found, absent⟩
  · exact h₀

/-- **`socket` never finds its descriptor in use.** -/
theorem Booked.socket_ok_iff (free : ∀ table : IoQueueTable, table.lookup (env.alloc table) = none)
    (h₀ : h.Booked) (domain socketType protocol : Int) :
    (∃ qd, (h.stack.socket env.alloc domain socketType protocol).1 = .ok qd) ↔
      domain = AF_INET ∧ (socketType = SOCK_STREAM ∨ socketType = SOCK_DGRAM) := by
  obtain ⟨noTcp, noUdp, -⟩ := h₀.unknown (free h.stack.fileTable)
  unfold InetStack.socket
  split
  next other =>
    refine iff_of_false ?_ fun right => other right.1
    rintro ⟨qd, made⟩
    cases made
  next inet =>
  split
  next stream =>
    simp only [TcpPeer.doSocket, noTcp]
    exact iff_of_true ⟨_, rfl⟩ ⟨not_not.mp inet, .inl stream⟩
  next notStream =>
  split
  next dgram =>
    simp only [UdpPeer.doSocket, noUdp]
    exact iff_of_true ⟨_, rfl⟩ ⟨not_not.mp inet, .inr dgram⟩
  next notDgram =>
    refine iff_of_false ?_ fun right => right.2.elim notStream notDgram
    rintro ⟨qd, made⟩
    cases made

theorem Booked.accept (free : ∀ table : IoQueueTable, table.lookup (env.alloc table) = none)
    (h₀ : h.Booked) (qd : QDesc) :
    Booked { h with stack := (h.stack.accept env.alloc env.intoRaw qd).2 } := by
  unfold InetStack.accept
  split
  · exact h₀.accepted (free h.stack.fileTable) rfl rfl rfl rfl rfl
  · exact h₀
  · exact h₀

/-- The descriptor of a socket is freed when its peer has closed it, and no future has booked it. -/
theorem Booked.close {now : Instant} {result : Except Fail Unit} {stack : InetStack} (h₀ : h.Booked)
    (ran : h.stack.close qd now = .ok (result, stack)) : Booked { h with stack := stack } := by
  unfold InetStack.close at ran
  dsimp only at ran
  split at ran
  next kind =>
    obtain ⟨⟨closed, peer⟩, made, ran⟩ := bind_eq_ok.mp ran
    obtain ⟨sockets, had⟩ := TcpPeer.doClose_sockets made
    have fewer : Table.Within h.stack.tcp.sockets peer.sockets := sockets ▸ .erase _ _
    cases closed with
    | error fail =>
      cases ran
      exact h₀.of_within rfl (fun _ _ booked => booked) fewer (.of_eq rfl)
    | ok done =>
      cases ran
      refine h₀.freed rfl (fun _ _ booked => booked) (fun task booked => ?_) fewer ?_ (.of_eq rfl)
        (h₀.no_udp kind nofun)
      · have known := had rfl
        rw [(h₀.accepts task qd booked).2] at known
        cases known
      · exact sockets ▸ AList.lookup_erase _ _
  next kind =>
    obtain ⟨sockets, had⟩ := h.stack.udp.doClose_sockets qd
    have fewer : Table.Within h.stack.udp.sockets (h.stack.udp.doClose qd).2.sockets := sockets ▸ .erase _ _
    cases closed : (h.stack.udp.doClose qd).1 with
    | error fail =>
      simp only [closed, bind, Except.bind] at ran
      cases ran
      exact h₀.of_within rfl (fun _ _ booked => booked) (.of_eq rfl) fewer
    | ok done =>
      simp only [closed, bind, Except.bind] at ran
      cases ran
      refine h₀.freed rfl (fun _ _ booked => booked) (fun task booked => ?_) (.of_eq rfl)
        (h₀.no_tcp kind nofun) fewer ?_
      · cases kind.symm.trans (h₀.accepts task qd booked).1
      · exact sockets ▸ AList.lookup_erase _ _
  next unknown =>
    cases ran
    exact h₀

/-- No other call opens a descriptor of TCP. -/
theorem tcpEvent_opens {call : StackCall} {ev : Tcp.PeerEvent} (other : call.changesTable = false)
    (told : h.tcpEvent env (.call call) = some ev) : ev.opens = false := by
  have sends {qd : QDesc} {buf : Buffer} {now : Instant} (told : h.sendEvent qd buf now = some ev) :
      ev.opens = false := by
    unfold sendEvent at told
    split at told
    · cases told
      rfl
    · cases told
  unfold tcpEvent at told
  cases call with
  | socket domain socketType protocol => cases other
  | accept qd => cases other
  | close qd now => cases other
  | bind qd localAddr =>
    dsimp only at told
    split at told
    · cases told
      rfl
    · cases told
  | listen qd backlog nonce =>
    dsimp only at told
    split at told
    · split at told
      · cases told
      · cases told
        rfl
    · cases told
  | connect qd remoteAddr =>
    dsimp only at told
    split at told
    · cases told
      rfl
    · cases told
  | doPush qd buf now => exact sends told
  | push2 qd data now =>
    dsimp only at told
    split at told
    · cases told
    · exact sends told
  | doPushto qd buf remoteAddr now => cases told
  | pushto2 qd data remoteAddr now => cases told
  | pop qd => cases told

/-- No other call opens a descriptor of UDP. -/
theorem udpEvent_opens {call : StackCall} {ev : Udp.PeerEvent} (other : call.changesTable = false)
    (told : h.udpEvent env (.call call) = some ev) (q : QDesc) : ev ≠ .socket q := by
  have pushes {qd : QDesc} {buf : Buffer} {remoteAddr : SocketAddrV4} {now : Instant}
      (told : h.pushtoEvent qd buf remoteAddr now = some ev) : ev ≠ .socket q := by
    unfold pushtoEvent at told
    split at told
    · cases told
      exact fun same => by cases same
    · cases told
  unfold udpEvent at told
  cases call with
  | socket domain socketType protocol => cases other
  | accept qd => cases other
  | close qd now => cases other
  | bind qd localAddr =>
    dsimp only at told
    split at told
    · cases told
      exact fun same => by cases same
    · cases told
  | listen qd backlog nonce => cases told
  | connect qd remoteAddr => cases told
  | doPush qd buf now => cases told
  | push2 qd data now => cases told
  | doPushto qd buf remoteAddr now => exact pushes told
  | pushto2 qd data remoteAddr now =>
    dsimp only at told
    split at told
    · cases told
    · exact pushes told
  | pop qd => cases told

theorem Booked.call (free : ∀ table : IoQueueTable, table.lookup (env.alloc table) = none) (h₀ : h.Booked)
    {call : StackCall} {stack : InetStack}
    (ran : h.stack.step env.overflowChecks env.alloc env.intoRaw env.crc call = .ok stack) :
    Booked { h with stack := stack } := by
  cases changes : call.changesTable with
  | true =>
    cases call with
    | socket domain socketType protocol =>
      cases ran
      exact h₀.socket free domain socketType protocol
    | accept qd =>
      cases ran
      exact h₀.accept free qd
    | close qd now =>
      simp only [InetStack.step] at ran
      obtain ⟨⟨result, s⟩, called, rfl⟩ := Network.map_eq_ok.mp ran
      exact h₀.close called
    | _ => cases changes
  | false =>
    have leaves := InetStack.step_leaves changes ran
    have steps := call_steps ran
    refine h₀.of_within leaves.fileTable ?_ ?_ ?_
    · rintro task q ⟨⟨qd, found⟩, state⟩
      exact ⟨⟨qd, leaves.accepts task qd q found⟩, state⟩
    · obtain ⟨accepted, moved⟩ := steps.tcp ∅
      cases told : h.tcpEvent env (.call call) with
      | none =>
        rw [told] at moved
        exact .of_eq (congrArg (·.peer.sockets) (Except.ok.inj moved)).symm
      | some ev =>
        rw [told] at moved
        exact PeerRun.step_within (tcpEvent_opens changes told) moved
    · have moved := steps.udp
      cases told : h.udpEvent env (.call call) with
      | none =>
        rw [told] at moved
        exact .of_eq (congrArg (·.sockets) (Except.ok.inj moved)).symm
      | some ev =>
        rw [told] at moved
        exact UdpPeer.step_within (udpEvent_opens changes told) moved

/-! ### Futures -/

/-- A future that completes books no more than it did while it was pending. -/
theorem books_of_completed {task t : Nat} {q : QDesc} {result : OperationResult}
    (pending : h.completed.lookup task = none) (scheduled : h'.stack.scheduled = h.stack.scheduled)
    (completed : h'.completed = h.completed.insert task (.ready result)) (booked : h'.Books t q) :
    h.Books t q := by
  obtain ⟨⟨qd, found⟩, state⟩ := booked
  refine ⟨⟨qd, scheduled ▸ found⟩, ?_⟩
  rw [completed, Table.lookup_insert] at state
  split at state
  next same =>
    rw [same]
    exact .inl pending
  next => exact state

/-- An accept that has a socket, and one whose result has been taken, books nothing. -/
theorem books_of_done {task t : Nat} {q : QDesc} {done : Completed} (booked : h'.Books t q)
    (ended : ∀ fail, done ≠ .ready (.failed fail)) (scheduled : h'.stack.scheduled = h.stack.scheduled)
    (completed : h'.completed = h.completed.insert task done) : h.Books t q ∧ t ≠ task := by
  obtain ⟨⟨qd, found⟩, state⟩ := booked
  rw [completed, Table.lookup_insert] at state
  split at state
  next =>
    rcases state with pending | ⟨fail, failed⟩
    · cases pending
    · exact (ended fail (Option.some.inj failed)).elim
  next other => exact ⟨⟨⟨qd, scheduled ▸ found⟩, state⟩, other⟩

/-- A poll of a future other than an accept opens no descriptor. -/
theorem pollFuture_within {s stack : InetStack} {future : FutureOperation} {now : Instant}
    {result : Option OperationResult} (other : ∀ qd newQd, future ≠ .accept qd newQd)
    (ran : s.pollFuture now future = .ok (result, stack)) :
    Table.Within s.tcp.sockets stack.tcp.sockets := by
  cases future with
  | accept qd newQd => exact (other qd newQd rfl).elim
  | connect qd =>
    obtain ⟨⟨answer, tcp⟩, polled, ran⟩ := bind_eq_ok.mp ran
    cases ran
    exact TcpPeer.pollConnectFinished_within polled
  | push qd err =>
    cases err with
    | none =>
      cases ran
      exact .of_eq rfl
    | some fail =>
      cases ran
      exact .of_eq rfl
  | pop qd =>
    obtain ⟨⟨answer, tcp⟩, polled, ran⟩ := bind_eq_ok.mp ran
    cases ran
    exact .of_eq (TcpPeer.Kept.pollRecv polled).sockets
  | udpPushto qd answer =>
    cases ran
    exact .of_eq rfl
  | udpPop queue =>
    cases ran
    exact .of_eq rfl

/-- A poll of a future reaches neither the descriptors nor what is scheduled. -/
theorem pollFuture_same {s stack : InetStack} {future : FutureOperation} {now : Instant}
    {result : Option OperationResult} (ran : s.pollFuture now future = .ok (result, stack)) :
    stack.fileTable = s.fileTable ∧ stack.scheduled = s.scheduled ∧ stack.udp = s.udp := by
  cases future with
  | accept qd newQd =>
    obtain ⟨answer, -, ran⟩ := bind_eq_ok.mp ran
    cases ran
    exact ⟨rfl, rfl, rfl⟩
  | connect qd =>
    obtain ⟨answer, -, ran⟩ := bind_eq_ok.mp ran
    cases ran
    exact ⟨rfl, rfl, rfl⟩
  | push qd err =>
    cases err with
    | none =>
      cases ran
      exact ⟨rfl, rfl, rfl⟩
    | some fail =>
      cases ran
      exact ⟨rfl, rfl, rfl⟩
  | pop qd =>
    obtain ⟨answer, -, ran⟩ := bind_eq_ok.mp ran
    cases ran
    exact ⟨rfl, rfl, rfl⟩
  | udpPushto qd answer =>
    cases ran
    exact ⟨rfl, rfl, rfl⟩
  | udpPop queue =>
    cases ran
    exact ⟨rfl, rfl, rfl⟩

/-- An accept that returns has its socket under the descriptor it has booked. -/
theorem Booked.entered {task : Nat} {socket : Tcp.Socket} {result : OperationResult} (h₀ : h.Booked)
    (booked : h.Books task newQd) (ended : ∀ fail, result ≠ .failed fail)
    (fileTable : h'.stack.fileTable = h.stack.fileTable)
    (scheduled : h'.stack.scheduled = h.stack.scheduled)
    (completed : h'.completed = h.completed.insert task (.ready result))
    (tcp : h'.stack.tcp.sockets = h.stack.tcp.sockets.insert newQd socket)
    (udp : h'.stack.udp = h.stack.udp) : h'.Booked := by
  have done (fail : Fail) : Completed.ready result ≠ .ready (.failed fail) := fun same =>
    ended fail (Completed.ready.inj same)
  refine ⟨fun q known => ?_, fun q known => ?_, fun t q booked' => ?_, fun t t' q booked booked' => ?_⟩
  · rw [fileTable]
    rw [tcp, Table.lookup_insert] at known
    split at known
    next same => exact same ▸ (h₀.accepts task newQd booked).1
    next => exact h₀.tcp q known
  · rw [fileTable]
    exact h₀.udp q (udp ▸ known)
  · obtain ⟨older, different⟩ := books_of_done booked' done scheduled completed
    obtain ⟨found, free⟩ := h₀.accepts t q older
    have other : q ≠ newQd := by
      rintro rfl
      exact different (h₀.apart t task q older booked)
    rw [fileTable, tcp, Table.lookup_insert, if_neg other]
    exact ⟨found, free⟩
  · exact h₀.apart t t' q (books_of_done booked done scheduled completed).1
      (books_of_done booked' done scheduled completed).1

theorem Booked.pollFuture {task : Nat} {now : Instant} (h₀ : h.Booked)
    (homed : ∀ addr s, h.stack.tcp.passive.lookup addr = some s → s.Homed addr)
    (ran : h.pollFuture task now = .ok h') : h'.Booked := by
  unfold Host.pollFuture at ran
  split at ran
  next future scheduled pending =>
    obtain ⟨⟨result, stack⟩, polled, ran⟩ := bind_eq_ok.mp ran
    obtain ⟨fileTable, same, udp⟩ := pollFuture_same polled
    -- whatever has become of the future, it books no more than before
    have goesOn (within : Table.Within h.stack.tcp.sockets stack.tcp.sockets) : h'.Booked := by
      cases result with
      | none =>
        cases ran
        refine h₀.of_within fileTable (fun t q booked => ?_) within (.of_eq (congrArg (·.sockets) udp))
        obtain ⟨⟨qd, found⟩, state⟩ := booked
        exact ⟨⟨qd, same ▸ found⟩, state⟩
      | some result =>
        cases ran
        exact h₀.of_within fileTable (fun t q booked => books_of_completed pending same rfl booked) within
          (.of_eq (congrArg (·.sockets) udp))
    cases future with
    | accept qd newQd =>
      obtain ⟨⟨answer, tcp⟩, accepted, polled⟩ := bind_eq_ok.mp polled
      cases polled
      rcases TcpPeer.pollAccept_sockets homed accepted with ⟨-, kept⟩ | ⟨rfl, socket, entered⟩
      · exact goesOn (.of_eq kept)
      · cases ran
        exact h₀.entered ⟨⟨qd, scheduled⟩, .inl pending⟩ (fun _ failed => by cases failed) rfl rfl rfl
          entered rfl
    | connect qd => exact goesOn (pollFuture_within (fun _ _ same => by cases same) polled)
    | push qd err => exact goesOn (pollFuture_within (fun _ _ same => by cases same) polled)
    | pop qd => exact goesOn (pollFuture_within (fun _ _ same => by cases same) polled)
    | udpPushto qd answer => exact goesOn (pollFuture_within (fun _ _ same => by cases same) polled)
    | udpPop queue => exact goesOn (pollFuture_within (fun _ _ same => by cases same) polled)
  next =>
    cases ran
    exact h₀

/-- The descriptor of an accept that failed is freed with its result. -/
theorem Booked.takeOperation (h₀ : h.Booked) (task : Nat) : (h.takeOperation task).2.Booked := by
  have taken {t : Nat} {q : QDesc} {host : Host} (booked : host.Books t q)
      (scheduled : host.stack.scheduled = h.stack.scheduled)
      (completed : host.completed = h.completed.insert task .taken) : h.Books t q ∧ t ≠ task :=
    books_of_done booked (fun _ same => by cases same) scheduled completed
  unfold Host.takeOperation
  split
  next future result scheduled ready =>
    have rest {host : Host} (stack : host.stack = h.stack)
        (completed : host.completed = h.completed.insert task .taken) : host.Booked :=
      h₀.of_within (stack ▸ rfl) (fun t q booked => (taken booked (stack ▸ rfl) completed).1)
        (.of_eq (stack ▸ rfl)) (.of_eq (stack ▸ rfl))
    dsimp only
    split
    next qd newQd fail =>
      have booked : h.Books task newQd := ⟨⟨qd, scheduled⟩, .inr ⟨fail, ready⟩⟩
      obtain ⟨kind, noTcp⟩ := h₀.accepts task newQd booked
      refine h₀.freed rfl (fun t q books => (taken books rfl rfl).1) (fun t books => ?_)
        (.of_eq rfl) noTcp (.of_eq rfl) (h₀.no_udp kind nofun)
      obtain ⟨older, different⟩ := taken books rfl rfl
      exact different (h₀.apart t task newQd older booked)
    all_goals exact rest rfl rfl
  next => exact h₀

/-! ### Runs -/

/-- What every event and every frame keeps. -/
structure Tended (h : Host) : Prop where
  peer : ∃ accepted, PeerRun.Orderly ⟨h.stack.tcp, accepted⟩
  queued : h.stack.udp.Queued
  booked : h.Booked

theorem Tended.step (free : ∀ table : IoQueueTable, table.lookup (env.alloc table) = none) (tended : h.Tended)
    {event : HostEvent} (ran : h.step env event = .ok h') : h'.Tended := by
  have steps := step_steps ran
  obtain ⟨accepted, orderly⟩ := tended.peer
  obtain ⟨accepted', moved⟩ := steps.tcp accepted
  refine ⟨⟨accepted', Machine.keeps_stepOption PeerRun.step_orderly orderly moved⟩,
    Machine.keeps_stepOption UdpPeer.step_queued tended.queued steps.udp, ?_⟩
  cases event with
  | call call =>
    obtain ⟨stack, called, ran⟩ := bind_eq_ok.mp ran
    cases ran
    exact tended.booked.call free called
  | pollFuture task now => exact tended.booked.pollFuture orderly.sound.homed ran
  | takeOperation task =>
    cases ran
    exact tended.booked.takeOperation task
  | arp task =>
    obtain ⟨arp, stepped, ran⟩ := bind_eq_ok.mp ran
    cases ran
    exact tended.booked.of_within rfl (fun _ _ booked => booked) (.of_eq rfl) (.of_eq rfl)
  | icmpv4 task =>
    obtain ⟨icmpv4, stepped, ran⟩ := bind_eq_ok.mp ran
    cases ran
    exact tended.booked.of_within rfl (fun _ _ booked => booked) (.of_eq rfl) (.of_eq rfl)
  | udp task =>
    obtain ⟨udp, stepped, ran⟩ := bind_eq_ok.mp ran
    cases ran
    refine tended.booked.of_within rfl (fun _ _ booked => booked) (.of_eq rfl) ?_
    refine UdpPeer.step_within (fun qd same => ?_) stepped
    cases task with
    | pollPop localAddr => cases same
    | sender reply => cases same
  | tcp task =>
    obtain ⟨tcp, stepped, ran⟩ := bind_eq_ok.mp ran
    cases ran
    refine tended.booked.of_within rfl (fun _ _ booked => booked) ?_ (.of_eq rfl)
    have steps : PeerRun.step env.eof env.crc env.fallbackMss ⟨h.stack.tcp, ∅⟩ (h.taskEvent task) =
        .ok ⟨tcp, ∅⟩ := stepTcp_steps stepped ∅
    refine PeerRun.step_within ?_ steps
    cases task with
    | retryConnect key poll => rfl
    | retryAccept localAddr remoteAddr poll => rfl
    | background key call now => rfl

theorem Tended.arrive {bytes : Buffer} {now : Instant} (tended : h.Tended)
    (ran : h.arrive env bytes now = .ok h') : h'.Tended := by
  cases arrive_arrives ran with
  | ignored => exact tended
  | arp read etherType stepped =>
    exact ⟨tended.peer, tended.queued,
      tended.booked.of_within rfl (fun _ _ booked => booked) (.of_eq rfl) (.of_eq rfl)⟩
  | icmpv4 carries protocol stepped =>
    exact ⟨tended.peer, tended.queued,
      tended.booked.of_within rfl (fun _ _ booked => booked) (.of_eq rfl) (.of_eq rfl)⟩
  | udp carries protocol stepped =>
    refine ⟨tended.peer, UdpPeer.step_queued tended.queued stepped, ?_⟩
    exact tended.booked.of_within rfl (fun _ _ booked => booked) (.of_eq rfl)
      (UdpPeer.step_within (fun _ same => by cases same) stepped)
  | tcp carries protocol stepped =>
    obtain ⟨accepted, orderly⟩ := tended.peer
    refine ⟨⟨accepted, PeerRun.step_orderly orderly (stepped accepted)⟩, tended.queued, ?_⟩
    exact tended.booked.of_within rfl (fun _ _ booked => booked)
      (PeerRun.step_within rfl (stepped ∅)) (.of_eq rfl)

theorem Tended.input (free : ∀ table : IoQueueTable, table.lookup (env.alloc table) = none)
    (tended : h.Tended) {input : HostInput} (ran : h.input env input = .ok h') : h'.Tended := by
  cases input with
  | event event => exact tended.step free ran
  | frame bytes now => exact tended.arrive ran

theorem tended_new {setup : Setup} (perm : ∀ l, (setup.shuffle l).Perm l)
    (made : Host.new setup = .ok h) : h.Tended := by
  obtain ⟨stack, madeStack, eq⟩ := bind_eq_ok.mp made
  cases eq
  obtain ⟨arp, -, eq⟩ := bind_eq_ok.mp madeStack
  cases eq
  refine ⟨⟨∅, PeerRun.start_orderly perm setup.nonce setup.rt setup.localIpv4Addr⟩,
    fun _ _ found => (by cases found), ?_⟩
  refine ⟨fun _ known => (by cases known), fun _ known => (by cases known), ?_, ?_⟩
  · rintro task qd ⟨⟨listener, found⟩, -⟩
    cases found
  · rintro task task' qd ⟨⟨listener, found⟩, -⟩
    cases found

/-- A poll of a future returns. -/
theorem Tended.pollFuture_returns (tended : h.Tended) (task : Nat) (now : Instant) :
    ∃ h', h.pollFuture task now = .ok h' := by
  obtain ⟨accepted, orderly⟩ := tended.peer
  unfold Host.pollFuture
  split
  next future scheduled pending =>
    suffices polls : ∃ r, h.stack.pollFuture now future = .ok r by
      obtain ⟨⟨result, stack⟩, polled⟩ := polls
      simp only [polled, bind, Except.bind]
      cases result with
      | none => exact ⟨_, rfl⟩
      | some result => exact ⟨_, rfl⟩
    cases future with
    | accept qd newQd =>
      have free := (tended.booked.accepts task newQd ⟨⟨qd, scheduled⟩, .inl pending⟩).2
      exact bind_returns_iff.mpr (orderly.pollAccept_returns free)
    | connect qd => exact bind_returns_iff.mpr (orderly.pollConnectFinished_returns qd)
    | push qd err =>
      cases err with
      | none => exact ⟨_, rfl⟩
      | some fail => exact ⟨_, rfl⟩
    | pop qd => exact bind_returns_iff.mpr (h.stack.tcp.pollRecv_returns qd (h.stack.envFor qd now))
    | udpPushto qd answer => exact ⟨_, rfl⟩
    | udpPop queue => exact ⟨_, rfl⟩
  next => exact ⟨_, rfl⟩

/-- A read from a UDP socket returns. -/
theorem Tended.pollPop_returns (tended : h.Tended) (localAddr : SocketAddrV4) :
    ∃ h', h.step env (.udp (.pollPop localAddr)) = .ok h' := by
  refine bind_returns_iff.mpr (bind_returns_iff.mpr ?_)
  unfold UdpPeer.pollPop
  split
  · exact ⟨_, rfl⟩
  next queue known =>
    refine bind_returns_iff.mpr ?_
    unfold Udp.SharedQueue.tryPop
    rw [(tended.queued localAddr queue known).2]
    simp only [Bool.false_eq_true, if_false]
    split
    · exact ⟨_, rfl⟩
    · exact ⟨_, rfl⟩

/-- **The tables of descriptors agree** in every state a host can reach, if the runtime gives out descriptors
that are free in its own table: each socket of either peer has an entry of its type, each accept that is
pending has a descriptor of its own that is booked and not yet opened, and `socket` fails for an address
family and a type it does not know, and never because its descriptor is in use. -/
theorem descriptors_agree (env : Platform)
    (free : ∀ table : IoQueueTable, table.lookup (env.alloc table) = none)
    (setup : Setup) (perm : ∀ l, (setup.shuffle l).Perm l) {h₀ h : Host}
    (made : Host.new setup = .ok h₀) (inputs : List HostInput)
    (ran : Machine.run (Host.input env) h₀ inputs = .ok h) :
    h.Booked ∧ ∀ domain socketType protocol,
      (∃ qd, (h.stack.socket env.alloc domain socketType protocol).1 = .ok qd) ↔
        domain = AF_INET ∧ (socketType = SOCK_STREAM ∨ socketType = SOCK_DGRAM) := by
  have tended := Machine.invariant Tended (fun tended => tended.input free) (tended_new perm made) ran
  exact ⟨tended.booked, tended.booked.socket_ok_iff free⟩

/-- The lowest descriptor that is not open is not open. -/
theorem lookup_sampleAlloc (table : IoQueueTable) : table.lookup (InetStack.sampleAlloc table) = none := by
  unfold InetStack.sampleAlloc
  cases found : (List.range (table.entries.length + 1)).find? fun qd => (table.lookup qd).isNone with
  | some qd =>
    have closed := List.find?_some found
    exact Option.isNone_iff_eq_none.mp closed
  | none =>
    -- all of more descriptors than there are entries are open
    have subset : List.range (table.entries.length + 1) ⊆ table.keys := by
      intro qd member
      have known : ¬(table.lookup qd).isNone = true := List.find?_eq_none.mp found qd member
      refine AList.mem_keys.mp (AList.lookup_isSome.mp (Option.isSome_iff_ne_none.mpr fun absent => known ?_))
      rw [absent]
      rfl
    have fits := (List.nodup_range.subperm subset).length_le
    rw [List.length_range, Table.length_keys] at fits
    exact absurd fits (Nat.not_succ_le_self _)

/-- 10.0.0.1 listens on port 80, waits for a connection, and has a UDP socket. -/
def sampleListening : List HostInput :=
  [.event (.call (.socket AF_INET SOCK_STREAM 0)), .event (.call (.bind 0 ⟨0x0a000001, 80⟩)),
    .event (.call (.listen 0 1 0)), .event (.call (.accept 0)), .event (.pollFuture 0 0),
    .event (.call (.socket AF_INET SOCK_DGRAM 0))]

/-- The accept has booked descriptor 1. -/
theorem descriptors_agree_booked :
    ∃ h, Machine.run (input samplePlatform) (sampleHost 7 0x0a000001) sampleListening = .ok h ∧
      h.stack.fileTable.lookup 1 = some .tcpSocket ∧ h.stack.tcp.sockets.lookup 1 = none ∧
      h.stack.fileTable.lookup 2 = some .udpSocket ∧ h.Booked := by
  obtain ⟨h, ran, view⟩ := Machine.map_eq_ok
    (x := Machine.run (input samplePlatform) (sampleHost 7 0x0a000001) sampleListening)
    (fun h => (h.stack.fileTable.lookup 1, h.stack.tcp.sockets.lookup 1, h.stack.fileTable.lookup 2))
    (t := (some .tcpSocket, none, some .udpSocket)) (by decide +kernel)
  obtain ⟨booked, rest⟩ := Prod.mk.inj view
  obtain ⟨unopened, datagrams⟩ := Prod.mk.inj rest
  exact ⟨h, ran, booked, unopened, datagrams,
    (descriptors_agree samplePlatform lookup_sampleAlloc (InetStack.sampleSetup 7 0x0a000001)
      (fun _ => .refl _) (new_sampleHost 7 0x0a000001) sampleListening ran).1⟩

/-- **No poll of a future panics** in any state a host can reach. An accept finds its descriptor unused and
its connection not yet entered, a connect finds its connection not yet entered, and a read returns data,
waits or fails with an error. -/
theorem polls_return (env : Platform)
    (free : ∀ table : IoQueueTable, table.lookup (env.alloc table) = none)
    (setup : Setup) (perm : ∀ l, (setup.shuffle l).Perm l) {h₀ h : Host}
    (made : Host.new setup = .ok h₀) (inputs : List HostInput)
    (ran : Machine.run (Host.input env) h₀ inputs = .ok h) :
    (∀ task now, ∃ h', h.pollFuture task now = .ok h') ∧
      ∀ localAddr, ∃ h', h.step env (.udp (.pollPop localAddr)) = .ok h' := by
  have tended := Machine.invariant Tended (fun tended => tended.input free) (tended_new perm made) ran
  exact ⟨tended.pollFuture_returns, tended.pollPop_returns⟩

/-- The frame of a segment from port 90 of 10.0.0.2 to port 80 of 10.0.0.1. -/
def sampleFrame (header : Tcp.TcpHeader) : Buffer :=
  ((Message.tcp (Tcp.bareSegment ⟨9, Tcp.sampleConfig, []⟩ ⟨0x0a000002, 90⟩ ⟨0x0a000001, 80⟩ header
    7)).packet.frame.toOption).getD []

/-- A handshake with 10.0.0.2. -/
def sampleHandshake : List HostInput :=
  [.frame (sampleFrame { Tcp.TcpHeader.new 90 80 with syn := true, seqNum := ⟨7⟩ }) 0,
    .frame (sampleFrame { Tcp.TcpHeader.new 90 80 with ack := true, seqNum := ⟨8⟩, ackNum := ⟨501⟩ }) 0]

/-- The accept returns the connection. -/
theorem polls_return_accepted :
    ∃ h h', Machine.run (input samplePlatform) (sampleHost 7 0x0a000001)
        (sampleListening ++ sampleHandshake) = .ok h ∧
      h.pollFuture 0 0 = .ok h' ∧
      h'.stack.tcp.sockets.lookup 1 = some (.established ⟨0x0a000001, 80⟩ ⟨0x0a000002, 90⟩) := by
  obtain ⟨h, ran, view⟩ := Machine.map_eq_ok
    (x := Machine.run (input samplePlatform) (sampleHost 7 0x0a000001)
      (sampleListening ++ sampleHandshake))
    (fun h => (h.pollFuture 0 0).toOption.map fun h' => h'.stack.tcp.sockets.lookup 1)
    (t := some (some (.established ⟨0x0a000001, 80⟩ ⟨0x0a000002, 90⟩))) (by decide +kernel)
  obtain ⟨h', polled⟩ := (polls_return samplePlatform lookup_sampleAlloc
    (InetStack.sampleSetup 7 0x0a000001) (fun _ => .refl _) (new_sampleHost 7 0x0a000001)
    (sampleListening ++ sampleHandshake) ran).1 0 0
  rw [polled, Except.toOption, Option.map_some] at view
  exact ⟨h, h', ran, polled, Option.some.inj view⟩

end Host

end Inetstack
