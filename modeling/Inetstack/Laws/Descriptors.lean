import Inetstack.Lib.Network
import Inetstack.Laws.InetStack

/-!
# What opens a descriptor

A descriptor of TCP is opened by a call to `socket` and by an accept that returns, one of UDP by a call to
`socket`. Of the calls to the stack, `socket`, `accept` and `close` alone change its table of descriptors.
-/

namespace Inetstack

open Machine (bind_eq_ok)
open Tcp (Buffer Env Fail Instant PeerRun SocketAddrV4 TcpPeer)
open Udp (UdpPeer)

/-! ## What a peer opens -/

namespace Tcp

namespace TcpPeer

variable {p p' : TcpPeer} {qd newQd : QDesc} {env : Env}

/-- Binding adds no socket. -/
theorem bind_within (p : TcpPeer) (qd : QDesc) (addr : SocketAddrV4) :
    Table.Within p.sockets (p.bind qd addr).2.sockets := by
  unfold bind
  split
  · exact .of_eq rfl
  split
  · exact .of_eq rfl
  split
  next known => exact .insert known _
  · exact .of_eq rfl
  · exact .of_eq rfl

/-- Nor does listening. -/
theorem listen_within (p : TcpPeer) (qd : QDesc) (backlog : Nat) (nonce : UInt32) :
    Table.Within p.sockets (p.listen qd backlog nonce).2.sockets := by
  unfold listen
  split
  next known =>
    split
    · exact .of_eq rfl
    · exact .insert known _
  all_goals exact .of_eq rfl

/-- Nor does connecting. -/
theorem connect_within (crc : List UInt8 → UInt32) (p : TcpPeer) (qd : QDesc) (remoteAddr : SocketAddrV4) :
    Table.Within p.sockets (p.connect crc qd remoteAddr).2.sockets := by
  unfold connect
  split
  next known =>
    split
    · exact .of_eq rfl
    · exact .insert known _
  next known => exact .insert known _
  all_goals exact .of_eq rfl

/-- Nor does a poll of a connect future. -/
theorem pollConnectFinished_within {result : Option (Except Fail Unit)}
    (ran : p.pollConnectFinished qd = .ok (result, p')) : Table.Within p.sockets p'.sockets := by
  obtain ⟨-, rfl⟩ | ⟨localAddr, remoteAddr, known, ⟨-, rfl⟩ | ⟨e, -, rfl⟩⟩ := pollConnectFinished_cases ran
  · exact .of_eq rfl
  · exact .of_eq rfl
  · exact .insert known _

/-- A descriptor that is closed has no socket any more, and had one if `close` says so. -/
theorem doClose_sockets {result : Except Fail Unit} (ran : p.doClose qd env = .ok (result, p')) :
    p'.sockets = p.sockets.erase qd ∧ (result = .ok () → (p.sockets.lookup qd).isSome = true) := by
  unfold doClose at ran
  dsimp only at ran
  split at ran
  next known =>
    rw [known]
    split at ran
    next e _ =>
      obtain ⟨p'', ended, ran⟩ := bind_eq_ok.mp ran
      cases ran
      obtain ⟨e', -, ended⟩ := bind_eq_ok.mp ended
      cases ended
      exact ⟨rfl, fun _ => rfl⟩
    · cases ran
      exact ⟨rfl, fun _ => rfl⟩
  next known =>
    rw [known]
    cases ran
    exact ⟨rfl, fun _ => rfl⟩
  next unknown =>
    cases ran
    exact ⟨(Table.erase_of_none unknown).symm, fun closed => by cases closed⟩

/-- An accept enters its own descriptor, if it returns it. -/
theorem pollAccept_sockets {result : Option (Except Fail QDesc)}
    (homed : ∀ addr s, p.passive.lookup addr = some s → s.Homed addr)
    (ran : p.pollAccept qd newQd = .ok (result, p')) :
    (∀ other, result ≠ some (.ok other)) ∧ p'.sockets = p.sockets ∨
      result = some (.ok newQd) ∧ ∃ socket, p'.sockets = p.sockets.insert newQd socket := by
  obtain ⟨no, kept⟩ | ⟨_, _, _, _, e, taken, -, -, -, -, rfl⟩ := pollAccept_cases homed ran
  · exact .inl ⟨no, kept.sockets⟩
  · exact .inr ⟨taken, _, rfl⟩

end TcpPeer

/-- What opens a descriptor of TCP. -/
def PeerEvent.opens : PeerEvent → Bool
  | .socket _ | .accept _ _ => true
  | _ => false

/-- **No other event opens a descriptor.** -/
theorem PeerRun.step_within {eof : Fail} {crc : List UInt8 → UInt32} {fallbackMss : Nat} {r r' : PeerRun}
    {event : PeerEvent} (other : event.opens = false)
    (stepped : r.step eof crc fallbackMss event = .ok r') : Table.Within r.peer.sockets r'.peer.sockets := by
  cases event with
  | socket qd => cases other
  | accept qd newQd => cases other
  | bind qd addr =>
    cases stepped
    exact r.peer.bind_within qd addr
  | listen qd backlog nonce =>
    cases stepped
    exact r.peer.listen_within qd backlog nonce
  | connect qd remoteAddr =>
    cases stepped
    exact r.peer.connect_within crc qd remoteAddr
  | connectFinished qd =>
    obtain ⟨⟨result, peer⟩, ran, stepped⟩ := bind_eq_ok.mp stepped
    cases stepped
    exact TcpPeer.pollConnectFinished_within ran
  | close qd env =>
    obtain ⟨⟨result, peer⟩, ran, stepped⟩ := bind_eq_ok.mp stepped
    cases stepped
    exact (TcpPeer.doClose_sockets ran).1 ▸ .erase _ _
  | send qd buf env =>
    obtain ⟨⟨result, peer⟩, ran, stepped⟩ := bind_eq_ok.mp stepped
    cases stepped
    exact .of_eq (TcpPeer.Kept.send ran).sockets
  | recv qd env =>
    obtain ⟨⟨result, peer⟩, ran, stepped⟩ := bind_eq_ok.mp stepped
    cases stepped
    exact .of_eq (TcpPeer.Kept.pollRecv ran).sockets
  | receive ipHdr buf env =>
    obtain ⟨⟨result, peer⟩, ran, stepped⟩ := bind_eq_ok.mp stepped
    cases stepped
    exact .of_eq (TcpPeer.Kept.receive ran).sockets
  | retryConnect key poll =>
    cases stepped
    exact .of_eq (TcpPeer.Kept.retryConnect poll).sockets
  | retryAccept localAddr remoteAddr poll =>
    cases stepped
    exact .of_eq (TcpPeer.Kept.retryAccept poll).sockets
  | background key call env =>
    obtain ⟨peer, ran, stepped⟩ := bind_eq_ok.mp stepped
    cases stepped
    exact .of_eq (TcpPeer.Kept.background ran).sockets

end Tcp

namespace Udp.UdpPeer

variable {p p' : UdpPeer} {qd : QDesc}

/-- Binding adds no socket. -/
theorem doBind_within (p : UdpPeer) (qd : QDesc) (addr : SocketAddrV4) :
    Table.Within p.sockets (p.doBind qd addr).2.sockets := by
  have registered (q : UdpPeer) (addr : SocketAddrV4) :
      Table.Within q.sockets (q.register qd addr).2.sockets := by
    unfold register
    split
    next known => exact .insert known _
    · exact .of_eq rfl
  unfold doBind
  split
  · exact .of_eq rfl
  split
  · exact .of_eq rfl
  next got ports _ =>
    have within := registered { p with ephemeralPorts := ports } got
    split
    next same => exact same ▸ within
    next same =>
      rw [same] at within
      split
      · exact within
      · exact within

/-- A descriptor that is closed has no socket any more, and had one if `do_close` says so. -/
theorem doClose_sockets (p : UdpPeer) (qd : QDesc) :
    (p.doClose qd).2.sockets = p.sockets.erase qd ∧
      ((p.doClose qd).1 = .ok () → (p.sockets.lookup qd).isSome = true) := by
  unfold doClose
  split
  next unknown => exact ⟨(Table.erase_of_none unknown).symm, fun closed => by cases closed⟩
  next known =>
    rw [known]
    dsimp only
    split
    · exact ⟨rfl, fun _ => rfl⟩
    split
    · exact ⟨rfl, fun _ => rfl⟩
    · exact ⟨rfl, fun _ => rfl⟩

/-- **No event but `do_socket` opens a descriptor.** -/
theorem step_within {event : PeerEvent} (other : ∀ qd, event ≠ .socket qd)
    (stepped : p.step event = .ok p') : Table.Within p.sockets p'.sockets := by
  cases event with
  | socket qd => exact (other qd rfl).elim
  | bind qd addr =>
    cases stepped
    exact p.doBind_within qd addr
  | close qd =>
    cases stepped
    exact (p.doClose_sockets qd).1 ▸ .erase _ _
  | pushto qd data remoteAddr env =>
    obtain ⟨⟨result, peer⟩, ran, stepped⟩ := bind_eq_ok.mp stepped
    cases stepped
    exact .of_eq (Kept.doPushto ran).sockets
  | pop qd =>
    obtain ⟨queue, -, stepped⟩ := bind_eq_ok.mp stepped
    cases stepped
    exact .of_eq rfl
  | pollPop addr =>
    obtain ⟨⟨result, peer⟩, ran, stepped⟩ := bind_eq_ok.mp stepped
    cases stepped
    exact .of_eq (Kept.pollPop ran).sockets
  | receive ipv4Hdr buf =>
    obtain ⟨⟨result, peer⟩, ran, stepped⟩ := bind_eq_ok.mp stepped
    cases stepped
    exact .of_eq (Kept.doReceive ran).sockets
  | sender reply =>
    cases stepped
    exact .of_eq (Kept.senderPoll p reply).sockets

end Udp.UdpPeer

/-! ## Socket calls -/

/-- What changes the table of descriptors. -/
def StackCall.changesTable : StackCall → Bool
  | .socket _ _ _ | .accept _ | .close _ _ => true
  | _ => false

namespace InetStack

variable {overflowChecks : Bool} {alloc : IoQueueTable → QDesc} {intoRaw : List FutureOperation → QToken}
  {crc : List UInt8 → UInt32} {s s' : InetStack} {future : FutureOperation}

/-- The table of descriptors stays, and nothing new is to be accepted. -/
structure Leaves (s s' : InetStack) : Prop where
  fileTable : s'.fileTable = s.fileTable
  accepts : ∀ (task : Nat) qd newQd, s'.scheduled[task]? = some (.accept qd newQd) →
    s.scheduled[task]? = some (.accept qd newQd)

theorem Leaves.refl (s : InetStack) : Leaves s s := ⟨rfl, fun _ _ _ found => found⟩

/-- A stack with the same table and the same futures. -/
theorem Leaves.of_eq (fileTable : s'.fileTable = s.fileTable) (scheduled : s'.scheduled = s.scheduled) :
    Leaves s s' :=
  ⟨fileTable, fun _ _ _ found => scheduled ▸ found⟩

/-- A future that was found was there, or is the one that was scheduled. -/
theorem scheduled_cases {made : FutureOperation} {task : Nat}
    (found : (s.scheduled ++ [made])[task]? = some future) :
    s.scheduled[task]? = some future ∨ task = s.scheduled.length ∧ made = future := by
  rcases Nat.lt_or_ge task s.scheduled.length with inside | outside
  · rw [List.getElem?_append_left inside] at found
    exact .inl found
  · rw [List.getElem?_append_right outside] at found
    obtain ⟨bound, eq⟩ := List.getElem?_eq_some_iff.mp found
    have last : task - s.scheduled.length = 0 := Nat.lt_one_iff.mp bound
    refine .inr ⟨by omega, ?_⟩
    simpa only [last, List.getElem_cons_zero] using eq

/-- A future that is no accept is scheduled. -/
theorem Leaves.schedule {made : InetStack} (h : Leaves s made) (fileTable : s'.fileTable = made.fileTable)
    (scheduled : s'.scheduled = made.scheduled ++ [future])
    (other : ∀ qd newQd, future ≠ .accept qd newQd) : Leaves s s' := by
  refine ⟨fileTable.trans h.fileTable, fun task qd newQd found => ?_⟩
  rw [scheduled] at found
  rcases scheduled_cases found with older | ⟨-, rfl⟩
  · exact h.accepts task qd newQd older
  · exact (other qd newQd rfl).elim

/-- A push leaves the table alone, and the future it makes accepts nothing. -/
theorem doPush_leaves {qd : QDesc} {buf : Buffer} {now : Instant}
    {made : Except Fail FutureOperation × InetStack} (ran : s.doPush qd buf now = .ok made) :
    Leaves s made.2 ∧ ∀ future, made.1 = .ok future → ∀ qd newQd, future ≠ .accept qd newQd := by
  unfold doPush at ran
  split at ran
  · obtain ⟨⟨result, tcp⟩, -, ran⟩ := bind_eq_ok.mp ran
    cases ran
    refine ⟨.of_eq rfl rfl, fun future made => ?_⟩
    cases made
    exact fun _ _ same => by cases same
  · cases ran
    exact ⟨.of_eq rfl rfl, fun _ made => by cases made⟩
  · cases ran
    exact ⟨.of_eq rfl rfl, fun _ made => by cases made⟩

/-- So does a push to an address. -/
theorem doPushto_leaves {qd : QDesc} {buf : Buffer} {remoteAddr : SocketAddrV4} {now : Instant}
    {made : Except Fail FutureOperation × InetStack}
    (ran : s.doPushto overflowChecks qd buf remoteAddr now = .ok made) :
    Leaves s made.2 ∧ ∀ future, made.1 = .ok future → ∀ qd newQd, future ≠ .accept qd newQd := by
  unfold doPushto at ran
  split at ran
  · obtain ⟨⟨result, udp⟩, -, ran⟩ := bind_eq_ok.mp ran
    obtain ⟨frames, -, ran⟩ := bind_eq_ok.mp ran
    cases ran
    refine ⟨.of_eq rfl rfl, fun future made => ?_⟩
    cases made
    exact fun _ _ same => by cases same
  · cases ran
    exact ⟨.of_eq rfl rfl, fun _ made => by cases made⟩
  · cases ran
    exact ⟨.of_eq rfl rfl, fun _ made => by cases made⟩

/-- A future that accepts nothing is scheduled. -/
theorem issue_leaves {made : Except Fail FutureOperation × InetStack}
    (h : Leaves s made.2 ∧ ∀ future, made.1 = .ok future → ∀ qd newQd, future ≠ .accept qd newQd) :
    Leaves s (issue intoRaw made).2 := by
  obtain ⟨result, s'⟩ := made
  cases result with
  | error fail => exact h.1
  | ok future => exact h.1.schedule rfl rfl (h.2 future rfl)

/-- **Only three calls change the table of descriptors.** -/
theorem step_leaves {call : StackCall} (other : call.changesTable = false)
    (ran : s.step overflowChecks alloc intoRaw crc call = .ok s') : Leaves s s' := by
  cases call with
  -- the calls that hand out or give up a descriptor are the other lemma's
  | socket domain socketType protocol => cases other
  | accept qd => cases other
  | close qd now => cases other
  | bind qd localAddr =>
    cases ran
    unfold bind
    split
    · exact .of_eq rfl rfl
    · exact .of_eq rfl rfl
    · exact .of_eq rfl rfl
  | listen qd backlog nonce =>
    cases ran
    unfold listen
    split
    · exact .of_eq rfl rfl
    split
    · exact .of_eq rfl rfl
    · exact .of_eq rfl rfl
    · exact .of_eq rfl rfl
  | connect qd remoteAddr =>
    simp only [step] at ran
    obtain ⟨⟨result, s⟩, called, rfl⟩ := Network.map_eq_ok.mp ran
    unfold connect at called
    split at called
    · dsimp only at called
      -- only the profile with checked sums can stop here
      split at called
      · cases called
      split at called
      · cases called
        exact .of_eq rfl rfl
      · cases called
        exact (Leaves.refl _).schedule rfl rfl fun _ _ same => by cases same
    · cases called
      exact .of_eq rfl rfl
    · cases called
      exact .of_eq rfl rfl
  | doPush qd buf now =>
    simp only [step] at ran
    obtain ⟨made, called, rfl⟩ := Network.map_eq_ok.mp ran
    exact (doPush_leaves called).1
  | push2 qd data now =>
    simp only [step] at ran
    obtain ⟨made, called, rfl⟩ := Network.map_eq_ok.mp ran
    unfold push2 at called
    split at called
    · cases called
      exact .of_eq rfl rfl
    · obtain ⟨pushed, made, issued⟩ := bind_eq_ok.mp called
      cases issued
      exact issue_leaves (doPush_leaves made)
  | doPushto qd buf remoteAddr now =>
    simp only [step] at ran
    obtain ⟨made, called, rfl⟩ := Network.map_eq_ok.mp ran
    exact (doPushto_leaves called).1
  | pushto2 qd data remoteAddr now =>
    simp only [step] at ran
    obtain ⟨made, called, rfl⟩ := Network.map_eq_ok.mp ran
    unfold pushto2 at called
    split at called
    · cases called
      exact .of_eq rfl rfl
    · obtain ⟨pushed, made, issued⟩ := bind_eq_ok.mp called
      cases issued
      exact issue_leaves (doPushto_leaves made)
  | pop qd =>
    simp only [step] at ran
    obtain ⟨made, called, rfl⟩ := Network.map_eq_ok.mp ran
    unfold pop at called
    split at called
    · cases called
      exact (Leaves.refl _).schedule rfl rfl fun _ _ same => by cases same
    · obtain ⟨queue, -, queued⟩ := bind_eq_ok.mp called
      cases queued
      exact (Leaves.refl _).schedule rfl rfl fun _ _ same => by cases same
    · cases called
      exact .of_eq rfl rfl

end InetStack

end Inetstack
