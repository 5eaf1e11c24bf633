import Inetstack.Laws.Tcp.ActiveOpen
import Inetstack.Laws.Tcp.Established.Addresses
import Inetstack.Laws.Tcp.Moves
import Inetstack.Laws.Tcp.Pending

/-!
# Where the connections of a peer come from

The control block of a handshake is a new one between the addresses of the handshake, on either side. It
waits in the connect attempt or in the accept queue as it is, so a connection enters the table of a peer
new, under its own addresses, and keeps them.
-/

namespace Inetstack.Tcp

open Machine (bind_eq_ok)

/-- A control block in which nothing has happened yet, between two addresses. -/
def ControlBlock.IsNew (key : SocketAddrV4 × SocketAddrV4) (cb : ControlBlock CongestionControl.None) :
    Prop :=
  ∃ o : Opening, (o.localAddr, o.remoteAddr) = key ∧ cb = o.block

/-- A new control block has the addresses of its handshake. -/
theorem ControlBlock.IsNew.addresses {key : SocketAddrV4 × SocketAddrV4}
    {cb : ControlBlock CongestionControl.None} (h : cb.IsNew key) : (cb.localAddr, cb.remoteAddr) = key := by
  obtain ⟨o, between, rfl⟩ := h
  exact between

/-- Its runtime does not matter. -/
theorem ControlBlock.IsNew.withRuntime {key : SocketAddrV4 × SocketAddrV4}
    {cb : ControlBlock CongestionControl.None} (h : cb.IsNew key) (rt : Runtime) :
    IsNew key { cb with rt := rt } := by
  obtain ⟨o, between, rfl⟩ := h
  exact ⟨{ o with rt := rt }, between, rfl⟩

/-! ## Connect attempts -/

namespace ActiveOpenSocket

variable {fallbackMss : Nat} {key : SocketAddrV4 × SocketAddrV4} {s s' : ActiveOpenSocket}

/-- A connect attempt between two addresses. -/
structure Opens (key : SocketAddrV4 × SocketAddrV4) (s : ActiveOpenSocket) : Prop where
  addresses : (s.localAddr, s.remoteAddr) = key
  result : ∀ cb, s.result = some (.ok cb) → cb.IsNew key

/-- A connect attempt that has just begun has no control block. -/
theorem Opens.new (localIsn : SeqNumber) (localAddr remoteAddr : SocketAddrV4) (rt : Runtime) :
    Opens (localAddr, remoteAddr) (new localIsn localAddr remoteAddr rt) :=
  ⟨rfl, fun _ same => by cases same⟩

theorem Opens.withRuntime (h : s.Opens key) (rt : Runtime) : Opens key { s with rt := rt } :=
  ⟨h.addresses, h.result⟩

/-- What a SYN+ACK completes is new. -/
theorem controlBlock_isNew {header : TcpHeader} {cb : ControlBlock CongestionControl.None}
    (built : s.controlBlock fallbackMss header = .ok cb) : cb.IsNew (s.localAddr, s.remoteAddr) := by
  unfold controlBlock at built
  dsimp only at built
  split at built
  · obtain ⟨rx, -, built⟩ := bind_eq_ok.mp built
    obtain ⟨tx, -, built⟩ := bind_eq_ok.mp built
    cases built
    exact ⟨⟨_, _, _, _, _, _, _, _, _, _, _⟩, rfl, rfl⟩
  · cases built

/-- **A segment for a connect attempt** completes it with what is new, or not at all. -/
theorem Opens.receive {env : Env} {header : TcpHeader} (h : s.Opens key)
    (ran : s.receive fallbackMss env header = .ok s') : s'.Opens key := by
  unfold ActiveOpenSocket.receive at ran
  dsimp only at ran
  split at ran
  · cases ran
    exact h
  split at ran
  · cases ran
    exact ⟨h.addresses, fun _ same => by cases same⟩
  split at ran
  · cases ran
    exact h
  split at ran
  · cases ran
  · obtain ⟨cb, built, ran⟩ := bind_eq_ok.mp ran
    cases ran
    refine ⟨h.addresses, fun cb' same => ?_⟩
    cases same
    have isNew := controlBlock_isNew built
    exact h.addresses ▸ isNew

theorem Opens.background (h : s.Opens key) (poll : RetryPoll) : (s.background poll).Opens key := by
  unfold ActiveOpenSocket.background
  dsimp only
  split
  · exact ⟨h.addresses, h.result⟩
  · exact ⟨h.addresses, h.result⟩
  · exact ⟨h.addresses, fun _ same => by cases same⟩

end ActiveOpenSocket

/-! ## Listeners -/

namespace PassiveSocket

variable {crc : List UInt8 → UInt32} {fallbackMss : Nat} {addr remoteAddr : SocketAddrV4}
  {s s' : PassiveSocket}

/-- A listener on an address. -/
structure Opens (addr : SocketAddrV4) (s : PassiveSocket) : Prop where
  address : s.localAddr = addr
  ready : ∀ cb, .ok cb ∈ s.ready.ready → cb.IsNew (addr, cb.remoteAddr)

/-- A listener that has just been opened has no control block. -/
theorem Opens.new (backlog : Nat) (rt : Runtime) (nonce : UInt32) :
    Opens addr (new addr backlog rt nonce) :=
  ⟨rfl, fun _ member => by cases member⟩

theorem Opens.withRuntime (h : s.Opens addr) (rt : Runtime) : Opens addr { s with rt := rt } :=
  ⟨h.address, h.ready⟩

/-- What the last ACK of a handshake completes is new. -/
theorem controlBlock_isNew {accept : InflightAccept} {cb : ControlBlock CongestionControl.None}
    (built : s.controlBlock remoteAddr accept = .ok cb) : cb.IsNew (s.localAddr, remoteAddr) := by
  unfold controlBlock at built
  dsimp only at built
  obtain ⟨tx, -, built⟩ := bind_eq_ok.mp built
  obtain ⟨rx, -, built⟩ := bind_eq_ok.mp built
  cases built
  exact ⟨⟨_, _, _, _, _, _, _, _, _, _, _⟩, rfl, rfl⟩

/-- A result more in the accept queue. -/
theorem Opens.ready_append (h : s.Opens addr) {result : OpenResult}
    (isNew : ∀ cb, result = .ok cb → cb.IsNew (addr, cb.remoteAddr)) :
    ∀ cb, .ok cb ∈ s.ready.ready ++ [result] → cb.IsNew (addr, cb.remoteAddr) := by
  intro cb member
  rcases List.mem_append.mp member with old | new
  · exact h.ready cb old
  · exact isNew cb (List.mem_singleton.mp new).symm

/-- **The last ACK of a handshake** puts what is new into the queue. -/
theorem Opens.receiveInflight {accept : InflightAccept} {header : TcpHeader} {result : Except Fail Unit}
    (h : s.Opens addr) (ran : s.receiveInflight remoteAddr accept header = .ok (result, s')) :
    s'.Opens addr := by
  unfold PassiveSocket.receiveInflight at ran
  split at ran
  · cases ran
    exact h
  split at ran
  · cases ran
    exact h
  obtain ⟨cb, built, ran⟩ := bind_eq_ok.mp ran
  obtain ⟨ready, pushed, ran⟩ := bind_eq_ok.mp ran
  cases ran
  unfold ReadySockets.pushOk at pushed
  split at pushed
  · cases pushed
  cases pushed
  refine ⟨h.address, h.ready_append fun cb' same => ?_⟩
  cases same
  have isNew := controlBlock_isNew built
  rw [h.address] at isNew
  have remote : cb.remoteAddr = remoteAddr := congrArg Prod.snd isNew.addresses
  exact remote ▸ isNew

/-- **A segment for a listener** begins a handshake, or completes one. -/
theorem Opens.receive {header : TcpHeader} {result : Except Fail Unit} (h : s.Opens addr)
    (ran : s.receive crc fallbackMss remoteAddr header = .ok (result, s')) : s'.Opens addr := by
  unfold PassiveSocket.receive at ran
  split at ran
  · cases ran
    exact h
  split at ran
  · exact h.receiveInflight ran
  · unfold receiveNew at ran
    split at ran
    · cases ran
      exact h
    split at ran
    · cases ran
      exact h
    · cases ran
      exact ⟨h.address, h.ready⟩

theorem Opens.background (h : s.Opens addr) (remoteAddr : SocketAddrV4) (poll : RetryPoll) :
    (s.background remoteAddr poll).Opens addr := by
  obtain ⟨-, same⟩ | ⟨accept, accept', rt, -, same⟩ := background_cases s remoteAddr poll
  · exact same.symm ▸ h
  · rw [same]
    refine ⟨h.address, ?_⟩
    dsimp only
    split
    · exact h.ready_append fun _ same => by cases same
    · exact h.ready

/-- What an accept takes leaves the queue. -/
theorem Opens.pollAccept {result : Option OpenResult} (h : s.Opens addr)
    (ran : s.pollAccept = .ok (result, s')) : s'.Opens addr := by
  obtain ⟨-, -, rfl⟩ | ⟨first, rest, endpoints, -, queue, rfl⟩ := pollAccept_cases ran
  · exact h
  · exact ⟨h.address, fun cb member => h.ready cb (queue ▸ List.mem_cons_of_mem _ member)⟩

end PassiveSocket

/-! ## Peers -/

/-- **Handshakes stay at their addresses**, and leave what is new. -/
theorem opens_kept (crc : List UInt8 → UInt32) (fallbackMss : Nat) :
    KeptByHandshakes crc fallbackMss (fun _ _ => True) (fun key s => s.Opens key)
      fun addr s => s.Opens addr where
  started localIsn localAddr remoteAddr rt := .new localIsn localAddr remoteAddr rt
  answered rt h _ received := (h.withRuntime rt).receive received
  retried rt poll h := (h.withRuntime rt).background poll
  opened _ backlog rt nonce := .new backlog rt nonce
  reached rt h _ received := (h.withRuntime rt).receive received
  repeated rt remoteAddr poll h := (h.withRuntime rt).background remoteAddr poll
  taken h polled := h.pollAccept polled

namespace TcpPeer

/-- Every part of a peer is at its addresses, and what a finished handshake has left is new. -/
structure Ordered (p : TcpPeer) : Prop
    extends Pending (fun key s => s.Opens key) (fun addr s => s.Opens addr) p where
  established : ∀ key e, p.established.lookup key = some e → (e.cb.localAddr, e.cb.remoteAddr) = key

variable {eof : Fail} {p p' : TcpPeer} {event : PeerEvent} {key : SocketAddrV4 × SocketAddrV4}

/-- A new peer has no handshakes. -/
theorem Ordered.new (shuffle : List UInt16 → List UInt16) (nonce : UInt32) (rt : Runtime)
    (localIpv4Addr : Ipv4Addr) : (new shuffle nonce rt localIpv4Addr).Ordered :=
  ⟨.new shuffle nonce rt localIpv4Addr, fun _ _ found => by cases found⟩

/-- What a handshake offers is new, between the addresses it is entered under. -/
theorem Ordered.isNew (h : p.Ordered) {cb : ControlBlock CongestionControl.None} (offered : p.Offers key cb) :
    cb.IsNew key := by
  obtain ⟨s, found, result⟩ | ⟨addr, s, found, member, rfl⟩ := offered
  · exact (h.connecting key s found).result cb result
  · have isNew := (h.passive addr s found).ready cb member
    have own : cb.localAddr = addr := congrArg Prod.fst isNew.addresses
    exact own ▸ isNew

/-- A connection is entered under its addresses, and keeps them. -/
theorem Ordered.moves (h : p.Ordered) (moves : Moves eof p event p') :
    ∀ key e, p'.established.lookup key = some e → (e.cb.localAddr, e.cb.remoteAddr) = key := by
  cases moves with
  | idle apart same quiet => exact same ▸ h.established
  | opened untold offered fresh entered same =>
    rw [entered]
    exact Table.forall_insert h.established (h.isNew offered).addresses
  | @moved named ev e e' told known stepped entered same =>
    have stays := Endpoint.step_stays stepped
    rw [entered]
    refine Table.forall_insert h.established ?_
    rw [stays.localAddr, stays.remoteAddr]
    exact h.established named e known

end TcpPeer

/-- **Every event keeps a peer ordered.** -/
theorem PeerRun.step_ordered {eof : Fail} {crc : List UInt8 → UInt32} {fallbackMss : Nat} {r r' : PeerRun}
    {event : PeerEvent} (h : r.peer.Ordered) (stepped : r.step eof crc fallbackMss event = .ok r') :
    r'.peer.Ordered :=
  ⟨step_pending (opens_kept crc fallbackMss) h.toPending (fun _ _ _ _ _ _ _ => trivial) stepped,
    h.moves (step_moves stepped)⟩

end Inetstack.Tcp
