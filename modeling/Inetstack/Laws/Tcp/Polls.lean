import Inetstack.Laws.Tcp.Crashes
import Inetstack.Laws.Tcp.Sockets

/-!
# Polls that enter a connection

A connection is entered by a poll for an accept or for a connect. Until then its listener or its connect
attempt holds it for an open socket, and nothing else enters a connection between the same addresses: the
local address of a socket that was not accepted is its own, and a segment goes to the connection that is
entered first. So no poll finds its connection entered already, which is where the code would panic.
-/

namespace Inetstack.Tcp

open Machine (bind_eq_ok)

/-! ## Listeners -/

namespace PassiveSocket

variable {crc : List UInt8 → UInt32} {fallbackMss : Nat} {s s' : PassiveSocket}
  {remoteAddr other : SocketAddrV4}

/-- The remote has a handshake in flight, or a connection that waits. -/
def Holds (s : PassiveSocket) (remoteAddr : SocketAddrV4) : Prop :=
  remoteAddr ∈ s.ready.endpoints ∨ (s.inflight.lookup remoteAddr).isSome = true

/-- The queue and the endpoints are in step, and no endpoint has a handshake in flight as well. -/
structure Tidy (s : PassiveSocket) : Prop where
  consistent : s.ready.Consistent
  apart : ∀ remoteAddr ∈ s.ready.endpoints, s.inflight.lookup remoteAddr = none

/-- A segment of a remote that waits is dropped. -/
theorem receive_endpoint {header : TcpHeader} {result : Except Fail Unit}
    (ran : s.receive crc fallbackMss remoteAddr header = .ok (result, s'))
    (waits : remoteAddr ∈ s.ready.endpoints) : s' = s := by
  unfold receive at ran
  rw [if_pos waits] at ran
  cases ran
  rfl

/-- A segment opens a handshake for its own remote alone. -/
theorem receive_holds {header : TcpHeader} {result : Except Fail Unit}
    (ran : s.receive crc fallbackMss remoteAddr header = .ok (result, s')) (holds : s'.Holds other) :
    s.Holds other ∨ other = remoteAddr := by
  by_cases same : other = remoteAddr
  · exact .inr same
  refine .inl ?_
  rcases receive_cases ran with rfl | ⟨accept, cb, -, -, -, -, -, -, rfl⟩ | ⟨accept, isns, -, -, -, rfl⟩
  · exact holds
  · rcases holds with waits | flies
    · exact .inl ((Finset.mem_insert.mp waits).resolve_left same)
    · rw [Table.lookup_erase, if_neg same] at flies
      exact .inr flies
  · rcases holds with waits | flies
    · exact .inl waits
    · rw [Table.lookup_insert, if_neg same] at flies
      exact .inr flies

/-- **A segment for a listener** begins a handshake in flight, or moves it to the queue, and never both. -/
theorem Tidy.receive {header : TcpHeader} {result : Except Fail Unit} (h : s.Tidy)
    (ran : s.receive crc fallbackMss remoteAddr header = .ok (result, s')) : s'.Tidy := by
  refine ⟨receive_consistent h.consistent ran, ?_⟩
  by_cases waits : remoteAddr ∈ s.ready.endpoints
  · rw [receive_endpoint ran waits]
    exact h.apart
  rcases receive_cases ran with rfl | ⟨accept, cb, -, -, -, -, -, -, rfl⟩ | ⟨accept, isns, -, -, -, rfl⟩
  · exact h.apart
  · intro other member
    rw [Table.lookup_erase]
    split
    next => rfl
    next different => exact h.apart other ((Finset.mem_insert.mp member).resolve_left different)
  · intro other member
    have different : other ≠ remoteAddr := fun same => waits (same ▸ member)
    rw [Table.lookup_insert, if_neg different]
    exact h.apart other member

/-- A retry task keeps the endpoints, and those with a handshake in flight. -/
theorem background_same (s : PassiveSocket) (remoteAddr : SocketAddrV4) (poll : RetryPoll) :
    (s.background remoteAddr poll).ready.endpoints = s.ready.endpoints ∧
      ∀ other, ((s.background remoteAddr poll).inflight.lookup other).isSome =
        (s.inflight.lookup other).isSome := by
  obtain ⟨-, same⟩ | ⟨accept, accept', rt, known, same⟩ := background_cases s remoteAddr poll
  · rw [same]
    exact ⟨rfl, fun _ => rfl⟩
  · rw [same]
    refine ⟨?_, Table.isSome_insert known accept'⟩
    dsimp only
    split
    · rfl
    · rfl

/-- A retry task begins no handshake. -/
theorem background_holds {poll : RetryPoll} (holds : (s.background remoteAddr poll).Holds other) :
    s.Holds other := by
  obtain ⟨endpoints, inflight⟩ := s.background_same remoteAddr poll
  rcases holds with waits | flies
  · exact .inl (endpoints ▸ waits)
  · exact .inr ((inflight other).symm.trans flies)

/-- A retry task leaves the endpoints and the handshakes in flight as they are, also when it gives up. -/
theorem Tidy.background (h : s.Tidy) (poll : RetryPoll) : (s.background remoteAddr poll).Tidy := by
  obtain ⟨endpoints, inflight⟩ := s.background_same remoteAddr poll
  refine ⟨(s.background_frame remoteAddr poll h.consistent).2, fun other member => ?_⟩
  have idle := h.apart other (endpoints ▸ member)
  rw [← Option.isNone_iff_eq_none, ← Option.not_isSome, inflight other, idle]
  rfl

/-- A poll takes the remote of the connection it returns out of the endpoints. -/
theorem pollAccept_endpoints {result : Option OpenResult} (ran : s.pollAccept = .ok (result, s')) :
    s'.inflight = s.inflight ∧
      ((∀ cb, result ≠ some (.ok cb)) ∧ s'.ready.endpoints = s.ready.endpoints ∨
        ∃ cb, result = some (.ok cb) ∧ cb.remoteAddr ∈ s.ready.endpoints ∧
          s'.ready.endpoints = s.ready.endpoints.erase cb.remoteAddr) := by
  obtain ⟨⟨polled, ready⟩, taken, eq⟩ := bind_eq_ok.mp ran
  cases eq
  refine ⟨rfl, ?_⟩
  unfold ReadySockets.poll at taken
  split at taken
  · cases taken
    exact .inl ⟨fun _ none => (by cases none), rfl⟩
  next cb rest queue =>
    split at taken
    next member =>
      cases taken
      exact .inr ⟨cb, rfl, member, rfl⟩
    · cases taken
  · cases taken
    exact .inl ⟨fun _ error => (by cases error), rfl⟩

/-- A poll adds no remote. -/
theorem pollAccept_holds {result : Option OpenResult} (ran : s.pollAccept = .ok (result, s'))
    (holds : s'.Holds other) : s.Holds other := by
  obtain ⟨inflight, ⟨-, endpoints⟩ | ⟨cb, -, -, endpoints⟩⟩ := pollAccept_endpoints ran
  · rcases holds with waits | flies
    · exact .inl (endpoints ▸ waits)
    · exact .inr (inflight ▸ flies)
  · rcases holds with waits | flies
    · rw [endpoints] at waits
      exact .inl (Finset.mem_of_mem_erase waits)
    · exact .inr (inflight ▸ flies)

/-- **The connection a poll takes is no longer held.** -/
theorem Tidy.pollAccept {result : Option OpenResult} (h : s.Tidy)
    (ran : s.pollAccept = .ok (result, s')) :
    s'.Tidy ∧ ∀ cb, result = some (.ok cb) → s.Holds cb.remoteAddr ∧ ¬s'.Holds cb.remoteAddr := by
  have consistent := pollAccept_consistent h.consistent ran
  obtain ⟨inflight, ⟨none, endpoints⟩ | ⟨cb, rfl, member, endpoints⟩⟩ := pollAccept_endpoints ran
  · refine ⟨⟨consistent, fun other left => ?_⟩, fun cb taken => (none cb taken).elim⟩
    rw [endpoints] at left
    exact inflight ▸ h.apart other left
  · refine ⟨⟨consistent, fun other left => ?_⟩, fun cb' taken => ?_⟩
    · rw [endpoints] at left
      exact inflight ▸ h.apart other (Finset.mem_of_mem_erase left)
    · cases taken
      refine ⟨.inl member, ?_⟩
      rintro (waits | flies)
      · rw [endpoints] at waits
        exact Finset.notMem_erase _ _ waits
      · rw [inflight, h.apart _ member] at flies
        cases flies

/-- A poll of an accept finds the endpoint of what it takes. -/
theorem Tidy.returns (h : s.Tidy) : ∃ r, s.pollAccept = .ok r := by
  obtain ⟨result, ready, polled, -⟩ := h.consistent.poll
  exact ⟨_, bind_eq_ok.mpr ⟨_, polled, rfl⟩⟩

/-- A new listener has nothing. -/
theorem new_holds {localAddr : SocketAddrV4} {backlog : Nat} {rt : Runtime} {nonce : UInt32} :
    ¬(new localAddr backlog rt nonce).Holds remoteAddr := by
  rintro (waits | flies)
  · exact Finset.notMem_empty _ waits
  · cases flies

/-- Whatever happens to a listener keeps it tidy. -/
theorem tidy_kept (crc : List UInt8 → UInt32) (fallbackMss : Nat) :
    KeptByHandshakes crc fallbackMss (fun _ _ => True) (fun _ _ => True) fun _ s => s.Tidy where
  started _ _ _ _ := trivial
  answered _ _ _ _ := trivial
  retried _ _ _ := trivial
  opened addr backlog rt nonce :=
    ⟨new_consistent addr backlog rt nonce, fun _ member => absurd member (Finset.notMem_empty _)⟩
  reached := fun {_ _ s _ _ _} rt h _ ran =>
    Tidy.receive (s := { s with rt := rt }) ⟨h.consistent, h.apart⟩ ran
  repeated := fun {_ s} rt _ poll h =>
    Tidy.background (s := { s with rt := rt }) ⟨h.consistent, h.apart⟩ poll
  taken h ran := (h.pollAccept ran).1

end PassiveSocket

/-! ## A peer -/

/-- A socket that is yet to enter a connection, or more of them. -/
def Socket.pending : Socket → Bool
  | .listening _ | .connecting _ _ => true
  | _ => false

/-- A pending socket is not the one that was entered, if that one is not pending. -/
theorem Socket.lookup_pending {sockets : AList fun _ : QDesc => Socket} {qd other : QDesc}
    {entered socket : Socket} (idle : entered.pending = false) (pending : socket.pending = true)
    (found : (sockets.insert qd entered).lookup other = some socket) :
    sockets.lookup other = some socket := by
  refine Table.lookup_of_insert found ?_
  rintro rfl
  cases idle.symm.trans pending

namespace TcpPeer

variable {eof : Fail} {crc : List UInt8 → UInt32} {fallbackMss : Nat} {p p' : TcpPeer}
  {key : SocketAddrV4 × SocketAddrV4} {qd newQd : QDesc} {env : Env}

/-- A connection that a poll may enter between the addresses: an open listener has it, finished or in flight,
or an open socket has finished to connect. -/
inductive Holds (p : TcpPeer) (key : SocketAddrV4 × SocketAddrV4) : Prop where
  | listener {qd : QDesc} {s : PassiveSocket} (found : p.sockets.lookup qd = some (.listening key.1))
      (known : p.passive.lookup key.1 = some s) (holds : s.Holds key.2)
  | attempt {qd : QDesc} {s : ActiveOpenSocket} {cb : ControlBlock CongestionControl.None}
      (found : p.sockets.lookup qd = some (.connecting key.1 key.2))
      (known : p.connecting.lookup key = some s) (result : s.result = some (.ok cb))

/-- **What a poll may enter has not been entered.** -/
def Untaken (p : TcpPeer) : Prop := ∀ key, p.Holds key → p.established.lookup key = none

/-- A new peer has no connections. -/
theorem Untaken.new (shuffle : List UInt16 → List UInt16) (nonce : UInt32) (rt : Runtime)
    (localIpv4Addr : Ipv4Addr) : (new shuffle nonce rt localIpv4Addr).Untaken := fun _ _ => rfl

/-- No pending socket is new, and no connection. -/
structure Fewer (p p' : TcpPeer) : Prop where
  sockets : ∀ qd socket, p'.sockets.lookup qd = some socket → socket.pending = true →
    p.sockets.lookup qd = some socket
  established : ∀ key, p.established.lookup key = none → p'.established.lookup key = none

/-- Handshakes alone have changed. -/
theorem Fewer.of_same (sockets : p'.sockets = p.sockets) (established : p'.established = p.established) :
    Fewer p p' :=
  ⟨fun _ _ found _ => sockets ▸ found, fun _ absent => established ▸ absent⟩

/-- A socket that is not pending is entered. -/
theorem Fewer.of_insert {socket : Socket} (idle : socket.pending = false)
    (sockets : p'.sockets = p.sockets.insert qd socket) (established : p'.established = p.established) :
    Fewer p p' := by
  refine ⟨fun other socket' found pending => ?_, fun _ absent => established ▸ absent⟩
  rw [sockets] at found
  exact Socket.lookup_pending idle pending found

/-- A socket is closed. -/
theorem Fewer.of_erase (sockets : p'.sockets = p.sockets.erase qd)
    (established : p'.established = p.established) : Fewer p p' := by
  refine ⟨fun other socket' found pending => ?_, fun _ absent => established ▸ absent⟩
  rw [sockets, Table.lookup_erase] at found
  split at found
  · cases found
  · exact found

/-- Routing opens no socket and enters no connection. -/
theorem Fewer.of_kept (kept : Kept p p') : Fewer p p' := by
  refine ⟨fun qd socket found _ => kept.sockets ▸ found, fun key absent => ?_⟩
  rw [← Option.isNone_iff_eq_none, ← Option.not_isSome, kept.established key, absent]
  rfl

/-- Nothing happens to a handshake. -/
theorem Untaken.of_fewer (h : p.Untaken) (fewer : Fewer p p') (passive : p'.passive = p.passive)
    (connecting : p'.connecting = p.connecting) : p'.Untaken := by
  intro key holds
  refine fewer.established key (h key ?_)
  cases holds with
  | listener found known holds =>
    exact .listener (fewer.sockets _ _ found rfl) (passive ▸ known) holds
  | attempt found known result =>
    exact .attempt (fewer.sockets _ _ found rfl) (connecting ▸ known) result

/-- Something happens to a listener: what it holds, it has held, or no connection has been entered. -/
theorem Untaken.listened (h : p.Untaken) {addr : SocketAddrV4} {s : PassiveSocket}
    (held : ∀ remoteAddr, s.Holds remoteAddr →
      (∃ s', p.passive.lookup addr = some s' ∧ s'.Holds remoteAddr) ∨
        p.established.lookup (addr, remoteAddr) = none) :
    Untaken { p with passive := p.passive.insert addr s } := by
  intro key holds
  cases holds with
  | @listener qd s' found known holds =>
    rw [Table.lookup_insert] at known
    split at known
    next same =>
      subst same
      cases known
      rcases held key.2 holds with ⟨older, known, holds⟩ | absent
      · exact h key (.listener found known holds)
      · exact absent
    next => exact h key (.listener found known holds)
  | attempt found known result => exact h key (.attempt found known result)

/-- Something happens to a connect attempt: one that has finished, had finished, or no connection has been
entered. -/
theorem Untaken.attempted (h : p.Untaken) {s : ActiveOpenSocket}
    (finished : ∀ cb, s.result = some (.ok cb) →
      (∃ s', p.connecting.lookup key = some s' ∧ s'.result = some (.ok cb)) ∨
        p.established.lookup key = none) :
    Untaken { p with connecting := p.connecting.insert key s } := by
  intro key' held
  cases held with
  | listener found known holds => exact h key' (.listener found known holds)
  | @attempt qd s' cb found known result =>
    rw [Table.lookup_insert] at known
    split at known
    next same =>
      subst same
      cases known
      rcases finished cb result with ⟨older, known, result⟩ | absent
      · exact h key' (.attempt found known result)
      · exact absent
    next => exact h key' (.attempt found known result)

/-- A connection is entered that nothing holds. -/
theorem Untaken.entered (h : p.Untaken) {localAddr remoteAddr : SocketAddrV4}
    (released : ¬p.Holds (localAddr, remoteAddr)) (qd : QDesc) (e : Endpoint CongestionControl.None) :
    Untaken { p with
      sockets := p.sockets.insert qd (.established localAddr remoteAddr)
      established := p.established.insert (localAddr, remoteAddr) e } := by
  intro key holds
  have older : p.Holds key := by
    cases holds with
    | listener found known holds => exact .listener (Socket.lookup_pending rfl rfl found) known holds
    | attempt found known result => exact .attempt (Socket.lookup_pending rfl rfl found) known result
  change (p.established.insert (localAddr, remoteAddr) e).lookup key = none
  rw [Table.lookup_insert]
  split
  next same => exact (released (same ▸ older)).elim
  next => exact h key older

/-! ### The calls of the user -/

/-- A socket that is not yet bound has nothing to enter. -/
theorem Untaken.doSocket (h : p.Untaken) (qd : QDesc) : (p.doSocket qd).2.Untaken := by
  unfold TcpPeer.doSocket
  split
  · exact h.of_fewer (.of_insert rfl rfl rfl) rfl rfl
  · exact h

/-- And neither has one that is bound. -/
theorem Untaken.bind (h : p.Untaken) (qd : QDesc) (addr : SocketAddrV4) : (p.bind qd addr).2.Untaken := by
  unfold TcpPeer.bind
  split
  · exact h
  split
  · exact h
  split
  · exact h.of_fewer (.of_insert rfl rfl rfl) rfl rfl
  · exact h.of_fewer (.of_same rfl rfl) rfl rfl
  · exact h.of_fewer (.of_same rfl rfl) rfl rfl

/-- A new listener holds nothing. -/
theorem Untaken.listen (h : p.Untaken) (qd : QDesc) (backlog : Nat) (nonce : UInt32) :
    (p.listen qd backlog nonce).2.Untaken := by
  unfold TcpPeer.listen
  split
  next localAddr found =>
    split
    · exact h
    next fresh =>
      intro key held
      cases held with
      | @listener qd' s found' known holds =>
        rw [Table.lookup_insert] at known
        split at known
        next same =>
          cases known
          exact (PassiveSocket.new_holds holds).elim
        next different =>
          rw [Table.lookup_insert] at found'
          split at found'
          · cases found'
            exact (different rfl).elim
          · exact h key (.listener found' known holds)
      | attempt found' known result =>
        exact h key (.attempt (Table.lookup_of_insert found' nofun) known result)
  all_goals exact h

/-- A new connect attempt has not finished. -/
theorem Untaken.startConnecting (h : p.Untaken) (qd : QDesc) (localAddr remoteAddr : SocketAddrV4) :
    (p.startConnecting crc qd localAddr remoteAddr).2.Untaken := by
  intro key held
  cases held with
  | listener found known holds =>
    exact h key (.listener (Table.lookup_of_insert found nofun) known holds)
  | @attempt qd' s cb found known result =>
    change (p.sockets.insert qd _).lookup qd' = _ at found
    change (p.connecting.insert (localAddr, remoteAddr) _).lookup key = _ at known
    rw [Table.lookup_insert] at known
    split at known
    · cases known
      cases result
    next different =>
      rw [Table.lookup_insert] at found
      split at found
      · cases found
        exact (different rfl).elim
      · exact h key (.attempt found known result)

/-- A connect attempt that has just begun has no result. -/
theorem Untaken.connect (h : p.Untaken) (qd : QDesc) (remoteAddr : SocketAddrV4) :
    (p.connect crc qd remoteAddr).2.Untaken := by
  unfold TcpPeer.connect
  split
  · split
    · exact h
    next localPort ports _ =>
      have drawn : Untaken { p with ephemeralPorts := ports } := h.of_fewer (.of_same rfl rfl) rfl rfl
      exact drawn.startConnecting qd _ remoteAddr
  · exact h.startConnecting qd _ remoteAddr
  all_goals exact h

/-- An event of a connection enters none. -/
theorem Untaken.stepEstablished {e : Endpoint CongestionControl.None} {ev : Event} (h : p.Untaken)
    (known : p.established.lookup key = some e) (ran : p.stepEstablished key e ev = .ok p') :
    p'.Untaken := by
  have kept := Kept.stepEstablished known ran
  obtain ⟨e', -, ran⟩ := bind_eq_ok.mp ran
  cases ran
  exact h.of_fewer (.of_kept kept) rfl rfl

theorem Untaken.doClose {result : Except Fail Unit} (h : p.Untaken)
    (ran : p.doClose qd env = .ok (result, p')) : p'.Untaken := by
  have closed : Untaken { p with sockets := p.sockets.erase qd } :=
    h.of_fewer (.of_erase rfl rfl) rfl rfl
  unfold TcpPeer.doClose at ran
  dsimp only at ran
  split at ran
  · split at ran
    next e known =>
      obtain ⟨p'', ended, ran⟩ := bind_eq_ok.mp ran
      cases ran
      exact closed.stepEstablished known ended
    · cases ran
      exact closed
  · cases ran
    exact closed
  · cases ran
    exact h

theorem Untaken.send {buf : Buffer} {result : Except Fail Unit} (h : p.Untaken)
    (ran : p.send qd buf env = .ok (result, p')) : p'.Untaken := by
  unfold TcpPeer.send at ran
  split at ran
  · cases ran
    exact h
  next answer =>
    obtain ⟨sent, -, ran⟩ := bind_eq_ok.mp ran
    obtain ⟨p'', stepped, ran⟩ := bind_eq_ok.mp ran
    cases ran
    exact h.stepEstablished (connection_ok answer) stepped

theorem Untaken.pollRecv {result : Option (Except Fail Buffer)} (h : p.Untaken)
    (ran : p.pollRecv qd env = .ok (result, p')) : p'.Untaken := by
  unfold TcpPeer.pollRecv at ran
  dsimp only at ran
  split at ran
  · cases ran
    exact h
  next answer =>
    obtain ⟨p'', stepped, ran⟩ := bind_eq_ok.mp ran
    cases ran
    exact h.stepEstablished (connection_ok answer) stepped

/-! ### Segments and background tasks -/

/-- An attempt or a listener gets a segment only if no connection has been entered. -/
theorem Untaken.route {localAddr remoteAddr : SocketAddrV4} {header : TcpHeader} {data : Buffer}
    {result : Except Fail Unit} (h : p.Untaken)
    (ran : p.route crc fallbackMss env localAddr remoteAddr header data = .ok (result, p')) :
    p'.Untaken := by
  unfold TcpPeer.route at ran
  split at ran
  next e known =>
    obtain ⟨routed, stepped, ran⟩ := bind_eq_ok.mp ran
    cases ran
    exact h.stepEstablished known stepped
  next absent =>
  split at ran
  next socket known =>
    obtain ⟨socket', received, ran⟩ := bind_eq_ok.mp ran
    cases ran
    exact (h.attempted fun _ _ => .inr absent).of_fewer (.of_same rfl rfl) rfl rfl
  split at ran
  next socket known =>
    obtain ⟨⟨answer, socket'⟩, received, ran⟩ := bind_eq_ok.mp ran
    cases ran
    have reached (other : SocketAddrV4) (holds : socket'.Holds other) :
        (∃ s, p.passive.lookup localAddr = some s ∧ s.Holds other) ∨
          p.established.lookup (localAddr, other) = none := by
      rcases PassiveSocket.receive_holds received holds with older | rfl
      · exact .inl ⟨socket, known, older⟩
      · exact .inr absent
    exact (h.listened reached).of_fewer (.of_same rfl rfl) rfl rfl
  · have eq := congrArg Prod.snd (Except.ok.inj ran)
    dsimp only at eq
    subst eq
    unfold sendRst
    split
    · exact h
    · exact h.of_fewer (.of_same rfl rfl) rfl rfl

/-- **A segment arrives**: where there is a connection, it goes to that and to no handshake. -/
theorem Untaken.receive {ipHdr : Ipv4.Ipv4Header} {buf : Buffer} {result : Except Fail Unit}
    (h : p.Untaken) (ran : p.receive eof crc fallbackMss env ipHdr buf = .ok (result, p')) :
    p'.Untaken := by
  obtain ⟨parsed, parses, ran⟩ := bind_eq_ok.mp ran
  split at ran
  · cases ran
    exact h
  · dsimp only at ran
    split at ran
    · cases ran
      exact h
    · exact h.route ran

/-- A retry task never finishes an attempt but with an error. -/
theorem Untaken.retryConnect (h : p.Untaken) (key : SocketAddrV4 × SocketAddrV4) (poll : RetryPoll) :
    (p.retryConnect key poll).Untaken := by
  unfold TcpPeer.retryConnect
  split
  · exact h
  next socket known =>
    refine (h.attempted fun cb finished => .inl ⟨socket, known, ?_⟩).of_fewer (.of_same rfl rfl) rfl rfl
    unfold ActiveOpenSocket.background at finished
    dsimp only at finished
    split at finished
    · exact finished
    · exact finished
    · cases finished

/-- A retry task of a listener. -/
theorem Untaken.retryAccept (h : p.Untaken) (localAddr remoteAddr : SocketAddrV4) (poll : RetryPoll) :
    (p.retryAccept localAddr remoteAddr poll).Untaken := by
  unfold TcpPeer.retryAccept
  split
  · exact h
  next socket known =>
    refine (h.listened fun other holds => .inl ⟨socket, known, ?_⟩).of_fewer (.of_same rfl rfl) rfl rfl
    exact PassiveSocket.background_holds (s := { socket with rt := p.rt }) holds

theorem Untaken.background {call : Call} (h : p.Untaken) (ran : p.background key call env = .ok p') :
    p'.Untaken := by
  unfold TcpPeer.background at ran
  split at ran
  · cases ran
    exact h
  next known => exact h.stepEstablished known ran

end TcpPeer

/-! ### Polls -/

namespace PeerRun

variable {eof : Fail} {crc : List UInt8 → UInt32} {fallbackMss : Nat} {r r' : PeerRun} {event : PeerEvent}
  {key : SocketAddrV4 × SocketAddrV4} {qd qd' newQd : QDesc}

/-- Of two pending sockets with one local address, both are the same. -/
theorem Sound.pending_unique (h : r.Sound) {socket socket' : Socket} {addr : SocketAddrV4}
    (found : r.peer.sockets.lookup qd = some socket) (found' : r.peer.sockets.lookup qd' = some socket')
    (pending : socket.pending = true) (pending' : socket'.pending = true)
    (has : socket.localAddr = some addr) (has' : socket'.localAddr = some addr) : qd = qd' := by
  by_contra different
  have other {socket : Socket} (pending : socket.pending = true) (addr remoteAddr : SocketAddrV4) :
      socket ≠ .established addr remoteAddr := by
    rintro rfl
    cases pending
  exact h.distinct qd qd' socket socket' addr different (h.not_accepted found (other pending))
    (h.not_accepted found' (other pending')) found found' has has'

/-- What every event keeps, of the tables and of the handshakes. -/
structure Orderly (r : PeerRun) : Prop where
  sound : r.Sound
  listeners : r.peer.Pending (fun _ _ => True) fun _ s => s.Tidy
  untaken : r.peer.Untaken

/-- **A connection that is accepted is held no more.** The listener has let go of it, and no connect attempt
is under way from the address of an open listener. -/
theorem Orderly.pollAccept (h : r.Orderly) {result : Option (Except Fail QDesc)} {peer : TcpPeer}
    (ran : r.peer.pollAccept qd newQd = .ok (result, peer)) : peer.Untaken := by
  unfold TcpPeer.pollAccept at ran
  split at ran
  next localAddr found =>
    split at ran
    · cases ran
    next passive known =>
    obtain ⟨⟨taken, socket⟩, polled, ran⟩ := bind_eq_ok.mp ran
    obtain ⟨-, released⟩ := (h.listeners.passive localAddr passive known).pollAccept polled
    have homed := ((h.sound.homed localAddr passive known).pollAccept polled).2
    have listened : TcpPeer.Untaken { r.peer with passive := r.peer.passive.insert localAddr socket } :=
      h.untaken.listened fun other holds =>
        .inl ⟨passive, known, PassiveSocket.pollAccept_holds polled holds⟩
    dsimp only at ran
    split at ran
    · cases ran
      exact listened
    · cases ran
      exact listened
    next cb =>
      obtain ⟨p'', entered, ran⟩ := bind_eq_ok.mp ran
      cases ran
      simp only [TcpPeer.enterAccepted] at entered
      split at entered
      · cases entered
      split at entered
      · cases entered
      cases entered
      -- a ready connection was not taken before, and its address is the listener's
      obtain ⟨-, free⟩ := released cb rfl
      have home := homed cb rfl
      refine listened.entered (fun holds => ?_) newQd _
      cases holds with
      | @listener other s found' known' holds =>
        change (r.peer.passive.insert localAddr socket).lookup cb.localAddr = some s at known'
        rw [Table.lookup_insert, if_pos home] at known'
        cases known'
        exact free holds
      | attempt found' known' result =>
        have eq := h.sound.pending_unique found found' rfl rfl rfl (congrArg some home)
        subst eq
        cases found.symm.trans found'
  · cases ran
    exact h.untaken
  · cases ran
    exact h.untaken

/-- **A socket that has connected holds its connection no more**, nor does a listener. -/
theorem Orderly.pollConnectFinished (h : r.Orderly) {result : Option (Except Fail Unit)} {peer : TcpPeer}
    (ran : r.peer.pollConnectFinished qd = .ok (result, peer)) : peer.Untaken := by
  have erased (key : SocketAddrV4 × SocketAddrV4) :
      TcpPeer.Untaken { r.peer with connecting := r.peer.connecting.erase key } := by
    intro other holds
    cases holds with
    | listener found known holds => exact h.untaken other (.listener found known holds)
    | attempt found known finished =>
      rw [Table.lookup_erase] at known
      split at known
      · cases known
      · exact h.untaken other (.attempt found known finished)
  obtain ⟨-, rfl⟩ | ⟨localAddr, remoteAddr, found, ⟨-, rfl⟩ | ⟨e, -, rfl⟩⟩ :=
    TcpPeer.pollConnectFinished_cases ran
  · exact h.untaken
  · exact erased _
  · refine (erased _).entered (fun holds => ?_) qd e
    cases holds with
    -- a listener of the same address does not exist beside the attempt
    | listener found' known holds =>
      have eq := h.sound.pending_unique found found' rfl rfl rfl rfl
      subst eq
      cases found.symm.trans found'
    -- the attempt itself has left the table
    | @attempt other s cb found' known finished =>
      change (r.peer.connecting.erase (localAddr, remoteAddr)).lookup _ = some s at known
      rw [AList.lookup_erase] at known
      cases known

/-- **Every event keeps a peer orderly.** -/
theorem step_orderly (h : r.Orderly) (stepped : r.step eof crc fallbackMss event = .ok r') :
    r'.Orderly := by
  refine ⟨step_sound h.sound stepped, step_pending (PassiveSocket.tidy_kept crc fallbackMss) h.listeners
    (fun _ _ _ _ _ _ _ => trivial) stepped, ?_⟩
  cases event with
  | socket qd =>
    cases stepped
    exact h.untaken.doSocket qd
  | bind qd addr =>
    cases stepped
    exact h.untaken.bind qd addr
  | listen qd backlog nonce =>
    cases stepped
    exact h.untaken.listen qd backlog nonce
  | accept qd newQd =>
    obtain ⟨⟨result, peer⟩, ran, stepped⟩ := bind_eq_ok.mp stepped
    have untaken := h.pollAccept ran
    split at stepped
    next taken =>
      cases taken
      cases stepped
      exact untaken
    next taken =>
      cases taken
      cases stepped
      exact untaken
  | connect qd remoteAddr =>
    cases stepped
    exact h.untaken.connect qd remoteAddr
  | connectFinished qd =>
    obtain ⟨⟨result, peer⟩, ran, stepped⟩ := bind_eq_ok.mp stepped
    cases stepped
    exact h.pollConnectFinished ran
  | close qd env =>
    obtain ⟨⟨result, peer⟩, ran, stepped⟩ := bind_eq_ok.mp stepped
    cases stepped
    exact h.untaken.doClose ran
  | send qd buf env =>
    obtain ⟨⟨result, peer⟩, ran, stepped⟩ := bind_eq_ok.mp stepped
    cases stepped
    exact h.untaken.send ran
  | recv qd env =>
    obtain ⟨⟨result, peer⟩, ran, stepped⟩ := bind_eq_ok.mp stepped
    cases stepped
    exact h.untaken.pollRecv ran
  | receive ipHdr buf env =>
    obtain ⟨⟨result, peer⟩, ran, stepped⟩ := bind_eq_ok.mp stepped
    cases stepped
    exact h.untaken.receive ran
  | retryConnect key poll =>
    cases stepped
    exact h.untaken.retryConnect key poll
  | retryAccept localAddr remoteAddr poll =>
    cases stepped
    exact h.untaken.retryAccept localAddr remoteAddr poll
  | background key call env =>
    obtain ⟨peer, ran, stepped⟩ := bind_eq_ok.mp stepped
    cases stepped
    exact h.untaken.background ran

/-- A new peer is orderly. -/
theorem start_orderly {shuffle : List UInt16 → List UInt16} (perm : ∀ l, (shuffle l).Perm l)
    (nonce : UInt32) (rt : Runtime) (localIpv4Addr : Ipv4Addr) :
    (start (TcpPeer.new shuffle nonce rt localIpv4Addr)).Orderly where
  sound := start_sound perm nonce rt localIpv4Addr
  listeners := .new shuffle nonce rt localIpv4Addr
  untaken := .new shuffle nonce rt localIpv4Addr

/-- **A poll for a connection never panics** on a descriptor that no socket has. -/
theorem Orderly.pollAccept_returns (h : r.Orderly) (fresh : r.peer.sockets.lookup newQd = none) :
    ∃ ran, r.peer.pollAccept qd newQd = .ok ran := by
  unfold TcpPeer.pollAccept
  split
  next localAddr found =>
    obtain ⟨passive, known⟩ := Option.isSome_iff_exists.mp (h.sound.listeners qd localAddr found)
    have tidy := h.listeners.passive localAddr passive known
    obtain ⟨⟨taken, socket⟩, polled⟩ := tidy.returns
    have homed := ((h.sound.homed localAddr passive known).pollAccept polled).2
    have released := (tidy.pollAccept polled).2
    simp only [known, polled, bind, Except.bind]
    cases taken with
    | none => exact ⟨_, rfl⟩
    | some result =>
      cases result with
      | error fail => exact ⟨_, rfl⟩
      | ok cb =>
        have home := homed cb rfl
        have absent : r.peer.established.lookup (cb.localAddr, cb.remoteAddr) = none :=
          h.untaken _ (.listener (home ▸ found) (home ▸ known) (released cb rfl).1)
        simp only [TcpPeer.enterAccepted, fresh, absent]
        exact ⟨_, rfl⟩
  · exact ⟨_, rfl⟩
  · exact ⟨_, rfl⟩

/-- **A poll for the end of a connect attempt never panics.** -/
theorem Orderly.pollConnectFinished_returns (h : r.Orderly) (qd : QDesc) :
    ∃ ran, r.peer.pollConnectFinished qd = .ok ran := by
  unfold TcpPeer.pollConnectFinished
  split
  next localAddr remoteAddr found =>
    dsimp only
    split
    · exact ⟨_, rfl⟩
    next socket known =>
    split
    · exact ⟨_, rfl⟩
    next result finished =>
    split
    · exact ⟨_, rfl⟩
    next cb =>
      have absent : r.peer.established.lookup (localAddr, remoteAddr) = none :=
        h.untaken _ (.attempt found known finished)
      simp only [absent]
      exact ⟨_, rfl⟩
  · exact ⟨_, rfl⟩
  · exact ⟨_, rfl⟩

end PeerRun

/-- **A read never panics.** -/
theorem TcpPeer.pollRecv_returns (p : TcpPeer) (qd : QDesc) (env : Env) :
    ∃ ran, p.pollRecv qd env = .ok ran := by
  unfold pollRecv
  dsimp only
  split
  · exact ⟨_, rfl⟩
  next key e answer =>
    have reads (e : Endpoint CongestionControl.None) : ∃ e', e.step (.call .pollRecv env) = .ok e' := by
      simp only [Endpoint.step, Endpoint.call]
      split
      · exact ⟨_, rfl⟩
      · exact ⟨_, rfl⟩
    obtain ⟨e', stepped⟩ := reads { e with cb := { e.cb with rt := p.rt } }
    exact ⟨_, bind_eq_ok.mpr ⟨_, bind_eq_ok.mpr ⟨e', stepped, rfl⟩, rfl⟩⟩

end Inetstack.Tcp
