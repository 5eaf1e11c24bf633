import Inetstack.Tcp.Peer
import Inetstack.Laws.Ip.EphemeralPorts
import Inetstack.Laws.Tcp.PassiveOpen

/-!
# What the operations of a TCP peer do to its tables

One lemma for each operation says all it can do to the sockets, the port pool and the three tables of
handshakes and connections. From these, `Effect` lists the ways one event can change the tables, and
`step_effect` says that there are no others; the invariants of a peer are proved against that list.
-/

namespace Inetstack.Tcp

open Machine (bind_eq_ok)
open Ip (EphemeralPorts)

/-! ## Listeners -/

/-- A listener on `localAddr`: it and the connections it has ready have that local address. -/
structure PassiveSocket.Homed (localAddr : SocketAddrV4) (s : PassiveSocket) : Prop where
  own : s.localAddr = localAddr
  ready : ∀ cb, .ok cb ∈ s.ready.ready → cb.localAddr = localAddr

namespace PassiveSocket

variable {localAddr remoteAddr : SocketAddrV4} {s s' : PassiveSocket}

/-- A new listener, with nothing in its queue. -/
theorem Homed.new (backlog : Nat) (rt : Runtime) (nonce : UInt32) :
    Homed localAddr (new localAddr backlog rt nonce) where
  own := rfl
  ready _ mem := by cases mem

theorem Homed.withRuntime (h : Homed localAddr s) (rt : Runtime) : Homed localAddr { s with rt := rt } :=
  ⟨h.own, h.ready⟩

/-- A segment for a listener gives a control block at the address of the listener. -/
theorem Homed.receive {crc : List UInt8 → UInt32} {fallbackMss : Nat} {header : TcpHeader}
    {result : Except Fail Unit} (h : Homed localAddr s)
    (ran : s.receive crc fallbackMss remoteAddr header = .ok (result, s')) : Homed localAddr s' := by
  obtain rfl | ⟨accept, cb, -, -, -, -, own, -, rfl⟩ | ⟨accept, isnGenerator, -, -, -, rfl⟩ :=
    receive_cases ran
  · exact h
  · refine ⟨h.own, fun cb' mem => ?_⟩
    obtain mem | mem := List.mem_append.mp mem
    · exact h.ready cb' mem
    · cases List.mem_singleton.mp mem
      exact own.trans h.own
  · exact ⟨h.own, h.ready⟩

/-- The retry task changes no address. -/
theorem Homed.background (h : Homed localAddr s) (poll : RetryPoll) :
    Homed localAddr (s.background remoteAddr poll) := by
  obtain ⟨-, same⟩ | ⟨accept, accept', rt, -, same⟩ := background_cases s remoteAddr poll
  · rw [same]
    exact h
  · rw [same]
    refine ⟨h.own, fun cb mem => ?_⟩
    dsimp only at mem
    split at mem
    · obtain mem | mem := List.mem_append.mp mem
      · exact h.ready cb mem
      · cases List.mem_singleton.mp mem
    · exact h.ready cb mem

/-- What is accepted has the address of the listener. -/
theorem Homed.pollAccept {result : Option OpenResult} (h : Homed localAddr s)
    (ran : s.pollAccept = .ok (result, s')) :
    Homed localAddr s' ∧ ∀ cb, result = some (.ok cb) → cb.localAddr = localAddr := by
  obtain ⟨rfl, -, rfl⟩ | ⟨first, rest, endpoints, rfl, queue, rfl⟩ := pollAccept_cases ran
  · exact ⟨h, fun _ none => by cases none⟩
  · have older (cb : ControlBlock CongestionControl.None) (mem : .ok cb ∈ first :: rest) :
        cb.localAddr = localAddr :=
      h.ready cb (queue ▸ mem)
    refine ⟨⟨h.own, fun cb mem => older cb (List.mem_cons_of_mem _ mem)⟩, fun cb eq => ?_⟩
    cases eq
    exact older cb List.mem_cons_self

end PassiveSocket

namespace TcpPeer

variable {crc : List UInt8 → UInt32} {fallbackMss : Nat} {eof : Fail} {p p' : TcpPeer}
  {qd newQd : QDesc} {addr localAddr remoteAddr : SocketAddrV4} {key : SocketAddrV4 × SocketAddrV4}
  {ports : EphemeralPorts}

/-! ## Ports and addresses -/

/-- No socket has the address. -/
def Unused (p : TcpPeer) (addr : SocketAddrV4) : Prop :=
  ∀ qd socket, p.sockets.lookup qd = some socket → socket.localAddr ≠ some addr

/-- The test of `bind`, read as a fact about all sockets. -/
theorem unused_of_any
    (h : (p.sockets.entries.any fun entry => entry.2.localAddr == some addr) ≠ true) :
    p.Unused addr := by
  intro qd socket found same
  have mem : Sigma.mk qd socket ∈ p.sockets.entries := AList.mem_lookup_iff.mp found
  exact h (List.any_eq_true.mpr ⟨_, mem, by simpa using same⟩)

/-- What `bind` allocates: a private port that was asked for or picked leaves the pool, and no other. -/
theorem allocFor_claimed {left : EphemeralPorts} (valid : ports.Valid)
    (ran : allocFor ports addr = .ok (localAddr, left)) : ports.Claimed addr localAddr left := by
  unfold allocFor at ran
  dsimp only at ran
  split at ran
  next isPrivate =>
    obtain ⟨after, first, ran⟩ := bind_eq_ok.mp ran
    have ne : addr.port ≠ 0 := by
      rintro zero
      rw [zero] at isPrivate
      exact absurd isPrivate (by decide)
    rw [if_neg ne] at ran
    cases ran
    exact .inl (EphemeralPorts.allocPort_perm valid first)
  next notPrivate =>
    obtain ⟨after, first, ran⟩ := bind_eq_ok.mp ran
    cases first
    split at ran
    next zero =>
      obtain ⟨⟨newPort, rest⟩, taken, ran⟩ := bind_eq_ok.mp ran
      cases ran
      exact .inl (EphemeralPorts.allocAny_perm taken)
    next =>
      cases ran
      exact .inr ⟨rfl, rfl, by simpa using notPrivate⟩

/-- No address with port 0 is claimed: it asks for a port of the pool. -/
theorem allocFor_ne_zero {left : EphemeralPorts} (valid : ports.Valid)
    (ran : allocFor ports addr = .ok (localAddr, left)) : localAddr.port ≠ 0 := by
  obtain perm | ⟨rfl, rfl, -⟩ := allocFor_claimed valid ran
  · exact valid.taken_ne_zero perm
  · intro zero
    have notPrivate : ¬EphemeralPorts.isPrivate localAddr.port = true := by rw [zero]; decide
    unfold allocFor at ran
    dsimp only at ran
    rw [if_neg notPrivate] at ran
    obtain ⟨after, first, ran⟩ := bind_eq_ok.mp ran
    cases first
    rw [if_pos zero] at ran
    obtain ⟨⟨newPort, rest⟩, taken, ran⟩ := bind_eq_ok.mp ran
    have same : newPort = localAddr.port := congrArg (fun alloc => alloc.1.port) (Except.ok.inj ran)
    exact valid.taken_ne_zero (EphemeralPorts.allocAny_perm taken) (same.trans zero)

/-! ## The calls of the user -/

/-- **What `bind` can do**: fail and leave the pool rearranged, or bind the socket. -/
theorem bind_cases (valid : p.ephemeralPorts.Valid) (qd : QDesc) (addr : SocketAddrV4) :
    (∃ fail ports, ports.ports.Perm p.ephemeralPorts.ports ∧
      p.bind qd addr = (.error fail, { p with ephemeralPorts := ports })) ∨
    ∃ localAddr ports, p.sockets.lookup qd = some (.inactive none) ∧
      p.ephemeralPorts.Claimed addr localAddr ports ∧ localAddr.port ≠ 0 ∧ p.Unused addr ∧
      p.bind qd addr = (.ok (), { p with
        ephemeralPorts := ports
        sockets := p.sockets.insert qd (.inactive (some localAddr)) }) := by
  unfold bind
  split
  · exact .inl ⟨_, p.ephemeralPorts, .refl _, rfl⟩
  next unused =>
  cases claim : allocFor p.ephemeralPorts addr with
  | error fail => exact .inl ⟨fail, p.ephemeralPorts, .refl _, rfl⟩
  | ok got =>
    obtain ⟨localAddr, ports⟩ := got
    have claimed := allocFor_claimed valid claim
    have restored : (rollback ports localAddr).ports.Perm p.ephemeralPorts.ports :=
      claimed.rollback valid
    dsimp only
    split
    next found =>
      exact .inr ⟨localAddr, ports, found, claimed, allocFor_ne_zero valid claim, unused_of_any unused,
        rfl⟩
    next => exact .inl ⟨_, _, restored, rfl⟩
    next => exact .inl ⟨_, _, restored, rfl⟩

/-- **What `listen` can do.** -/
theorem listen_cases (p : TcpPeer) (qd : QDesc) (backlog : Nat) (nonce : UInt32) :
    (∃ fail, p.listen qd backlog nonce = (.error fail, p)) ∨
    ∃ localAddr, p.sockets.lookup qd = some (.inactive (some localAddr)) ∧
      p.listen qd backlog nonce = (.ok (), { p with
        passive := p.passive.insert localAddr (PassiveSocket.new localAddr backlog p.rt nonce)
        sockets := p.sockets.insert qd (.listening localAddr) }) := by
  unfold listen
  split
  next localAddr found =>
    split
    · exact .inl ⟨_, rfl⟩
    · exact .inr ⟨localAddr, found, rfl⟩
  all_goals exact .inl ⟨_, rfl⟩

/-- **What `connect` can do**: fail at once for a socket that is not bound, or start to connect from the
socket's own address or from one with a port of the pool, and then still fail if there was a connect
attempt between the two. -/
theorem connect_cases (crc : List UInt8 → UInt32) (p : TcpPeer) (qd : QDesc)
    (remoteAddr : SocketAddrV4) :
    (∃ fail, (∀ localAddr, p.sockets.lookup qd ≠ some (.inactive (some localAddr))) ∧
      p.connect crc qd remoteAddr = (.error fail, p)) ∨
    ∃ localAddr ports isnGenerator socket,
      (p.sockets.lookup qd = some (.inactive (some localAddr)) ∧ ports = p.ephemeralPorts ∨
        p.sockets.lookup qd = some (.inactive none) ∧
          p.ephemeralPorts.ports.Perm (localAddr.port :: ports.ports)) ∧
      p.connect crc qd remoteAddr =
        (match p.connecting.lookup (localAddr, remoteAddr) with
          | some _ => .error { errno := .EALREADY, cause := "socket is connecting" }
          | none => .ok (),
        { p with
          ephemeralPorts := ports
          sockets := p.sockets.insert qd (.connecting localAddr remoteAddr)
          isnGenerator := isnGenerator
          connecting := p.connecting.insert (localAddr, remoteAddr) socket }) := by
  have unbound {socket : Socket} (found : p.sockets.lookup qd = some socket)
      (other : ∀ addr, socket ≠ .inactive (some addr)) (addr : SocketAddrV4) :
      p.sockets.lookup qd ≠ some (.inactive (some addr)) := by
    rw [found]
    exact fun same => other addr (Option.some.inj same)
  unfold connect
  split
  next found =>
    cases taken : p.ephemeralPorts.allocAny with
    | error fail => exact .inl ⟨fail, unbound found nofun, rfl⟩
    | ok got =>
      obtain ⟨localPort, ports⟩ := got
      exact .inr ⟨{ ip := p.localIpv4Addr, port := localPort }, ports, _, _,
        .inr ⟨found, EphemeralPorts.allocAny_perm taken⟩, rfl⟩
  next localAddr found => exact .inr ⟨localAddr, p.ephemeralPorts, _, _, .inl ⟨found, rfl⟩, rfl⟩
  next found => exact .inl ⟨_, unbound found nofun, rfl⟩
  next found => exact .inl ⟨_, unbound found nofun, rfl⟩
  next notBound _ _ => exact .inl ⟨_, notBound, rfl⟩

/-! ## What routing keeps -/

/-- The sockets stay as they are, and so do the keys of the other tables; the pool may be rearranged, and
a listener stays one on its address. -/
structure Kept (p p' : TcpPeer) : Prop where
  sockets : p'.sockets = p.sockets
  ports : p'.ephemeralPorts.ports.Perm p.ephemeralPorts.ports
  connecting : ∀ key, (p'.connecting.lookup key).isSome = (p.connecting.lookup key).isSome
  established : ∀ key, (p'.established.lookup key).isSome = (p.established.lookup key).isSome
  passive : ∀ addr, (p'.passive.lookup addr).isSome = (p.passive.lookup addr).isSome
  homed : (∀ addr s, p.passive.lookup addr = some s → s.Homed addr) →
    ∀ addr s, p'.passive.lookup addr = some s → s.Homed addr

theorem Kept.refl (p : TcpPeer) : Kept p p := ⟨rfl, .refl _, fun _ => rfl, fun _ => rfl, fun _ => rfl, id⟩

/-- One connect attempt is replaced. -/
theorem Kept.withConnecting {socket socket' : ActiveOpenSocket} (rt : Runtime)
    (known : p.connecting.lookup key = some socket) :
    Kept p { p with connecting := p.connecting.insert key socket', rt := rt } :=
  ⟨rfl, .refl _, Table.isSome_insert known socket', fun _ => rfl, fun _ => rfl, id⟩

/-- One listener is replaced, by one at the same address. -/
theorem Kept.withPassive {socket socket' : PassiveSocket} (rt : Runtime)
    (known : p.passive.lookup addr = some socket) (homed : socket.Homed addr → socket'.Homed addr) :
    Kept p { p with passive := p.passive.insert addr socket', rt := rt } := by
  refine ⟨rfl, .refl _, fun _ => rfl, fun _ => rfl, Table.isSome_insert known socket', ?_⟩
  intro all other s found
  rw [Table.lookup_insert] at found
  split at found
  next same =>
    cases found
    subst same
    exact homed (all other socket known)
  next => exact all other s found

/-- One connection is replaced. -/
theorem Kept.stepEstablished {e : Endpoint CongestionControl.None} {event : Event}
    (known : p.established.lookup key = some e)
    (ran : p.stepEstablished key e event = .ok p') : Kept p p' := by
  obtain ⟨e', -, ran⟩ := bind_eq_ok.mp ran
  cases ran
  exact ⟨rfl, .refl _, fun _ => rfl, Table.isSome_insert known e', fun _ => rfl, id⟩

/-- **Where a segment goes** nothing but the entry it is for is touched. -/
theorem Kept.route {env : Env} {header : TcpHeader} {data : Buffer} {result : Except Fail Unit}
    (ran : p.route crc fallbackMss env localAddr remoteAddr header data = .ok (result, p')) :
    Kept p p' := by
  unfold TcpPeer.route at ran
  split at ran
  next e known =>
    obtain ⟨p'', stepped, ran⟩ := bind_eq_ok.mp ran
    cases ran
    exact .stepEstablished known stepped
  next =>
  split at ran
  next socket known =>
    obtain ⟨socket', -, ran⟩ := bind_eq_ok.mp ran
    cases ran
    exact .withConnecting socket'.rt known
  next =>
  split at ran
  next socket known =>
    obtain ⟨⟨answer, socket'⟩, received, ran⟩ := bind_eq_ok.mp ran
    cases ran
    exact .withPassive socket'.rt known fun homed =>
      (homed.withRuntime p.rt).receive received
  next =>
    have eq : (p.sendRst env localAddr remoteAddr).2 = p' := congrArg Prod.snd (Except.ok.inj ran)
    rw [← eq]
    unfold sendRst
    split
    · exact .refl p
    · exact ⟨rfl, .refl _, fun _ => rfl, fun _ => rfl, fun _ => rfl, id⟩

theorem Kept.receive {env : Env} {ipHdr : Ipv4.Ipv4Header} {buf : Buffer}
    {result : Except Fail Unit}
    (ran : p.receive eof crc fallbackMss env ipHdr buf = .ok (result, p')) : Kept p p' := by
  obtain ⟨parsed, -, ran⟩ := bind_eq_ok.mp ran
  split at ran
  · cases ran
    exact .refl p
  · dsimp only at ran
    split at ran
    · cases ran
      exact .refl p
    · exact .route ran

/-- The connection of a socket is one that is entered. -/
theorem connection_ok {other : Socket → Fail} {e : Endpoint CongestionControl.None}
    (found : p.connection qd other = .ok (key, e)) : p.established.lookup key = some e := by
  unfold connection at found
  split at found
  · split at found
    next known =>
      cases found
      exact known
    next => cases found
  · cases found
  · cases found

theorem Kept.send {buf : Buffer} {env : Env} {result : Except Fail Unit}
    (ran : p.send qd buf env = .ok (result, p')) : Kept p p' := by
  unfold TcpPeer.send at ran
  split at ran
  · cases ran
    exact .refl p
  next found =>
    obtain ⟨answer, -, ran⟩ := bind_eq_ok.mp ran
    obtain ⟨p'', stepped, ran⟩ := bind_eq_ok.mp ran
    cases ran
    exact .stepEstablished (connection_ok found) stepped

theorem Kept.pollRecv {env : Env} {result : Option (Except Fail Buffer)}
    (ran : p.pollRecv qd env = .ok (result, p')) : Kept p p' := by
  unfold TcpPeer.pollRecv at ran
  dsimp only at ran
  split at ran
  · cases ran
    exact .refl p
  next found =>
    obtain ⟨p'', stepped, ran⟩ := bind_eq_ok.mp ran
    cases ran
    exact .stepEstablished (connection_ok found) stepped

/-- The retry task of a connect attempt. -/
theorem Kept.retryConnect (poll : RetryPoll) : Kept p (p.retryConnect key poll) := by
  unfold TcpPeer.retryConnect
  split
  · exact .refl p
  next known => exact .withConnecting _ known

theorem Kept.retryAccept (poll : RetryPoll) :
    Kept p (p.retryAccept localAddr remoteAddr poll) := by
  unfold TcpPeer.retryAccept
  split
  · exact .refl p
  next known =>
    exact .withPassive _ known fun homed => (homed.withRuntime p.rt).background poll

/-- The background tasks of a connection. -/
theorem Kept.background {call : Call} {env : Env} (ran : p.background key call env = .ok p') :
    Kept p p' := by
  unfold TcpPeer.background at ran
  split at ran
  · cases ran
    exact .refl p
  next known => exact .stepEstablished known ran

/-! ## Accepting, connecting, closing -/

/-- **What a poll for a connection can do**: take a result off a listener, and enter it if it is a
connection. -/
theorem pollAccept_cases {result : Option (Except Fail QDesc)}
    (homed : ∀ addr s, p.passive.lookup addr = some s → s.Homed addr)
    (ran : p.pollAccept qd newQd = .ok (result, p')) :
    (∀ other, result ≠ some (.ok other)) ∧ Kept p p' ∨
    ∃ localAddr remoteAddr socket socket' e,
      result = some (.ok newQd) ∧ p.sockets.lookup qd = some (.listening localAddr) ∧
      p.passive.lookup localAddr = some socket ∧ socket'.Homed localAddr ∧
      p.sockets.lookup newQd = none ∧
      p' = { p with
        passive := p.passive.insert localAddr socket'
        sockets := p.sockets.insert newQd (.established localAddr remoteAddr)
        established := p.established.insert (localAddr, remoteAddr) e } := by
  unfold pollAccept at ran
  split at ran
  next localAddr found =>
    split at ran
    next => cases ran
    next socket known =>
    obtain ⟨⟨taken, socket'⟩, polled, ran⟩ := bind_eq_ok.mp ran
    -- what comes out of the listener has its address
    obtain ⟨still, own⟩ := (homed localAddr socket known).pollAccept polled
    have kept : Kept p { p with passive := p.passive.insert localAddr socket' } :=
      .withPassive p.rt known fun _ => still
    dsimp only at ran
    split at ran
    · cases ran
      exact .inl ⟨nofun, kept⟩
    · cases ran
      exact .inl ⟨nofun, kept⟩
    next cb =>
      obtain ⟨p'', entered, ran⟩ := bind_eq_ok.mp ran
      cases ran
      unfold enterAccepted at entered
      dsimp only at entered
      split at entered
      next => cases entered
      next fresh =>
      split at entered
      next => cases entered
      next =>
      cases entered
      -- the connection is entered under its two addresses
      cases own cb rfl
      exact .inr ⟨cb.localAddr, cb.remoteAddr, socket, socket', _, rfl, found, known, still, fresh, rfl⟩
  · cases ran
    exact .inl ⟨nofun, .refl p⟩
  · cases ran
    exact .inl ⟨nofun, .refl p⟩

/-- The socket's connect attempt has failed, and the user has not been told yet. -/
def refused (p : TcpPeer) (qd : QDesc) : Bool :=
  match p.sockets.lookup qd with
  | some (.connecting localAddr remoteAddr) =>
    match p.connecting.lookup (localAddr, remoteAddr) with
    | some socket =>
      match socket.result with
      | some (.error _) => true
      | _ => false
    | none => false
  | _ => false

/-- **What a poll for the end of a connect attempt can do**: nothing, or take the attempt out of its
table. -/
theorem pollConnectFinished_cases {result : Option (Except Fail Unit)}
    (ran : p.pollConnectFinished qd = .ok (result, p')) :
    p.refused qd = false ∧ p' = p ∨
    ∃ localAddr remoteAddr, p.sockets.lookup qd = some (.connecting localAddr remoteAddr) ∧
      (p.refused qd = true ∧
          p' = { p with connecting := p.connecting.erase (localAddr, remoteAddr) } ∨
        ∃ e, p.refused qd = false ∧ p' = { p with
          connecting := p.connecting.erase (localAddr, remoteAddr)
          established := p.established.insert (localAddr, remoteAddr) e
          sockets := p.sockets.insert qd (.established localAddr remoteAddr) }) := by
  unfold pollConnectFinished at ran
  split at ran
  next localAddr remoteAddr found =>
    dsimp only at ran
    split at ran
    next known =>
      cases ran
      exact .inl ⟨by simp only [refused, found, known], rfl⟩
    next socket known =>
    have result_eq : socket.pollResult.1 = socket.result := rfl
    rw [result_eq] at ran
    -- nothing to tell, a failure to tell, or a connection to enter
    split at ran
    next pending =>
      cases ran
      exact .inl ⟨by simp only [refused, found, known, pending], rfl⟩
    next finished =>
    refine .inr ⟨localAddr, remoteAddr, found, ?_⟩
    split at ran
    next =>
      cases ran
      exact .inl ⟨by simp only [refused, found, known, finished], rfl⟩
    next =>
    split at ran
    next => cases ran
    next =>
      cases ran
      exact .inr ⟨_, by simp only [refused, found, known, finished], rfl⟩
  next socket notConnecting found =>
    cases ran
    refine .inl ⟨?_, rfl⟩
    unfold refused
    split
    next same => exact (notConnecting _ _ (Option.some.inj (found.symm.trans same))).elim
    next => rfl
  next absent =>
    cases ran
    exact .inl ⟨by simp only [refused, absent], rfl⟩

/-- **What `close` can do**: nothing if the descriptor is not open, and else take it out of the table of
sockets. It succeeds only for a connection. -/
theorem doClose_cases {env : Env} {result : Except Fail Unit}
    (ran : p.doClose qd env = .ok (result, p')) :
    p.sockets.lookup qd = none ∧ p' = p ∨
    ∃ socket, p.sockets.lookup qd = some socket ∧
      Kept { p with sockets := p.sockets.erase qd } p' ∧
      (result = .ok () ↔ ∃ localAddr remoteAddr,
        socket = .established localAddr remoteAddr ∧
          (p.established.lookup (localAddr, remoteAddr)).isSome = true) := by
  unfold doClose at ran
  dsimp only at ran
  split at ran
  next localAddr remoteAddr found =>
    refine .inr ⟨_, found, ?_⟩
    split at ran
    next e known =>
      obtain ⟨p'', stepped, ran⟩ := bind_eq_ok.mp ran
      cases ran
      refine ⟨.stepEstablished known stepped, fun _ => ?_, fun _ => rfl⟩
      exact ⟨localAddr, remoteAddr, rfl, by rw [known]; rfl⟩
    next absent =>
      cases ran
      refine ⟨.refl _, nofun, ?_⟩
      rintro ⟨_, _, same, present⟩
      cases same
      rw [absent] at present
      cases present
  next socket other found =>
    cases ran
    refine .inr ⟨socket, found, .refl _, nofun, ?_⟩
    rintro ⟨localAddr, remoteAddr, same, -⟩
    exact (other localAddr remoteAddr same).elim
  next absent =>
    cases ran
    exact .inl ⟨absent, rfl⟩

end TcpPeer

/-! ## The list of effects -/

/-- **The ways one event can change the tables of a peer.** -/
inductive Effect (r : PeerRun) (event : PeerEvent) : PeerRun → Prop where
  | kept {peer : TcpPeer} : TcpPeer.Kept r.peer peer → Effect r event { r with peer := peer }
  | opened {qd : QDesc} : r.peer.sockets.lookup qd = none →
    Effect r event { r with peer := { r.peer with sockets := r.peer.sockets.insert qd (.inactive none) } }
  | bound {qd : QDesc} {asked addr : SocketAddrV4} {ports : EphemeralPorts} :
    r.peer.sockets.lookup qd = some (.inactive none) →
    r.peer.ephemeralPorts.Claimed asked addr ports → r.peer.Unused asked →
    Effect r event { r with peer := { r.peer with
      ephemeralPorts := ports
      sockets := r.peer.sockets.insert qd (.inactive (some addr)) } }
  | listening {qd : QDesc} {addr : SocketAddrV4} {socket : PassiveSocket} :
    r.peer.sockets.lookup qd = some (.inactive (some addr)) → socket.Homed addr →
    Effect r event { r with peer := { r.peer with
      passive := r.peer.passive.insert addr socket
      sockets := r.peer.sockets.insert qd (.listening addr) } }
  | accepted {qd newQd : QDesc} {addr remoteAddr : SocketAddrV4} {old socket : PassiveSocket}
      {e : Endpoint CongestionControl.None} :
    r.peer.sockets.lookup qd = some (.listening addr) → r.peer.passive.lookup addr = some old →
    socket.Homed addr → r.peer.sockets.lookup newQd = none →
    Effect r event {
      peer := { r.peer with
        passive := r.peer.passive.insert addr socket
        sockets := r.peer.sockets.insert newQd (.established addr remoteAddr)
        established := r.peer.established.insert (addr, remoteAddr) e }
      accepted := insert newQd r.accepted }
  | connecting {qd : QDesc} {addr remoteAddr : SocketAddrV4} {ports : EphemeralPorts}
      {isnGenerator : IsnGenerator} {socket : ActiveOpenSocket} :
    r.peer.sockets.lookup qd = some (.inactive (some addr)) ∧ ports = r.peer.ephemeralPorts ∨
      r.peer.sockets.lookup qd = some (.inactive none) ∧
        r.peer.ephemeralPorts.ports.Perm (addr.port :: ports.ports) →
    Effect r event { r with peer := { r.peer with
      ephemeralPorts := ports
      sockets := r.peer.sockets.insert qd (.connecting addr remoteAddr)
      isnGenerator := isnGenerator
      connecting := r.peer.connecting.insert (addr, remoteAddr) socket } }
  | connected {qd : QDesc} {addr remoteAddr : SocketAddrV4} {e : Endpoint CongestionControl.None} :
    r.peer.sockets.lookup qd = some (.connecting addr remoteAddr) →
    Effect r event { r with peer := { r.peer with
      connecting := r.peer.connecting.erase (addr, remoteAddr)
      established := r.peer.established.insert (addr, remoteAddr) e
      sockets := r.peer.sockets.insert qd (.established addr remoteAddr) } }
  | refused {qd : QDesc} {addr remoteAddr : SocketAddrV4} :
    r.peer.sockets.lookup qd = some (.connecting addr remoteAddr) →
    event = .connectFinished qd → r.peer.refused qd = true →
    Effect r event { r with peer := { r.peer with
      connecting := r.peer.connecting.erase (addr, remoteAddr) } }
  | closed {qd : QDesc} {peer : TcpPeer} :
    TcpPeer.Kept { r.peer with sockets := r.peer.sockets.erase qd } peer →
    Effect r event { peer := peer, accepted := r.accepted.erase qd }

namespace PeerRun

variable {eof : Fail} {crc : List UInt8 → UInt32} {fallbackMss : Nat} {r r' : PeerRun}
  {event : PeerEvent}

/-- Every event has one of the listed effects. -/
theorem step_effect (valid : r.peer.ephemeralPorts.Valid)
    (homed : ∀ addr s, r.peer.passive.lookup addr = some s → s.Homed addr)
    (stepped : r.step eof crc fallbackMss event = .ok r') : Effect r event r' := by
  cases event with
  | socket qd =>
    cases stepped
    unfold TcpPeer.doSocket
    split
    next absent => exact .opened absent
    next => exact .kept (.refl _)
  | bind qd addr =>
    cases stepped
    obtain ⟨fail, ports, perm, ran⟩ | ⟨localAddr, ports, found, claimed, -, unused, ran⟩ :=
      TcpPeer.bind_cases valid qd addr
    · rw [ran]
      exact .kept ⟨rfl, perm, fun _ => rfl, fun _ => rfl, fun _ => rfl, id⟩
    · rw [ran]
      exact .bound found claimed unused
  | listen qd backlog nonce =>
    cases stepped
    obtain ⟨fail, ran⟩ | ⟨localAddr, found, ran⟩ := r.peer.listen_cases qd backlog nonce
    · rw [ran]
      exact .kept (.refl _)
    · rw [ran]
      exact .listening found (.new backlog r.peer.rt nonce)
  | accept qd newQd =>
    obtain ⟨⟨result, peer⟩, ran, stepped⟩ := bind_eq_ok.mp stepped
    obtain ⟨no, kept⟩ | ⟨localAddr, remoteAddr, old, socket, e, rfl, found, known, still, fresh, rfl⟩ :=
      TcpPeer.pollAccept_cases homed ran
    -- the polls that change no table: pending, failed, or answered for no descriptor
    · split at stepped
      next same => exact (no _ (congrArg Prod.fst same)).elim
      next same =>
        cases same
        cases stepped
        exact .kept kept
    · cases stepped
      exact .accepted found known still fresh
  | connect qd remoteAddr =>
    cases stepped
    obtain ⟨fail, -, ran⟩ | ⟨localAddr, ports, isnGenerator, socket, source, ran⟩ :=
      r.peer.connect_cases crc qd remoteAddr
    · rw [ran]
      exact .kept (.refl _)
    · rw [ran]
      exact .connecting source
  | connectFinished qd =>
    obtain ⟨⟨result, peer⟩, ran, stepped⟩ := bind_eq_ok.mp stepped
    cases stepped
    obtain ⟨-, rfl⟩ | ⟨localAddr, remoteAddr, found, ⟨refused, rfl⟩ | ⟨e, -, rfl⟩⟩ :=
      TcpPeer.pollConnectFinished_cases ran
    · exact .kept (.refl _)
    · exact .refused found rfl refused
    · exact .connected found
  | close qd env =>
    obtain ⟨⟨result, peer⟩, ran, stepped⟩ := bind_eq_ok.mp stepped
    cases stepped
    obtain ⟨absent, rfl⟩ | ⟨socket, -, kept, -⟩ := TcpPeer.doClose_cases ran
    -- closing an unknown descriptor erases nothing
    · refine .closed ?_
      rw [Table.erase_of_none absent]
      exact .refl _
    · exact .closed kept
  | send qd buf env =>
    obtain ⟨⟨result, peer⟩, ran, stepped⟩ := bind_eq_ok.mp stepped
    cases stepped
    exact .kept (.send ran)
  | recv qd env =>
    obtain ⟨⟨result, peer⟩, ran, stepped⟩ := bind_eq_ok.mp stepped
    cases stepped
    exact .kept (.pollRecv ran)
  | receive ipHdr buf env =>
    obtain ⟨⟨result, peer⟩, ran, stepped⟩ := bind_eq_ok.mp stepped
    cases stepped
    exact .kept (.receive ran)
  | retryConnect key poll =>
    cases stepped
    exact .kept (.retryConnect poll)
  | retryAccept localAddr remoteAddr poll =>
    cases stepped
    exact .kept (.retryAccept poll)
  | background key call env =>
    obtain ⟨peer, ran, stepped⟩ := bind_eq_ok.mp stepped
    cases stepped
    exact .kept (.background ran)

end PeerRun

end Inetstack.Tcp
