import Inetstack.Laws.Tcp.Peer

/-!
# The socket tables of a TCP peer

Local addresses are exclusive: a port of the pool belongs to no open socket, and two sockets that were
bound or connected do not share an address. A socket that was accepted has the address of its listener.
The ports of connect attempts stay out of the pool too, also when their socket has been closed, so a port
of the pool is new to every table.

The tables agree with the sockets in one direction: a listening socket has a listener and a connected one
a connection. A connecting socket has a connect attempt until the attempt fails. Then `poll_connect_finished`
takes the attempt out of its table and leaves the socket connecting.
-/

namespace Inetstack.Tcp

open Machine (Admits)
open Ip (EphemeralPorts)

namespace PeerRun

/-- **Local addresses are exclusive.** -/
structure Exclusive (r : PeerRun) : Prop where
  distinct : ∀ qd qd' socket socket' addr, qd ≠ qd' → qd ∉ r.accepted → qd' ∉ r.accepted →
    r.peer.sockets.lookup qd = some socket → r.peer.sockets.lookup qd' = some socket' →
    socket.localAddr = some addr → socket'.localAddr ≠ some addr
  nodup : r.peer.ephemeralPorts.ports.Nodup
  taken : ∀ qd socket addr, r.peer.sockets.lookup qd = some socket →
    socket.localAddr = some addr → addr.port ∉ r.peer.ephemeralPorts.ports

/-- Exclusiveness with what keeps it. -/
structure Sound (r : PeerRun) : Prop extends Exclusive r where
  privateOnly : ∀ port ∈ r.peer.ephemeralPorts.ports, EphemeralPorts.isPrivate port = true
  attempts : ∀ key, (r.peer.connecting.lookup key).isSome = true →
    key.1.port ∉ r.peer.ephemeralPorts.ports
  acceptedOpen : ∀ qd ∈ r.accepted, ∃ addr remoteAddr,
    r.peer.sockets.lookup qd = some (.established addr remoteAddr)
  homed : ∀ addr s, r.peer.passive.lookup addr = some s → s.Homed addr
  listeners : ∀ qd addr, r.peer.sockets.lookup qd = some (.listening addr) →
    (r.peer.passive.lookup addr).isSome = true
  connections : ∀ qd addr remoteAddr, r.peer.sockets.lookup qd = some (.established addr remoteAddr) →
    (r.peer.established.lookup (addr, remoteAddr)).isSome = true

variable {eof : Fail} {crc : List UInt8 → UInt32} {fallbackMss : Nat} {r r' : PeerRun}
  {event : PeerEvent} {qd : QDesc} {socket : Socket} {addr remoteAddr : SocketAddrV4}

/-- The pool is valid. -/
theorem Sound.valid (h : r.Sound) : r.peer.ephemeralPorts.Valid := ⟨h.nodup, h.privateOnly⟩

/-- An accepted socket is an established one. -/
theorem Sound.not_accepted (h : r.Sound) (found : r.peer.sockets.lookup qd = some socket)
    (other : ∀ addr remoteAddr, socket ≠ .established addr remoteAddr) : qd ∉ r.accepted := by
  intro mem
  obtain ⟨addr, remoteAddr, same⟩ := h.acceptedOpen qd mem
  exact other addr remoteAddr (Option.some.inj (found.symm.trans same))

/-- **A new state of one descriptor.** It keeps addresses exclusive if its address is free of the pool
and, unless the socket is an accepted one, no other socket's. -/
theorem Exclusive.assign (h : r.Exclusive)
    (sockets : r'.peer.sockets = r.peer.sockets.insert qd socket)
    (others : ∀ other, other ≠ qd → other ∉ r'.accepted → other ∉ r.accepted)
    (nodup : r'.peer.ephemeralPorts.ports.Nodup)
    (fewer : ∀ port ∈ r'.peer.ephemeralPorts.ports, port ∈ r.peer.ephemeralPorts.ports)
    (free : ∀ addr, socket.localAddr = some addr → addr.port ∉ r'.peer.ephemeralPorts.ports)
    (own : qd ∉ r'.accepted → ∀ addr, socket.localAddr = some addr → ∀ other socket', other ≠ qd →
      other ∉ r.accepted → r.peer.sockets.lookup other = some socket' →
      socket'.localAddr ≠ some addr) : r'.Exclusive := by
  refine ⟨?_, nodup, ?_⟩
  · intro qd₁ qd₂ socket₁ socket₂ addr ne out₁ out₂ found₁ found₂ has₁ has₂
    rw [sockets, Table.lookup_insert] at found₁ found₂
    split at found₁
    next same₁ =>
      subst same₁
      cases found₁
      rw [if_neg ne.symm] at found₂
      exact own out₁ addr has₁ qd₂ socket₂ ne.symm (others qd₂ ne.symm out₂) found₂ has₂
    next ne₁ =>
      split at found₂
      next same₂ =>
        subst same₂
        cases found₂
        exact own out₂ addr has₂ qd₁ socket₁ ne (others qd₁ ne out₁) found₁ has₁
      next ne₂ =>
        exact h.distinct qd₁ qd₂ socket₁ socket₂ addr ne (others qd₁ ne₁ out₁) (others qd₂ ne₂ out₂)
          found₁ found₂ has₁ has₂
  · intro other socket' addr found has
    rw [sockets, Table.lookup_insert] at found
    split at found
    · cases found
      exact free addr has
    · exact fun mem => h.taken other socket' addr found has (fewer addr.port mem)

/-- The special case of a socket that keeps its address. -/
theorem Exclusive.keepAddr (h : r.Exclusive) {old : Socket}
    (found : r.peer.sockets.lookup qd = some old) (out : qd ∉ r.accepted)
    (sockets : r'.peer.sockets = r.peer.sockets.insert qd socket)
    (same : socket.localAddr = old.localAddr)
    (ports : r'.peer.ephemeralPorts = r.peer.ephemeralPorts) (accepted : r'.accepted = r.accepted) :
    r'.Exclusive := by
  refine h.assign sockets (fun _ _ out => accepted ▸ out) (ports ▸ h.nodup)
    (fun port mem => ports ▸ mem) ?_ ?_
  · intro addr has
    rw [ports]
    exact h.taken qd old addr found (same ▸ has)
  · intro _ addr has other socket' ne out' found' has'
    exact h.distinct qd other old socket' addr ne.symm out out' found found' (same ▸ has) has'

/-- The special case of a socket that gets a port of the pool. -/
theorem Exclusive.takePort (h : r.Exclusive) (valid : r.peer.ephemeralPorts.Valid)
    (has : socket.localAddr = some addr)
    (perm : r.peer.ephemeralPorts.ports.Perm (addr.port :: r'.peer.ephemeralPorts.ports))
    (sockets : r'.peer.sockets = r.peer.sockets.insert qd socket)
    (accepted : r'.accepted = r.accepted) : r'.Exclusive := by
  obtain ⟨fresh, -, left⟩ := valid.taken perm
  have pooled : addr.port ∈ r.peer.ephemeralPorts.ports := perm.mem_iff.mpr List.mem_cons_self
  refine h.assign sockets (fun _ _ out => accepted ▸ out) left.nodup
    (fun port mem => perm.mem_iff.mpr (List.mem_cons_of_mem _ mem)) ?_ ?_
  · intro addr' has'
    cases has.symm.trans has'
    exact fresh
  · intro _ addr' has' other socket' _ _ found' same
    cases has.symm.trans has'
    exact h.taken other socket' addr found' same pooled

/-! ## What each effect does to a sound peer -/

/-- **What routing keeps** keeps the exclusiveness of addresses. -/
theorem Sound.kept {peer : TcpPeer} (h : r.Sound) (kept : r.peer.Kept peer) :
    Sound { r with peer := peer } where
  distinct := by
    rw [kept.sockets]
    exact h.distinct
  nodup := kept.ports.nodup_iff.mpr h.nodup
  taken := by
    intro qd socket addr found has mem
    exact h.taken qd socket addr (kept.sockets ▸ found) has (kept.ports.mem_iff.mp mem)
  privateOnly port mem := h.privateOnly port (kept.ports.mem_iff.mp mem)
  attempts key present mem :=
    h.attempts key (kept.connecting key ▸ present) (kept.ports.mem_iff.mp mem)
  acceptedOpen := by
    rw [kept.sockets]
    exact h.acceptedOpen
  homed := kept.homed h.homed
  listeners := by
    intro qd addr found
    rw [kept.passive]
    exact h.listeners qd addr (kept.sockets ▸ found)
  connections := by
    intro qd addr remoteAddr found
    rw [kept.established]
    exact h.connections qd addr remoteAddr (kept.sockets ▸ found)

/-- A socket less. The pool stays as it is. -/
theorem Sound.closed (h : r.Sound) (qd : QDesc) :
    Sound {
      peer := { r.peer with sockets := r.peer.sockets.erase qd }
      accepted := r.accepted.erase qd } := by
  have older {other : QDesc} {socket : Socket}
      (found : (r.peer.sockets.erase qd).lookup other = some socket) :
      other ≠ qd ∧ r.peer.sockets.lookup other = some socket := by
    rw [Table.lookup_erase] at found
    split at found
    · cases found
    next ne => exact ⟨ne, found⟩
  have out {other : QDesc} (ne : other ≠ qd) (notErased : other ∉ r.accepted.erase qd) :
      other ∉ r.accepted := fun mem => notErased (Finset.mem_erase.mpr ⟨ne, mem⟩)
  exact {
    distinct := by
      intro qd₁ qd₂ socket₁ socket₂ addr ne out₁ out₂ found₁ found₂ has
      obtain ⟨ne₁, found₁⟩ := older found₁
      obtain ⟨ne₂, found₂⟩ := older found₂
      exact h.distinct qd₁ qd₂ socket₁ socket₂ addr ne (out ne₁ out₁) (out ne₂ out₂) found₁ found₂ has
    nodup := h.nodup
    taken := fun other socket addr found has => h.taken other socket addr (older found).2 has
    privateOnly := h.privateOnly
    attempts := h.attempts
    acceptedOpen := by
      intro other mem
      obtain ⟨ne, mem⟩ := Finset.mem_erase.mp mem
      obtain ⟨addr, remoteAddr, found⟩ := h.acceptedOpen other mem
      exact ⟨addr, remoteAddr, by rw [Table.lookup_erase, if_neg ne, found]⟩
    homed := h.homed
    listeners := fun other addr found => h.listeners other addr (older found).2
    connections := fun other addr remoteAddr found =>
      h.connections other addr remoteAddr (older found).2 }

/-- What is found after a descriptor has been assigned a socket. -/
theorem assigned {other : QDesc} {found : Socket}
    (h : (r.peer.sockets.insert qd socket).lookup other = some found) :
    other = qd ∧ found = socket ∨ r.peer.sockets.lookup other = some found := by
  rw [Table.lookup_insert] at h
  split at h
  next same => exact .inl ⟨same, (Option.some.inj h).symm⟩
  next => exact .inr h

/-- An accepted socket is still there after another descriptor has been assigned a socket. -/
theorem Sound.acceptedOpen_insert (h : r.Sound) (out : qd ∉ r.accepted) :
    ∀ other ∈ r.accepted, ∃ addr remoteAddr,
      (r.peer.sockets.insert qd socket).lookup other = some (.established addr remoteAddr) := by
  intro other mem
  have ne : other ≠ qd := fun same => out (same ▸ mem)
  obtain ⟨addr, remoteAddr, found⟩ := h.acceptedOpen other mem
  exact ⟨addr, remoteAddr, by rw [Table.lookup_insert, if_neg ne, found]⟩

/-- A socket more, whose listener there is. -/
theorem Sound.listeners_insert (h : r.Sound) {passive : AList fun _ : SocketAddrV4 => PassiveSocket}
    (own : ∀ addr, socket = .listening addr → (passive.lookup addr).isSome = true)
    (more : ∀ addr, (r.peer.passive.lookup addr).isSome = true →
      (passive.lookup addr).isSome = true) :
    ∀ other addr, (r.peer.sockets.insert qd socket).lookup other = some (.listening addr) →
      (passive.lookup addr).isSome = true := by
  intro other addr found
  obtain ⟨-, same⟩ | found := assigned found
  · exact own addr same.symm
  · exact more addr (h.listeners other addr found)

/-- A socket more, whose connection there is. -/
theorem Sound.connections_insert (h : r.Sound)
    {established : AList fun _ : SocketAddrV4 × SocketAddrV4 => Endpoint CongestionControl.None}
    (own : ∀ addr remoteAddr, socket = .established addr remoteAddr →
      (established.lookup (addr, remoteAddr)).isSome = true)
    (more : ∀ key, (r.peer.established.lookup key).isSome = true →
      (established.lookup key).isSome = true) :
    ∀ other addr remoteAddr,
      (r.peer.sockets.insert qd socket).lookup other = some (.established addr remoteAddr) →
      (established.lookup (addr, remoteAddr)).isSome = true := by
  intro other addr remoteAddr found
  obtain ⟨-, same⟩ | found := assigned found
  · exact own addr remoteAddr same.symm
  · exact more (addr, remoteAddr) (h.connections other addr remoteAddr found)

/-- `socket`. -/
theorem Sound.opened (h : r.Sound) (absent : r.peer.sockets.lookup qd = none) :
    Sound { r with peer := { r.peer with sockets := r.peer.sockets.insert qd (.inactive none) } } := by
  have out : qd ∉ r.accepted := by
    intro mem
    obtain ⟨addr, remoteAddr, found⟩ := h.acceptedOpen qd mem
    cases absent.symm.trans found
  exact {
    toExclusive := h.toExclusive.assign rfl (fun _ _ => id) h.nodup (fun _ => id) nofun nofun
    privateOnly := h.privateOnly
    attempts := h.attempts
    acceptedOpen := h.acceptedOpen_insert out
    homed := h.homed
    listeners := h.listeners_insert nofun fun _ => id
    connections := h.connections_insert nofun fun _ => id }

/-- `bind`: the address is unused, and its port leaves the pool. -/
theorem Sound.bound (h : r.Sound) {asked : SocketAddrV4} {ports : EphemeralPorts}
    (found : r.peer.sockets.lookup qd = some (.inactive none))
    (claimed : r.peer.ephemeralPorts.Claimed asked addr ports)
    (unused : r.peer.Unused asked) :
    Sound { r with peer := { r.peer with
      ephemeralPorts := ports
      sockets := r.peer.sockets.insert qd (.inactive (some addr)) } } := by
  have fewer := claimed.fewer
  exact {
    toExclusive := by
      obtain perm | ⟨rfl, rfl, notPrivate⟩ := claimed
      · exact h.toExclusive.takePort h.valid rfl perm rfl rfl
      · refine h.toExclusive.assign rfl (fun _ _ => id) h.nodup (fun _ => id) ?_ ?_
        · rintro _ ⟨⟩ mem
          cases notPrivate.symm.trans (h.privateOnly _ mem)
        · rintro _ _ ⟨⟩ other socket' - - found' has
          exact unused other socket' found' has
    privateOnly := fun port mem => h.privateOnly port (fewer port mem)
    attempts := fun key present mem => h.attempts key present (fewer key.1.port mem)
    acceptedOpen := h.acceptedOpen_insert (h.not_accepted found nofun)
    homed := h.homed
    listeners := h.listeners_insert nofun fun _ => id
    connections := h.connections_insert nofun fun _ => id }

/-- One listener is replaced. -/
theorem Sound.homed_insert (h : r.Sound) {s : PassiveSocket} (still : s.Homed addr) :
    ∀ other s', (r.peer.passive.insert addr s).lookup other = some s' → s'.Homed other := by
  intro other s' found
  rw [Table.lookup_insert] at found
  split at found
  next same =>
    cases found
    exact same ▸ still
  next => exact h.homed other s' found

/-- `listen`: the socket keeps the address it is bound to. -/
theorem Sound.listening (h : r.Sound) {s : PassiveSocket}
    (found : r.peer.sockets.lookup qd = some (.inactive (some addr))) (still : s.Homed addr) :
    Sound { r with peer := { r.peer with
      passive := r.peer.passive.insert addr s
      sockets := r.peer.sockets.insert qd (.listening addr) } } :=
  have out : qd ∉ r.accepted := h.not_accepted found nofun
  { toExclusive := h.toExclusive.keepAddr found out rfl rfl rfl rfl
    privateOnly := h.privateOnly
    attempts := h.attempts
    acceptedOpen := h.acceptedOpen_insert out
    homed := h.homed_insert still
    listeners := h.listeners_insert (by rintro _ ⟨⟩; exact Table.isSome_insert_self _ _ _)
      fun _ => Table.isSome_insert_of_isSome _
    connections := h.connections_insert nofun fun _ => id }

/-- An accept that returns: the new socket shares the address of its listener, and is recorded as
accepted. -/
theorem Sound.accepted (h : r.Sound) {newQd : QDesc} {s : PassiveSocket}
    {e : Endpoint CongestionControl.None}
    (found : r.peer.sockets.lookup qd = some (.listening addr)) (still : s.Homed addr) :
    Sound {
      peer := { r.peer with
        passive := r.peer.passive.insert addr s
        sockets := r.peer.sockets.insert newQd (.established addr remoteAddr)
        established := r.peer.established.insert (addr, remoteAddr) e }
      accepted := insert newQd r.accepted } where
  toExclusive := by
    refine h.toExclusive.assign rfl ?_ h.nodup (fun _ => id) ?_ ?_
    · intro other _ out mem
      exact out (Finset.mem_insert_of_mem mem)
    · rintro _ ⟨⟩
      exact h.taken qd _ addr found rfl
    · intro out
      exact (out (Finset.mem_insert_self newQd _)).elim
  privateOnly := h.privateOnly
  attempts := h.attempts
  acceptedOpen := by
    intro other mem
    by_cases same : other = newQd
    · exact ⟨addr, remoteAddr, by rw [Table.lookup_insert, if_pos same]⟩
    · obtain ⟨addr', remoteAddr', found'⟩ :=
        h.acceptedOpen other ((Finset.mem_insert.mp mem).resolve_left same)
      exact ⟨addr', remoteAddr', by rw [Table.lookup_insert, if_neg same, found']⟩
  homed := h.homed_insert still
  listeners := h.listeners_insert nofun fun _ => Table.isSome_insert_of_isSome _
  connections := h.connections_insert (by rintro _ _ ⟨⟩; exact Table.isSome_insert_self _ _ _)
    fun _ => Table.isSome_insert_of_isSome _

/-- `connect`: the socket keeps its address, or claims a port picked for it. -/
theorem Sound.connecting (h : r.Sound) {ports : EphemeralPorts} {isnGenerator : IsnGenerator}
    {attempt : ActiveOpenSocket}
    (source : r.peer.sockets.lookup qd = some (.inactive (some addr)) ∧
        ports = r.peer.ephemeralPorts ∨
      r.peer.sockets.lookup qd = some (.inactive none) ∧
        r.peer.ephemeralPorts.ports.Perm (addr.port :: ports.ports)) :
    Sound { r with peer := { r.peer with
      ephemeralPorts := ports
      sockets := r.peer.sockets.insert qd (.connecting addr remoteAddr)
      isnGenerator := isnGenerator
      connecting := r.peer.connecting.insert (addr, remoteAddr) attempt } } := by
  have out : qd ∉ r.accepted := by
    obtain ⟨found, -⟩ | ⟨found, -⟩ := source <;> exact h.not_accepted found nofun
  have fewer : ∀ port ∈ ports.ports, port ∈ r.peer.ephemeralPorts.ports := by
    intro port mem
    obtain ⟨-, rfl⟩ | ⟨-, perm⟩ := source
    · exact mem
    · exact perm.mem_iff.mpr (List.mem_cons_of_mem _ mem)
  have exclusive : Exclusive { r with peer := { r.peer with
      ephemeralPorts := ports
      sockets := r.peer.sockets.insert qd (.connecting addr remoteAddr)
      isnGenerator := isnGenerator
      connecting := r.peer.connecting.insert (addr, remoteAddr) attempt } } := by
    obtain ⟨found, rfl⟩ | ⟨found, perm⟩ := source
    · exact h.toExclusive.keepAddr found out rfl rfl rfl rfl
    · exact h.toExclusive.takePort h.valid rfl perm rfl rfl
  exact {
    toExclusive := exclusive
    privateOnly := fun port mem => h.privateOnly port (fewer port mem)
    attempts := by
      intro key present mem
      rw [Table.lookup_insert] at present
      split at present
      next same =>
        subst same
        exact exclusive.taken qd (.connecting addr remoteAddr) addr
          (by rw [Table.lookup_insert, if_pos rfl]) rfl mem
      next => exact h.attempts key present (fewer key.1.port mem)
    acceptedOpen := h.acceptedOpen_insert out
    homed := h.homed
    listeners := h.listeners_insert nofun fun _ => id
    connections := h.connections_insert nofun fun _ => id }

theorem Sound.erased (h : r.Sound) (key : SocketAddrV4 × SocketAddrV4) :
    Sound { r with peer := { r.peer with connecting := r.peer.connecting.erase key } } :=
  { h with
    attempts := by
      intro other present
      rw [Table.lookup_erase] at present
      split at present
      · cases present
      · exact h.attempts other present }

/-- A connect that has finished: the socket keeps its address. -/
theorem Sound.connected (h : r.Sound) {e : Endpoint CongestionControl.None}
    (found : r.peer.sockets.lookup qd = some (.connecting addr remoteAddr)) :
    Sound { r with peer := { r.peer with
      established := r.peer.established.insert (addr, remoteAddr) e
      sockets := r.peer.sockets.insert qd (.established addr remoteAddr) } } :=
  have out : qd ∉ r.accepted := h.not_accepted found nofun
  { toExclusive := h.toExclusive.keepAddr found out rfl rfl rfl rfl
    privateOnly := h.privateOnly
    attempts := h.attempts
    acceptedOpen := h.acceptedOpen_insert out
    homed := h.homed
    listeners := h.listeners_insert nofun fun _ => id
    connections := h.connections_insert (by rintro _ _ ⟨⟩; exact Table.isSome_insert_self _ _ _)
      fun _ => Table.isSome_insert_of_isSome _ }

/-- **Every event keeps a peer sound.** -/
theorem step_sound (h : r.Sound) (stepped : r.step eof crc fallbackMss event = .ok r') : r'.Sound := by
  cases step_effect h.valid h.homed stepped with
  | kept kept => exact h.kept kept
  | opened absent => exact h.opened absent
  | bound found claimed unused => exact h.bound found claimed unused
  | listening found still => exact h.listening found still
  | accepted found known still fresh => exact h.accepted found still
  | connecting source => exact h.connecting source
  | connected found => exact (h.erased _).connected found
  | refused found => exact h.erased _
  | closed kept => exact (h.closed _).kept kept

/-- A new peer has no sockets, and a pool of all the private ports. -/
theorem start_sound {shuffle : List UInt16 → List UInt16} (perm : ∀ l, (shuffle l).Perm l)
    (nonce : UInt32) (rt : Runtime) (localIpv4Addr : Ipv4Addr) :
    (start (TcpPeer.new shuffle nonce rt localIpv4Addr)).Sound := by
  have valid := EphemeralPorts.valid_new perm
  exact {
    distinct := fun _ _ _ _ _ _ _ _ found => by cases found
    nodup := valid.nodup
    taken := fun _ _ _ found => by cases found
    privateOnly := valid.privateOnly
    attempts := fun _ present => by cases present
    acceptedOpen := fun _ mem => absurd mem (Finset.notMem_empty _)
    homed := fun _ _ found => by cases found
    listeners := fun _ _ found => by cases found
    connections := fun _ _ _ found => by cases found }

/-- **A run of a peer** from its start. -/
theorem run_sound {shuffle : List UInt16 → List UInt16} (perm : ∀ l, (shuffle l).Perm l)
    {nonce : UInt32} {rt : Runtime} {localIpv4Addr : Ipv4Addr} {events : List PeerEvent}
    (ran : Machine.run (step eof crc fallbackMss)
      (start (TcpPeer.new shuffle nonce rt localIpv4Addr)) events = .ok r) : r.Sound :=
  Machine.invariant Sound step_sound (start_sound perm nonce rt localIpv4Addr) ran

/-- **Local addresses are exclusive** in every state a peer can reach, however its pool was shuffled. -/
theorem local_addresses_exclusive (eof : Fail) (crc : List UInt8 → UInt32) (fallbackMss : Nat)
    (shuffle : List UInt16 → List UInt16) (perm : ∀ l, (shuffle l).Perm l) (nonce : UInt32)
    (rt : Runtime) (localIpv4Addr : Ipv4Addr) (events : List PeerEvent) (r : PeerRun)
    (ran : Machine.run (step eof crc fallbackMss)
      (start (TcpPeer.new shuffle nonce rt localIpv4Addr)) events = .ok r) : r.Exclusive :=
  (run_sound perm ran).toExclusive

/-- A peer at its start, with the checksums of incoming segments left to the hardware. -/
def sampleStart : PeerRun :=
  start (TcpPeer.new id 0 ⟨7, { sampleConfig with rxChecksumOffload := true }, []⟩ 0x0a000001)

def sampleFail : Fail := { errno := .EINVAL, cause := "I/O error" }

/-- The address of the first of two sockets is refused to the second. -/
theorem local_addresses_exclusive_refused :
    ∃ r, Machine.run (step sampleFail (fun _ => 500) 536) sampleStart
        [.socket 1, .bind 1 ⟨0x0a000001, 80⟩, .listen 1 4 0, .socket 2, .bind 2 ⟨0x0a000001, 80⟩,
          .bind 2 ⟨0x0a000001, 81⟩] = .ok r ∧
      r.peer.sockets.lookup 2 = some (.inactive (some ⟨0x0a000001, 81⟩)) ∧ r.Exclusive := by
  obtain ⟨r, ran, second⟩ := Machine.map_eq_ok
    (x := Machine.run (step sampleFail (fun _ => 500) 536) sampleStart
        [.socket 1, .bind 1 ⟨0x0a000001, 80⟩, .listen 1 4 0, .socket 2, .bind 2 ⟨0x0a000001, 80⟩,
          .bind 2 ⟨0x0a000001, 81⟩])
    (fun r => r.peer.sockets.lookup 2) (t := some (.inactive (some ⟨0x0a000001, 81⟩)))
    (by decide +kernel)
  refine ⟨r, ran, second, ?_⟩
  exact local_addresses_exclusive _ _ _ id (fun _ => .refl _) _ _ _ _ r ran

/-! ## The tables agree with the sockets -/

/-- Every socket has its entry in the table of its state. -/
structure Consistent (r : PeerRun) : Prop where
  listening : ∀ qd addr, r.peer.sockets.lookup qd = some (.listening addr) →
    (r.peer.passive.lookup addr).isSome = true
  connecting : ∀ qd addr remoteAddr,
    r.peer.sockets.lookup qd = some (.connecting addr remoteAddr) →
    (r.peer.connecting.lookup (addr, remoteAddr)).isSome = true
  established : ∀ qd addr remoteAddr,
    r.peer.sockets.lookup qd = some (.established addr remoteAddr) →
    (r.peer.established.lookup (addr, remoteAddr)).isSome = true

/-- The event tells the user that a connect attempt has failed. -/
def tellsFailure (r : PeerRun) : PeerEvent → Bool
  | .connectFinished qd => r.peer.refused qd
  | _ => false

/-- The special case of a socket that is not assigned to connecting. -/
theorem connecting_insert (h : r.Consistent)
    (own : ∀ addr remoteAddr, socket ≠ .connecting addr remoteAddr) :
    ∀ other addr remoteAddr,
      (r.peer.sockets.insert qd socket).lookup other = some (.connecting addr remoteAddr) →
      (r.peer.connecting.lookup (addr, remoteAddr)).isSome = true := by
  intro other addr remoteAddr found
  obtain ⟨-, same⟩ | found := assigned found
  · exact (own addr remoteAddr same.symm).elim
  · exact h.connecting other addr remoteAddr found

/-- A connecting socket has its connect attempt until a failure is told. -/
theorem step_connecting (sound : r.Sound) (h : r.Consistent) (quiet : r.tellsFailure event = false)
    (stepped : r.step eof crc fallbackMss event = .ok r') :
    ∀ qd addr remoteAddr, r'.peer.sockets.lookup qd = some (.connecting addr remoteAddr) →
      (r'.peer.connecting.lookup (addr, remoteAddr)).isSome = true := by
  cases step_effect sound.valid sound.homed stepped with
  | kept kept =>
    intro qd addr remoteAddr found
    rw [kept.connecting]
    exact h.connecting qd addr remoteAddr (kept.sockets ▸ found)
  | opened absent => exact connecting_insert h nofun
  | bound found claimed unused => exact connecting_insert h nofun
  | listening found still => exact connecting_insert h nofun
  | accepted found known still fresh => exact connecting_insert h nofun
  | connecting source =>
    intro other addr' remoteAddr' found'
    obtain ⟨-, same⟩ | found' := assigned found'
    · cases same
      exact Table.isSome_insert_self _ _ _
    · exact Table.isSome_insert_of_isSome _ (h.connecting other addr' remoteAddr' found')
  | @connected qd addr remoteAddr e found =>
    intro other addr' remoteAddr' found'
    dsimp only at found' ⊢
    rw [Table.lookup_insert] at found'
    split at found'
    · cases found'
    next ne =>
      have apart : addr' ≠ addr := by
        intro same
        exact sound.distinct qd other _ _ addr (Ne.symm ne) (sound.not_accepted found nofun)
          (sound.not_accepted found' nofun) found found' rfl (congrArg some same)
      rw [Table.lookup_erase, if_neg fun same => apart (congrArg Prod.fst same)]
      exact h.connecting other addr' remoteAddr' found'
  | refused found same told =>
    subst same
    cases quiet.symm.trans told
  | closed kept =>
    intro other addr' remoteAddr' found'
    rw [kept.sockets, Table.lookup_erase] at found'
    split at found'
    · cases found'
    · rw [kept.connecting]
      exact h.connecting other addr' remoteAddr' found'

/-- **One step** that tells of no failure keeps every socket with its entry. -/
theorem step_consistent (sound : r.Sound) (h : r.Consistent) (quiet : r.tellsFailure event = false)
    (stepped : r.step eof crc fallbackMss event = .ok r') : r'.Sound ∧ r'.Consistent := by
  have sound' := step_sound sound stepped
  exact ⟨sound', sound'.listeners, step_connecting sound h quiet stepped, sound'.connections⟩

/-- After a failure has been told, the socket is connecting and has no connect attempt. -/
theorem not_consistent_of_tellsFailure (told : r.tellsFailure event = true)
    (stepped : r.step eof crc fallbackMss event = .ok r') : ¬r'.Consistent := by
  cases event with
  | connectFinished qd =>
    obtain ⟨⟨result, peer⟩, ran, stepped⟩ := Machine.bind_eq_ok.mp stepped
    cases stepped
    intro h
    obtain ⟨quiet, -⟩ | ⟨addr, remoteAddr, found, ⟨-, rfl⟩ | ⟨e, quiet, -⟩⟩ :=
      TcpPeer.pollConnectFinished_cases ran
    · cases quiet.symm.trans told
    · have present := h.connecting qd addr remoteAddr found
      rw [AList.lookup_erase] at present
      cases present
    · cases quiet.symm.trans told
  | _ => cases told

/-- **The socket tables stay consistent exactly as long as no failed connect is told.** -/
theorem tables_consistent_iff (eof : Fail) (crc : List UInt8 → UInt32) (fallbackMss : Nat)
    (shuffle : List UInt16 → List UInt16) (perm : ∀ l, (shuffle l).Perm l) (nonce : UInt32)
    (rt : Runtime) (localIpv4Addr : Ipv4Addr) (events : List PeerEvent) (r : PeerRun)
    (ran : Machine.run (step eof crc fallbackMss)
      (start (TcpPeer.new shuffle nonce rt localIpv4Addr)) events = .ok r) :
    (∀ n t, Machine.run (step eof crc fallbackMss)
      (start (TcpPeer.new shuffle nonce rt localIpv4Addr)) (events.take n) = .ok t →
        t.Consistent) ↔
    Admits (step eof crc fallbackMss) (fun r event => r.tellsFailure event = false)
      (start (TcpPeer.new shuffle nonce rt localIpv4Addr)) events := by
  have sound := start_sound perm nonce rt localIpv4Addr
  refine Machine.forall_take_iff_admits (fun r => r.Sound ∧ r.Consistent) Consistent
    (fun r event => r.tellsFailure event = false) ?_ And.right ?_
    ⟨sound, sound.listeners, nofun, sound.connections⟩ ran
  · intro r event r' inv quiet stepped
    exact step_consistent inv.1 inv.2 quiet stepped
  · intro r event r' _ told stepped
    exact not_consistent_of_tellsFailure (Bool.not_eq_false _ ▸ told) stepped

def sampleIpHdr : Ipv4.Ipv4Header := .new 0x0a000002 0x0a000001 .tcp

/-- The bytes of a segment from port 90 to port 80 that acknowledges 501. -/
def sampleBytes (flags : UInt8) : Buffer :=
  [0, 90, 0, 80, 0, 0, 0, 50, 0, 0, 0x01, 0xf5, 0x50, flags, 0, 10, 0, 0, 0, 0]

/-- A socket connects from port 80. -/
def sampleConnect : List PeerEvent :=
  [.socket 1, .bind 1 ⟨0x0a000001, 80⟩, .connect 1 ⟨0x0a000002, 90⟩]

/-- The SYN+ACK comes, and the socket is connected. -/
theorem tables_consistent_iff_connected :
    ∃ r, Machine.run (step sampleFail (fun _ => 500) 536) sampleStart
        (sampleConnect ++ [.receive sampleIpHdr (sampleBytes 0x12) sampleEnv, .connectFinished 1]) =
          .ok r ∧
      r.peer.sockets.lookup 1 = some (.established ⟨0x0a000001, 80⟩ ⟨0x0a000002, 90⟩) ∧
      r.Consistent := by
  obtain ⟨r, ran, connected⟩ := Machine.map_eq_ok
    (x := Machine.run (step sampleFail (fun _ => 500) 536) sampleStart
      (sampleConnect ++ [.receive sampleIpHdr (sampleBytes 0x12) sampleEnv, .connectFinished 1]))
    (fun r => r.peer.sockets.lookup 1)
    (t := some (.established ⟨0x0a000001, 80⟩ ⟨0x0a000002, 90⟩)) (by decide +kernel)
  have quiet : Machine.admits (step sampleFail (fun _ => 500) 536)
      (fun r event => !r.tellsFailure event) sampleStart
      (sampleConnect ++ [.receive sampleIpHdr (sampleBytes 0x12) sampleEnv, .connectFinished 1]) =
        true := by
    decide +kernel
  have admits := Machine.Admits.of_admits quiet
  simp only [Bool.not_eq_true'] at admits
  refine ⟨r, ran, connected, ?_⟩
  exact (tables_consistent_iff _ _ _ id (fun _ => .refl _) _ _ _ _ r ran).mpr admits 5 r ran

/-- The polls of the retry task of that connect attempt to which no answer comes. -/
def sampleRetries : List PeerEvent :=
  [.first, .arpReply (.ok 9), .timeout, .arpReply (.ok 9), .timeout, .arpReply (.ok 9), .timeout].map
    (.retryConnect (⟨0x0a000001, 80⟩, ⟨0x0a000002, 90⟩))

/-- The retry task gives up, and the user is told. -/
theorem tables_not_consistent :
    ∃ r, Machine.run (step sampleFail (fun _ => 500) 536) sampleStart
        (sampleConnect ++ sampleRetries ++ [.connectFinished 1]) = .ok r ∧ ¬r.Consistent := by
  obtain ⟨r, ran, view⟩ := Machine.map_eq_ok
    (x := Machine.run (step sampleFail (fun _ => 500) 536) sampleStart
      (sampleConnect ++ sampleRetries ++ [.connectFinished 1]))
    (fun r => (r.peer.sockets.lookup 1,
      (r.peer.connecting.lookup (⟨0x0a000001, 80⟩, ⟨0x0a000002, 90⟩)).isSome))
    (t := (some (.connecting ⟨0x0a000001, 80⟩ ⟨0x0a000002, 90⟩), false)) (by decide +kernel)
  obtain ⟨socket, absent⟩ := Prod.mk.inj view
  refine ⟨r, ran, fun h => ?_⟩
  cases absent.symm.trans (h.connecting 1 _ _ socket)

end PeerRun

end Inetstack.Tcp
