import Inetstack.Laws.SocketCalls
import Inetstack.Laws.Udp.Tables

/-!
# Where the private ports are

A private port is in the pool or is used by an open socket, with two exceptions. The last one is in no
pool from the start. And `do_close` gives no port back, in either peer: a port is lost with the last open
socket that used it. For each peer `releases` is the condition, on the state before a call, that this
happens; no other call, whether it succeeds or fails, loses a port.
-/

namespace Inetstack

open Ip (EphemeralPorts)
open Tcp (Env Fail Fault PeerRun SocketAddrV4 TcpPeer)
open Udp (UdpPeer)

/-- A socket with that local address, or with none, uses the port. -/
def usesPort (port : UInt16) (localAddr : Option SocketAddrV4) : Bool :=
  localAddr.any fun addr => addr.port == port

/-- The ports that are only used when they come from the pool: the private ones, and 0, which asks for one
of them. -/
def Pooled (port : UInt16) : Prop := EphemeralPorts.isPrivate port = true ∨ port = 0

section

variable {port : UInt16} {addr : SocketAddrV4}

@[simp] theorem usesPort_none : usesPort port none = false := rfl

@[simp] theorem usesPort_some : usesPort port (some addr) = true ↔ addr.port = port := by
  simp only [usesPort, Option.any_some, beq_iff_eq]

/-- Addresses that are not private and not 0 use none of these ports. -/
theorem not_usesPort_of_pooled (pooled : Pooled port)
    (notPrivate : EphemeralPorts.isPrivate addr.port = false) (ne : addr.port ≠ 0) :
    usesPort port (some addr) = false := by
  rw [Bool.eq_false_iff, ne_eq, usesPort_some]
  rintro rfl
  obtain isPrivate | zero := pooled
  · cases notPrivate.symm.trans isPrivate
  · exact ne zero

variable {K V : Type} [DecidableEq K] {t : AList fun _ : K => V} {k : K} {v : V} {f : V → Bool}
  {ports left : List UInt16}

/-- **A new state of one descriptor.** The ports in the pool and in use stay the same if the descriptor
gives none up, and what it gets was in use or is out of the pool now. -/
theorem accounted_insert (older : ∀ old, t.lookup k = some old → f old = true → f v = true)
    (source : f v = true → Table.hasValue t f = true ∨ port ∈ ports)
    (fewer : port ∈ left → port ∈ ports) (taken : port ∈ ports → f v = true ∨ port ∈ left) :
    Table.hasValue (t.insert k v) f = true ∨ port ∈ left ↔ Table.hasValue t f = true ∨ port ∈ ports := by
  rw [Table.hasValue_insert older]
  constructor
  · rintro ((uses | held) | free)
    · exact source uses
    · exact .inl held
    · exact .inr (fewer free)
  · rintro (held | free)
    · exact .inl (.inr held)
    · exact (taken free).imp .inl id

end

/-- **The rule for one port of a peer.** It is free whenever it is not in use exactly if it is in the pool
at first and no event releases it. -/
theorem free_throughout_iff {S E : Type} {step : S → E → Except Fault S} (Inv inPool Free : S → Prop)
    (holds : S → Bool) (releases : S → E → Bool)
    (keeps : ∀ {s e s'}, Inv s → step s e = .ok s' → Inv s')
    (accounts : ∀ {s e s'}, Inv s → releases s e = false → step s e = .ok s' →
      holds s = true ∨ inPool s → holds s' = true ∨ inPool s')
    (loses : ∀ {s e s'}, Inv s → releases s e = true → step s e = .ok s' →
      holds s' = false ∧ ¬inPool s')
    (free : ∀ {s}, Inv s → holds s = false → (Free s ↔ inPool s)) {s s' : S} {es : List E}
    (start : Inv s) (unheld : holds s = false) (ran : Machine.run step s es = .ok s') :
    (∀ n t, Machine.run step s (es.take n) = .ok t → holds t = false → Free t) ↔
      inPool s ∧ Machine.Admits step (fun s e => releases s e = false) s es := by
  by_cases pooled : inPool s
  · rw [and_iff_right pooled]
    refine Machine.forall_take_iff_admits (fun s => Inv s ∧ (holds s = true ∨ inPool s))
      (fun s => holds s = false → Free s) (fun s e => releases s e = false) ?_ ?_ ?_
      ⟨start, .inr pooled⟩ ran
    · intro s e s' inv kept stepped
      exact ⟨keeps inv.1 stepped, accounts inv.1 kept stepped inv.2⟩
    · intro s inv unheld
      refine (free inv.1 unheld).mpr (inv.2.resolve_left ?_)
      rw [unheld]
      decide
    · intro s e s' inv released stepped isFree
      obtain ⟨unheld, gone⟩ := loses inv.1 (Bool.not_eq_false _ ▸ released) stepped
      exact gone ((free (keeps inv.1 stepped) unheld).mp (isFree unheld))
  · refine iff_of_false (fun throughout => ?_) (fun h => pooled h.1)
    exact pooled ((free start unheld).mp (throughout 0 s rfl unheld))

/-! ## TCP -/

namespace Tcp

namespace TcpPeer

/-- An open socket uses the port. -/
def holds (p : TcpPeer) (port : UInt16) : Bool :=
  Table.hasValue p.sockets fun socket => usesPort port socket.localAddr

/-- The port is in use or in the pool. -/
def Accounted (p : TcpPeer) (port : UInt16) : Prop :=
  p.holds port = true ∨ port ∈ p.ephemeralPorts.ports

/-- The port is in the pool, and a socket that is not bound can be bound to it and to some port. -/
def Free (p : TcpPeer) (port : UInt16) : Prop :=
  port ∈ p.ephemeralPorts.ports ∧
  ∀ qd ip, p.sockets.lookup qd = some (.inactive none) →
    (p.bind qd ⟨ip, port⟩).1 = .ok () ∧ (p.bind qd ⟨ip, 0⟩).1 = .ok ()

/-- The event closes the last open socket that uses the port. -/
def releases (p : TcpPeer) (port : UInt16) : PeerEvent → Bool
  | .close qd _ => p.holds port && !{ p with sockets := p.sockets.erase qd }.holds port
  | _ => false

variable {p p' : TcpPeer} {port : UInt16} {qd : QDesc} {addr : SocketAddrV4} {ports : EphemeralPorts}

/-- A socket uses the port of its address. -/
theorem holds_of_lookup {socket : Socket} (found : p.sockets.lookup qd = some socket)
    (own : socket.localAddr = some addr) : p.holds addr.port = true :=
  Table.hasValue_iff.mpr ⟨qd, socket, found, by rw [own, usesPort_some]⟩

/-- What keeps the sockets and the pool up to its order. -/
theorem Kept.accounted_iff (kept : p.Kept p') : p'.Accounted port ↔ p.Accounted port := by
  unfold Accounted holds
  rw [kept.sockets, kept.ports.mem_iff]

/-- A socket that gets a port of the pool. -/
theorem accounted_take {socket : Socket} (found : p.sockets.lookup qd = some (.inactive none))
    (own : socket.localAddr = some addr)
    (perm : p.ephemeralPorts.ports.Perm (addr.port :: ports.ports)) :
    { p with
      ephemeralPorts := ports
      sockets := p.sockets.insert qd socket }.Accounted port ↔ p.Accounted port := by
  refine accounted_insert ?_ ?_ ?_ ?_
  · intro old known uses
    cases found.symm.trans known
    cases uses
  · rw [own, usesPort_some]
    rintro rfl
    exact .inr (perm.mem_iff.mpr List.mem_cons_self)
  · exact fun free => perm.mem_iff.mpr (List.mem_cons_of_mem _ free)
  · intro free
    rw [own, usesPort_some]
    exact (List.mem_cons.mp (perm.mem_iff.mp free)).imp_left Eq.symm

/-- A socket whose port is the one of an open socket already, the descriptor's own if it has one. -/
theorem accounted_share {socket old : Socket} {other : QDesc}
    (found : p.sockets.lookup other = some old) (same : socket.localAddr = old.localAddr)
    (own : ∀ before, p.sockets.lookup qd = some before → before.localAddr = socket.localAddr) :
    { p with sockets := p.sockets.insert qd socket }.Accounted port ↔ p.Accounted port := by
  refine accounted_insert ?_ ?_ id .inr
  · intro before known uses
    rw [own before known] at uses
    exact uses
  · intro uses
    exact .inl (Table.hasValue_iff.mpr ⟨other, old, found, same ▸ uses⟩)

/-- `bind` neither loses a pooled port nor makes one up. -/
theorem accounted_bind (valid : p.ephemeralPorts.Valid) (pooled : Pooled port) (qd : QDesc)
    (addr : SocketAddrV4) : (p.bind qd addr).2.Accounted port ↔ p.Accounted port := by
  obtain ⟨fail, ports, perm, ran⟩ | ⟨got, ports, found, claimed, ne, -, ran⟩ := bind_cases valid qd addr
  · rw [ran]
    exact or_congr Iff.rfl perm.mem_iff
  · rw [ran]
    obtain perm | ⟨-, rfl, notPrivate⟩ := claimed
    · exact accounted_take found rfl perm
    · have unused := not_usesPort_of_pooled pooled notPrivate ne
      refine accounted_insert ?_ ?_ id .inr
      · intro old known uses
        cases found.symm.trans known
        cases uses
      · intro uses
        cases unused.symm.trans uses

/-- And neither does `connect`. -/
theorem accounted_connect {crc : List UInt8 → UInt32} (qd : QDesc) (remoteAddr : SocketAddrV4) :
    (p.connect crc qd remoteAddr).2.Accounted port ↔ p.Accounted port := by
  obtain ⟨fail, -, ran⟩ | ⟨addr, ports, isnGenerator, attempt, source, ran⟩ :=
    p.connect_cases crc qd remoteAddr
  · rw [ran]
  · rw [ran]
    obtain ⟨found, rfl⟩ | ⟨found, perm⟩ := source
    · refine accounted_share found rfl ?_
      intro before known
      cases found.symm.trans known
      rfl
    · exact accounted_take found rfl perm

/-! ### Binding to a free port -/

/-- A private port in the pool can be asked for. -/
theorem allocFor_private (isPrivate : EphemeralPorts.isPrivate addr.port = true)
    (member : addr.port ∈ ports.ports) :
    allocFor ports addr = .ok (addr, { ports := ports.ports.filter (· ≠ addr.port) }) := by
  have ne := EphemeralPorts.ne_zero_of_isPrivate isPrivate
  unfold allocFor
  rw [if_pos isPrivate, EphemeralPorts.allocPort_of_mem member]
  exact if_neg ne

/-- And as long as there is one, some port is found. -/
theorem allocFor_wildcard (member : port ∈ ports.ports) (ip : Ipv4Addr) :
    ∃ got left, allocFor ports ⟨ip, 0⟩ = .ok (got, left) := by
  obtain ⟨newPort, left, taken⟩ := EphemeralPorts.allocAny_of_mem member
  refine ⟨⟨ip, newPort⟩, left, ?_⟩
  unfold allocFor
  dsimp only
  rw [if_neg (by decide)]
  refine Machine.bind_eq_ok.mpr ⟨ports, rfl, ?_⟩
  rw [if_pos rfl]
  exact Machine.bind_eq_ok.mpr ⟨(newPort, left), taken, rfl⟩

/-- A port that no socket holds can be bound, once it is allocated. -/
theorem bind_of_allocFor {got : SocketAddrV4} {left : EphemeralPorts}
    (unheld : p.holds addr.port = false) (found : p.sockets.lookup qd = some (.inactive none))
    (claim : allocFor p.ephemeralPorts addr = .ok (got, left)) :
    p.bind qd addr = (.ok (), { p with
      ephemeralPorts := left
      sockets := p.sockets.insert qd (.inactive (some got)) }) := by
  have unused : ¬(p.sockets.entries.any fun entry => entry.2.localAddr == some addr) = true := by
    intro used
    obtain ⟨⟨other, socket⟩, member, same⟩ := List.any_eq_true.mp used
    have held := holds_of_lookup (AList.mem_lookup_iff.mpr member) (beq_iff_eq.mp same)
    cases unheld.symm.trans held
  unfold bind
  rw [if_neg unused, claim, found]

/-- **A port in the pool is free**, if no socket holds it. -/
theorem free_of_mem (noZero : p.holds 0 = false) (isPrivate : EphemeralPorts.isPrivate port = true)
    (unheld : p.holds port = false) (member : port ∈ p.ephemeralPorts.ports) : p.Free port := by
  refine ⟨member, fun qd ip found => ⟨?_, ?_⟩⟩
  · have asked : EphemeralPorts.isPrivate (SocketAddrV4.mk ip port).port = true := isPrivate
    rw [bind_of_allocFor unheld found (allocFor_private asked member)]
  · obtain ⟨got, left, claim⟩ := allocFor_wildcard member ip
    rw [bind_of_allocFor noZero found claim]

/-- A port that has been bound to and closed. -/
theorem lost_after_close (p : TcpPeer) (qd : QDesc) (addr : SocketAddrV4)
    (isPrivate : EphemeralPorts.isPrivate addr.port = true)
    (unheld : p.holds addr.port = false) (member : addr.port ∈ p.ephemeralPorts.ports)
    (found : p.sockets.lookup qd = some (.inactive none)) (env : Env) :
    ∃ fail p', (p.bind qd addr).2.doClose qd env = .ok (.error fail, p') ∧
      p'.holds addr.port = false ∧ addr.port ∉ p'.ephemeralPorts.ports := by
  rw [bind_of_allocFor unheld found (allocFor_private isPrivate member)]
  refine ⟨_, _, doClose_other (AList.lookup_insert _) nofun, ?_, ?_⟩
  · refine Bool.eq_false_iff.mpr fun held => ?_
    cases unheld.symm.trans (Table.hasValue_of_erase_insert held)
  · simp

end TcpPeer

namespace PeerRun

variable {eof : Fail} {crc : List UInt8 → UInt32} {fallbackMss : Nat} {r r' : PeerRun}
  {event : PeerEvent} {port : UInt16}

open TcpPeer (doClose_cases)

/-- A port is lost by the call that closes the last open socket that uses it. -/
theorem lost_of_releases (sound : r.Sound) (releases : r.peer.releases port event = true)
    (stepped : r.step eof crc fallbackMss event = .ok r') :
    r'.peer.holds port = false ∧ port ∉ r'.peer.ephemeralPorts.ports := by
  cases event with
  | close qd env =>
    obtain ⟨⟨result, peer⟩, ran, stepped⟩ := Machine.bind_eq_ok.mp stepped
    cases stepped
    obtain ⟨held, last⟩ := Bool.and_eq_true_iff.mp releases
    rw [Bool.not_eq_true'] at last
    obtain ⟨absent, -⟩ | ⟨socket, -, kept, -⟩ := doClose_cases ran
    · rw [Table.erase_of_none absent] at last
      cases last.symm.trans held
    · obtain ⟨other, socket', found, uses⟩ := Table.hasValue_iff.mp held
      cases own : socket'.localAddr with
      | none =>
        rw [own] at uses
        cases uses
      | some addr =>
        rw [own, usesPort_some] at uses
        subst uses
        constructor
        · unfold TcpPeer.holds at last ⊢
          rw [kept.sockets]
          exact last
        · rw [kept.ports.mem_iff]
          exact sound.taken other socket' addr found own
  | _ => cases releases

/-- **No other call loses or gains a port.** -/
theorem step_accounted (sound : r.Sound) (pooled : Pooled port)
    (kept : r.peer.releases port event = false) (stepped : r.step eof crc fallbackMss event = .ok r') :
    r'.peer.Accounted port ↔ r.peer.Accounted port := by
  cases event with
  | socket qd =>
    cases stepped
    unfold TcpPeer.doSocket
    split
    next absent =>
      refine accounted_insert ?_ nofun id .inr
      -- a descriptor that is not in the table has no old entry to lose
      intro old known
      cases absent.symm.trans known
    next => exact Iff.rfl
  | bind qd addr =>
    cases stepped
    exact TcpPeer.accounted_bind sound.valid pooled qd addr
  | listen qd backlog nonce =>
    cases stepped
    obtain ⟨fail, ran⟩ | ⟨addr, found, ran⟩ := r.peer.listen_cases qd backlog nonce
    · rw [ran]
    · rw [ran]
      refine TcpPeer.accounted_share found rfl ?_
      intro before known
      -- the entry that is replaced names the same address
      cases found.symm.trans known
      rfl
  | accept qd newQd =>
    obtain ⟨⟨result, peer⟩, ran, stepped⟩ := Machine.bind_eq_ok.mp stepped
    obtain ⟨no, kept⟩ | ⟨addr, remoteAddr, old, socket, e, rfl, found, -, -, fresh, rfl⟩ :=
      TcpPeer.pollAccept_cases sound.homed ran
    -- a poll that gave nothing back is not the one that gave a connection
    · split at stepped
      next same => exact (no _ (congrArg Prod.fst same)).elim
      next same =>
        cases same
        cases stepped
        exact kept.accounted_iff
    · cases stepped
      refine TcpPeer.accounted_share found rfl ?_
      intro before known
      cases fresh.symm.trans known
  | connect qd remoteAddr =>
    cases stepped
    exact TcpPeer.accounted_connect qd remoteAddr
  | connectFinished qd =>
    obtain ⟨⟨result, peer⟩, ran, stepped⟩ := Machine.bind_eq_ok.mp stepped
    cases stepped
    obtain ⟨-, rfl⟩ | ⟨addr, remoteAddr, found, ⟨-, rfl⟩ | ⟨e, -, rfl⟩⟩ :=
      TcpPeer.pollConnectFinished_cases ran
    · exact Iff.rfl
    · exact Iff.rfl
    · refine TcpPeer.accounted_share found rfl ?_
      intro before known
      cases found.symm.trans known
      rfl
  | close qd env =>
    obtain ⟨⟨result, peer⟩, ran, stepped⟩ := Machine.bind_eq_ok.mp stepped
    cases stepped
    obtain ⟨absent, rfl⟩ | ⟨socket, -, closed, -⟩ := doClose_cases ran
    · exact Iff.rfl
    -- the port is accounted for without the closed entry only if another one holds it
    · refine closed.accounted_iff.trans (or_congr ⟨Table.hasValue_of_erase, fun held => ?_⟩ Iff.rfl)
      unfold TcpPeer.releases at kept
      dsimp only at kept
      rw [held, Bool.true_and, Bool.not_eq_false'] at kept
      exact kept
  | send qd buf env =>
    obtain ⟨⟨result, peer⟩, ran, stepped⟩ := Machine.bind_eq_ok.mp stepped
    cases stepped
    exact (TcpPeer.Kept.send ran).accounted_iff
  | recv qd env =>
    obtain ⟨⟨result, peer⟩, ran, stepped⟩ := Machine.bind_eq_ok.mp stepped
    cases stepped
    exact (TcpPeer.Kept.pollRecv ran).accounted_iff
  | receive ipHdr buf env =>
    obtain ⟨⟨result, peer⟩, ran, stepped⟩ := Machine.bind_eq_ok.mp stepped
    cases stepped
    exact (TcpPeer.Kept.receive ran).accounted_iff
  | retryConnect key poll =>
    cases stepped
    exact (TcpPeer.Kept.retryConnect poll).accounted_iff
  | retryAccept localAddr remoteAddr poll =>
    cases stepped
    exact (TcpPeer.Kept.retryAccept poll).accounted_iff
  | background key call env =>
    obtain ⟨peer, ran, stepped⟩ := Machine.bind_eq_ok.mp stepped
    cases stepped
    exact (TcpPeer.Kept.background ran).accounted_iff

/-- A port that is neither used nor in the pool never comes back. -/
theorem step_unaccounted (sound : r.Sound) (pooled : Pooled port) (lost : ¬r.peer.Accounted port)
    (stepped : r.step eof crc fallbackMss event = .ok r') : ¬r'.peer.Accounted port := by
  by_cases releases : r.peer.releases port event = true
  · obtain ⟨unheld, gone⟩ := lost_of_releases sound releases stepped
    rintro (held | free)
    · cases unheld.symm.trans held
    · exact gone free
  · rw [step_accounted sound pooled (Bool.not_eq_true _ ▸ releases) stepped]
    exact lost

/-- **A private port is free whenever it is not in use exactly as long as no event releases it**, unless
it is the last one. -/
theorem private_port_iff {shuffle : List UInt16 → List UInt16} (perm : ∀ l, (shuffle l).Perm l)
    {nonce : UInt32} {rt : Runtime} {localIpv4Addr : Ipv4Addr} {events : List PeerEvent}
    (isPrivate : EphemeralPorts.isPrivate port = true)
    (ran : Machine.run (step eof crc fallbackMss)
      (start (TcpPeer.new shuffle nonce rt localIpv4Addr)) events = .ok r) :
    (∀ n t, Machine.run (step eof crc fallbackMss)
        (start (TcpPeer.new shuffle nonce rt localIpv4Addr)) (events.take n) = .ok t →
      t.peer.holds port = false → t.peer.Free port) ↔
    port ≠ Ip.LAST_PRIVATE_PORT ∧
    Machine.Admits (step eof crc fallbackMss) (fun r event => r.peer.releases port event = false)
      (start (TcpPeer.new shuffle nonce rt localIpv4Addr)) events := by
  have sound := start_sound perm nonce rt localIpv4Addr
  have pool : port ∈ (EphemeralPorts.new shuffle).ports ↔ port ≠ Ip.LAST_PRIVATE_PORT := by
    rw [EphemeralPorts.mem_new_iff perm, and_iff_right isPrivate]
  rw [← pool]
  refine free_throughout_iff (fun r : PeerRun => r.Sound ∧ ¬r.peer.Accounted 0)
    (fun r => port ∈ r.peer.ephemeralPorts.ports) (fun r => r.peer.Free port) (fun r => r.peer.holds port)
    (fun r event => r.peer.releases port event) ?_ ?_ ?_ ?_ ⟨sound, ?_⟩ rfl ran
  · intro r event r' inv stepped
    exact ⟨step_sound inv.1 stepped, step_unaccounted inv.1 (.inr rfl) inv.2 stepped⟩
  · intro r event r' inv kept stepped accounted
    exact (step_accounted inv.1 (.inl isPrivate) kept stepped).mpr accounted
  · intro r event r' inv released stepped
    exact lost_of_releases inv.1 released stepped
  · intro r inv unheld
    have noZero : r.peer.holds 0 = false := Bool.eq_false_iff.mpr fun held => inv.2 (.inl held)
    exact ⟨And.left, TcpPeer.free_of_mem noZero isPrivate unheld⟩
  · rintro (held | free)
    · cases held
    · exact EphemeralPorts.ne_zero_of_isPrivate (sound.privateOnly 0 free) rfl

end PeerRun

end Tcp

/-! ## UDP -/

namespace Udp

namespace UdpPeer

/-- An open socket uses the port. -/
def holds (p : UdpPeer) (port : UInt16) : Bool := Table.hasValue p.sockets (usesPort port)

/-- The port is in use or in the pool. -/
def Accounted (p : UdpPeer) (port : UInt16) : Prop :=
  p.holds port = true ∨ port ∈ p.ephemeralPorts.ports

/-- The port is in the pool, and a socket that is not bound can be bound to it and to some port. -/
def Free (p : UdpPeer) (port : UInt16) : Prop :=
  port ∈ p.ephemeralPorts.ports ∧
  ∀ qd ip, p.sockets.lookup qd = some none →
    (p.doBind qd ⟨ip, port⟩).1 = .ok () ∧ (p.doBind qd ⟨ip, 0⟩).1 = .ok ()

/-- The event closes the last open socket that uses the port. -/
def releases (p : UdpPeer) (port : UInt16) : PeerEvent → Bool
  | .close qd => p.holds port && !{ p with sockets := p.sockets.erase qd }.holds port
  | _ => false

variable {p p' : UdpPeer} {port : UInt16} {qd : QDesc} {addr : SocketAddrV4} {ports : EphemeralPorts}
  {event : PeerEvent}

/-- A socket uses the port of its address. -/
theorem holds_of_lookup (found : p.sockets.lookup qd = some (some addr)) : p.holds addr.port = true :=
  Table.hasValue_iff.mpr ⟨qd, some addr, found, usesPort_some.mpr rfl⟩

/-- What keeps the sockets and the pool up to its order. -/
theorem Kept.accounted_iff (kept : p.Kept p') : p'.Accounted port ↔ p.Accounted port := by
  unfold Accounted holds
  rw [kept.sockets, kept.ports.mem_iff]

/-- `bind` neither loses a pooled port nor makes one up. -/
theorem accounted_bind (sound : p.Sound) (pooled : Pooled port) (qd : QDesc) (addr : SocketAddrV4) :
    (p.doBind qd addr).2.Accounted port ↔ p.Accounted port := by
  obtain ⟨fail, ports, perm, ran⟩ | ⟨got, ports, found, claimed, ne, -, ran⟩ := doBind_cases sound qd addr
  · rw [ran]
    exact or_congr Iff.rfl perm.mem_iff
  rw [ran]
  have unbound : ∀ old, p.sockets.lookup qd = some old → usesPort port old = true →
      usesPort port (some got) = true := by
    intro old known uses
    cases found.symm.trans known
    cases uses
  obtain perm | ⟨-, rfl, notPrivate⟩ := claimed
  · refine accounted_insert unbound ?_ ?_ ?_
    · rw [usesPort_some]
      rintro rfl
      exact .inr (perm.mem_iff.mpr List.mem_cons_self)
    · exact fun free => perm.mem_iff.mpr (List.mem_cons_of_mem _ free)
    · intro free
      rw [usesPort_some]
      exact (List.mem_cons.mp (perm.mem_iff.mp free)).imp_left Eq.symm
  · have unused := not_usesPort_of_pooled pooled notPrivate ne
    refine accounted_insert unbound (fun uses => ?_) id .inr
    cases unused.symm.trans uses

/-- **No call but `do_close` loses or gains a port.** -/
theorem step_accounted (sound : p.Sound) (pooled : Pooled port) (kept : p.releases port event = false)
    (stepped : p.step event = .ok p') : p'.Accounted port ↔ p.Accounted port := by
  cases event with
  | socket qd =>
    cases stepped
    unfold doSocket
    split
    next absent =>
      refine accounted_insert ?_ nofun id .inr
      intro old known
      cases absent.symm.trans known
    next => exact Iff.rfl
  | bind qd addr =>
    cases stepped
    exact accounted_bind sound pooled qd addr
  | close qd =>
    cases stepped
    -- the port is still held only if another socket uses it
    have closed : Table.hasValue (p.sockets.erase qd) (usesPort port) = true ↔ p.holds port = true := by
      refine ⟨Table.hasValue_of_erase, fun held => ?_⟩
      unfold releases at kept
      dsimp only at kept
      rw [held, Bool.true_and, Bool.not_eq_false'] at kept
      exact kept
    obtain ⟨fail, -, ran⟩ | ⟨fail, -, ran⟩ | ⟨addr, -, ran⟩ := doClose_cases sound qd
    · rw [ran]
    · rw [ran]
      exact or_congr closed Iff.rfl
    · rw [ran]
      exact or_congr closed Iff.rfl
  | pushto qd data remoteAddr env =>
    obtain ⟨⟨result, peer⟩, ran, stepped⟩ := Machine.bind_eq_ok.mp stepped
    cases stepped
    exact (Kept.doPushto ran).accounted_iff
  | pop qd =>
    obtain ⟨queue, -, stepped⟩ := Machine.bind_eq_ok.mp stepped
    cases stepped
    exact Iff.rfl
  | pollPop addr =>
    obtain ⟨⟨result, peer⟩, ran, stepped⟩ := Machine.bind_eq_ok.mp stepped
    cases stepped
    exact (Kept.pollPop ran).accounted_iff
  | receive ipv4Hdr buf =>
    obtain ⟨⟨result, peer⟩, ran, stepped⟩ := Machine.bind_eq_ok.mp stepped
    cases stepped
    exact (Kept.doReceive ran).accounted_iff
  | sender reply =>
    cases stepped
    exact (Kept.senderPoll p reply).accounted_iff

/-- A port is lost by the call that closes the last open socket that uses it. -/
theorem lost_of_releases (sound : p.Sound) (released : p.releases port event = true)
    (stepped : p.step event = .ok p') : p'.holds port = false ∧ port ∉ p'.ephemeralPorts.ports := by
  cases event with
  | close qd =>
    cases stepped
    obtain ⟨held, last⟩ := Bool.and_eq_true_iff.mp released
    rw [Bool.not_eq_true'] at last
    have gone : port ∉ p.ephemeralPorts.ports := by
      obtain ⟨other, socket, found, uses⟩ := Table.hasValue_iff.mp held
      cases socket with
      | none => cases uses
      | some addr =>
        rw [usesPort_some] at uses
        subst uses
        exact sound.taken addr (sound.queues other addr found)
    obtain ⟨fail, absent, ran⟩ | ⟨fail, -, ran⟩ | ⟨addr, -, ran⟩ := doClose_cases sound qd
    · rw [Table.erase_of_none absent] at last
      cases last.symm.trans held
    · rw [ran]
      exact ⟨last, gone⟩
    · rw [ran]
      exact ⟨last, gone⟩
  | _ => cases released

/-- A port that is neither used nor in the pool never comes back. -/
theorem step_unaccounted (sound : p.Sound) (pooled : Pooled port) (lost : ¬p.Accounted port)
    (stepped : p.step event = .ok p') : ¬p'.Accounted port := by
  by_cases released : p.releases port event = true
  · obtain ⟨unheld, gone⟩ := lost_of_releases sound released stepped
    rintro (held | free)
    · cases unheld.symm.trans held
    · exact gone free
  · rw [step_accounted sound pooled (Bool.not_eq_true _ ▸ released) stepped]
    exact lost

/-! ### Binding to a free port -/

/-- A private port in the pool can be asked for. -/
theorem allocFor_private (isPrivate : EphemeralPorts.isPrivate addr.port = true)
    (member : addr.port ∈ ports.ports) :
    allocFor ports addr = .ok (addr, { ports := ports.ports.filter (· ≠ addr.port) }) := by
  unfold allocFor
  rw [if_pos isPrivate]
  exact Machine.bind_eq_ok.mpr ⟨_, EphemeralPorts.allocPort_of_mem member, rfl⟩

/-- And as long as there is one, some port is found. -/
theorem allocFor_wildcard (member : port ∈ ports.ports) (ip : Tcp.Ipv4Addr) :
    ∃ got left, allocFor ports ⟨ip, 0⟩ = .ok (got, left) := by
  obtain ⟨newPort, left, taken⟩ := EphemeralPorts.allocAny_of_mem member
  refine ⟨⟨ip, newPort⟩, left, ?_⟩
  unfold allocFor
  dsimp only
  rw [if_neg (by decide), if_pos rfl]
  exact Machine.bind_eq_ok.mpr ⟨(newPort, left), taken, rfl⟩

/-- A port that no socket holds can be bound, once it is allocated: no receive queue has it either. -/
theorem doBind_of_allocFor {got : SocketAddrV4} {left : EphemeralPorts} (sound : p.Sound)
    (owned : p.Owned) (unheld : p.holds addr.port = false) (found : p.sockets.lookup qd = some none)
    (claim : allocFor p.ephemeralPorts addr = .ok (got, left)) :
    p.doBind qd addr = (.ok (), { p with
      ephemeralPorts := left
      sockets := p.sockets.insert qd (some got)
      bound := p.bound.insert got (SharedQueue.new RECV_QUEUE_MAX_SIZE) }) := by
  have asked : p.bound.lookup addr = none := by
    refine Option.not_isSome_iff_eq_none.mp fun present => ?_
    obtain ⟨owner, known⟩ := owned addr present
    cases unheld.symm.trans (holds_of_lookup known)
  have unbound := sound.unbound asked (allocFor_claimed sound.valid claim)
  unfold doBind
  rw [asked, claim]
  simp only [register, found, unbound]

/-- **A port in the pool is free**, if no socket holds it. -/
theorem free_of_mem (sound : p.Sound) (owned : p.Owned) (noZero : p.holds 0 = false)
    (isPrivate : EphemeralPorts.isPrivate port = true) (unheld : p.holds port = false)
    (member : port ∈ p.ephemeralPorts.ports) : p.Free port := by
  refine ⟨member, fun qd ip found => ⟨?_, ?_⟩⟩
  · have asked : EphemeralPorts.isPrivate (SocketAddrV4.mk ip port).port = true := isPrivate
    rw [doBind_of_allocFor sound owned unheld found (allocFor_private asked member)]
  · obtain ⟨got, left, claim⟩ := allocFor_wildcard member ip
    rw [doBind_of_allocFor sound owned noZero found claim]

/-- A port that has been bound to and closed. -/
theorem lost_after_close (p : UdpPeer) (qd : QDesc) (addr : SocketAddrV4) (sound : p.Sound)
    (owned : p.Owned) (isPrivate : EphemeralPorts.isPrivate addr.port = true)
    (unheld : p.holds addr.port = false) (member : addr.port ∈ p.ephemeralPorts.ports)
    (found : p.sockets.lookup qd = some none) :
    ((p.doBind qd addr).2.doClose qd).2.holds addr.port = false ∧
      addr.port ∉ ((p.doBind qd addr).2.doClose qd).2.ephemeralPorts.ports := by
  rw [doBind_of_allocFor sound owned unheld found (allocFor_private isPrivate member)]
  unfold doClose
  dsimp only
  rw [AList.lookup_insert]
  dsimp only
  rw [AList.lookup_insert]
  constructor
  · refine Bool.eq_false_iff.mpr fun held => ?_
    cases unheld.symm.trans (Table.hasValue_of_erase_insert held)
  · simp

/-- **A private port is free whenever it is not in use exactly as long as no event releases it**, unless
it is the last one. -/
theorem private_port_iff {shuffle : List UInt16 → List UInt16} (perm : ∀ l, (shuffle l).Perm l)
    {localLinkAddr : Tcp.MacAddress} {localIpv4Addr : Tcp.Ipv4Addr} {checksumOffload : Bool}
    {events : List PeerEvent} (isPrivate : EphemeralPorts.isPrivate port = true)
    (ran : Machine.run step (new shuffle localLinkAddr localIpv4Addr checksumOffload) events = .ok p) :
    (∀ n t, Machine.run step (new shuffle localLinkAddr localIpv4Addr checksumOffload) (events.take n) =
      .ok t → t.holds port = false → t.Free port) ↔
    port ≠ Ip.LAST_PRIVATE_PORT ∧
    Machine.Admits step (fun p event => p.releases port event = false)
      (new shuffle localLinkAddr localIpv4Addr checksumOffload) events := by
  have start : Machine.run step (new shuffle localLinkAddr localIpv4Addr checksumOffload) [] = .ok _ :=
    rfl
  have sound := run_sound perm start
  have pool : port ∈ (EphemeralPorts.new shuffle).ports ↔ port ≠ Ip.LAST_PRIVATE_PORT := by
    rw [EphemeralPorts.mem_new_iff perm, and_iff_right isPrivate]
  rw [← pool]
  refine free_throughout_iff (fun p : UdpPeer => p.Sound ∧ p.Owned ∧ ¬p.Accounted 0)
    (fun p => port ∈ p.ephemeralPorts.ports) (fun p => p.Free port) (fun p => p.holds port)
    (fun p event => p.releases port event) ?_ ?_ ?_ ?_ ⟨sound, run_owned perm start, ?_⟩ rfl ran
  · intro p event p' inv stepped
    exact ⟨step_sound inv.1 stepped, step_owned inv.1 inv.2.1 stepped,
      step_unaccounted inv.1 (.inr rfl) inv.2.2 stepped⟩
  · intro p event p' inv kept stepped accounted
    exact (step_accounted inv.1 (.inl isPrivate) kept stepped).mpr accounted
  · intro p event p' inv released stepped
    exact lost_of_releases inv.1 released stepped
  · intro p inv unheld
    have noZero : p.holds 0 = false := Bool.eq_false_iff.mpr fun held => inv.2.2 (.inl held)
    exact ⟨And.left, free_of_mem inv.1 inv.2.1 noZero isPrivate unheld⟩
  · rintro (held | free)
    · cases held
    · exact EphemeralPorts.ne_zero_of_isPrivate (sound.valid.privateOnly 0 free) rfl

end UdpPeer

end Udp

/-! ## Both peers -/

/-- **A private port that no open socket uses is free, exactly if it is not the last one and no event has
released it.** This is so in every run of a TCP peer and of a UDP peer. -/
theorem private_ports_free_iff (shuffle : List UInt16 → List UInt16) (perm : ∀ l, (shuffle l).Perm l)
    (eof : Fail) (crc : List UInt8 → UInt32) (fallbackMss : Nat) (localIpv4Addr : Tcp.Ipv4Addr)
    (port : UInt16) (isPrivate : EphemeralPorts.isPrivate port = true) :
    (∀ nonce rt events r, Machine.run (PeerRun.step eof crc fallbackMss)
        (PeerRun.start (TcpPeer.new shuffle nonce rt localIpv4Addr)) events = .ok r →
      ((∀ n t, Machine.run (PeerRun.step eof crc fallbackMss)
          (PeerRun.start (TcpPeer.new shuffle nonce rt localIpv4Addr)) (events.take n) = .ok t →
        t.peer.holds port = false → t.peer.Free port) ↔
      port ≠ Ip.LAST_PRIVATE_PORT ∧
      Machine.Admits (PeerRun.step eof crc fallbackMss)
        (fun r event => r.peer.releases port event = false)
        (PeerRun.start (TcpPeer.new shuffle nonce rt localIpv4Addr)) events)) ∧
    (∀ localLinkAddr checksumOffload events p, Machine.run UdpPeer.step
        (UdpPeer.new shuffle localLinkAddr localIpv4Addr checksumOffload) events = .ok p →
      ((∀ n t, Machine.run UdpPeer.step
          (UdpPeer.new shuffle localLinkAddr localIpv4Addr checksumOffload) (events.take n) = .ok t →
        t.holds port = false → t.Free port) ↔
      port ≠ Ip.LAST_PRIVATE_PORT ∧
      Machine.Admits UdpPeer.step (fun p event => p.releases port event = false)
        (UdpPeer.new shuffle localLinkAddr localIpv4Addr checksumOffload) events)) := by
  constructor
  · intro nonce rt events r ran
    exact PeerRun.private_port_iff perm isPrivate ran
  · intro localLinkAddr checksumOffload events p ran
    exact UdpPeer.private_port_iff perm isPrivate ran

/-- After a socket on port 80 has been opened and closed, another can be bound to port 50000. -/
theorem private_ports_free_iff_other :
    (∃ r, Machine.run (PeerRun.step PeerRun.sampleFail (fun _ => 500) 536) PeerRun.sampleStart
        [.socket 1, .bind 1 ⟨0x0a000001, 80⟩, .close 1 Tcp.sampleEnv, .socket 2] = .ok r ∧
      (r.peer.bind 2 ⟨0x0a000001, 50000⟩).1 = .ok ()) ∧
    ∃ p, Machine.run UdpPeer.step sampleUdpStart
        [.socket 1, .bind 1 ⟨0x0a000001, 80⟩, .close 1, .socket 2] = .ok p ∧
      (p.doBind 2 ⟨0x0a000001, 50000⟩).1 = .ok () := by
  obtain ⟨tcp, udp⟩ := private_ports_free_iff id (fun _ => .refl _) PeerRun.sampleFail (fun _ => 500)
    536 0x0a000001 50000 (by decide)
  constructor
  · obtain ⟨r, ran, view⟩ := Machine.map_eq_ok
      (x := Machine.run (PeerRun.step PeerRun.sampleFail (fun _ => 500) 536) PeerRun.sampleStart
        [.socket 1, .bind 1 ⟨0x0a000001, 80⟩, .close 1 Tcp.sampleEnv, .socket 2])
      (fun r => (r.peer.holds 50000, r.peer.sockets.lookup 2)) (t := (false, some (.inactive none)))
      (by decide +kernel)
    obtain ⟨unheld, found⟩ := Prod.mk.inj view
    have kept : Machine.admits (PeerRun.step PeerRun.sampleFail (fun _ => 500) 536)
        (fun r event => !r.peer.releases 50000 event) PeerRun.sampleStart
        [.socket 1, .bind 1 ⟨0x0a000001, 80⟩, .close 1 Tcp.sampleEnv, .socket 2] = true := by
      decide +kernel
    have admits := Machine.Admits.of_admits kept
    simp only [Bool.not_eq_true'] at admits
    have free := (tcp _ _ _ r ran).mpr ⟨by decide, admits⟩ 4 r ran unheld
    exact ⟨r, ran, (free.2 2 0x0a000001 found).1⟩
  · obtain ⟨p, ran, view⟩ := Machine.map_eq_ok
      (x := Machine.run UdpPeer.step sampleUdpStart
        [.socket 1, .bind 1 ⟨0x0a000001, 80⟩, .close 1, .socket 2])
      (fun p => (p.holds 50000, p.sockets.lookup 2)) (t := (false, some none)) (by decide +kernel)
    obtain ⟨unheld, found⟩ := Prod.mk.inj view
    have kept : Machine.admits UdpPeer.step (fun p event => !p.releases 50000 event) sampleUdpStart
        [.socket 1, .bind 1 ⟨0x0a000001, 80⟩, .close 1, .socket 2] = true := by
      decide +kernel
    have admits := Machine.Admits.of_admits kept
    simp only [Bool.not_eq_true'] at admits
    have free := (udp _ _ _ p ran).mpr ⟨by decide, admits⟩ 4 p ran unheld
    exact ⟨p, ran, (free.2 2 0x0a000001 found).1⟩

/-- Port 65535 is in no pool from the start, and port 50000 is lost after it has been bound to and the
socket closed. -/
theorem private_ports_not_free :
    (PeerRun.sampleStart.peer.holds 65535 = false ∧ ¬PeerRun.sampleStart.peer.Free 65535) ∧
    (∃ r, Machine.run (PeerRun.step PeerRun.sampleFail (fun _ => 500) 536) PeerRun.sampleStart
        [.socket 1, .bind 1 ⟨0x0a000001, 50000⟩, .close 1 Tcp.sampleEnv] = .ok r ∧
      r.peer.holds 50000 = false ∧ ¬r.peer.Free 50000) ∧
    (sampleUdpStart.holds 65535 = false ∧ ¬sampleUdpStart.Free 65535) ∧
    ∃ p, Machine.run UdpPeer.step sampleUdpStart
        [.socket 1, .bind 1 ⟨0x0a000001, 50000⟩, .close 1] = .ok p ∧
      p.holds 50000 = false ∧ ¬p.Free 50000 := by
  have pool (port : UInt16) : port ∈ (EphemeralPorts.new id).ports ↔
      EphemeralPorts.isPrivate port = true ∧ port ≠ Ip.LAST_PRIVATE_PORT :=
    EphemeralPorts.mem_new_iff fun _ => .refl _
  have member : (50000 : UInt16) ∈ (EphemeralPorts.new id).ports := (pool 50000).mpr (by decide)
  have absent : (65535 : UInt16) ∉ (EphemeralPorts.new id).ports := fun free => ((pool 65535).mp free).2 rfl
  refine ⟨⟨rfl, fun free => absent free.1⟩, ?_, ⟨rfl, fun free => absent free.1⟩, ?_⟩
  · obtain ⟨fail, p', closed, unheld, gone⟩ := TcpPeer.lost_after_close
      (PeerRun.sampleStart.peer.doSocket 1).2 1 ⟨0x0a000001, 50000⟩
      (by decide) rfl member rfl Tcp.sampleEnv
    refine ⟨{ peer := p', accepted := (∅ : Finset Nat).erase 1 }, ?_, unheld, fun free => gone free.1⟩
    refine Machine.run_cons_ok.mpr ⟨_, rfl, Machine.run_cons_ok.mpr ⟨_, rfl, ?_⟩⟩
    refine Machine.run_cons_ok.mpr ⟨_, ?_, rfl⟩
    exact Machine.bind_eq_ok.mpr ⟨_, closed, rfl⟩
  · have ran : Machine.run UdpPeer.step sampleUdpStart [.socket 1] = .ok (sampleUdpStart.doSocket 1).2 := rfl
    obtain ⟨unheld, gone⟩ := UdpPeer.lost_after_close (sampleUdpStart.doSocket 1).2 1
      ⟨0x0a000001, 50000⟩ (UdpPeer.run_sound (fun _ => .refl _) ran)
      (UdpPeer.run_owned (fun _ => .refl _) ran) (by decide) rfl member rfl
    exact ⟨_, rfl, unheld, fun free => gone free.1⟩

end Inetstack
