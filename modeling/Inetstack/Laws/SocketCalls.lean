import Inetstack.Laws.Tcp.Sockets
import Inetstack.Laws.Udp.Peer

/-!
# Failing socket calls

A call that sets a socket up or closes it makes several updates, and may fail between them. `bind`,
`do_bind` and `listen` fail before the first update or take it back. `do_close` takes the descriptor out
of the table before it finds that there is nothing to close, and `connect` enters the new attempt before
it finds that there was one between the two addresses. For each peer `failsLate` is the condition, on the
state before the call, that one of these two happens.
-/

namespace Inetstack

open Ip (EphemeralPorts)
open Tcp (Env Fail Fault PeerRun SocketAddrV4 TcpPeer)
open Udp (UdpPeer)

/-- What a call leaves, if it fails, is the same as what it found. -/
def FailsClean {S : Type} (same : S → S → Prop) (s : S) (ran : Except Fault (Except Fail Unit × S)) :
    Prop :=
  ∀ fail s', ran = .ok (.error fail, s') → same s s'

section

variable {S : Type} {same : S → S → Prop} {s s' : S} {fail : Fail} {answer : Except Fail Unit × S}

/-- A call that succeeds has nothing to leave alone. -/
theorem failsClean_of_ok (succeeded : answer = (.ok (), s')) : FailsClean same s (.ok answer) := by
  intro fail left failed
  cases succeeded.symm.trans (Except.ok.inj failed)

/-- A call that fails is clean if it leaves what it found. -/
theorem failsClean_iff_of_error (failed : answer = (.error fail, s')) :
    FailsClean same s (.ok answer) ↔ same s s' := by
  constructor
  · intro clean
    exact clean fail s' (congrArg Except.ok failed)
  · intro unchanged fail' left failed'
    cases failed.symm.trans (Except.ok.inj failed')
    exact unchanged

end

/-- A run to a state where a call fails late is one to a state where it does not fail clean. -/
theorem exists_not_clean {T : Type} {ran : Except Fault T} {clean : T → Prop} {late : T → Bool}
    (iff : ∀ t, ran = .ok t → (clean t ↔ late t = false)) (isLate : ran.map late = .ok true) :
    ∃ t, ran = .ok t ∧ ¬clean t := by
  obtain ⟨t, reached, isLate⟩ := Machine.map_eq_ok late isLate
  refine ⟨t, reached, fun isClean => ?_⟩
  cases isLate.symm.trans ((iff t reached).mp isClean)

/-! ## TCP -/

namespace Tcp

/-- The calls of a TCP socket that may fail at once. -/
inductive SocketCall where
  | bind (qd : QDesc) (addr : SocketAddrV4)
  | listen (qd : QDesc) (backlog : Nat) (nonce : UInt32)
  | connect (qd : QDesc) (remoteAddr : SocketAddrV4)
  | close (qd : QDesc) (env : Env)

namespace TcpPeer

def call (crc : List UInt8 → UInt32) (p : TcpPeer) :
    SocketCall → Except Fault (Except Fail Unit × TcpPeer)
  | .bind qd addr => .ok (p.bind qd addr)
  | .listen qd backlog nonce => .ok (p.listen qd backlog nonce)
  | .connect qd remoteAddr => .ok (p.connect crc qd remoteAddr)
  | .close qd env => p.doClose qd env

/-- The tables are the same, and so are the free ports as a set. -/
structure SameTables (p p' : TcpPeer) : Prop where
  sockets : p'.sockets = p.sockets
  passive : p'.passive = p.passive
  connecting : p'.connecting = p.connecting
  established : p'.established = p.established
  ports : ∀ port, port ∈ p'.ephemeralPorts.ports ↔ port ∈ p.ephemeralPorts.ports

/-- The call finds that it fails after it has changed the tables. -/
def failsLate (p : TcpPeer) : SocketCall → Bool
  | .connect qd remoteAddr =>
    match p.sockets.lookup qd with
    | some (.inactive (some localAddr)) => (p.connecting.lookup (localAddr, remoteAddr)).isSome
    | _ => false
  | .close qd _ =>
    match p.sockets.lookup qd with
    | none | some (.established _ _) => false
    | some _ => true
  | _ => false

variable {crc : List UInt8 → UInt32} {p p' : TcpPeer} {qd : QDesc} {localAddr remoteAddr : SocketAddrV4}
  {env : Env}

/-- Nothing has changed. -/
theorem SameTables.refl (p : TcpPeer) : SameTables p p := ⟨rfl, rfl, rfl, rfl, fun _ => Iff.rfl⟩

/-- **`bind` fails cleanly**: the pool is rearranged at most. -/
theorem bind_failsClean (valid : p.ephemeralPorts.Valid) (qd : QDesc) (addr : SocketAddrV4) :
    FailsClean SameTables p (p.call crc (.bind qd addr)) := by
  obtain ⟨fail, ports, perm, ran⟩ | ⟨got, ports, -, -, -, -, ran⟩ := bind_cases valid qd addr
  · refine (failsClean_iff_of_error ran).mpr ?_
    exact ⟨rfl, rfl, rfl, rfl, fun port => perm.mem_iff⟩
  · exact failsClean_of_ok ran

/-- **`listen` fails cleanly**: everything is checked first. -/
theorem listen_failsClean (p : TcpPeer) (qd : QDesc) (backlog : Nat) (nonce : UInt32) :
    FailsClean SameTables p (p.call crc (.listen qd backlog nonce)) := by
  obtain ⟨fail, ran⟩ | ⟨addr, -, ran⟩ := p.listen_cases qd backlog nonce
  · exact (failsClean_iff_of_error ran).mpr (.refl p)
  · exact failsClean_of_ok ran

/-- `connect` of a bound socket fails late if there is an attempt between the addresses already. -/
theorem failsLate_connect (bound : p.sockets.lookup qd = some (.inactive (some localAddr))) :
    p.failsLate (.connect qd remoteAddr) = (p.connecting.lookup (localAddr, remoteAddr)).isSome := by
  simp only [failsLate, bound]

/-- `connect` of a socket without an address does not fail late. -/
theorem failsLate_connect_unbound
    (unbound : ∀ addr, p.sockets.lookup qd ≠ some (.inactive (some addr))) :
    p.failsLate (.connect qd remoteAddr) = false := by
  unfold failsLate
  dsimp only
  split
  next addr bound => exact (unbound addr bound).elim
  next => rfl

/-- A port of the pool is new to the connect attempts, so only one from the socket's own address finds
another. -/
theorem connect_failsClean_iff {r : PeerRun} (h : r.Sound) (qd : QDesc) (remoteAddr : SocketAddrV4) :
    FailsClean SameTables r.peer (r.peer.call crc (.connect qd remoteAddr)) ↔
      r.peer.failsLate (.connect qd remoteAddr) = false := by
  obtain ⟨fail, unbound, ran⟩ | ⟨addr, ports, isnGenerator, socket, source, ran⟩ :=
    r.peer.connect_cases crc qd remoteAddr
  · refine iff_of_true ?_ (failsLate_connect_unbound unbound)
    exact (failsClean_iff_of_error ran).mpr (.refl _)
  cases leftover : r.peer.connecting.lookup (addr, remoteAddr) with
  | none =>
    rw [leftover] at ran
    refine iff_of_true (failsClean_of_ok ran) ?_
    obtain ⟨bound, -⟩ | ⟨found, -⟩ := source
    · rw [failsLate_connect bound, leftover]
      rfl
    · apply failsLate_connect_unbound
      intro addr' bound
      cases found.symm.trans bound
  | some old =>
    rw [leftover] at ran
    obtain ⟨bound, -⟩ | ⟨-, perm⟩ := source
    · rw [call, failsClean_iff_of_error ran, failsLate_connect bound, leftover]
      refine iff_of_false (fun same => ?_) (by simp)
      have after := congrArg (AList.lookup qd) same.sockets
      dsimp only at after
      rw [AList.lookup_insert, bound] at after
      cases after
    · have pooled : addr.port ∈ r.peer.ephemeralPorts.ports := perm.mem_iff.mpr List.mem_cons_self
      exact (h.attempts (addr, remoteAddr) (by rw [leftover]; rfl) pooled).elim

/-- A socket that is not connected is taken out of the table and not closed. -/
theorem doClose_other {socket : Socket} (found : p.sockets.lookup qd = some socket)
    (other : ∀ addr remoteAddr, socket ≠ .established addr remoteAddr) :
    p.doClose qd env =
      .ok (.error { errno := .ENOTSUP, cause := "close not implemented for listening sockets" },
        { p with sockets := p.sockets.erase qd }) := by
  unfold doClose
  rw [found]
  cases socket with
  | established addr remoteAddr => exact (other addr remoteAddr rfl).elim
  | _ => rfl

/-- `close` fails late for every socket that is not connected. -/
theorem failsLate_close {socket : Socket} (found : p.sockets.lookup qd = some socket) :
    p.failsLate (.close qd env) = true ↔ ∀ addr remoteAddr, socket ≠ .established addr remoteAddr := by
  unfold failsLate
  dsimp only
  rw [found]
  cases socket with
  | established addr remoteAddr => exact iff_of_false nofun fun other => other addr remoteAddr rfl
  | _ => exact iff_of_true rfl nofun

/-- **`close`** removes the socket first, so it is clean if it does not fail after that. -/
theorem doClose_failsClean_iff {r : PeerRun} (h : r.Sound) (qd : QDesc) (env : Env) :
    FailsClean SameTables r.peer (r.peer.call crc (.close qd env)) ↔
      r.peer.failsLate (.close qd env) = false := by
  cases found : r.peer.sockets.lookup qd with
  | none =>
    refine iff_of_true ?_ (by simp only [failsLate, found])
    intro fail p' failed
    obtain ⟨-, rfl⟩ | ⟨socket, present, -⟩ := doClose_cases failed
    · exact .refl _
    · cases found.symm.trans present
  | some socket =>
  rw [← Bool.not_eq_true, failsLate_close found]
  constructor
  · intro clean other
    have same := clean _ _ (doClose_other found other)
    have after := congrArg (AList.lookup qd) same.sockets
    dsimp only at after
    rw [AList.lookup_erase, found] at after
    cases after
  · intro connected fail p' failed
    obtain ⟨absent, -⟩ | ⟨socket', present, -, succeeds⟩ := doClose_cases failed
    · cases found.symm.trans absent
    · cases found.symm.trans present
      refine (connected fun addr remoteAddr same => ?_).elim
      subst same
      cases succeeds.mpr ⟨addr, remoteAddr, rfl, h.connections qd addr remoteAddr found⟩

/-- **Each of the four calls** fails cleanly, or fails late. -/
theorem call_failsClean_iff {r : PeerRun} (h : r.Sound) (call : SocketCall) :
    FailsClean SameTables r.peer (r.peer.call crc call) ↔ r.peer.failsLate call = false := by
  cases call with
  | bind qd addr => exact iff_of_true (bind_failsClean h.valid qd addr) rfl
  | listen qd backlog nonce => exact iff_of_true (listen_failsClean r.peer qd backlog nonce) rfl
  | connect qd remoteAddr => exact connect_failsClean_iff h qd remoteAddr
  | close qd env => exact doClose_failsClean_iff h qd env

end TcpPeer

end Tcp

/-! ## UDP -/

namespace Udp

/-- The calls of a UDP socket that may fail at once. -/
inductive SocketCall where
  | bind (qd : QDesc) (addr : SocketAddrV4)
  | close (qd : QDesc)

namespace UdpPeer

def call (p : UdpPeer) : SocketCall → Except Fault (Except Fail Unit × UdpPeer)
  | .bind qd addr => .ok (p.doBind qd addr)
  | .close qd => .ok (p.doClose qd)

/-- The tables are the same, and so are the free ports as a set. -/
structure SameTables (p p' : UdpPeer) : Prop where
  sockets : p'.sockets = p.sockets
  bound : p'.bound = p.bound
  ports : ∀ port, port ∈ p'.ephemeralPorts.ports ↔ port ∈ p.ephemeralPorts.ports

/-- The call finds that it fails after it has changed the tables. -/
def failsLate (p : UdpPeer) : SocketCall → Bool
  | .bind _ _ => false
  | .close qd => p.sockets.lookup qd == some none

variable {p : UdpPeer}

/-- **`bind` fails cleanly**: the pool is rearranged at most. -/
theorem doBind_failsClean (h : p.Sound) (qd : QDesc) (addr : SocketAddrV4) :
    FailsClean SameTables p (p.call (.bind qd addr)) := by
  obtain ⟨fail, ports, perm, ran⟩ | ⟨got, ports, -, -, -, -, ran⟩ := doBind_cases h qd addr
  · refine (failsClean_iff_of_error ran).mpr ?_
    exact ⟨rfl, rfl, fun port => perm.mem_iff⟩
  · exact failsClean_of_ok ran

/-- **`close`** removes the socket first, so it is clean if it does not fail after that. -/
theorem doClose_failsClean_iff (h : p.Sound) (qd : QDesc) :
    FailsClean SameTables p (p.call (.close qd)) ↔ p.failsLate (.close qd) = false := by
  obtain ⟨fail, absent, ran⟩ | ⟨fail, unbound, ran⟩ | ⟨addr, bound, ran⟩ := doClose_cases h qd
  · refine iff_of_true ?_ (by simp only [failsLate, absent]; rfl)
    exact (failsClean_iff_of_error ran).mpr ⟨rfl, rfl, fun _ => Iff.rfl⟩
  · rw [call, failsClean_iff_of_error ran]
    refine iff_of_false (fun same => ?_) (by simp [failsLate, unbound])
    have after := congrArg (AList.lookup qd) same.sockets
    dsimp only at after
    rw [AList.lookup_erase, unbound] at after
    cases after
  · refine iff_of_true (failsClean_of_ok ran) ?_
    simp only [failsLate, bound]
    rfl

/-- **Both calls** fail cleanly, or fail late. -/
theorem call_failsClean_iff (h : p.Sound) (call : SocketCall) :
    FailsClean SameTables p (p.call call) ↔ p.failsLate call = false := by
  cases call with
  | bind qd addr => exact iff_of_true (doBind_failsClean h qd addr) rfl
  | close qd => exact doClose_failsClean_iff h qd

end UdpPeer

end Udp

/-! ## Both peers -/

/-- **A failing socket call changes nothing, exactly where it does not fail late**, in every state that a
TCP peer or a UDP peer can reach. -/
theorem failing_calls_clean_iff (shuffle : List UInt16 → List UInt16) (perm : ∀ l, (shuffle l).Perm l)
    (eof : Fail) (crc : List UInt8 → UInt32) (fallbackMss : Nat) (localIpv4Addr : Tcp.Ipv4Addr) :
    (∀ nonce rt events r, Machine.run (PeerRun.step eof crc fallbackMss)
        (PeerRun.start (TcpPeer.new shuffle nonce rt localIpv4Addr)) events = .ok r →
      ∀ call, FailsClean TcpPeer.SameTables r.peer (r.peer.call crc call) ↔
        r.peer.failsLate call = false) ∧
    (∀ localLinkAddr checksumOffload events p, Machine.run UdpPeer.step
        (UdpPeer.new shuffle localLinkAddr localIpv4Addr checksumOffload) events = .ok p →
      ∀ call, FailsClean UdpPeer.SameTables p (p.call call) ↔ p.failsLate call = false) := by
  constructor
  · intro nonce rt events r ran call
    exact TcpPeer.call_failsClean_iff (PeerRun.run_sound perm ran) call
  · intro localLinkAddr checksumOffload events p ran call
    exact UdpPeer.call_failsClean_iff (UdpPeer.run_sound perm ran) call

/-- A UDP peer at its start. -/
def sampleUdpStart : UdpPeer := .new id 7 0x0a000001 true

/-- Port 80 is refused to the second of two sockets, and nothing has changed. -/
theorem failing_calls_clean_iff_bind :
    (∃ r fail p', Machine.run (PeerRun.step PeerRun.sampleFail (fun _ => 500) 536) PeerRun.sampleStart
        [.socket 1, .bind 1 ⟨0x0a000001, 80⟩, .socket 2] = .ok r ∧
      r.peer.call (fun _ => 500) (.bind 2 ⟨0x0a000001, 80⟩) = .ok (.error fail, p') ∧
      r.peer.SameTables p') ∧
    ∃ p fail p', Machine.run UdpPeer.step sampleUdpStart
        [.socket 1, .bind 1 ⟨0x0a000001, 80⟩, .socket 2] = .ok p ∧
      p.call (.bind 2 ⟨0x0a000001, 80⟩) = .ok (.error fail, p') ∧ p.SameTables p' := by
  obtain ⟨tcp, udp⟩ := failing_calls_clean_iff id (fun _ => .refl _) PeerRun.sampleFail (fun _ => 500)
    536 0x0a000001
  constructor
  · obtain ⟨r, ran, refused⟩ := Machine.map_eq_ok
      (x := Machine.run (PeerRun.step PeerRun.sampleFail (fun _ => 500) 536) PeerRun.sampleStart
        [.socket 1, .bind 1 ⟨0x0a000001, 80⟩, .socket 2])
      (fun r => (r.peer.bind 2 ⟨0x0a000001, 80⟩).1)
      (t := .error { errno := .EADDRINUSE, cause := "address already in use" }) (by decide +kernel)
    have failed : r.peer.call (fun _ => 500) (.bind 2 ⟨0x0a000001, 80⟩) =
        .ok (.error _, (r.peer.bind 2 ⟨0x0a000001, 80⟩).2) :=
      congrArg Except.ok (Prod.ext refused rfl)
    exact ⟨r, _, _, ran, failed, (tcp _ _ _ r ran (.bind 2 ⟨0x0a000001, 80⟩)).mpr rfl _ _ failed⟩
  · obtain ⟨p, ran, refused⟩ := Machine.map_eq_ok
      (x := Machine.run UdpPeer.step sampleUdpStart
        [.socket 1, .bind 1 ⟨0x0a000001, 80⟩, .socket 2])
      (fun p => (p.doBind 2 ⟨0x0a000001, 80⟩).1)
      (t := .error { errno := .EADDRINUSE, cause := "address in use" }) (by decide +kernel)
    have failed : p.call (.bind 2 ⟨0x0a000001, 80⟩) =
        .ok (.error _, (p.doBind 2 ⟨0x0a000001, 80⟩).2) :=
      congrArg Except.ok (Prod.ext refused rfl)
    exact ⟨p, _, _, ran, failed, (udp _ _ _ p ran (.bind 2 ⟨0x0a000001, 80⟩)).mpr rfl _ _ failed⟩

/-- The descriptor of a new socket is gone after a `do_close` that failed. A connect attempt outlives its
socket, and a socket that gets its address is connecting after a `connect` that failed. -/
theorem failing_calls_not_clean :
    (∃ r, Machine.run (PeerRun.step PeerRun.sampleFail (fun _ => 500) 536) PeerRun.sampleStart
        [.socket 1] = .ok r ∧
      ¬FailsClean TcpPeer.SameTables r.peer (r.peer.call (fun _ => 500) (.close 1 Tcp.sampleEnv))) ∧
    (∃ r, Machine.run (PeerRun.step PeerRun.sampleFail (fun _ => 500) 536) PeerRun.sampleStart
        (PeerRun.sampleConnect ++ [.close 1 Tcp.sampleEnv, .socket 2, .bind 2 ⟨0x0a000001, 80⟩]) =
          .ok r ∧
      ¬FailsClean TcpPeer.SameTables r.peer
        (r.peer.call (fun _ => 500) (.connect 2 ⟨0x0a000002, 90⟩))) ∧
    ∃ p, Machine.run UdpPeer.step sampleUdpStart [.socket 1] = .ok p ∧
      ¬FailsClean UdpPeer.SameTables p (p.call (.close 1)) := by
  have tcp {call : Tcp.SocketCall} {events : List Tcp.PeerEvent} (r : PeerRun)
      (ran : Machine.run (PeerRun.step PeerRun.sampleFail (fun _ => 500) 536) PeerRun.sampleStart
        events = .ok r) :
      FailsClean TcpPeer.SameTables r.peer (r.peer.call (fun _ => 500) call) ↔
        r.peer.failsLate call = false :=
    TcpPeer.call_failsClean_iff (PeerRun.run_sound (fun _ => .refl _) ran) call
  have udp (p : UdpPeer) (ran : Machine.run UdpPeer.step sampleUdpStart [.socket 1] = .ok p) :
      FailsClean UdpPeer.SameTables p (p.call (.close 1)) ↔ p.failsLate (.close 1) = false :=
    UdpPeer.call_failsClean_iff (UdpPeer.run_sound (fun _ => .refl _) ran) (.close 1)
  exact ⟨exists_not_clean tcp (by decide +kernel), exists_not_clean tcp (by decide +kernel),
    exists_not_clean udp (by decide +kernel)⟩

end Inetstack
