import Inetstack.Laws.Udp.Peer

/-!
# The sockets and the bindings of a UDP peer match

`Sound` is one direction: the address of a socket has a queue. The other is that a queue is there for no
other address, which `do_bind` and `do_close` keep because each of them touches the two tables for one
socket and one address.
-/

namespace Inetstack.Udp

open Machine (bind_eq_ok)
open Tcp (Fail MacAddress SocketAddrV4)

namespace UdpPeer

/-- Every bound address is the one of a socket. -/
def Owned (p : UdpPeer) : Prop :=
  ∀ addr, (p.bound.lookup addr).isSome = true → ∃ qd, p.sockets.lookup qd = some (some addr)

variable {p p' : UdpPeer} {qd : QDesc} {addr : SocketAddrV4}

/-- What keeps the tables keeps their owners. -/
theorem Owned.kept (h : p.Owned) (kept : p.Kept p') : p'.Owned := by
  intro addr present
  rw [kept.sockets]
  exact h addr (kept.bound addr ▸ present)

/-- A new socket owns nothing. -/
theorem Owned.socket (h : p.Owned) (absent : p.sockets.lookup qd = none) :
    Owned { p with sockets := p.sockets.insert qd none } := by
  intro addr present
  obtain ⟨owner, found⟩ := h addr present
  have ne : owner ≠ qd := by
    intro same
    cases (same ▸ found).symm.trans absent
  exact ⟨owner, by rw [Table.lookup_insert, if_neg ne, found]⟩

/-- A bound address is owned by its socket. -/
theorem Owned.bind (h : p.Owned) {queue : SharedQueue} {ports : Ip.EphemeralPorts}
    (unbound : p.sockets.lookup qd = some none) :
    Owned { p with
      ephemeralPorts := ports
      sockets := p.sockets.insert qd (some addr)
      bound := p.bound.insert addr queue } := by
  intro addr' present
  rw [Table.lookup_insert] at present
  split at present
  next same => exact ⟨qd, by rw [Table.lookup_insert, if_pos rfl, same]⟩
  next =>
    obtain ⟨owner, found⟩ := h addr' present
    have ne : owner ≠ qd := by
      intro same
      cases (same ▸ found).symm.trans unbound
    exact ⟨owner, by rw [Table.lookup_insert, if_neg ne, found]⟩

/-- A socket that is not bound owns nothing. -/
theorem Owned.eraseUnbound (h : p.Owned) (unbound : p.sockets.lookup qd = some none) :
    Owned { p with sockets := p.sockets.erase qd } := by
  intro addr present
  obtain ⟨owner, found⟩ := h addr present
  have ne : owner ≠ qd := by
    intro same
    cases (same ▸ found).symm.trans unbound
  exact ⟨owner, by rw [Table.lookup_erase, if_neg ne, found]⟩

/-- Closing a bound socket takes its queue with it. -/
theorem Owned.close (h : p.Owned) (bound : p.sockets.lookup qd = some (some addr)) :
    Owned { p with sockets := p.sockets.erase qd, bound := p.bound.erase addr } := by
  intro addr' present
  rw [Table.lookup_erase] at present
  split at present
  next => cases present
  next other =>
    obtain ⟨owner, found⟩ := h addr' present
    have ne : owner ≠ qd := by
      intro same
      cases (same ▸ found).symm.trans bound
      exact other rfl
    exact ⟨owner, by rw [Table.lookup_erase, if_neg ne, found]⟩

/-- Every event keeps the queues owned. -/
theorem step_owned {event : PeerEvent} (sound : p.Sound) (h : p.Owned)
    (stepped : p.step event = .ok p') : p'.Owned := by
  cases event with
  | socket qd =>
    cases stepped
    unfold doSocket
    split
    next absent => exact h.socket absent
    next => exact h
  | bind qd addr =>
    cases stepped
    obtain ⟨fail, ports, perm, ran⟩ | ⟨got, ports, unbound, -, -, -, ran⟩ := doBind_cases sound qd addr
    · rw [ran]
      exact h.kept ⟨rfl, perm, fun _ => rfl⟩
    · rw [ran]
      exact h.bind unbound
  | close qd =>
    cases stepped
    obtain ⟨fail, -, ran⟩ | ⟨fail, unbound, ran⟩ | ⟨addr, bound, ran⟩ := doClose_cases sound qd
    · rw [ran]
      exact h
    · rw [ran]
      exact h.eraseUnbound unbound
    · rw [ran]
      exact h.close bound
  | pushto qd data remoteAddr env =>
    obtain ⟨⟨result, peer⟩, ran, stepped⟩ := bind_eq_ok.mp stepped
    cases stepped
    exact h.kept (.doPushto ran)
  | pop qd =>
    obtain ⟨queue, -, stepped⟩ := bind_eq_ok.mp stepped
    cases stepped
    exact h
  | pollPop addr =>
    obtain ⟨⟨result, peer⟩, ran, stepped⟩ := bind_eq_ok.mp stepped
    cases stepped
    exact h.kept (.pollPop ran)
  | receive ipv4Hdr buf =>
    obtain ⟨⟨result, peer⟩, ran, stepped⟩ := bind_eq_ok.mp stepped
    cases stepped
    exact h.kept (.doReceive ran)
  | sender reply =>
    cases stepped
    exact h.kept (.senderPoll p reply)

/-- In a run every queue belongs to a socket. -/
theorem run_owned {shuffle : List UInt16 → List UInt16} (perm : ∀ l, (shuffle l).Perm l)
    {localLinkAddr : MacAddress} {localIpv4Addr : Tcp.Ipv4Addr} {checksumOffload : Bool}
    {events : List PeerEvent}
    (ran : Machine.run step (new shuffle localLinkAddr localIpv4Addr checksumOffload) events = .ok p) :
    p.Owned := by
  have start : Machine.run step (new shuffle localLinkAddr localIpv4Addr checksumOffload) [] = .ok _ :=
    rfl
  have both := Machine.invariant (fun p => p.Sound ∧ p.Owned)
    (fun inv stepped => ⟨step_sound inv.1 stepped, step_owned inv.1 inv.2 stepped⟩)
    ⟨run_sound perm start, fun _ present => by cases present⟩ ran
  exact both.2

/-! ## The tables of a reachable peer -/

/-- The two tables and the pool match. -/
structure Matched (p : UdpPeer) : Prop where
  keys : ∀ addr, addr ∈ p.bound ↔ ∃ qd, p.sockets.lookup qd = some (some addr)
  distinct : ∀ qd qd' addr, p.sockets.lookup qd = some (some addr) →
    p.sockets.lookup qd' = some (some addr) → qd = qd'
  free : ∀ addr ∈ p.bound, addr.port ∉ p.ephemeralPorts.ports

/-- The addresses of the sockets are those of the queues. -/
theorem Sound.matched (h : p.Sound) (owned : p.Owned) : p.Matched where
  keys addr := by
    rw [← AList.lookup_isSome]
    constructor
    · exact owned addr
    · rintro ⟨qd, found⟩
      exact h.queues qd addr found
  distinct := h.distinct
  free addr present := h.taken addr (AList.lookup_isSome.mpr present)

/-- **The sockets and the bindings match in every state a UDP peer can reach.** A bound socket has a queue
to pop from, and the address that `do_bind` is about to enter has none. -/
theorem tables_match (shuffle : List UInt16 → List UInt16) (perm : ∀ l, (shuffle l).Perm l)
    (localLinkAddr : MacAddress) (localIpv4Addr : Tcp.Ipv4Addr) (checksumOffload : Bool)
    (events : List PeerEvent) (p : UdpPeer)
    (ran : Machine.run step (new shuffle localLinkAddr localIpv4Addr checksumOffload) events = .ok p) :
    p.Matched ∧
    (∀ qd addr, p.sockets.lookup qd = some (some addr) →
      ∃ queue, p.bound.lookup addr = some queue ∧ p.doPop qd = .ok queue) ∧
    ∀ qd addr got ports, p.bound.lookup addr = none → allocFor p.ephemeralPorts addr = .ok (got, ports) →
      p.bound.lookup got = none ∧
      ({ p with ephemeralPorts := ports }.register qd got).1 ≠
        .error { errno := .EADDRINUSE, cause := "address in use" } := by
  have sound := run_sound perm ran
  refine ⟨sound.matched (run_owned perm ran), ?_, ?_⟩
  · intro qd addr found
    obtain ⟨queue, known⟩ := Option.isSome_iff_exists.mp (sound.queues qd addr found)
    exact ⟨queue, known, by simp only [doPop, found, known]⟩
  · intro qd addr got ports asked claim
    have unbound := sound.unbound asked (allocFor_claimed sound.valid claim)
    refine ⟨unbound, ?_⟩
    unfold register
    dsimp only
    rw [unbound]
    split
    · simp
    · simp

/-- Port 80 of one address is refused to a second socket, and free again after the first is closed. -/
theorem tables_match_rebound :
    ∃ p, Machine.run step (new id 7 0x0a000001 true)
        [.socket 1, .bind 1 ⟨0x0a000001, 80⟩, .socket 2, .bind 2 ⟨0x0a000001, 80⟩, .close 1,
          .bind 2 ⟨0x0a000001, 80⟩] = .ok p ∧
      p.sockets.lookup 2 = some (some ⟨0x0a000001, 80⟩) ∧ p.Matched := by
  obtain ⟨p, ran, second⟩ := Machine.map_eq_ok
    (x := Machine.run step (new id 7 0x0a000001 true)
        [.socket 1, .bind 1 ⟨0x0a000001, 80⟩, .socket 2, .bind 2 ⟨0x0a000001, 80⟩, .close 1,
          .bind 2 ⟨0x0a000001, 80⟩])
    (fun p => p.sockets.lookup 2) (t := some (some ⟨0x0a000001, 80⟩)) (by decide +kernel)
  exact ⟨p, ran, second, (tables_match id (fun _ => .refl _) _ _ _ _ p ran).1⟩

end UdpPeer

end Inetstack.Udp
