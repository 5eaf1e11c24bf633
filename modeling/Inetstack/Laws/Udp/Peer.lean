import Inetstack.Udp.Peer
import Inetstack.Lib.Machine
import Inetstack.Lib.Table
import Inetstack.Laws.Ip.EphemeralPorts

/-!
# The tables of a UDP peer

A bound address belongs to one socket, has a queue, and its port is out of the pool. So the address that
`do_bind` enters has no queue yet and its last check cannot fail, and a bound socket that is closed has a
queue to remove.
-/

namespace Inetstack.Udp

open Ip (EphemeralPorts)
open Machine (bind_eq_ok)
open Tcp (Buffer Env Fail Fault MacAddress SocketAddrV4)

namespace UdpPeer

/-- The invariant of the tables. -/
structure Sound (p : UdpPeer) : Prop where
  valid : p.ephemeralPorts.Valid
  taken : ∀ addr, (p.bound.lookup addr).isSome = true → addr.port ∉ p.ephemeralPorts.ports
  queues : ∀ qd addr, p.sockets.lookup qd = some (some addr) → (p.bound.lookup addr).isSome = true
  distinct : ∀ qd qd' addr, p.sockets.lookup qd = some (some addr) →
    p.sockets.lookup qd' = some (some addr) → qd = qd'

variable {p p' : UdpPeer} {qd : QDesc} {addr : SocketAddrV4} {ports : EphemeralPorts}

/-! ## The calls of the user -/

/-- What `bind` allocates: a private port that was asked for or picked leaves the pool, and no other. -/
theorem allocFor_claimed {got : SocketAddrV4} {left : EphemeralPorts} (valid : ports.Valid)
    (ran : allocFor ports addr = .ok (got, left)) : ports.Claimed addr got left := by
  unfold allocFor at ran
  split at ran
  next =>
    obtain ⟨after, taken, ran⟩ := bind_eq_ok.mp ran
    cases ran
    exact .inl (EphemeralPorts.allocPort_perm valid taken)
  next notPrivate =>
  split at ran
  next =>
    obtain ⟨⟨newPort, rest⟩, taken, ran⟩ := bind_eq_ok.mp ran
    cases ran
    exact .inl (EphemeralPorts.allocAny_perm taken)
  next =>
    cases ran
    exact .inr ⟨rfl, rfl, by simpa using notPrivate⟩

/-- No address with port 0 is claimed: it asks for a port of the pool. -/
theorem allocFor_ne_zero {got : SocketAddrV4} {left : EphemeralPorts} (valid : ports.Valid)
    (ran : allocFor ports addr = .ok (got, left)) : got.port ≠ 0 := by
  obtain perm | ⟨rfl, rfl, -⟩ := allocFor_claimed valid ran
  · exact valid.taken_ne_zero perm
  · intro zero
    have notPrivate : ¬EphemeralPorts.isPrivate got.port = true := by rw [zero]; decide
    unfold allocFor at ran
    rw [if_neg notPrivate, if_pos zero] at ran
    obtain ⟨⟨newPort, rest⟩, taken, ran⟩ := bind_eq_ok.mp ran
    have same : newPort = got.port := congrArg (fun alloc => alloc.1.port) (Except.ok.inj ran)
    exact valid.taken_ne_zero (EphemeralPorts.allocAny_perm taken) (same.trans zero)

/-- An address that has been claimed has no queue. -/
theorem Sound.unbound (h : p.Sound) {got : SocketAddrV4} (asked : p.bound.lookup addr = none)
    (claimed : p.ephemeralPorts.Claimed addr got ports) : p.bound.lookup got = none := by
  obtain perm | ⟨rfl, -, -⟩ := claimed
  · refine Option.not_isSome_iff_eq_none.mp fun present => ?_
    exact h.taken got present (perm.mem_iff.mpr List.mem_cons_self)
  · exact asked

/-- An address that has no queue is registered for an open socket without an address. -/
theorem register_cases (qd : QDesc) (unbound : p.bound.lookup addr = none) :
    (∃ fail, p.register qd addr = (.error fail, p)) ∨
    p.sockets.lookup qd = some none ∧ p.register qd addr = (.ok (), { p with
      sockets := p.sockets.insert qd (some addr)
      bound := p.bound.insert addr (SharedQueue.new RECV_QUEUE_MAX_SIZE) }) := by
  unfold register
  split
  next found =>
    rw [unbound]
    exact .inr ⟨found, rfl⟩
  next => exact .inl ⟨_, rfl⟩

/-- **What `do_bind` can do**: fail and leave the pool rearranged, or bind the socket to an address that
had no queue. -/
theorem doBind_cases (h : p.Sound) (qd : QDesc) (addr : SocketAddrV4) :
    (∃ fail ports, ports.ports.Perm p.ephemeralPorts.ports ∧
      p.doBind qd addr = (.error fail, { p with ephemeralPorts := ports })) ∨
    ∃ got ports, p.sockets.lookup qd = some none ∧ p.ephemeralPorts.Claimed addr got ports ∧
      got.port ≠ 0 ∧ p.bound.lookup got = none ∧
      p.doBind qd addr = (.ok (), { p with
        ephemeralPorts := ports
        sockets := p.sockets.insert qd (some got)
        bound := p.bound.insert got (SharedQueue.new RECV_QUEUE_MAX_SIZE) }) := by
  unfold doBind
  cases asked : p.bound.lookup addr with
  | some _ => exact .inl ⟨_, p.ephemeralPorts, .refl _, rfl⟩
  | none =>
  cases claim : allocFor p.ephemeralPorts addr with
  | error fail => exact .inl ⟨fail, p.ephemeralPorts, .refl _, rfl⟩
  | ok alloc =>
  obtain ⟨got, ports⟩ := alloc
  have claimed := allocFor_claimed h.valid claim
  have unbound := h.unbound asked claimed
  have restored := claimed.rollback h.valid
  obtain ⟨fail, failed⟩ | ⟨found, registered⟩ :=
    register_cases (p := { p with ephemeralPorts := ports }) qd unbound
  · refine .inl ⟨fail, _, restored, ?_⟩
    dsimp only
    rw [failed]
    by_cases isPrivate : EphemeralPorts.isPrivate got.port = true
    · simp only [isPrivate, if_true]
    · simp only [isPrivate, Bool.false_eq_true, if_false]
  · refine .inr ⟨got, ports, found, claimed, allocFor_ne_zero h.valid claim, unbound, ?_⟩
    dsimp only
    rw [registered]

/-- **What `do_close` can do**: nothing if the descriptor is not open, else take it out of the table of
sockets. It succeeds only for a bound one, whose queue goes too. -/
theorem doClose_cases (h : p.Sound) (qd : QDesc) :
    (∃ fail, p.sockets.lookup qd = none ∧ p.doClose qd = (.error fail, p)) ∨
    (∃ fail, p.sockets.lookup qd = some none ∧
      p.doClose qd = (.error fail, { p with sockets := p.sockets.erase qd })) ∨
    ∃ addr, p.sockets.lookup qd = some (some addr) ∧
      p.doClose qd = (.ok (), { p with
        sockets := p.sockets.erase qd
        bound := p.bound.erase addr }) := by
  unfold doClose
  cases found : p.sockets.lookup qd with
  | none => exact .inl ⟨_, rfl, rfl⟩
  | some socket =>
  cases socket with
  | none => exact .inr (.inl ⟨_, rfl, rfl⟩)
  | some addr =>
    obtain ⟨queue, known⟩ := Option.isSome_iff_exists.mp (h.queues qd addr found)
    refine .inr (.inr ⟨addr, rfl, ?_⟩)
    dsimp only
    rw [known]

/-! ## What the other events keep -/

/-- The sockets and the pool stay as they are, and so do the bound addresses. -/
structure Kept (p p' : UdpPeer) : Prop where
  sockets : p'.sockets = p.sockets
  ports : p'.ephemeralPorts.ports.Perm p.ephemeralPorts.ports
  bound : ∀ addr, (p'.bound.lookup addr).isSome = (p.bound.lookup addr).isSome

theorem Kept.refl (p : UdpPeer) : Kept p p := ⟨rfl, .refl _, fun _ => rfl⟩

/-- One receive queue is replaced. -/
theorem Kept.withQueue {queue queue' : SharedQueue} (known : p.bound.lookup addr = some queue) :
    Kept p { p with bound := p.bound.insert addr queue' } :=
  ⟨rfl, .refl _, Table.isSome_insert known queue'⟩

/-- Sending touches the send queue only. -/
theorem Kept.doPushto {data : Buffer} {remoteAddr : SocketAddrV4} {env : Env}
    {result : Except Fail Unit} (ran : p.doPushto qd data remoteAddr env = .ok (result, p')) :
    Kept p p' := by
  unfold UdpPeer.doPushto at ran
  split at ran
  next =>
    dsimp only at ran
    split at ran
    next =>
      cases ran
      exact ⟨rfl, .refl _, fun _ => rfl⟩
    next =>
      obtain ⟨⟨answer, sendQueue⟩, -, ran⟩ := bind_eq_ok.mp ran
      cases ran
      exact ⟨rfl, .refl _, fun _ => rfl⟩
  next =>
    cases ran
    exact .refl p

/-- Reading takes from one receive queue. -/
theorem Kept.pollPop {result : Option (SocketAddrV4 × Buffer)}
    (ran : p.pollPop addr = .ok (result, p')) : Kept p p' := by
  unfold UdpPeer.pollPop at ran
  split at ran
  next =>
    cases ran
    exact .refl p
  next queue known =>
    obtain ⟨⟨msg, queue'⟩, -, ran⟩ := bind_eq_ok.mp ran
    cases ran
    exact .withQueue known

/-- A datagram goes into one receive queue, or nowhere. -/
theorem Kept.doReceive {ipv4Hdr : Ipv4.Ipv4Header} {buf : Buffer} {result : Except Fail Unit}
    (ran : p.doReceive ipv4Hdr buf = .ok (result, p')) : Kept p p' := by
  obtain ⟨parsed, -, ran⟩ := bind_eq_ok.mp ran
  split at ran
  · cases ran
    exact .refl p
  dsimp only at ran
  split at ran
  · cases ran
    exact .refl p
  next queue known =>
    obtain ⟨⟨answer, queue'⟩, -, ran⟩ := bind_eq_ok.mp ran
    split at ran
    · cases ran
      exact .withQueue known
    · cases ran

theorem Kept.senderIterate (p : UdpPeer) : Kept p p.senderIterate := by
  unfold UdpPeer.senderIterate
  split <;> exact ⟨rfl, .refl _, fun _ => rfl⟩

theorem Kept.senderPoll (p : UdpPeer) (reply : Except Fail MacAddress) : Kept p (p.senderPoll reply) := by
  unfold UdpPeer.senderPoll
  split
  · exact .senderIterate p
  · exact .senderIterate p
  next slot remoteLinkAddr _ =>
    have sent := Kept.senderIterate (p.doSend slot remoteLinkAddr)
    exact ⟨sent.sockets, sent.ports, sent.bound⟩
  · exact .senderIterate p

/-! ## What the peer transmits -/

/-- The datagram that is transmitted for a message. -/
def datagram (p : UdpPeer) (slot : SharedQueueSlot) (remoteLinkAddr : MacAddress) : UdpDatagram where
  ethernet2Hdr := .new remoteLinkAddr p.localLinkAddr .ipv4
  ipv4Hdr := .new p.localIpv4Addr slot.remoteAddr.ip .udp
  udpHdr := .new slot.localAddr.port slot.remoteAddr.port
  data := slot.data
  checksumOffload := p.checksumOffload

/-- Nothing is transmitted. -/
structure Quiet (p p' : UdpPeer) : Prop where
  transmitted : p'.transmitted = p.transmitted
  checksumOffload : p'.checksumOffload = p.checksumOffload

/-- None of the calls but `push` writes anything. -/
theorem Quiet.doBind (p : UdpPeer) (qd : QDesc) (addr : SocketAddrV4) : Quiet p (p.doBind qd addr).2 := by
  have registered (p : UdpPeer) (addr : SocketAddrV4) : Quiet p (p.register qd addr).2 := by
    unfold register
    split
    · exact ⟨rfl, rfl⟩
    · exact ⟨rfl, rfl⟩
  unfold UdpPeer.doBind
  split
  · exact ⟨rfl, rfl⟩
  split
  · exact ⟨rfl, rfl⟩
  next got ports _ =>
    have quiet := registered { p with ephemeralPorts := ports } got
    split
    next same =>
      rw [same] at quiet
      exact ⟨quiet.transmitted, quiet.checksumOffload⟩
    next same =>
      rw [same] at quiet
      split
      · exact ⟨quiet.transmitted, quiet.checksumOffload⟩
      · exact ⟨quiet.transmitted, quiet.checksumOffload⟩

theorem Quiet.doClose (p : UdpPeer) (qd : QDesc) : Quiet p (p.doClose qd).2 := by
  unfold UdpPeer.doClose
  split
  · exact ⟨rfl, rfl⟩
  dsimp only
  split
  · exact ⟨rfl, rfl⟩
  split
  · exact ⟨rfl, rfl⟩
  · exact ⟨rfl, rfl⟩

theorem Quiet.pollPop {result : Option (SocketAddrV4 × Buffer)}
    (ran : p.pollPop addr = .ok (result, p')) : Quiet p p' := by
  unfold UdpPeer.pollPop at ran
  split at ran
  · cases ran
    exact ⟨rfl, rfl⟩
  · obtain ⟨⟨msg, queue⟩, -, ran⟩ := bind_eq_ok.mp ran
    cases ran
    exact ⟨rfl, rfl⟩

/-- A datagram that arrives is not answered. -/
theorem Quiet.doReceive {ipv4Hdr : Ipv4.Ipv4Header} {buf : Buffer} {result : Except Fail Unit}
    (ran : p.doReceive ipv4Hdr buf = .ok (result, p')) : Quiet p p' := by
  obtain ⟨parsed, -, ran⟩ := bind_eq_ok.mp ran
  split at ran
  · cases ran
    exact ⟨rfl, rfl⟩
  dsimp only at ran
  split at ran
  · cases ran
    exact ⟨rfl, rfl⟩
  · obtain ⟨⟨answer, queue⟩, -, ran⟩ := bind_eq_ok.mp ran
    split at ran
    · cases ran
      exact ⟨rfl, rfl⟩
    · cases ran

/-- An iteration of the background task only asks for a link address. -/
theorem Quiet.senderIterate (p : UdpPeer) : Quiet p p.senderIterate := by
  unfold UdpPeer.senderIterate
  split <;> exact ⟨rfl, rfl⟩

/-! ## Runs -/

/-- What leaves the tables keeps the invariant. -/
theorem Sound.kept (h : p.Sound) (kept : p.Kept p') : p'.Sound where
  valid := h.valid.perm kept.ports
  taken addr present mem := h.taken addr (kept.bound addr ▸ present) (kept.ports.mem_iff.mp mem)
  queues qd addr found := by
    rw [kept.bound]
    exact h.queues qd addr (kept.sockets ▸ found)
  distinct qd qd' addr found found' :=
    h.distinct qd qd' addr (kept.sockets ▸ found) (kept.sockets ▸ found')

/-- `bind`: a queue more, whose port leaves the pool, and the socket that it is for. -/
theorem Sound.bind (h : p.Sound) {got : SocketAddrV4} {queue : SharedQueue}
    (claimed : p.ephemeralPorts.Claimed addr got ports) (unbound : p.bound.lookup got = none) :
    Sound { p with
      ephemeralPorts := ports
      sockets := p.sockets.insert qd (some got)
      bound := p.bound.insert got queue } := by
  obtain ⟨fresh, valid⟩ := claimed.notMem h.valid
  -- no socket had the address, for its queue would be there
  have held {other : QDesc} (found : (p.sockets.insert qd (some got)).lookup other = some (some got)) :
      other = qd := by
    rw [Table.lookup_insert] at found
    split at found
    next same => exact same
    next =>
      have present := h.queues other got found
      rw [unbound] at present
      cases present
  have older {other : QDesc} {addr' : SocketAddrV4} (ne : addr' ≠ got)
      (found : (p.sockets.insert qd (some got)).lookup other = some (some addr')) :
      p.sockets.lookup other = some (some addr') := by
    rw [Table.lookup_insert] at found
    split at found
    · cases found
      exact (ne rfl).elim
    · exact found
  refine ⟨valid, ?_, ?_, ?_⟩
  · intro addr' present
    rw [Table.lookup_insert] at present
    split at present
    next same => exact same ▸ fresh
    next => exact fun mem => h.taken addr' present (claimed.fewer _ mem)
  · intro other addr' found
    by_cases same : addr' = got
    · rw [same]
      exact Table.isSome_insert_self _ _ _
    · exact Table.isSome_insert_of_isSome _ (h.queues other addr' (older same found))
  · intro qd₁ qd₂ addr' found₁ found₂
    by_cases same : addr' = got
    · subst same
      exact (held found₁).trans (held found₂).symm
    · exact h.distinct qd₁ qd₂ addr' (older same found₁) (older same found₂)

/-- Bound sockets may go, and others may come if they are not bound. -/
theorem Sound.unboundSockets (h : p.Sound) {sockets : AList fun _ : QDesc => Option SocketAddrV4}
    (older : ∀ qd addr, sockets.lookup qd = some (some addr) →
      p.sockets.lookup qd = some (some addr)) : Sound { p with sockets := sockets } where
  valid := h.valid
  taken := h.taken
  queues qd addr found := h.queues qd addr (older qd addr found)
  distinct qd qd' addr found found' :=
    h.distinct qd qd' addr (older qd addr found) (older qd' addr found')

/-- A socket less; its queue may stay. -/
theorem Sound.erase (h : p.Sound) (qd : QDesc) : Sound { p with sockets := p.sockets.erase qd } := by
  apply h.unboundSockets
  intro other addr found
  rw [Table.lookup_erase] at found
  split at found
  · cases found
  · exact found

/-- A socket more, that is not bound. -/
theorem Sound.socket (h : p.Sound) (qd : QDesc) :
    Sound { p with sockets := p.sockets.insert qd none } := by
  apply h.unboundSockets
  intro other addr found
  rw [Table.lookup_insert] at found
  split at found
  · cases found
  · exact found

/-- A queue may go when no socket is bound to its address any more. -/
theorem Sound.unbind (h : p.Sound) (released : ∀ qd, p.sockets.lookup qd ≠ some (some addr)) :
    Sound { p with bound := p.bound.erase addr } := by
  refine ⟨h.valid, ?_, ?_, h.distinct⟩
  · intro addr' present
    rw [Table.lookup_erase] at present
    split at present
    · cases present
    · exact h.taken addr' present
  · intro qd addr' found
    have ne : addr' ≠ addr := fun same => released qd (same ▸ found)
    rw [Table.lookup_erase, if_neg ne]
    exact h.queues qd addr' found

/-- **Every event keeps a peer sound.** -/
theorem step_sound {event : PeerEvent} (h : p.Sound) (stepped : p.step event = .ok p') : p'.Sound := by
  cases event with
  | socket qd =>
    cases stepped
    unfold doSocket
    split
    next => exact h.socket qd
    next => exact h
  | bind qd addr =>
    cases stepped
    obtain ⟨fail, ports, perm, ran⟩ | ⟨got, ports, -, claimed, -, unbound, ran⟩ := doBind_cases h qd addr
    · rw [ran]
      exact h.kept ⟨rfl, perm, fun _ => rfl⟩
    · rw [ran]
      exact h.bind claimed unbound
  | close qd =>
    cases stepped
    obtain ⟨fail, -, ran⟩ | ⟨fail, -, ran⟩ | ⟨addr, found, ran⟩ := doClose_cases h qd
    · rw [ran]
      exact h
    · rw [ran]
      exact h.erase qd
    · rw [ran]
      -- two sockets do not share an address, so nobody else loses the queue
      refine (h.erase qd).unbind fun other held => ?_
      rw [Table.lookup_erase] at held
      split at held
      · cases held
      next ne => exact ne (h.distinct other qd addr held found)
  | pushto qd data remoteAddr env =>
    obtain ⟨⟨result, peer⟩, ran, stepped⟩ := bind_eq_ok.mp stepped
    cases stepped
    exact h.kept (.doPushto ran)
  | pop qd =>
    obtain ⟨queue, -, stepped⟩ := bind_eq_ok.mp stepped
    cases stepped
    exact h
  | pollPop addr =>
    obtain ⟨⟨result, peer⟩, ran, stepped⟩ := bind_eq_ok.mp stepped
    cases stepped
    exact h.kept (.pollPop ran)
  | receive ipv4Hdr buf =>
    obtain ⟨⟨result, peer⟩, ran, stepped⟩ := bind_eq_ok.mp stepped
    cases stepped
    exact h.kept (.doReceive ran)
  | sender reply =>
    cases stepped
    exact h.kept (.senderPoll p reply)

/-- **A run of a peer** from its start. -/
theorem run_sound {shuffle : List UInt16 → List UInt16} (perm : ∀ l, (shuffle l).Perm l)
    {localLinkAddr : MacAddress} {localIpv4Addr : Tcp.Ipv4Addr} {checksumOffload : Bool}
    {events : List PeerEvent}
    (ran : Machine.run step (new shuffle localLinkAddr localIpv4Addr checksumOffload) events = .ok p) :
    p.Sound := by
  refine Machine.invariant Sound step_sound ?_ ran
  refine ⟨EphemeralPorts.valid_new perm, ?_, ?_, ?_⟩
  · intro addr present
    cases present
  · intro qd addr found
    cases found
  · intro qd qd' addr found
    cases found

/-- A peer with one socket, bound to port 80. -/
def samplePeer : UdpPeer :=
  (((new id 7 0x0a000001 false).doSocket 1).2.doBind 1 ⟨0x0a000001, 80⟩).2

end UdpPeer

end Inetstack.Udp
