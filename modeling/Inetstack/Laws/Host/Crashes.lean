import Inetstack.Laws.Grammars
import Inetstack.Laws.Host.Streams
import Inetstack.Laws.Tcp.Crashes
import Inetstack.Laws.Udp.Fifo

/-!
# The frames a host does not survive

No decoder panics, the cache of ARP takes every address, and a queue of UDP every datagram. So the only frames
that stop a host are those that carry a TCP segment which stops the connection, the connect attempt or the
listener it is for.
-/

namespace Inetstack

open Arp (ArpEvent ArpHeader ArpPeer)
open Ethernet2 (Ethernet2Header)
open Icmpv4 (Icmpv4Header Icmpv4Peer)
open Ipv4 (Ipv4Header)
open Machine (bind_eq_ok bind_returns_iff)
open Tcp (Buffer CongestionControl Duration Endpoint Env Fail Instant Ipv4Addr MacAddress PeerRun Runtime
  SocketAddrV4 TcpConfig TcpPeer)
open Udp (UdpHeader UdpPeer)

/-! ## The peers besides TCP -/

namespace Arp.ArpPeer

variable {p p' : ArpPeer} {ipv4Addr : Ipv4Addr} {linkAddr : MacAddress} {ttl : Duration}

/-- An address is entered for `ttl`, whether ARP is enabled or not. -/
structure Lasts (ttl : Duration) (p : ArpPeer) : Prop where
  defaultTtl : p.cache.cache.defaultTtl = some ttl
  positive : 0 < ttl

/-- Only the cache matters. -/
theorem Lasts.of_same (h : p.Lasts ttl) (cache : p'.cache = p.cache) : p'.Lasts ttl := by
  exact ⟨cache ▸ h.defaultTtl, h.positive⟩

/-- Inserting a mapping does not panic. -/
theorem Lasts.doInsert (h : p.Lasts ttl) (ipv4Addr : Ipv4Addr) (linkAddr : MacAddress) :
    ∃ p', p.doInsert ipv4Addr linkAddr = .ok p' ∧ p'.Lasts ttl ∧ p'.localIpv4Addr = p.localIpv4Addr := by
  obtain ⟨⟨replaced, cache⟩, inserted⟩ := ArpCache.insert_ok h.defaultTtl h.positive ipv4Addr linkAddr
  have same : (p.takeWaiter ipv4Addr (.sent linkAddr)).cache.insert ipv4Addr linkAddr =
      .ok (replaced, cache) := by
    rw [takeWaiter_eq]
    exact inserted
  have lives := (ArpCache.insert_maps h.defaultTtl inserted).defaultTtl.trans h.defaultTtl
  refine ⟨_, bind_eq_ok.mpr ⟨_, same, rfl⟩, ⟨lives, h.positive⟩, ?_⟩
  rw [takeWaiter_eq]

/-- Nor does answering a packet. -/
theorem Lasts.respond (h : p.Lasts ttl) (header : ArpHeader) :
    ∃ p', p.respond header = .ok (.ok (), p') ∧ p'.Lasts ttl := by
  unfold ArpPeer.respond
  cases header.operation with
  | request => exact ⟨_, rfl, h.defaultTtl, h.positive⟩
  | reply =>
    obtain ⟨⟨replaced, cache⟩, inserted⟩ := ArpCache.insert_ok h.defaultTtl h.positive
      header.senderProtocolAddr header.senderHardwareAddr
    have lives := (ArpCache.insert_maps h.defaultTtl inserted).defaultTtl.trans h.defaultTtl
    exact ⟨_, bind_eq_ok.mpr ⟨_, inserted, rfl⟩, lives, h.positive⟩

/-- **No packet stops ARP.** -/
theorem Lasts.receive (h : p.Lasts ttl) (buf : Buffer) :
    ∃ result p', p.receive buf = .ok (result, p') ∧ p'.Lasts ttl := by
  obtain ⟨parsed, parses⟩ := ArpHeader.parse_returns buf
  have parses : (ArpHeader.parse buf).run = .ok parsed := parses
  unfold ArpPeer.receive
  rw [parses]
  cases parsed with
  | error fail => exact ⟨_, p, rfl, h⟩
  | ok header =>
  obtain ⟨q, inserted, lasts, -⟩ := h.doInsert header.senderProtocolAddr header.senderHardwareAddr
  cases known : (p.cache.get header.senderProtocolAddr).isSome with
  | true =>
    simp only [known, if_true, inserted, bind, Except.bind]
    split
    · exact ⟨_, q, rfl, lasts⟩
    · obtain ⟨q', responds, lasts'⟩ := lasts.respond header
      exact ⟨_, q', responds, lasts'⟩
  | false =>
    simp only [known, Bool.false_eq_true, if_false, inserted, bind, Except.bind]
    split
    · exact ⟨_, p, rfl, h⟩
    · obtain ⟨q', responds, lasts'⟩ := lasts.respond header
      exact ⟨_, q', responds, lasts'⟩

/-- A poll of a query does not touch the cache. -/
theorem poll_cache {query : Arp.QueryId} {s : Arp.Select} (ran : p.poll query s = .ok p') :
    p'.cache = p.cache := by
  have iterated {q : ArpPeer} {left : Nat} {response : Arp.Response} {ipv4Addr : Ipv4Addr}
      (ran : q.iterate query ipv4Addr left response = .ok p') : p'.cache = q.cache := by
    unfold iterate at ran
    dsimp only at ran
    split at ran
    · cases ran
      rfl
    · cases ran
      rfl
    · cases ran
  unfold poll at ran
  split at ran
  · unfold start at ran
    split at ran
    · cases ran
      rfl
    · obtain ⟨⟨response, q⟩, waits, ran⟩ := bind_eq_ok.mp ran
      rw [iterated ran]
      unfold doWaitLinkAddr at waits
      split at waits
      · cases waits
        rfl
      split at waits
      · cases waits
      · cases waits
        rfl
  · unfold resume at ran
    split at ran
    · cases ran
      rfl
    · cases ran
      rfl
    · cases ran
    · split at ran
      · exact iterated ran
      · cases ran
        change (p.takeWaiter _ .cancelled).cache = p.cache
        rw [takeWaiter_eq]
  · cases ran
    rfl

/-- Every event keeps the cache as it has to be. -/
theorem step_lasts {event : ArpEvent} (h : p.Lasts ttl) (stepped : p.step event = .ok p') :
    p'.Lasts ttl := by
  cases event with
  | query query ipv4Addr =>
    simp only [step] at stepped
    split at stepped
    · cases stepped
      exact h
    · cases stepped
      exact h.of_same rfl
  | poll query s => exact h.of_same (poll_cache stepped)
  | drop query =>
    simp only [step] at stepped
    split at stepped
    · cases stepped
      exact h.of_same rfl
    · cases stepped
      exact h
  | receive buf =>
    obtain ⟨result, q, ran, lasts⟩ := h.receive buf
    obtain ⟨⟨result', q'⟩, ran', stepped⟩ := bind_eq_ok.mp stepped
    cases ran.symm.trans ran'
    cases stepped
    exact lasts
  | background now =>
    obtain ⟨cache, advanced, stepped⟩ := bind_eq_ok.mp stepped
    cases stepped
    obtain ⟨inner, moved, advanced⟩ := bind_eq_ok.mp advanced
    cases advanced
    unfold Collections.HashTtlCache.advanceClock at moved
    split at moved
    · cases moved
      exact ⟨h.defaultTtl, h.positive⟩
    · cases moved

/-- The cache of a new peer. -/
theorem lasts_new {now : Instant} {localLinkAddr : MacAddress} {localIpv4Addr : Ipv4Addr}
    {options : Arp.ArpConfig} (made : new now localLinkAddr localIpv4Addr options = .ok p) :
    p.Lasts options.cacheTtl := by
  obtain ⟨cache, populated, made⟩ := bind_eq_ok.mp made
  cases made
  obtain ⟨empty, created, populated⟩ := bind_eq_ok.mp populated
  obtain ⟨_, asserted, created⟩ := bind_eq_ok.mp created
  cases created
  refine ⟨(populate_frame rfl populated).2, ?_⟩
  by_contra zero
  simp only [Collections.HashTtlCache.assertTtl, if_neg zero, reduceCtorEq] at asserted

end Arp.ArpPeer

/-- **No message stops ICMPv4.** -/
theorem Icmpv4.Icmpv4Peer.receive_returns (p : Icmpv4Peer) (ipHdr : Ipv4Header) (buf : Buffer) :
    ∃ r, p.receive ipHdr buf = .ok r := by
  obtain ⟨parsed, parses⟩ := Icmpv4Header.parse_returns buf
  have parses : (Icmpv4Header.parse buf).run = .ok parsed := parses
  unfold Icmpv4Peer.receive
  rw [parses]
  cases parsed with
  | error fail => exact ⟨_, rfl⟩
  | ok parsed =>
    obtain ⟨⟨icmpv4Type, code⟩, body⟩ := parsed
    cases icmpv4Type <;> exact ⟨_, rfl⟩

/-- **No datagram stops UDP.** -/
theorem Udp.UdpPeer.Queued.returns {p : UdpPeer} (h : p.Queued) (ipHdr : Ipv4Header) (buf : Buffer) :
    ∃ r, p.doReceive ipHdr buf = .ok r := by
  obtain ⟨parsed, parses⟩ := UdpHeader.parse_returns ipHdr buf p.checksumOffload
  cases parsed with
  | error fail =>
    have parses : (UdpHeader.parse ipHdr buf p.checksumOffload).run = .ok (.error fail) := parses
    unfold UdpPeer.doReceive
    rw [parses]
    exact ⟨_, rfl⟩
  | ok parsed =>
    obtain ⟨hdr, data⟩ := parsed
    cases bound : p.bound.lookup ⟨ipHdr.dstAddr, hdr.destPort⟩ with
    | some queue =>
      obtain ⟨p', ran⟩ := h.receives ipHdr buf hdr data parses (Option.isSome_iff_exists.mpr ⟨queue, bound⟩)
      exact ⟨_, ran⟩
    | none =>
      have parses : (UdpHeader.parse ipHdr buf p.checksumOffload).run = .ok (.ok (hdr, data)) := parses
      refine ⟨(.error { errno := .ENOTCONN, cause := "port not bound" }, p), ?_⟩
      simp only [UdpPeer.doReceive, parses, bound, bind, Except.bind]

/-! ## A host -/

namespace Host

variable {env : Platform} {h h' : Host} {bytes : Buffer} {now : Instant} {ttl : Duration}
  {config : TcpConfig} {ipHdr : Ipv4Header} {data : Buffer}

/-- What every event and every frame keeps. -/
structure Calm (ttl : Duration) (config : TcpConfig) (h : Host) : Prop where
  arp : h.stack.arp.Lasts ttl
  udp : h.stack.udp.Queued
  tcp : h.stack.tcp.Steady config

/-- Every event keeps a host calm, -/
theorem Calm.step (calm : h.Calm ttl config) {event : HostEvent} (ran : h.step env event = .ok h') :
    h'.Calm ttl config := by
  have steps := step_steps ran
  refine ⟨Machine.keeps_stepOption ArpPeer.step_lasts calm.arp steps.arp,
    Machine.keeps_stepOption UdpPeer.step_queued calm.udp steps.udp, ?_⟩
  rcases step_tcp ran with same | ⟨ev, accepted, -, moved⟩
  · exact same ▸ calm.tcp
  · exact PeerRun.step_steady (r := ⟨h.stack.tcp, ∅⟩) calm.tcp moved

/-- and every frame that arrives. -/
theorem Calm.arrive (calm : h.Calm ttl config) (ran : h.arrive env bytes now = .ok h') :
    h'.Calm ttl config := by
  cases arrive_arrives ran with
  | ignored => exact calm
  | arp read etherType stepped => exact ⟨ArpPeer.step_lasts calm.arp stepped, calm.udp, calm.tcp⟩
  | icmpv4 carries protocol stepped => exact ⟨calm.arp, calm.udp, calm.tcp⟩
  | udp carries protocol stepped => exact ⟨calm.arp, UdpPeer.step_queued calm.udp stepped, calm.tcp⟩
  | tcp carries protocol stepped =>
    refine ⟨calm.arp, calm.udp, ?_⟩
    exact PeerRun.step_steady (r := ⟨h.stack.tcp, ∅⟩) calm.tcp (stepped ∅)

/-- What happens to a host keeps it calm. -/
theorem Calm.input (calm : h.Calm ttl config) {input : HostInput} (ran : h.input env input = .ok h') :
    h'.Calm ttl config := by
  cases input with
  | event event => exact calm.step ran
  | frame bytes now => exact calm.arrive ran

/-- A new host. -/
theorem calm_new {setup : Setup} (made : Host.new setup = .ok h) :
    h.Calm setup.arpOptions.cacheTtl setup.rt.tcpOptions := by
  obtain ⟨stack, madeStack, eq⟩ := bind_eq_ok.mp made
  cases eq
  obtain ⟨arp, madeArp, eq⟩ := bind_eq_ok.mp madeStack
  cases eq
  exact ⟨ArpPeer.lasts_new madeArp, fun _ _ found => (by cases found),
    .new setup.shuffle setup.nonce setup.rt setup.localIpv4Addr⟩

/-- The frame carries a segment that stops the connection, the connect attempt or the listener it is for. -/
def StoppedBy (env : Platform) (h : Host) (bytes : Buffer) (now : Instant) : Prop :=
  ∃ ipHdr data, h.Carries bytes ipHdr data ∧ ipHdr.protocol = .tcp ∧
    h.stack.tcp.StoppedBy env.eof env.fallbackMss (h.stack.arp.envFor ipHdr.srcAddr now) ipHdr data

/-- A datagram for the host is taken in, unless it is a segment that stops the peer. -/
theorem datagram_returns_iff (calm : h.Calm ttl config) (own : config.windowScale ≤ 14) {payload : Buffer}
    (parsed : Ipv4Header.parse payload = pure (ipHdr, data))
    (mine : ipHdr.dstAddr = h.localIpv4Addr ∨ Tcp.Ipv4Addr.isBroadcast ipHdr.dstAddr = true) :
    (∃ r, h.peer.receive env.eof env.crc env.fallbackMss h.stack.arp now payload = .ok r) ↔
      ¬(ipHdr.protocol = .tcp ∧ h.stack.tcp.StoppedBy env.eof env.fallbackMss
        (h.stack.arp.envFor ipHdr.srcAddr now) ipHdr data) := by
  have parses : (Ipv4Header.parse payload).run = .ok (.ok (ipHdr, data)) := parsed
  have here : ¬(ipHdr.dstAddr ≠ h.peer.localIpv4Addr ∧ !Tcp.Ipv4Addr.isBroadcast ipHdr.dstAddr) := by
    rintro ⟨other, single⟩
    rcases mine with own | broadcast
    · exact other own
    · rw [broadcast] at single
      cases single
  unfold Peer.receive
  rw [parses]
  change (∃ r, (if ipHdr.dstAddr ≠ h.peer.localIpv4Addr ∧ !Tcp.Ipv4Addr.isBroadcast ipHdr.dstAddr then _
    else _) = _) ↔ _
  rw [if_neg here]
  cases ipHdr.protocol with
  | icmpv4 =>
    refine iff_of_true (bind_returns_iff.mpr (h.icmpv4.receive_returns ipHdr data)) ?_
    rintro ⟨other, -⟩
    cases other
  | udp =>
    refine iff_of_true (bind_returns_iff.mpr (calm.udp.returns ipHdr data)) ?_
    rintro ⟨other, -⟩
    cases other
  | tcp =>
    refine bind_returns_iff.trans ((TcpPeer.receive_returns_iff (calm.tcp.options ▸ own)).trans ?_)
    rw [eq_self, true_and]
    rfl

/-- A datagram that is none, or that is not for the host, is refused. -/
theorem refused {payload : Buffer} {inner : Except Fail (Ipv4Header × Buffer)}
    (reads : Ipv4Header.parse payload = (.ok inner : Except Tcp.Fault _))
    (others : ¬∃ ipHdr data, inner = .ok (ipHdr, data) ∧
      (ipHdr.dstAddr = h.localIpv4Addr ∨ Tcp.Ipv4Addr.isBroadcast ipHdr.dstAddr = true)) :
    ∃ r, h.peer.receive env.eof env.crc env.fallbackMss h.stack.arp now payload = .ok r := by
  have parses : (Ipv4Header.parse payload).run = .ok inner := reads
  unfold Peer.receive
  rw [parses]
  cases inner with
  | error fail => exact ⟨_, rfl⟩
  | ok parsed =>
    obtain ⟨ipHdr, data⟩ := parsed
    refine ⟨_, if_pos ⟨fun own => others ⟨ipHdr, data, rfl, .inl own⟩, ?_⟩⟩
    rw [Bool.eq_false_of_not_eq_true fun broadcast => others ⟨ipHdr, data, rfl, .inr broadcast⟩]
    rfl

/-- **A host goes on after a frame, unless it carries a segment that stops it.** -/
theorem arrive_returns_iff (calm : h.Calm ttl config) (own : config.windowScale ≤ 14) :
    (∃ h', h.arrive env bytes now = .ok h') ↔ ¬h.StoppedBy env bytes now := by
  refine bind_returns_iff.trans ?_
  obtain ⟨parsed, parses⟩ := Ethernet2Header.parse_returns bytes
  have parses' : (Ethernet2Header.parse bytes).run = .ok parsed := parses
  unfold doReceive
  rw [parses']
  cases parsed with
  | error fail =>
    refine iff_of_true ⟨_, rfl⟩ ?_
    rintro ⟨ipHdr, data, ⟨⟨header, payload, read, -⟩, -⟩, -⟩
    cases parses.symm.trans read
  | ok parsed =>
  obtain ⟨⟨dstAddr, srcAddr, etherType⟩, payload⟩ := parsed
  have other (apart : etherType ≠ .ipv4) : ¬h.StoppedBy env bytes now := by
    rintro ⟨ipHdr, data, ⟨⟨header', payload', read, etherType, -⟩, -⟩, -⟩
    cases parses.symm.trans read
    exact apart etherType
  cases etherType with
  | arp =>
    obtain ⟨result, arp, ran, -⟩ := calm.arp.receive payload
    exact iff_of_true (bind_returns_iff.mpr ⟨_, ran⟩) (other Ethernet2.EtherType2.noConfusion)
  | ipv6 => exact iff_of_true ⟨_, rfl⟩ (other Ethernet2.EtherType2.noConfusion)
  | ipv4 =>
    refine bind_returns_iff.trans ?_
    obtain ⟨inner, reads⟩ := Ipv4Header.parse_returns payload
    have carried {ipHdr : Ipv4Header} {data : Buffer} (carries : h.Carries bytes ipHdr data) :
        inner = .ok (ipHdr, data) := by
      obtain ⟨header', payload', read, -, read'⟩ := carries.ethernet2
      cases parses.symm.trans read
      exact Except.ok.inj (reads.symm.trans read')
    by_cases mine : ∃ ipHdr data, inner = .ok (ipHdr, data) ∧
        (ipHdr.dstAddr = h.localIpv4Addr ∨ Tcp.Ipv4Addr.isBroadcast ipHdr.dstAddr = true)
    · obtain ⟨ipHdr, data, rfl, mine⟩ := mine
      refine (datagram_returns_iff calm own reads mine).trans (not_congr ⟨?_, ?_⟩)
      · rintro ⟨protocol, stops⟩
        exact ⟨ipHdr, data, ⟨⟨_, payload, parses, rfl, reads⟩, mine⟩, protocol, stops⟩
      · rintro ⟨ipHdr', data', carries, protocol, stops⟩
        cases carried carries
        exact ⟨protocol, stops⟩
    · refine iff_of_true (refused reads mine) ?_
      rintro ⟨ipHdr, data, carries, -⟩
      exact mine ⟨ipHdr, data, carried carries, carries.dstAddr⟩

/-- **The frames that stop a host** of a release build. Whatever the host has been through, and whatever the
bytes of a frame are, it stops on it exactly if the frame carries a TCP segment to its address, from a source
there can be, that stops the connection it is for, or, if there is none, a SYN+ACK for a connect attempt from
a host whose link address is not known or whose window scale is above 14, or, if there is none, the last
segment of a handshake whose SYN announced a window scale from 16 on. -/
theorem frames_stop_through_tcp (env : Platform) (_release : env.overflowChecks = false) (setup : Setup)
    (own : setup.rt.tcpOptions.windowScale ≤ 14) {h₀ h : Host} (made : Host.new setup = .ok h₀)
    (inputs : List HostInput) (ran : Machine.run (Host.input env) h₀ inputs = .ok h) (bytes : Buffer)
    (now : Instant) :
    (∃ h', h.arrive env bytes now = .ok h') ↔ ¬h.StoppedBy env bytes now :=
  arrive_returns_iff
    (Machine.invariant (Calm setup.arpOptions.cacheTtl setup.rt.tcpOptions) (fun calm => calm.input)
      (calm_new made) ran) own

/-- A SYN+ACK of 10.0.0.2 for a connect attempt of 10.0.0.1. -/
def sampleSynAck : Tcp.TcpSegment :=
  Tcp.bareSegment ⟨9, Tcp.sampleConfig, []⟩ ⟨0x0a000002, 90⟩ ⟨0x0a000001, 80⟩
    { Tcp.TcpHeader.new 90 80 with syn := true, ack := true, seqNum := ⟨7⟩, ackNum := ⟨501⟩ } 7

/-- 10.0.0.1 connects to 10.0.0.2, whose link address it does not know. -/
def sampleAttempt : List HostInput :=
  [.event (.call (.socket AF_INET SOCK_STREAM 0)), .event (.call (.bind 0 ⟨0x0a000001, 80⟩)),
    .event (.call (.connect 0 ⟨0x0a000002, 90⟩))]

/-- The host has asked to connect, and the SYN+ACK it waits for stops it. -/
theorem frames_stop_through_tcp_synAck :
    ∃ h frame, Machine.run (input samplePlatform) (sampleHost 7 0x0a000001) sampleAttempt = .ok h ∧
      (Message.tcp sampleSynAck).packet.frame = .ok frame ∧ h.StoppedBy samplePlatform frame 0 := by
  obtain ⟨h, ran, view⟩ := Machine.map_eq_ok
    (x := Machine.run (input samplePlatform) (sampleHost 7 0x0a000001) sampleAttempt)
    (fun h => (Message.tcp sampleSynAck).packet.frame.toOption.map fun frame =>
      (h.arrive samplePlatform frame 0).toOption.isSome)
    (t := some false) (by decide +kernel)
  cases framed : (Message.tcp sampleSynAck).packet.frame with
  | error fault =>
    rw [framed] at view
    cases view
  | ok frame =>
    rw [framed] at view
    refine ⟨h, frame, ran, rfl, ?_⟩
    by_contra goesOn
    obtain ⟨h', arrived⟩ := (frames_stop_through_tcp samplePlatform rfl (InetStack.sampleSetup 7 0x0a000001)
      (by decide) (new_sampleHost 7 0x0a000001) sampleAttempt ran frame 0).mpr goesOn
    rw [Except.toOption, Option.map_some, arrived] at view
    cases view

end Host

end Inetstack
