import Inetstack.Laws.Host.Frames

/-!
# Link addresses on a network of two hosts

The frames of a host give its own addresses, so what another host learns from them is so: an address it
resolves is one it was configured with, or that of the other host.
-/

namespace Inetstack

open Arp (ArpConfig ArpHeader ArpPeer QueryId QueryTask Select)
open Ethernet2 (Ethernet2Header)
open Machine (bind_eq_ok stepOption)
open Tcp (Buffer Duration Instant Ipv4Addr MacAddress Runtime TcpConfig)

namespace Host

variable {env env' : Platform} {h h' a b a' b' : Host} {localLinkAddr : MacAddress}
  {localIpv4Addr : Ipv4Addr} {config : TcpConfig} {frame padding payload : Buffer}

/-- A packet of ARP in a frame of a host is one of those of its ARP peer. -/
theorem Speaks.arp_sent (speaks : h.Speaks localLinkAddr localIpv4Addr config) (sent : frame ∈ h.frames)
    {header : Ethernet2Header} {arpHdr : ArpHeader}
    (read : Ethernet2Header.parse (frame ++ padding) = pure (header, payload))
    (etherType : header.etherType = .arp) (parsed : ArpHeader.parse payload = pure arpHdr) :
    ∃ message ∈ h.stack.arp.transmitted, arpHdr = message.header := by
  obtain ⟨message, member, framed, small⟩ := mem_frames.mp sent
  have own := speaks.messages message member
  have readFrom := own.readFrom framed small
  simp only [Host.messages, List.mem_append, List.mem_map] at member
  rcases member with ((⟨message, member, rfl⟩ | ⟨message, member, rfl⟩) | ⟨datagram, member, rfl⟩) |
    ⟨segment, member, rfl⟩
  · obtain ⟨payload', ethernet, arp⟩ := readFrom padding
    cases read.symm.trans ethernet
    cases parsed.symm.trans arp
    exact ⟨message, member, rfl⟩
  · obtain ⟨ipHdr, data, reads, -⟩ := readFrom
    obtain ⟨payload', ethernet, -⟩ := reads padding
    obtain ⟨dstAddr, built⟩ := own.ethernet2
    cases read.symm.trans ethernet
    rw [built] at etherType
    cases etherType
  · obtain ⟨ipHdr, data, reads, -⟩ := readFrom
    obtain ⟨payload', ethernet, -⟩ := reads padding
    obtain ⟨dstAddr, built⟩ := own.ethernet2
    cases read.symm.trans ethernet
    rw [built] at etherType
    cases etherType
  · obtain ⟨ipHdr, data, reads, -⟩ := readFrom
    obtain ⟨payload', ethernet, -⟩ := reads padding
    cases read.symm.trans ethernet
    cases etherType

/-- ARP is enabled, and believes only what is so. -/
def Resolves (ttl : Duration) (owns : Ipv4Addr → MacAddress → Prop) (h : Host) : Prop :=
  h.stack.arp.Serving ttl ∧ h.stack.arp.Trusts owns

variable {ttl ttl' : Duration} {owns owns' : Ipv4Addr → MacAddress → Prop}

/-- An event of the ARP peer of a host is no packet. -/
theorem arpEvent_ne_receive {event : HostEvent} {arp : Arp.ArpEvent} (told : arpEvent event = some arp)
    (buf : Buffer) : arp ≠ .receive buf := by
  rintro rfl
  unfold arpEvent at told
  split at told
  next task =>
    cases task with
    | query query ipv4Addr => cases told
    | poll query s => cases told
    | drop query => cases told
    | background now => cases told
  next => cases told

theorem Resolves.step (resolves : h.Resolves ttl owns) {event : HostEvent}
    (ran : h.step env event = .ok h') : h'.Resolves ttl owns := by
  obtain ⟨serving, trusts⟩ := resolves
  have moved := (step_steps ran).arp
  unfold Resolves
  cases told : arpEvent event with
  | none =>
    rw [told] at moved
    rw [← Except.ok.inj moved]
    exact ⟨serving, trusts⟩
  | some arp =>
    rw [told] at moved
    refine ⟨ArpPeer.step_serving serving moved, ArpPeer.step_trusts serving trusts ?_ moved⟩
    intro buf header received
    exact (arpEvent_ne_receive told buf received).elim

/-- A frame of a host that gives the addresses that are so. -/
theorem Resolves.arrive (resolves : h.Resolves ttl owns) {other : Host}
    (speaks : other.Speaks localLinkAddr localIpv4Addr config) (so : owns localIpv4Addr localLinkAddr)
    (sent : frame ∈ other.frames) {now : Instant} (ran : h.arrive env (frame ++ padding) now = .ok h') :
    h'.Resolves ttl owns := by
  obtain ⟨serving, trusts⟩ := resolves
  cases arrive_arrives ran with
  | ignored => exact ⟨serving, trusts⟩
  | @arp header payload arp read etherType stepped =>
    refine ⟨ArpPeer.step_serving serving stepped, ArpPeer.step_trusts serving trusts ?_ stepped⟩
    intro buf arpHdr received parsed
    cases received
    obtain ⟨message, member, rfl⟩ := speaks.arp_sent sent read etherType parsed
    have own := speaks.arp.2.2 message member
    rw [own.senderHardwareAddr, own.senderProtocolAddr]
    exact so
  | icmpv4 carries protocol stepped => exact ⟨serving, trusts⟩
  | udp carries protocol stepped => exact ⟨serving, trusts⟩
  | tcp carries protocol stepped => exact ⟨serving, trusts⟩

theorem new_resolves {setup : Setup} (made : Host.new setup = .ok h)
    (enabled : setup.arpOptions.disableArp = false)
    (so : ∀ value ∈ setup.arpOptions.initialValues, owns value.1 value.2) :
    h.Resolves setup.arpOptions.cacheTtl owns := by
  obtain ⟨stack, madeStack, eq⟩ := bind_eq_ok.mp made
  cases eq
  obtain ⟨arp, madeArp, eq⟩ := bind_eq_ok.mp madeStack
  cases eq
  exact ⟨ArpPeer.serving_new madeArp enabled, ArpPeer.trusts_new madeArp so⟩

/-- A link address that a host was configured with, or that of the other host. -/
def Owned (setupA setupB : Setup) (ipv4Addr : Ipv4Addr) (linkAddr : MacAddress) : Prop :=
  (ipv4Addr, linkAddr) ∈ setupA.arpOptions.initialValues ∨
    ipv4Addr = setupB.localIpv4Addr ∧ linkAddr = setupB.localLinkAddr

/-- **Two hosts resolve each other**, and nothing else. On a network that drops, repeats, delays, reorders and
pads their frames as it likes, whatever link address a host has for an address, and whatever a poll of a
query answers, is one it was configured with, or that of the other host. -/
theorem resolves_other (env env' : Platform) (setupA setupB : Setup)
    (enabled : setupA.arpOptions.disableArp = false)
    (interface : setupB.rt.localLinkAddr = setupB.localLinkAddr)
    (nothing : setupB.rt.transmitted = [])
    (madeA : Host.new setupA = .ok a) (madeB : Host.new setupB = .ok b)
    (events : List (Network.Event HostEvent HostEvent Arrival))
    (ran : Machine.run (Network.step (node env) (node env')) (a, b) events = .ok (a', b')) :
    (∀ ipv4Addr linkAddr, a'.stack.arp.tryQuery ipv4Addr = some linkAddr →
      Owned setupA setupB ipv4Addr linkAddr) ∧
    ∀ query task ipv4Addr s p linkAddr, a'.stack.arp.queries.lookup query = some task →
      task.asked = some ipv4Addr → a'.stack.arp.poll query s = .ok p →
      p.queries.lookup query = some (.ready (.ok linkAddr)) →
      Owned setupA setupB ipv4Addr linkAddr := by
  have kept : a'.Resolves setupA.arpOptions.cacheTtl (Owned setupA setupB) ∧
      b'.Speaks setupB.localLinkAddr setupB.localIpv4Addr setupB.rt.tcpOptions := by
    refine Network.invariant (R := fun a b => a.Resolves setupA.arpOptions.cacheTtl (Owned setupA setupB) ∧
      b.Speaks setupB.localLinkAddr setupB.localIpv4Addr setupB.rt.tcpOptions) ?_ ?_ ?_ ?_ ?_ ran
    · intro s s' t e _ inv stepped
      exact ⟨inv.1.step stepped, inv.2⟩
    · intro s t t' e _ inv stepped
      exact ⟨inv.1, step_speaks inv.2 stepped⟩
    · intro s s' t frame x inv sent arrived
      exact ⟨inv.1.arrive inv.2 (.inr ⟨rfl, rfl⟩) sent arrived, inv.2⟩
    · intro s t t' frame x inv sent arrived
      exact ⟨inv.1, arrive_speaks inv.2 arrived⟩
    · exact ⟨new_resolves madeA enabled fun value member => .inl member, new_speaks interface nothing madeB⟩
  obtain ⟨serving, trusts⟩ := kept.1
  refine ⟨fun ipv4Addr linkAddr found => trusts.get serving.enabled found, ?_⟩
  intro query task ipv4Addr s p linkAddr known asked polled ready
  exact trusts.answered serving.enabled known asked polled ready

/-- 10.0.0.1 asks for 10.0.0.2. The request is lost once, and the reply comes with padding. -/
def sampleResolution : List (Network.Event HostEvent HostEvent Arrival) :=
  [.left (.arp (.query 1 0x0a000002)), .left (.arp (.poll 1 Arp.ArpPeer.early)),
    .toRight 1 ⟨0, []⟩, .toRight 0 ⟨0, [0, 0]⟩, .toLeft 0 ⟨0, [7]⟩]

/-- The query is answered with the other host. -/
theorem resolves_other_query :
    ∃ a b, Machine.run (Network.step (node samplePlatform) (node samplePlatform))
        (sampleHost 7 0x0a000001, sampleHost 9 0x0a000002) sampleResolution = .ok (a, b) ∧
      a.stack.arp.tryQuery 0x0a000002 = some 9 ∧
      (a.stack.arp.queries.lookup 1).bind QueryTask.asked = some 0x0a000002 ∧
      ∀ ipv4Addr linkAddr, a.stack.arp.tryQuery ipv4Addr = some linkAddr →
        ipv4Addr = 0x0a000002 ∧ linkAddr = 9 := by
  obtain ⟨⟨a, b⟩, ran, view⟩ := Machine.map_eq_ok
    (x := Machine.run (Network.step (node samplePlatform) (node samplePlatform))
      (sampleHost 7 0x0a000001, sampleHost 9 0x0a000002) sampleResolution)
    (fun s => (s.1.stack.arp.tryQuery 0x0a000002,
      (s.1.stack.arp.queries.lookup 1).bind QueryTask.asked))
    (t := (some 9, some 0x0a000002)) (by decide +kernel)
  obtain ⟨hit, asked⟩ := Prod.mk.inj view
  refine ⟨a, b, ran, hit, asked, ?_⟩
  intro ipv4Addr linkAddr found
  obtain ⟨resolved, -⟩ := resolves_other samplePlatform samplePlatform (InetStack.sampleSetup 7 0x0a000001)
    (InetStack.sampleSetup 9 0x0a000002) rfl rfl rfl (new_sampleHost 7 0x0a000001)
    (new_sampleHost 9 0x0a000002) sampleResolution ran
  rcases resolved ipv4Addr linkAddr found with configured | other
  · exact absurd configured List.not_mem_nil
  · exact other

end Host

end Inetstack
