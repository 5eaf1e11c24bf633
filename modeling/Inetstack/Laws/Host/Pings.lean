import Inetstack.Laws.Host.Frames
import Inetstack.Laws.Icmpv4.Pings

/-!
# Pings on a network of two hosts

Whatever the network does with the frames, a ping that ends well has had its answer from the other host, and
the other host has answered nothing but what it was asked.
-/

namespace Inetstack

open Icmpv4 (Icmpv4Event Icmpv4Header Icmpv4Peer PingId PingTask Sent)
open Ipv4 (Ipv4Header)
open Machine (bind_eq_ok)
open Tcp (Buffer Instant Ipv4Addr MacAddress Runtime TcpConfig)

/-- Whom the user pings with a call, and under which name. -/
def HostEvent.pings : HostEvent → Option (PingId × Ipv4Addr)
  | .icmpv4 (.ping ping dstIpv4Addr _ _ _) => some (ping, dstIpv4Addr)
  | _ => none

namespace Host

variable {env env' : Platform} {h h' a b a' b' : Host} {localLinkAddr : MacAddress}
  {localIpv4Addr : Ipv4Addr} {config : TcpConfig} {frame padding : Buffer} {event : HostEvent}
  {pinged : PingId → Ipv4Addr → Prop} {replied : UInt16 → UInt16 → Prop}
  {arrived : Ipv4Addr → UInt16 → UInt16 → Prop}

/-- An event of the ICMPv4 peer of a host is no message, and a ping if the user pings. -/
theorem icmpv4Event_tells {e : Icmpv4Event} (told : icmpv4Event event = some e) :
    (∀ ipv4Header buf, e ≠ .receive ipv4Header buf) ∧
      ∀ ping dstIpv4Addr timeout processId nonce, e = .ping ping dstIpv4Addr timeout processId nonce →
        event.pings = some (ping, dstIpv4Addr) := by
  unfold icmpv4Event at told
  split at told
  next task =>
    cases told
    cases task with
    | background answer => exact ⟨nofun, nofun⟩
    | ping ping dstIpv4Addr timeout processId nonce =>
      refine ⟨nofun, fun _ _ _ _ _ same => ?_⟩
      cases same
      rfl
    | pollPing ping now answer timerFirst => exact ⟨nofun, nofun⟩
    | dropPing ping => exact ⟨nofun, nofun⟩
  · cases told

/-! ## A host -/

/-- What a host has transmitted stays. -/
theorem step_keeps (ran : h.step env event = .ok h') :
    ∀ message ∈ h.icmpv4.transmitted, message ∈ h'.icmpv4.transmitted := by
  intro message member
  have keeps {p p' : Icmpv4Peer} {e : Icmpv4Event} (old : message ∈ p.transmitted)
      (stepped : p.step e = .ok p') : message ∈ p'.transmitted :=
    (Icmpv4Peer.step_speaks stepped).transmitted.mem old
  exact Machine.keeps_stepOption (t := h.icmpv4) keeps member (step_steps ran).icmpv4

theorem arrive_keeps {bytes : Buffer} {now : Instant} (ran : h.arrive env bytes now = .ok h') :
    ∀ message ∈ h.icmpv4.transmitted, message ∈ h'.icmpv4.transmitted := by
  cases arrive_arrives ran with
  | icmpv4 carries protocol stepped =>
    exact fun message member => (Icmpv4Peer.step_speaks stepped).transmitted.mem member
  | _ => exact fun _ member => member

theorem step_pings (h₀ : h.icmpv4.Pings pinged replied)
    (asks : ∀ ping dstIpv4Addr, event.pings = some (ping, dstIpv4Addr) → pinged ping dstIpv4Addr)
    (ran : h.step env event = .ok h') : h'.icmpv4.Pings pinged replied := by
  have moved := (step_steps ran).icmpv4
  cases told : icmpv4Event event with
  | none =>
    rw [told] at moved
    rw [← Except.ok.inj moved]
    exact h₀
  | some e =>
    rw [told] at moved
    obtain ⟨silent, pings⟩ := icmpv4Event_tells told
    refine Icmpv4Peer.step_pings h₀ ?_ ?_ moved
    · intro ping dstIpv4Addr timeout processId nonce same
      exact asks ping dstIpv4Addr (pings ping dstIpv4Addr timeout processId nonce same)
    · intro ipv4Header buf header rest id seqNum same
      exact (silent ipv4Header buf same).elim

theorem step_replies (h₀ : h.icmpv4.Replies arrived) (ran : h.step env event = .ok h') :
    h'.icmpv4.Replies arrived := by
  have moved := (step_steps ran).icmpv4
  cases told : icmpv4Event event with
  | none =>
    rw [told] at moved
    rw [← Except.ok.inj moved]
    exact h₀
  | some e =>
    rw [told] at moved
    refine Icmpv4Peer.step_replies h₀ ?_ moved
    intro ipv4Header buf header rest id seqNum same
    exact ((icmpv4Event_tells told).1 ipv4Header buf same).elim

/-! ## Two hosts -/

/-- A message of ICMPv4 in a frame of a host that speaks for itself is one it has transmitted, from its
address to that of the other host, or to all. -/
theorem Speaks.icmpv4_sent {other : Host} (speaks : other.Speaks localLinkAddr localIpv4Addr config)
    (sent : frame ∈ other.frames) {ipHdr : Ipv4Header} {data rest : Buffer} {header : Icmpv4Header}
    (carries : h.Carries (frame ++ padding) ipHdr data) (protocol : ipHdr.protocol = .icmpv4)
    (parsed : Icmpv4Header.parse data = pure (header, rest)) :
    ipHdr.srcAddr = localIpv4Addr ∧ Sent other.icmpv4.transmitted ipHdr.dstAddr header.protocol := by
  cases speaks.carried sent carries with
  | @icmpv4 message member addresses _ read =>
    cases parsed.symm.trans read
    obtain ⟨dstAddr, built⟩ := (speaks.icmpv4.2.2 message member).ipv4
    refine ⟨?_, message, member, addresses.dstAddr.symm, rfl⟩
    rw [addresses.srcAddr, built]
    rfl
  | udp member addresses other read => cases protocol.symm.trans other
  | tcp member addresses other read => cases protocol.symm.trans other

/-- A reply that arrives in a frame of a host is one that it has sent. -/
theorem arrive_pings (h₀ : h.icmpv4.Pings pinged replied) {other : Host}
    (speaks : other.Speaks localLinkAddr localIpv4Addr config)
    (so : ∀ dstAddr id seqNum, Sent other.icmpv4.transmitted dstAddr (.echoReply id seqNum) →
      replied id seqNum)
    (sent : frame ∈ other.frames) {now : Instant} (ran : h.arrive env (frame ++ padding) now = .ok h') :
    h'.icmpv4.Pings pinged replied := by
  cases arrive_arrives ran with
  | ignored => exact h₀
  | arp read etherType stepped => exact h₀
  | udp carries protocol stepped => exact h₀
  | tcp carries protocol stepped => exact h₀
  | @icmpv4 ipHdr data icmpv4 carries protocol stepped =>
    refine Icmpv4Peer.step_pings h₀ (fun _ _ _ _ _ same => by cases same) ?_ stepped
    intro ipv4Header buf header rest id seqNum same parsed type
    cases same
    have carried := (speaks.icmpv4_sent sent carries protocol parsed).2
    rw [type] at carried
    exact so _ id seqNum carried

/-- A request that arrives in a frame of a host is one that it has sent, from its address. -/
theorem arrive_replies (h₀ : h.icmpv4.Replies arrived) {other : Host}
    (speaks : other.Speaks localLinkAddr localIpv4Addr config)
    (so : ∀ dstAddr id seqNum, dstAddr = h.localIpv4Addr ∨ Tcp.Ipv4Addr.isBroadcast dstAddr = true →
      Sent other.icmpv4.transmitted dstAddr (.echoRequest id seqNum) → arrived localIpv4Addr id seqNum)
    (sent : frame ∈ other.frames) {now : Instant} (ran : h.arrive env (frame ++ padding) now = .ok h') :
    h'.icmpv4.Replies arrived := by
  cases arrive_arrives ran with
  | ignored => exact h₀
  | arp read etherType stepped => exact h₀
  | udp carries protocol stepped => exact h₀
  | tcp carries protocol stepped => exact h₀
  | @icmpv4 ipHdr data icmpv4 carries protocol stepped =>
    refine Icmpv4Peer.step_replies h₀ ?_ stepped
    intro ipv4Header buf header rest id seqNum same parsed type
    cases same
    obtain ⟨srcAddr, carried⟩ := speaks.icmpv4_sent sent carries protocol parsed
    rw [type] at carried
    rw [srcAddr]
    exact so _ id seqNum carries.dstAddr carried

theorem new_icmpv4 {setup : Setup} (made : Host.new setup = .ok h) :
    h.icmpv4 = .new setup.localLinkAddr setup.localIpv4Addr := by
  obtain ⟨stack, -, eq⟩ := bind_eq_ok.mp made
  cases eq
  rfl

/-- The user of a host pings an address, under a name. -/
def Pinged (events : List (Network.Event HostEvent HostEvent Arrival)) (ping : PingId)
    (dstAddr : Ipv4Addr) : Prop :=
  ∃ event, .left event ∈ events ∧ event.pings = some (ping, dstAddr)

/-- A request has gone from a host to an address, or to all. -/
def Asks (h : Host) (localIpv4Addr : Ipv4Addr) (id seqNum : UInt16) : Prop :=
  ∃ dstAddr, (dstAddr = localIpv4Addr ∨ Tcp.Ipv4Addr.isBroadcast dstAddr = true) ∧
    Sent h.icmpv4.transmitted dstAddr (.echoRequest id seqNum)

/-- What holds of both hosts: the pings of the one have answers that the other has given, and the other has
given them to requests of the one. -/
structure Echoing (setupA setupB : Setup) (pinged : PingId → Ipv4Addr → Prop) (a b : Host) : Prop where
  left : a.Speaks setupA.localLinkAddr setupA.localIpv4Addr setupA.rt.tcpOptions
  right : b.Speaks setupB.localLinkAddr setupB.localIpv4Addr setupB.rt.tcpOptions
  pings : a.icmpv4.Pings pinged fun id seqNum =>
    Sent b.icmpv4.transmitted setupA.localIpv4Addr (.echoReply id seqNum)
  replies : b.icmpv4.Replies fun dstAddr id seqNum =>
    dstAddr = setupA.localIpv4Addr ∧ a.Asks setupB.localIpv4Addr id seqNum

theorem Asks.mono {id seqNum : UInt16} (asks : h.Asks localIpv4Addr id seqNum)
    (grows : ∀ message ∈ h.icmpv4.transmitted, message ∈ h'.icmpv4.transmitted) :
    h'.Asks localIpv4Addr id seqNum := by
  obtain ⟨dstAddr, own, sent⟩ := asks
  exact ⟨dstAddr, own, sent.mono grows⟩

/-- **A ping that ends well was answered.** On a network that drops, repeats, delays, reorders and pads the
frames of two hosts as it likes, a ping of one host that ends well has sent its request to the address its
user has asked for, and the other host has replied to a request with these numbers; and to each reply of the
other host belongs a request that it was sent. -/
theorem pings_answered (env env' : Platform) (setupA setupB : Setup)
    (interfaceA : setupA.rt.localLinkAddr = setupA.localLinkAddr) (nothingA : setupA.rt.transmitted = [])
    (interfaceB : setupB.rt.localLinkAddr = setupB.localLinkAddr) (nothingB : setupB.rt.transmitted = [])
    (madeA : Host.new setupA = .ok a) (madeB : Host.new setupB = .ok b)
    (events : List (Network.Event HostEvent HostEvent Arrival))
    (ran : Machine.run (Network.step (node env) (node env')) (a, b) events = .ok (a', b')) :
    (∀ ping rtt, a'.icmpv4.pings.lookup ping = some (.ready (.ok rtt)) →
      ∃ dstAddr id seqNum, Pinged events ping dstAddr ∧
        Sent a'.icmpv4.transmitted dstAddr (.echoRequest id seqNum) ∧
        Sent b'.icmpv4.transmitted setupA.localIpv4Addr (.echoReply id seqNum) ∧
        a'.Asks setupB.localIpv4Addr id seqNum) ∧
    ∀ dstAddr id seqNum, Sent b'.icmpv4.transmitted dstAddr (.echoReply id seqNum) →
      dstAddr = setupA.localIpv4Addr ∧ a'.Asks setupB.localIpv4Addr id seqNum := by
  have kept : Echoing setupA setupB (Pinged events) a' b' := by
    refine Network.invariant (R := Echoing setupA setupB (Pinged events)) ?_ ?_ ?_ ?_ ?_ ran
    · intro s s' t e member both stepped
      refine ⟨step_speaks both.left stepped, both.right, step_pings both.pings ?_ stepped,
        both.replies.mono fun dstAddr id seqNum own => ⟨own.1, own.2.mono (step_keeps stepped)⟩⟩
      exact fun ping dstAddr pings => ⟨e, member, pings⟩
    · intro s t t' e _ both stepped
      exact ⟨both.left, step_speaks both.right stepped,
        both.pings.mono fun id seqNum reply => reply.mono (step_keeps stepped),
        step_replies both.replies stepped⟩
    · intro s s' t frame x both sent stepped
      refine ⟨arrive_speaks both.left stepped, both.right, arrive_pings both.pings both.right ?_ sent stepped,
        both.replies.mono fun dstAddr id seqNum own => ⟨own.1, own.2.mono (arrive_keeps stepped)⟩⟩
      intro dstAddr id seqNum reply
      obtain ⟨rfl, -⟩ := both.replies.sent dstAddr id seqNum reply
      exact reply
    · intro s t t' frame x both sent stepped
      refine ⟨both.left, arrive_speaks both.right stepped,
        both.pings.mono fun id seqNum reply => reply.mono (arrive_keeps stepped),
        arrive_replies both.replies both.left ?_ sent stepped⟩
      intro dstAddr id seqNum own request
      rw [both.right.address] at own
      exact ⟨rfl, dstAddr, own, request⟩
    · refine ⟨new_speaks interfaceA nothingA madeA, new_speaks interfaceB nothingB madeB, ?_, ?_⟩
      · rw [new_icmpv4 madeA]
        exact .new setupA.localLinkAddr setupA.localIpv4Addr
      · rw [new_icmpv4 madeB]
        exact .new setupB.localLinkAddr setupB.localIpv4Addr
  refine ⟨fun ping rtt ended => ?_, kept.replies.sent⟩
  obtain ⟨id, seqNum, ⟨dstAddr, pinged, sent⟩, reply⟩ := kept.pings.tasks ping _ ended
  exact ⟨dstAddr, id, seqNum, pinged, sent, reply, (kept.replies.sent setupA.localIpv4Addr id seqNum reply).2⟩

/-- 10.0.0.1 pings 10.0.0.2, which replies, after 3 seconds. -/
def samplePing : List (Network.Event HostEvent HostEvent Arrival) :=
  [.left (.icmpv4 (.ping 0 0x0a000002 none 0 0)), .left (.icmpv4 (.pollPing 0 0 (some (.ok 9)) false)),
    .toRight 0 ⟨1, [0, 0]⟩, .right (.icmpv4 (.background (.error { errno := .ETIMEDOUT, cause := "" }))),
    .right (.icmpv4 (.background (.ok 7))), .toLeft 0 ⟨2, []⟩, .left (.icmpv4 (.pollPing 0 3 none false))]

theorem pings_answered_reply :
    ∃ a b, Machine.run (Network.step (node samplePlatform) (node samplePlatform))
        (sampleHost 7 0x0a000001, sampleHost 9 0x0a000002) samplePing = .ok (a, b) ∧
      a.icmpv4.pings.lookup 0 = some (.ready (.ok 3)) ∧
      ∃ dstAddr, Pinged samplePing 0 dstAddr ∧
        ∃ id seqNum, Sent b.icmpv4.transmitted 0x0a000001 (.echoReply id seqNum) := by
  obtain ⟨⟨a, b⟩, ran, view⟩ := Machine.map_eq_ok
    (x := Machine.run (Network.step (node samplePlatform) (node samplePlatform))
      (sampleHost 7 0x0a000001, sampleHost 9 0x0a000002) samplePing)
    (fun s => (s.1.icmpv4.pings.lookup 0).bind PingTask.rtt) (t := some 3) (by decide +kernel)
  obtain ⟨task, ended, took⟩ := Option.bind_eq_some_iff.mp view
  cases PingTask.rtt_eq_some.mp took
  obtain ⟨dstAddr, id, seqNum, pinged, -, reply, -⟩ :=
    (pings_answered samplePlatform samplePlatform (InetStack.sampleSetup 7 0x0a000001)
      (InetStack.sampleSetup 9 0x0a000002) rfl rfl rfl rfl (new_sampleHost 7 0x0a000001)
      (new_sampleHost 9 0x0a000002) samplePing ran).1 0 3 ended
  exact ⟨a, b, ran, ended, dstAddr, pinged, id, seqNum, reply⟩

end Host

end Inetstack
