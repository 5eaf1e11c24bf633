import Inetstack.Laws.Arp.Trust
import Inetstack.Laws.EmittedFrames
import Inetstack.Laws.Host.Arrival
import Inetstack.Laws.Tcp.Connections

/-!
# A host speaks for itself

Whatever is asked of a host, and whatever frames it is sent, each message it transmits leaves its own
interface, and each but a segment names its own address as the one it comes from. A segment names the address
of its socket, which the user may have bound to any.
-/

namespace Inetstack

open Arp (ArpConfig ArpMessage ArpPeer)
open Icmpv4 (Icmpv4Event Icmpv4Message Icmpv4Peer)
open Machine (bind_eq_ok stepOption)
open Tcp (Buffer Fail Instant Ipv4Addr MacAddress PeerRun Runtime TcpConfig TcpPeer TcpSegment)
open Udp (UdpDatagram UdpPeer)

/-! ## ICMPv4 -/

/-- A message from an interface and an address. -/
structure Icmpv4.Icmpv4Message.From (localLinkAddr : MacAddress) (localIpv4Addr : Ipv4Addr)
    (message : Icmpv4Message) : Prop where
  ethernet2 : ∃ dstAddr, message.ethernet2Hdr = .new dstAddr localLinkAddr .ipv4
  ipv4 : ∃ dstAddr, message.ipv4Hdr = .new localIpv4Addr dstAddr .icmpv4

namespace Icmpv4.Icmpv4Peer

variable {p p' : Icmpv4Peer}

/-- The addresses are the same, and what has been transmitted since is from them. -/
structure Speaks (p p' : Icmpv4Peer) : Prop where
  localLinkAddr : p'.localLinkAddr = p.localLinkAddr
  localIpv4Addr : p'.localIpv4Addr = p.localIpv4Addr
  transmitted : Log.Adds (fun message => message.From p.localLinkAddr p.localIpv4Addr) p.transmitted
    p'.transmitted

theorem Speaks.of_same (localLinkAddr : p'.localLinkAddr = p.localLinkAddr)
    (localIpv4Addr : p'.localIpv4Addr = p.localIpv4Addr) (transmitted : p'.transmitted = p.transmitted) :
    p.Speaks p' := ⟨localLinkAddr, localIpv4Addr, .of_eq transmitted⟩

/-- One message more, built from the addresses of the peer. -/
theorem Speaks.message (p : Icmpv4Peer) (dstLinkAddr : MacAddress) (dstIpv4Addr : Ipv4Addr)
    (icmpv4Type : Icmpv4.Icmpv4Type2) {q : Icmpv4Peer} (localLinkAddr : q.localLinkAddr = p.localLinkAddr)
    (localIpv4Addr : q.localIpv4Addr = p.localIpv4Addr)
    (transmitted : q.transmitted = p.transmitted ++ [p.message dstLinkAddr dstIpv4Addr icmpv4Type]) :
    p.Speaks q := by
  refine ⟨localLinkAddr, localIpv4Addr, ?_⟩
  rw [transmitted]
  exact .one ⟨⟨_, rfl⟩, ⟨_, rfl⟩⟩ _

/-- An iteration of the background task only picks the next request. -/
theorem backgroundIterate_same (p : Icmpv4Peer) :
    p.backgroundIterate.localLinkAddr = p.localLinkAddr ∧
      p.backgroundIterate.localIpv4Addr = p.localIpv4Addr ∧
      p.backgroundIterate.transmitted = p.transmitted := by
  unfold backgroundIterate
  split <;> exact ⟨rfl, rfl, rfl⟩

/-- The background task speaks to reply. -/
theorem backgroundPoll_speaks (p : Icmpv4Peer) (answer : Except Fail MacAddress) :
    p.Speaks (p.backgroundPoll answer) := by
  unfold backgroundPoll
  split
  · obtain ⟨link, ip, log⟩ := p.backgroundIterate_same
    exact .of_same link ip log
  next request dstLinkAddr _ =>
    obtain ⟨link, ip, log⟩ := (p.transmit (p.reply request dstLinkAddr)).backgroundIterate_same
    exact .message p dstLinkAddr request.dstIpv4Addr _ link ip log
  · obtain ⟨link, ip, log⟩ := p.backgroundIterate_same
    exact .of_same link ip log

theorem complete_speaks (p : Icmpv4Peer) (req : UInt16 × UInt16) : p.Speaks (p.complete req) := by
  unfold complete
  split
  · exact .of_same rfl rfl rfl
  · dsimp only
    split
    · exact .of_same rfl rfl rfl
    · exact .of_same rfl rfl rfl

/-- A message that arrives is answered later, by the background task. -/
theorem receive_speaks {ipHdr : Ipv4.Ipv4Header} {buf : Buffer} {result : Except Fail Unit}
    (ran : p.receive ipHdr buf = .ok (result, p')) : p.Speaks p' := by
  obtain ⟨parsed, -, ran⟩ := bind_eq_ok.mp ran
  split at ran
  · cases ran
    exact .of_same rfl rfl rfl
  split at ran
  · cases ran
    exact .of_same rfl rfl rfl
  · cases ran
    exact complete_speaks p _
  · cases ran
    exact .of_same rfl rfl rfl

/-- A ping speaks once the address is resolved. -/
theorem pingArp_speaks {ping : Icmpv4.PingId} {request : Icmpv4.EchoRequest} {timeout : Tcp.Duration}
    {t0 now : Instant} {answer : Option (Except Fail MacAddress)}
    (ran : p.pingArp ping request timeout t0 now answer = .ok p') : p.Speaks p' := by
  unfold pingArp at ran
  split at ran
  · cases ran
    exact .of_same rfl rfl rfl
  · cases ran
    exact .of_same rfl rfl rfl
  next dstLinkAddr =>
    dsimp only at ran
    split at ran
    · cases ran
    · cases ran
      exact .message p dstLinkAddr request.dstIpv4Addr _ rfl rfl rfl

/-- **A poll of a ping**, wherever it stands. -/
theorem pollPing_speaks {ping : Icmpv4.PingId} {now : Instant} {answer : Option (Except Fail MacAddress)}
    {timerFirst : Bool} (ran : p.pollPing ping now answer timerFirst = .ok p') : p.Speaks p' := by
  unfold pollPing at ran
  split at ran
  · exact pingArp_speaks ran
  · exact pingArp_speaks ran
  · cases ran
    unfold pingReply
    dsimp only
    split
    · exact .of_same rfl rfl rfl
    split
    · exact .of_same rfl rfl rfl
    · exact .of_same rfl rfl rfl
  · cases ran
    exact .of_same rfl rfl rfl

/-- **A step of ICMPv4 transmits messages of its own.** -/
theorem step_speaks {event : Icmpv4Event} (stepped : p.step event = .ok p') : p.Speaks p' := by
  cases event with
  | receive ipHdr buf =>
    obtain ⟨⟨result, q⟩, ran, stepped⟩ := bind_eq_ok.mp stepped
    cases stepped
    exact receive_speaks ran
  | background answer =>
    cases stepped
    exact backgroundPoll_speaks p answer
  | ping ping dstIpv4Addr timeout processId nonce =>
    simp only [step] at stepped
    split at stepped
    · cases stepped
      exact .of_same rfl rfl rfl
    · cases stepped
      exact .of_same rfl rfl rfl
  | pollPing ping now answer timerFirst => exact pollPing_speaks stepped
  | dropPing ping =>
    simp only [step] at stepped
    split at stepped
    · cases stepped
      exact .of_same rfl rfl rfl
    · cases stepped
      exact .of_same rfl rfl rfl

end Icmpv4.Icmpv4Peer

/-! ## UDP -/

/-- A datagram from an interface and an address. -/
structure Udp.UdpDatagram.From (localLinkAddr : MacAddress) (localIpv4Addr : Ipv4Addr)
    (datagram : UdpDatagram) : Prop where
  ethernet2 : ∃ dstAddr, datagram.ethernet2Hdr = .new dstAddr localLinkAddr .ipv4
  ipv4 : ∃ dstAddr, datagram.ipv4Hdr = .new localIpv4Addr dstAddr .udp

namespace Udp.UdpPeer

variable {p p' : UdpPeer} {event : Udp.PeerEvent}

/-- The addresses are the same, and what has been transmitted since is from them. -/
structure Speaks (p p' : UdpPeer) : Prop where
  localLinkAddr : p'.localLinkAddr = p.localLinkAddr
  localIpv4Addr : p'.localIpv4Addr = p.localIpv4Addr
  transmitted : Log.Adds (fun datagram => datagram.From p.localLinkAddr p.localIpv4Addr) p.transmitted
    p'.transmitted

/-- The two addresses of a peer. -/
def addresses (p : UdpPeer) : MacAddress × Ipv4Addr := (p.localLinkAddr, p.localIpv4Addr)

/-- None of the calls of the UDP peer changes its addresses. -/
theorem register_addresses (p : UdpPeer) (qd : QDesc) (addr : Tcp.SocketAddrV4) :
    (p.register qd addr).2.addresses = p.addresses := by
  unfold register
  split <;> rfl

theorem doBind_addresses (p : UdpPeer) (qd : QDesc) (addr : Tcp.SocketAddrV4) :
    (p.doBind qd addr).2.addresses = p.addresses := by
  unfold doBind
  split
  · rfl
  split
  · rfl
  next got ports _ =>
    have kept := register_addresses { p with ephemeralPorts := ports } qd got
    split
    next same =>
      rw [same] at kept
      exact kept
    next same =>
      rw [same] at kept
      split
      · exact kept
      · exact kept

theorem doClose_addresses (p : UdpPeer) (qd : QDesc) : (p.doClose qd).2.addresses = p.addresses := by
  unfold doClose
  split
  · rfl
  dsimp only
  split
  · rfl
  split <;> rfl

theorem senderIterate_addresses (p : UdpPeer) : p.senderIterate.addresses = p.addresses := by
  unfold senderIterate
  split <;> rfl

/-- **No event** of the UDP peer changes its addresses. -/
theorem step_addresses (stepped : p.step event = .ok p') : p'.addresses = p.addresses := by
  cases event with
  | socket qd =>
    cases stepped
    unfold doSocket
    split <;> rfl
  | bind qd addr =>
    cases stepped
    exact doBind_addresses p qd addr
  | close qd =>
    cases stepped
    exact doClose_addresses p qd
  | pushto qd data remoteAddr env =>
    obtain ⟨⟨result, peer⟩, ran, stepped⟩ := bind_eq_ok.mp stepped
    cases stepped
    unfold doPushto at ran
    split at ran
    · dsimp only at ran
      split at ran
      · cases ran
        rfl
      · obtain ⟨⟨answer, sendQueue⟩, -, ran⟩ := bind_eq_ok.mp ran
        cases ran
        rfl
    · cases ran
      rfl
  | pop qd =>
    obtain ⟨queue, -, stepped⟩ := bind_eq_ok.mp stepped
    cases stepped
    rfl
  | pollPop addr =>
    obtain ⟨⟨result, peer⟩, ran, stepped⟩ := bind_eq_ok.mp stepped
    cases stepped
    unfold pollPop at ran
    split at ran
    · cases ran
      rfl
    · obtain ⟨⟨msg, queue⟩, -, ran⟩ := bind_eq_ok.mp ran
      cases ran
      rfl
  | receive ipHdr buf =>
    obtain ⟨⟨result, peer⟩, ran, stepped⟩ := bind_eq_ok.mp stepped
    cases stepped
    obtain ⟨parsed, -, ran⟩ := bind_eq_ok.mp ran
    split at ran
    · cases ran
      rfl
    dsimp only at ran
    split at ran
    · cases ran
      rfl
    · obtain ⟨⟨answer, queue⟩, -, ran⟩ := bind_eq_ok.mp ran
      split at ran
      · cases ran
        rfl
      · cases ran
  | sender reply =>
    cases stepped
    unfold senderPoll
    split
    · exact senderIterate_addresses p
    · exact senderIterate_addresses p
    next slot remoteLinkAddr _ => exact senderIterate_addresses (p.doSend slot remoteLinkAddr)
    · exact senderIterate_addresses p

/-- **A step of UDP transmits datagrams of its own.** -/
theorem step_speaks (stepped : p.step event = .ok p') : p.Speaks p' := by
  obtain ⟨link, ip⟩ := Prod.mk.inj (step_addresses stepped)
  refine ⟨link, ip, ?_⟩
  rcases step_emits stepped with ⟨quiet, -⟩ | ⟨-, slot, remoteLinkAddr, transmitted, -⟩
  · exact .of_eq quiet.transmitted
  · rw [transmitted]
    exact .one ⟨⟨_, rfl⟩, ⟨_, rfl⟩⟩ _

end Udp.UdpPeer

/-! ## TCP -/

/-- A segment from an interface, as one of the paths builds it. -/
structure Tcp.TcpSegment.From (localLinkAddr : MacAddress) (config : TcpConfig) (segment : TcpSegment) :
    Prop where
  srcAddr : segment.ethernet2Hdr.srcAddr = localLinkAddr
  sent : segment.Sent config

/-- A runtime with this interface and configuration, through which nothing else has been sent. -/
structure Tcp.Runtime.Speaks (localLinkAddr : MacAddress) (config : TcpConfig) (rt : Runtime) : Prop where
  built : rt.Built config
  link : rt.localLinkAddr = localLinkAddr
  srcAddr : ∀ segment ∈ rt.transmitted, segment.ethernet2Hdr.srcAddr = localLinkAddr

namespace Tcp.PeerRun

variable {eof : Fail} {crc : List UInt8 → UInt32} {fallbackMss : Nat} {r r' : PeerRun}
  {event : Tcp.PeerEvent}

/-- **A step of TCP transmits segments from its own interface.** -/
theorem step_speaks {localLinkAddr : MacAddress} {config : TcpConfig}
    (h : r.peer.rt.Speaks localLinkAddr config) (stepped : r.step eof crc fallbackMss event = .ok r') :
    r'.peer.rt.Speaks localLinkAddr config := by
  obtain ⟨built, rfl, said⟩ := h
  have kept := step_built built stepped
  cases step_moves stepped with
  | idle apart same quiet =>
    exact ⟨kept, quiet.localLinkAddr, (quiet.log.mono fun segment bare => bare.srcAddr).forall said⟩
  | opened untold offered fresh entered same =>
    rw [same]
    exact ⟨built, rfl, said⟩
  | moved named known moved entered same =>
    have stays := Endpoint.step_stays moved
    rw [same] at kept ⊢
    exact ⟨kept, stays.localLinkAddr, (stays.log.mono fun segment sends => sends.srcAddr).forall said⟩

end Tcp.PeerRun

/-! ## The host -/

/-- What a host may say: with its own link address, and but for TCP with its own IPv4 address. -/
def Message.From (localLinkAddr : MacAddress) (localIpv4Addr : Ipv4Addr) (config : TcpConfig) :
    Message → Prop
  | .arp message => message.From localLinkAddr localIpv4Addr
  | .icmpv4 message => message.From localLinkAddr localIpv4Addr
  | .udp datagram => datagram.From localLinkAddr localIpv4Addr
  | .tcp segment => segment.From localLinkAddr config

namespace Host

variable {env : Platform} {h h' : Host} {event : HostEvent} {localLinkAddr : MacAddress}
  {localIpv4Addr : Ipv4Addr} {config : TcpConfig}

/-- A peer with these addresses, that has said nothing else. -/
def SaysAs {P M : Type} (link : P → MacAddress) (ip : P → Ipv4Addr) (log : P → List M)
    (own : MacAddress → Ipv4Addr → M → Prop) (localLinkAddr : MacAddress) (localIpv4Addr : Ipv4Addr)
    (p : P) : Prop :=
  link p = localLinkAddr ∧ ip p = localIpv4Addr ∧ ∀ message ∈ log p, own localLinkAddr localIpv4Addr message

/-- A peer that keeps its addresses, and adds only messages from them. -/
theorem SaysAs.step {P M : Type} {link : P → MacAddress} {ip : P → Ipv4Addr} {log : P → List M}
    {own : MacAddress → Ipv4Addr → M → Prop} {p p' : P}
    (h : SaysAs link ip log own localLinkAddr localIpv4Addr p) (sameLink : link p' = link p)
    (sameIp : ip p' = ip p) (adds : Log.Adds (own (link p) (ip p)) (log p) (log p')) :
    SaysAs link ip log own localLinkAddr localIpv4Addr p' := by
  obtain ⟨rfl, rfl, said⟩ := h
  exact ⟨sameLink, sameIp, adds.forall said⟩

/-- The peers of a host have its addresses, and have said nothing else. -/
structure Speaks (localLinkAddr : MacAddress) (localIpv4Addr : Ipv4Addr) (config : TcpConfig) (h : Host) :
    Prop where
  address : h.localIpv4Addr = localIpv4Addr
  arp : SaysAs ArpPeer.localLinkAddr ArpPeer.localIpv4Addr ArpPeer.transmitted ArpMessage.From
    localLinkAddr localIpv4Addr h.stack.arp
  icmpv4 : SaysAs Icmpv4Peer.localLinkAddr Icmpv4Peer.localIpv4Addr Icmpv4Peer.transmitted
    Icmpv4Message.From localLinkAddr localIpv4Addr h.icmpv4
  udp : SaysAs UdpPeer.localLinkAddr UdpPeer.localIpv4Addr UdpPeer.transmitted UdpDatagram.From
    localLinkAddr localIpv4Addr h.stack.udp
  tcp : h.stack.tcp.rt.Speaks localLinkAddr config

/-- **ARP**: every packet is a request or a reply from these addresses. -/
theorem arp_says {p p' : ArpPeer} {e : Option Arp.ArpEvent}
    (h : SaysAs ArpPeer.localLinkAddr ArpPeer.localIpv4Addr ArpPeer.transmitted ArpMessage.From
      localLinkAddr localIpv4Addr p) (moved : stepOption ArpPeer.step p e = .ok p') :
    SaysAs ArpPeer.localLinkAddr ArpPeer.localIpv4Addr ArpPeer.transmitted ArpMessage.From
      localLinkAddr localIpv4Addr p' := by
  refine Machine.keeps_stepOption (fun said stepped => ?_) h moved
  have speaks := ArpPeer.step_speaks stepped
  exact said.step speaks.localLinkAddr speaks.localIpv4Addr speaks.transmitted

/-- **ICMPv4**: every message is a request or a reply from these addresses. -/
theorem icmpv4_says {p p' : Icmpv4Peer} {e : Option Icmpv4Event}
    (h : SaysAs Icmpv4Peer.localLinkAddr Icmpv4Peer.localIpv4Addr Icmpv4Peer.transmitted
      Icmpv4Message.From localLinkAddr localIpv4Addr p) (moved : stepOption Icmpv4Peer.step p e = .ok p') :
    SaysAs Icmpv4Peer.localLinkAddr Icmpv4Peer.localIpv4Addr Icmpv4Peer.transmitted
      Icmpv4Message.From localLinkAddr localIpv4Addr p' := by
  refine Machine.keeps_stepOption (fun said stepped => ?_) h moved
  have speaks := Icmpv4Peer.step_speaks stepped
  exact said.step speaks.localLinkAddr speaks.localIpv4Addr speaks.transmitted

/-- **UDP**: every datagram is from these addresses. -/
theorem udp_says {p p' : UdpPeer} {e : Option Udp.PeerEvent}
    (h : SaysAs UdpPeer.localLinkAddr UdpPeer.localIpv4Addr UdpPeer.transmitted UdpDatagram.From
      localLinkAddr localIpv4Addr p) (moved : stepOption UdpPeer.step p e = .ok p') :
    SaysAs UdpPeer.localLinkAddr UdpPeer.localIpv4Addr UdpPeer.transmitted UdpDatagram.From
      localLinkAddr localIpv4Addr p' := by
  refine Machine.keeps_stepOption (fun said stepped => ?_) h moved
  have speaks := UdpPeer.step_speaks stepped
  exact said.step speaks.localLinkAddr speaks.localIpv4Addr speaks.transmitted

/-- A step of the TCP peer of a host, of which the host does not keep which descriptors were accepted. -/
theorem tcp_says {p p' : TcpPeer} {e : Option Tcp.PeerEvent} (h : p.rt.Speaks localLinkAddr config)
    (moved : ∀ accepted, ∃ accepted', stepOption (PeerRun.step env.eof env.crc env.fallbackMss)
      ⟨p, accepted⟩ e = .ok ⟨p', accepted'⟩) : p'.rt.Speaks localLinkAddr config := by
  obtain ⟨accepted', moved⟩ := moved ∅
  have keeps {r r' : PeerRun} {e : Tcp.PeerEvent} (said : r.peer.rt.Speaks localLinkAddr config)
      (stepped : r.step env.eof env.crc env.fallbackMss e = .ok r') :
      r'.peer.rt.Speaks localLinkAddr config := PeerRun.step_speaks said stepped
  exact Machine.keeps_stepOption (t := ⟨p, ∅⟩) keeps h moved

/-- **An event of a host keeps what it says its own.** -/
theorem step_speaks (speaks : h.Speaks localLinkAddr localIpv4Addr config)
    (ran : h.step env event = .ok h') : h'.Speaks localLinkAddr localIpv4Addr config := by
  have steps := step_steps ran
  exact ⟨steps.localIpv4Addr.trans speaks.address, arp_says speaks.arp steps.arp,
    icmpv4_says speaks.icmpv4 steps.icmpv4, udp_says speaks.udp steps.udp, tcp_says speaks.tcp steps.tcp⟩

/-- **So does any frame.** -/
theorem arrive_speaks (speaks : h.Speaks localLinkAddr localIpv4Addr config) {bytes : Buffer}
    {now : Instant} (ran : h.arrive env bytes now = .ok h') :
    h'.Speaks localLinkAddr localIpv4Addr config := by
  cases arrive_arrives ran with
  | ignored => exact speaks
  | @arp header payload arp read etherType stepped =>
    exact { speaks with arp := arp_says (e := some (.receive payload)) speaks.arp stepped }
  | @icmpv4 ipHdr data icmpv4 carries protocol stepped =>
    exact { speaks with icmpv4 := icmpv4_says (e := some (.receive ipHdr data)) speaks.icmpv4 stepped }
  | @udp ipHdr data udp carries protocol stepped =>
    exact { speaks with udp := udp_says (e := some (.receive ipHdr data)) speaks.udp stepped }
  | @tcp ipHdr data tcp carries protocol stepped =>
    exact { speaks with tcp := PeerRun.step_speaks speaks.tcp (stepped ∅) }

/-- What a host has said, protocol by protocol. -/
theorem Speaks.messages (speaks : h.Speaks localLinkAddr localIpv4Addr config) :
    ∀ message ∈ h.messages, message.From localLinkAddr localIpv4Addr config := by
  intro message member
  simp only [Host.messages, List.mem_append, List.mem_map] at member
  rcases member with ((⟨message, member, rfl⟩ | ⟨message, member, rfl⟩) | ⟨datagram, member, rfl⟩) |
    ⟨segment, member, rfl⟩
  · exact speaks.arp.2.2 message member
  · exact speaks.icmpv4.2.2 message member
  · exact speaks.udp.2.2 datagram member
  · exact ⟨speaks.tcp.srcAddr segment member, speaks.tcp.built.transmitted segment member⟩

end Host

end Inetstack
