import Inetstack.Laws.Host.Frames
import Inetstack.Laws.Tcp.Streams

/-!
# TCP on a network of two hosts

The frames of a host carry its segments, so what its peer sends on a connection and what the other host has
received stand at the same numbers, whatever the network does with the frames and whatever else the hosts do.
-/

namespace Inetstack

open Ipv4 (Ipv4Header)
open Machine (bind_eq_ok stepOption)
open Tcp (Buffer CongestionControl Endpoint Env Instant Ipv4Addr MacAddress PeerRun Runtime SocketAddrV4
  TcpConfig TcpPeer)

namespace Host

variable {env env' : Platform} {h h' a b a' b' : Host} {localLinkAddr : MacAddress} {localIpv4Addr : Ipv4Addr}
  {config : TcpConfig} {frame bytes padding : Buffer} {now : Instant}

/-- No event of its own is a segment to a host. -/
theorem tcpEvent_ne_receive {event : HostEvent} {ev : Tcp.PeerEvent} (told : h.tcpEvent env event = some ev)
    (ipHdr : Ipv4Header) (buf : Buffer) (env' : Env) : ev ≠ .receive ipHdr buf env' := by
  rintro rfl
  unfold tcpEvent sendEvent at told
  split at told <;> (try split at told) <;> (try split at told) <;> try cases told
  · unfold pollEvent at told
    split at told <;> cases told
  next task =>
    unfold taskEvent at told
    split at told <;> cases told

/-- What an event of a host is to its TCP peer: nothing, or one that is no segment. -/
theorem step_tcp {event : HostEvent} (ran : h.step env event = .ok h') :
    h'.stack.tcp = h.stack.tcp ∨ ∃ ev accepted, (∀ ipHdr buf env', ev ≠ .receive ipHdr buf env') ∧
      PeerRun.step env.eof env.crc env.fallbackMss ⟨h.stack.tcp, ∅⟩ ev = .ok ⟨h'.stack.tcp, accepted⟩ := by
  obtain ⟨accepted, moved⟩ := (step_steps ran).tcp ∅
  cases told : h.tcpEvent env event with
  | none =>
    rw [told] at moved
    exact .inl (congrArg PeerRun.peer (Except.ok.inj moved)).symm
  | some ev =>
    rw [told] at moved
    exact .inr ⟨ev, accepted, tcpEvent_ne_receive told, moved⟩

/-- What a frame is to the TCP peer of a host: nothing, or the segment it carries. -/
theorem arrive_tcp (ran : h.arrive env bytes now = .ok h') :
    h'.stack.tcp = h.stack.tcp ∨ ∃ ipHdr data env', h.Carries bytes ipHdr data ∧ ipHdr.protocol = .tcp ∧
      PeerRun.step env.eof env.crc env.fallbackMss ⟨h.stack.tcp, ∅⟩ (.receive ipHdr data env') =
        .ok ⟨h'.stack.tcp, ∅⟩ := by
  cases arrive_arrives ran with
  | ignored => exact .inl rfl
  | arp read etherType stepped => exact .inl rfl
  | icmpv4 carries protocol stepped => exact .inl rfl
  | udp carries protocol stepped => exact .inl rfl
  | tcp carries protocol stepped => exact .inr ⟨_, _, _, carries, protocol, stepped ∅⟩

/-- **A segment that arrives in a frame of a host is one of those of its peer**, between the same
addresses. -/
theorem Speaks.segment (speaks : h.Speaks localLinkAddr localIpv4Addr config) (sent : frame ∈ h.frames)
    {other : Host} {ipHdr : Ipv4Header} {data : Buffer}
    (carries : other.Carries (frame ++ padding) ipHdr data)
    (protocol : ipHdr.protocol = .tcp) {eof : Tcp.Fail} {rxChecksumOffload : Bool} {header : Tcp.TcpHeader}
    {text : Buffer}
    (parsed : (Tcp.TcpHeader.parse eof ipHdr data rxChecksumOffload).run = .ok (.ok (header, text))) :
    ∃ segment ∈ h.stack.tcp.rt.transmitted, TcpPeer.ends ipHdr header = segment.ends.swap ∧
      header = segment.tcpHdr ∧ text = segment.data := by
  cases speaks.carried sent carries with
  | icmpv4 member addresses other read => cases protocol.symm.trans other
  | udp member addresses other read => cases protocol.symm.trans other
  | @tcp segment member addresses _ read =>
    rcases read.gives_or_refuses eof rxChecksumOffload with whole | refused
    · cases parsed.symm.trans whole
      refine ⟨segment, member, ?_, rfl, rfl⟩
      unfold TcpPeer.ends Tcp.TcpSegment.ends
      rw [addresses.srcAddr, addresses.dstAddr]
      rfl
    · cases parsed.symm.trans refused

variable {key : SocketAddrV4 × SocketAddrV4} {base : Tcp.SeqNumber}

/-- **One direction of a connection of two hosts.** -/
def Streams (key : SocketAddrV4 × SocketAddrV4) (base : Tcp.SeqNumber) (a b : Host) : Prop :=
  TcpPeer.Streams key base a.stack.tcp b.stack.tcp

/-- An event of the sending host keeps the stream, -/
theorem Streams.stepSender (streams : Streams key base h b) {event : HostEvent}
    (ran : h.step env event = .ok h') : Streams key base h' b := by
  unfold Streams
  rcases step_tcp ran with same | ⟨ev, accepted, -, moved⟩
  · exact same ▸ streams
  · exact TcpPeer.Streams.stepSender (r := ⟨h.stack.tcp, ∅⟩) streams moved

/-- and so does a frame that arrives there, -/
theorem Streams.arriveSender (streams : Streams key base h b) (ran : h.arrive env bytes now = .ok h') :
    Streams key base h' b := by
  unfold Streams
  rcases arrive_tcp ran with same | ⟨ipHdr, data, env', -, -, moved⟩
  · exact same ▸ streams
  · exact TcpPeer.Streams.stepSender (r := ⟨h.stack.tcp, ∅⟩) streams moved

/-- an event of the receiving host, -/
theorem Streams.stepReceiver (streams : Streams key base a h) {event : HostEvent}
    (ran : h.step env event = .ok h') : Streams key base a h' := by
  unfold Streams
  rcases step_tcp ran with same | ⟨ev, accepted, silent, moved⟩
  · exact same ▸ streams
  · refine TcpPeer.Streams.stepReceiver (r := ⟨h.stack.tcp, ∅⟩) streams ?_ moved
    intro ipHdr buf env' header data eq
    exact absurd eq (silent ipHdr buf env')

/-- and a frame of the sending host that arrives there, padded or not. -/
theorem Streams.arriveReceiver (streams : Streams key base a h)
    (speaks : a.Speaks localLinkAddr localIpv4Addr config) (sent : frame ∈ a.frames)
    (ran : h.arrive env (frame ++ padding) now = .ok h') : Streams key base a h' := by
  unfold Streams
  rcases arrive_tcp ran with same | ⟨ipHdr, data, env', carries, protocol, moved⟩
  · exact same ▸ streams
  · refine TcpPeer.Streams.stepReceiver (r := ⟨h.stack.tcp, ∅⟩) streams ?_ moved
    intro ipHdr' buf env'' header text eq parsed
    cases eq
    exact speaks.segment sent carries protocol parsed

/-- The TCP peer of a new host. -/
theorem new_tcp {setup : Setup} (made : Host.new setup = .ok h) :
    h.stack.tcp = .new setup.shuffle setup.nonce setup.rt setup.localIpv4Addr := by
  obtain ⟨stack, madeStack, eq⟩ := bind_eq_ok.mp made
  cases eq
  obtain ⟨arp, madeArp, eq⟩ := bind_eq_ok.mp madeStack
  cases eq
  rfl

/-- **What one user reads, the other has sent, in this order and once.** On a network that drops, repeats,
delays, reorders and pads the frames of two hosts as it likes, whatever has been read from a connection of
one host is a prefix of what has been accepted for sending on the connection of the other host between the
same addresses. The other host has used fewer than `2 ^ 31` sequence numbers there, and each SYN it has sent
between these addresses has the number its text follows on. -/
theorem read_prefix_sent (env env' : Platform) (setupA setupB : Setup)
    (interface : setupA.rt.localLinkAddr = setupA.localLinkAddr) (nothing : setupA.rt.transmitted = [])
    (madeA : Host.new setupA = .ok a) (madeB : Host.new setupB = .ok b)
    (events : List (Network.Event HostEvent HostEvent Arrival))
    (ran : Machine.run (Network.step (node env) (node env')) (a, b) events = .ok (a', b'))
    (key : SocketAddrV4 × SocketAddrV4) (e e' : Endpoint CongestionControl.None)
    (known : a'.stack.tcp.established.lookup key = some e)
    (known' : b'.stack.tcp.established.lookup key.swap = some e')
    (few : e.history.used < 2 ^ 31)
    (once : ∀ segment ∈ a'.stack.tcp.rt.transmitted, segment.ends = key → segment.tcpHdr.syn = true →
      segment.tcpHdr.seqNum + Tcp.SeqNumber.mk 1 = e.firstSent) :
    e'.history.delivered.flatten <+: e.history.accepted.flatten := by
  have kept : a'.Speaks setupA.localLinkAddr setupA.localIpv4Addr setupA.rt.tcpOptions ∧
      Streams key e.firstSent a' b' := by
    refine Network.invariant (R := fun a b =>
      a.Speaks setupA.localLinkAddr setupA.localIpv4Addr setupA.rt.tcpOptions ∧
      Streams key e.firstSent a b) ?_ ?_ ?_ ?_ ?_ ran
    · intro s s' t event _ ⟨speaks, streams⟩ stepped
      exact ⟨step_speaks speaks stepped, streams.stepSender stepped⟩
    · intro s t t' event _ ⟨speaks, streams⟩ stepped
      exact ⟨speaks, streams.stepReceiver stepped⟩
    · intro s s' t frame x ⟨speaks, streams⟩ sent arrived
      exact ⟨arrive_speaks speaks arrived, streams.arriveSender arrived⟩
    · intro s t t' frame x ⟨speaks, streams⟩ sent arrived
      exact ⟨speaks, streams.arriveReceiver speaks sent arrived⟩
    · refine ⟨new_speaks interface nothing madeA, ?_⟩
      unfold Streams
      rw [new_tcp madeA, new_tcp madeB]
      exact .new (TcpPeer.new_absent key setupA.shuffle setupA.nonce setupA.localIpv4Addr nothing)
        setupB.shuffle setupB.nonce setupB.rt setupB.localIpv4Addr
  refine kept.2.prefix_accepted ⟨fun first found => ?_, once⟩ known known'
  cases known.symm.trans found
  exact ⟨few, rfl⟩

/-- 10.0.0.1 connects to 10.0.0.2 and sends twice; the second segment arrives first, and all is read. -/
def sampleTransfer : List (Network.Event HostEvent HostEvent Arrival) :=
  [.left (.arp (.query 1 0x0a000002)), .left (.arp (.poll 1 Arp.ArpPeer.early)), .toRight 0 ⟨0, [0, 0]⟩,
    .toLeft 0 ⟨0, [7]⟩, .right (.call (.socket AF_INET SOCK_STREAM 0)),
    .right (.call (.bind 0 ⟨0x0a000002, 90⟩)), .right (.call (.listen 0 1 0)), .right (.call (.accept 0)),
    .left (.call (.socket AF_INET SOCK_STREAM 0)), .left (.call (.bind 0 ⟨0x0a000001, 80⟩)),
    .left (.call (.connect 0 ⟨0x0a000002, 90⟩)),
    .left (.tcp (.retryConnect (⟨0x0a000001, 80⟩, ⟨0x0a000002, 90⟩) .first)),
    .left (.tcp (.retryConnect (⟨0x0a000001, 80⟩, ⟨0x0a000002, 90⟩) (.arpReply (.ok 9)))), .toRight 1 ⟨0, []⟩,
    .right (.tcp (.retryAccept ⟨0x0a000002, 90⟩ ⟨0x0a000001, 80⟩ .first)),
    .right (.tcp (.retryAccept ⟨0x0a000002, 90⟩ ⟨0x0a000001, 80⟩ (.arpReply (.ok 7)))), .toLeft 1 ⟨0, []⟩,
    .left (.pollFuture 0 0), .toRight 2 ⟨0, []⟩, .right (.pollFuture 0 0), .left (.call (.push2 0 [1, 2] 0)),
    .left (.call (.push2 0 [3] 0)), .toRight 4 ⟨0, []⟩, .toRight 3 ⟨0, []⟩, .right (.call (.pop 1)),
    .right (.pollFuture 1 0), .right (.call (.pop 1)), .right (.pollFuture 2 0)]

/-- A whole transfer, from the SYN to the read. -/
theorem read_prefix_sent_transfer :
    ∃ a b e e', Machine.run (Network.step (node samplePlatform) (node samplePlatform))
        (sampleHost 7 0x0a000001, sampleHost 9 0x0a000002) sampleTransfer = .ok (a, b) ∧
      a.stack.tcp.established.lookup (⟨0x0a000001, 80⟩, ⟨0x0a000002, 90⟩) = some e ∧
      b.stack.tcp.established.lookup (⟨0x0a000002, 90⟩, ⟨0x0a000001, 80⟩) = some e' ∧
      e'.history.delivered = [[1, 2], [3]] ∧
      e'.history.delivered.flatten <+: e.history.accepted.flatten := by
  obtain ⟨⟨a, b⟩, ran, view⟩ := Machine.map_eq_ok
    (x := Machine.run (Network.step (node samplePlatform) (node samplePlatform))
      (sampleHost 7 0x0a000001, sampleHost 9 0x0a000002) sampleTransfer)
    (fun s => ((s.1.stack.tcp.established.lookup (⟨0x0a000001, 80⟩, ⟨0x0a000002, 90⟩)).map fun e =>
        (e.history.used, e.firstSent),
      (s.2.stack.tcp.established.lookup (⟨0x0a000002, 90⟩, ⟨0x0a000001, 80⟩)).map fun e =>
        e.history.delivered,
      s.1.stack.tcp.rt.transmitted.map fun segment => (segment.tcpHdr.syn, segment.tcpHdr.seqNum)))
    (t := (some (3, ⟨501⟩), some [[1, 2], [3]], [(true, ⟨500⟩), (false, ⟨501⟩), (false, ⟨501⟩),
      (false, ⟨503⟩)])) (by decide +kernel)
  obtain ⟨sender, view⟩ := Prod.mk.inj view
  obtain ⟨receiver, segments⟩ := Prod.mk.inj view
  obtain ⟨e, known, numbers⟩ := Option.map_eq_some_iff.mp sender
  obtain ⟨e', known', delivered⟩ := Option.map_eq_some_iff.mp receiver
  obtain ⟨used, first⟩ := Prod.mk.inj numbers
  refine ⟨a, b, e, e', ran, known, known', delivered, ?_⟩
  refine read_prefix_sent samplePlatform samplePlatform (InetStack.sampleSetup 7 0x0a000001)
    (InetStack.sampleSetup 9 0x0a000002) rfl rfl (new_sampleHost 7 0x0a000001)
    (new_sampleHost 9 0x0a000002) sampleTransfer ran _ e e' known known' (by rw [used]; decide) ?_
  intro segment member _ syn
  have listed := List.mem_map_of_mem (f := fun segment : Tcp.TcpSegment =>
    (segment.tcpHdr.syn, segment.tcpHdr.seqNum)) member
  dsimp only at segments
  rw [segments] at listed
  simp only [syn, List.mem_cons, Prod.mk.injEq, true_and, List.not_mem_nil, reduceCtorEq, false_and,
    or_false] at listed
  rw [listed, first]
  rfl

end Host

end Inetstack
