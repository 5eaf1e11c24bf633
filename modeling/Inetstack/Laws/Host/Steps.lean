import Inetstack.Host
import Inetstack.Lib.Simulation

/-!
# What a host is to each of its protocols

A host is four peers and what routes the calls between them. Each event of a host is at most one event of
each peer; which one can be read off the event and the state. So a run of a host is, for each of its
peers, a run of that peer.
-/

namespace Inetstack

open Arp (ArpEvent ArpPeer)
open Icmpv4 (Icmpv4Event Icmpv4Peer)
open Machine (Simulates bind_eq_ok stepOption)
open Tcp (Env PeerRun TcpPeer)
open Udp (UdpPeer)

namespace Host

variable {env : Platform} {h h' : Host} {event : HostEvent}

/-! ## ARP and ICMPv4 -/

/-- What an event is to the ARP peer. -/
def arpEvent : HostEvent → Option ArpEvent
  | .arp task => some task.event
  | _ => none

/-- What an event is to the ICMPv4 peer. -/
def icmpv4Event : HostEvent → Option Icmpv4Event
  | .icmpv4 task => some task.event
  | _ => none

/-! ## UDP -/

/-- What is sent where, if the descriptor is that of a UDP socket. -/
def pushtoEvent (h : Host) (qd : QDesc) (data : Tcp.Buffer) (remoteAddr : Tcp.SocketAddrV4)
    (now : Tcp.Instant) : Option Udp.PeerEvent :=
  match h.stack.fileTable.lookup qd with
  | some .udpSocket =>
    some (.pushto qd data remoteAddr { now := now, remoteLinkAddr := h.stack.arp.tryQuery remoteAddr.ip })
  | _ => none

/-- What an event of the host is to its UDP peer. -/
def udpEvent (env : Platform) (h : Host) : HostEvent → Option Udp.PeerEvent
  | .call (.socket domain socketType _) =>
    if domain = AF_INET ∧ socketType ≠ SOCK_STREAM ∧ socketType = SOCK_DGRAM then
      some (.socket (env.alloc h.stack.fileTable))
    else none
  | .call (.bind qd localAddr) =>
    match h.stack.fileTable.lookup qd with
    | some .udpSocket => some (.bind qd localAddr)
    | _ => none
  | .call (.close qd _) =>
    match h.stack.fileTable.lookup qd with
    | some .udpSocket => some (.close qd)
    | _ => none
  | .call (.doPushto qd buf remoteAddr now) => h.pushtoEvent qd buf remoteAddr now
  | .call (.pushto2 qd data remoteAddr now) =>
    if data.isEmpty then none else h.pushtoEvent qd data remoteAddr now
  | .udp task => some task.event
  | _ => none

/-! ## TCP -/

/-- What is sent, if the descriptor is that of a TCP socket. -/
def sendEvent (h : Host) (qd : QDesc) (buf : Tcp.Buffer) (now : Tcp.Instant) : Option Tcp.PeerEvent :=
  match h.stack.fileTable.lookup qd with
  | some .tcpSocket => some (.send qd buf (h.stack.envFor qd now))
  | _ => none

/-- A poll of a future that is not over. -/
def pollEvent (h : Host) (now : Tcp.Instant) : FutureOperation → Option Tcp.PeerEvent
  | .accept qd newQd => some (.accept qd newQd)
  | .connect qd => some (.connectFinished qd)
  | .pop qd => some (.recv qd (h.stack.envFor qd now))
  | _ => none

/-- What a poll of a background task is to the TCP peer. The link address is that which ARP knows. -/
def taskEvent (h : Host) : TcpTask → Tcp.PeerEvent
  | .retryConnect key poll => .retryConnect key poll
  | .retryAccept localAddr remoteAddr poll => .retryAccept localAddr remoteAddr poll
  | .background key call now => .background key call (h.stack.arp.envFor key.2.ip now)

/-- What an event of the host is to its TCP peer. -/
def tcpEvent (env : Platform) (h : Host) : HostEvent → Option Tcp.PeerEvent
  | .call (.socket domain socketType _) =>
    if domain = AF_INET ∧ socketType = SOCK_STREAM then some (.socket (env.alloc h.stack.fileTable))
    else none
  | .call (.bind qd localAddr) =>
    match h.stack.fileTable.lookup qd with
    | some .tcpSocket => some (.bind qd localAddr)
    | _ => none
  | .call (.listen qd backlog nonce) =>
    match h.stack.fileTable.lookup qd with
    | some .tcpSocket => if backlog = 0 then none else some (.listen qd backlog nonce)
    | _ => none
  | .call (.connect qd remoteAddr) =>
    match h.stack.fileTable.lookup qd with
    | some .tcpSocket => some (.connect qd remoteAddr)
    | _ => none
  | .call (.close qd now) =>
    match h.stack.fileTable.lookup qd with
    | some .tcpSocket => some (.close qd (h.stack.envFor qd now))
    | _ => none
  | .call (.doPush qd buf now) => h.sendEvent qd buf now
  | .call (.push2 qd data now) => if data.isEmpty then none else h.sendEvent qd data now
  | .pollFuture task now =>
    match h.stack.scheduled[task]?, h.completed.lookup task with
    | some future, none => h.pollEvent now future
    | _, _ => none
  | .tcp task => some (h.taskEvent task)
  | _ => none

/-! ## One event -/

/-- **What an event of a host is to its parts.** -/
structure Steps (env : Platform) (h : Host) (event : HostEvent) (h' : Host) : Prop where
  localLinkAddr : h'.localLinkAddr = h.localLinkAddr
  localIpv4Addr : h'.localIpv4Addr = h.localIpv4Addr
  arp : stepOption ArpPeer.step h.stack.arp (arpEvent event) = .ok h'.stack.arp
  icmpv4 : stepOption Icmpv4Peer.step h.icmpv4 (icmpv4Event event) = .ok h'.icmpv4
  udp : stepOption UdpPeer.step h.stack.udp (h.udpEvent env event) = .ok h'.stack.udp
  tcp : ∀ accepted, ∃ accepted',
    stepOption (PeerRun.step env.eof env.crc env.fallbackMss) ⟨h.stack.tcp, accepted⟩
      (h.tcpEvent env event) = .ok ⟨h'.stack.tcp, accepted'⟩

/-- An event that reaches no peer. -/
theorem Steps.of_same (link : h'.localLinkAddr = h.localLinkAddr) (ip : h'.localIpv4Addr = h.localIpv4Addr)
    (arp : h'.stack.arp = h.stack.arp) (icmpv4 : h'.icmpv4 = h.icmpv4) (udp : h'.stack.udp = h.stack.udp)
    (tcp : h'.stack.tcp = h.stack.tcp) (noArp : arpEvent event = none) (noIcmpv4 : icmpv4Event event = none)
    (noUdp : h.udpEvent env event = none) (noTcp : h.tcpEvent env event = none) : Steps env h event h' where
  localLinkAddr := link
  localIpv4Addr := ip
  arp := by rw [noArp, arp]; rfl
  icmpv4 := by rw [noIcmpv4, icmpv4]; rfl
  udp := by rw [noUdp, udp]; rfl
  tcp accepted := ⟨accepted, by rw [noTcp, tcp]; rfl⟩

/-- A call that reaches the UDP peer alone. -/
theorem Steps.of_udp {call : StackCall} {stack : InetStack} {ev : Udp.PeerEvent}
    (arp : stack.arp = h.stack.arp) (tcp : stack.tcp = h.stack.tcp)
    (told : h.udpEvent env (.call call) = some ev) (noTcp : h.tcpEvent env (.call call) = none)
    (stepped : h.stack.udp.step ev = .ok stack.udp) :
    Steps env h (.call call) { h with stack := stack } where
  localLinkAddr := rfl
  localIpv4Addr := rfl
  arp := by rw [← arp]; rfl
  icmpv4 := rfl
  udp := by rw [told]; exact stepped
  tcp accepted := ⟨accepted, by rw [noTcp, ← tcp]; rfl⟩

/-- A call that reaches the TCP peer alone. -/
theorem Steps.of_tcp {call : StackCall} {stack : InetStack} {ev : Tcp.PeerEvent}
    (arp : stack.arp = h.stack.arp) (udp : stack.udp = h.stack.udp)
    (told : h.tcpEvent env (.call call) = some ev) (noUdp : h.udpEvent env (.call call) = none)
    (stepped : ∀ accepted, ∃ accepted', PeerRun.step env.eof env.crc env.fallbackMss
      ⟨h.stack.tcp, accepted⟩ ev = .ok ⟨stack.tcp, accepted'⟩) :
    Steps env h (.call call) { h with stack := stack } where
  localLinkAddr := rfl
  localIpv4Addr := rfl
  arp := by rw [← arp]; rfl
  icmpv4 := rfl
  udp := by rw [noUdp, ← udp]; rfl
  tcp accepted := by
    rw [told]
    exact stepped accepted

/-- A call that reaches neither. -/
theorem Steps.of_none {call : StackCall} {stack : InetStack} (arp : stack.arp = h.stack.arp)
    (udp : stack.udp = h.stack.udp) (tcp : stack.tcp = h.stack.tcp)
    (noUdp : h.udpEvent env (.call call) = none) (noTcp : h.tcpEvent env (.call call) = none) :
    Steps env h (.call call) { h with stack := stack } :=
  .of_same rfl rfl arp rfl udp tcp rfl rfl noUdp noTcp

/-! ### Socket calls -/

/-- `socket` is a call on the peer of its type, or on none. -/
theorem socket_steps (env : Platform) (h : Host) (domain socketType protocol : Int) :
    Steps env h (.call (.socket domain socketType protocol))
      { h with stack := (h.stack.socket env.alloc domain socketType protocol).2 } := by
  unfold InetStack.socket
  split
  next other =>
    have none : ¬domain = AF_INET := other
    exact .of_none rfl rfl rfl (by simp [udpEvent, none]) (by simp [tcpEvent, none])
  next inet =>
  have inet : domain = AF_INET := not_not.mp inet
  split
  next stream =>
    have told : h.tcpEvent env (.call (.socket domain socketType protocol)) =
        some (.socket (env.alloc h.stack.fileTable)) := by
      simp only [tcpEvent, inet, stream, and_self, if_true]
    have noUdp : h.udpEvent env (.call (.socket domain socketType protocol)) = none := by
      simp [udpEvent, stream]
    dsimp only
    split
    next e tcp made =>
      refine .of_tcp rfl rfl told noUdp fun accepted => ⟨accepted, ?_⟩
      simp only [PeerRun.step, made]
    next tcp made =>
      refine .of_tcp rfl rfl told noUdp fun accepted => ⟨accepted, ?_⟩
      simp only [PeerRun.step, made]
  next notStream =>
  have noTcp : h.tcpEvent env (.call (.socket domain socketType protocol)) = none := by
    simp [tcpEvent, notStream]
  split
  next dgram =>
    have told : h.udpEvent env (.call (.socket domain socketType protocol)) =
        some (.socket (env.alloc h.stack.fileTable)) := by
      simp only [udpEvent, inet, dgram, true_and, and_true]
      rfl
    dsimp only
    split
    next e udp made =>
      refine .of_udp rfl rfl told noTcp ?_
      simp only [UdpPeer.step, made]
    next udp made =>
      refine .of_udp rfl rfl told noTcp ?_
      simp only [UdpPeer.step, made]
  next other => exact .of_none rfl rfl rfl (by simp [udpEvent, other]) noTcp

/-- `bind` is a call on the peer of the descriptor. -/
theorem bind_steps (env : Platform) (h : Host) (qd : QDesc) (localAddr : Tcp.SocketAddrV4) :
    Steps env h (.call (.bind qd localAddr)) { h with stack := (h.stack.bind qd localAddr).2 } := by
  unfold InetStack.bind
  split
  next found =>
    have told : h.tcpEvent env (.call (.bind qd localAddr)) = some (.bind qd localAddr) := by
      simp only [tcpEvent, found]
    exact .of_tcp rfl rfl told (by simp only [udpEvent, found]) fun accepted => ⟨accepted, rfl⟩
  next found =>
    have told : h.udpEvent env (.call (.bind qd localAddr)) = some (.bind qd localAddr) := by
      simp only [udpEvent, found]
    exact .of_udp rfl rfl told (by simp only [tcpEvent, found]) rfl
  next found =>
    exact .of_none rfl rfl rfl (by simp only [udpEvent, found]) (by simp only [tcpEvent, found])

/-- Listening is an event of the TCP peer, or of nobody. -/
theorem listen_steps (env : Platform) (h : Host) (qd : QDesc) (backlog : Nat) (nonce : UInt32) :
    Steps env h (.call (.listen qd backlog nonce))
      { h with stack := (h.stack.listen qd backlog nonce).2 } := by
  unfold InetStack.listen
  split
  next zero =>
    refine .of_none rfl rfl rfl rfl ?_
    simp only [tcpEvent, zero, if_true]
    split <;> rfl
  next positive =>
  split
  next found =>
    have told : h.tcpEvent env (.call (.listen qd backlog nonce)) = some (.listen qd backlog nonce) := by
      simp only [tcpEvent, found, positive, if_false]
    exact .of_tcp rfl rfl told rfl fun accepted => ⟨accepted, rfl⟩
  next found => exact .of_none rfl rfl rfl rfl (by simp only [tcpEvent, found])
  next found => exact .of_none rfl rfl rfl rfl (by simp only [tcpEvent, found])

/-- Accepting makes a future. The peer hears of it when the future is polled. -/
theorem accept_steps (env : Platform) (h : Host) (qd : QDesc) :
    Steps env h (.call (.accept qd)) { h with stack := (h.stack.accept env.alloc env.intoRaw qd).2 } := by
  unfold InetStack.accept
  split
  · exact .of_none rfl rfl rfl rfl rfl
  · exact .of_none rfl rfl rfl rfl rfl
  · exact .of_none rfl rfl rfl rfl rfl

/-- `connect` is one for TCP. -/
theorem connect_steps {qd : QDesc} {remoteAddr : Tcp.SocketAddrV4} {result : Except Tcp.Fail QToken}
    {stack : InetStack}
    (ran : h.stack.connect env.overflowChecks env.intoRaw env.crc qd remoteAddr = .ok (result, stack)) :
    Steps env h (.call (.connect qd remoteAddr)) { h with stack := stack } := by
  unfold InetStack.connect at ran
  split at ran
  next found =>
    have told : h.tcpEvent env (.call (.connect qd remoteAddr)) = some (.connect qd remoteAddr) := by
      simp only [tcpEvent, found]
    dsimp only at ran
    split at ran
    · cases ran
    split at ran
    next fail tcp made =>
      cases ran
      refine .of_tcp rfl rfl told rfl fun accepted => ⟨accepted, ?_⟩
      simp only [PeerRun.step, made]
    next tcp made =>
      cases ran
      refine .of_tcp rfl rfl told rfl fun accepted => ⟨accepted, ?_⟩
      simp only [PeerRun.step, made]
  next found =>
    cases ran
    exact .of_none rfl rfl rfl rfl (by simp only [tcpEvent, found])
  next found =>
    cases ran
    exact .of_none rfl rfl rfl rfl (by simp only [tcpEvent, found])

/-- Freeing the descriptor reaches no peer. -/
theorem freed_same {closed result : Except Tcp.Fail Unit} {s stack : InetStack} {qd : QDesc}
    (ran : (match closed with
      | .error fail => .ok (.error fail, s)
      | .ok () => .ok (.ok (), { s with fileTable := s.fileTable.erase qd }) :
        Except Tcp.Fault (Except Tcp.Fail Unit × InetStack)) = .ok (result, stack)) :
    stack.arp = s.arp ∧ stack.udp = s.udp ∧ stack.tcp = s.tcp := by
  cases closed with
  | error fail =>
    cases ran
    exact ⟨rfl, rfl, rfl⟩
  | ok freed =>
    cases ran
    exact ⟨rfl, rfl, rfl⟩

/-- Closing goes to the peer of the descriptor. -/
theorem close_steps {qd : QDesc} {now : Tcp.Instant} {result : Except Tcp.Fail Unit} {stack : InetStack}
    (ran : h.stack.close qd now = .ok (result, stack)) :
    Steps env h (.call (.close qd now)) { h with stack := stack } := by
  unfold InetStack.close at ran
  dsimp only at ran
  split at ran
  next found =>
    have told : h.tcpEvent env (.call (.close qd now)) = some (.close qd (h.stack.envFor qd now)) := by
      simp only [tcpEvent, found]
    obtain ⟨⟨closed, peer⟩, made, ran⟩ := bind_eq_ok.mp ran
    obtain ⟨arp, udp, tcp⟩ := freed_same ran
    refine .of_tcp arp udp told (by simp only [udpEvent, found]) fun accepted => ⟨accepted.erase qd, ?_⟩
    rw [tcp]
    exact bind_eq_ok.mpr ⟨_, made, rfl⟩
  next found =>
    have told : h.udpEvent env (.call (.close qd now)) = some (.close qd) := by
      simp only [udpEvent, found]
    obtain ⟨arp, udp, tcp⟩ := freed_same ran
    exact .of_udp arp tcp told (by simp only [tcpEvent, found]) (by rw [udp]; rfl)
  next found =>
    cases ran
    exact .of_none rfl rfl rfl (by simp only [udpEvent, found]) (by simp only [tcpEvent, found])

/-- What the caller does with the result makes no difference to the peers. -/
theorem doPush_steps {qd : QDesc} {buf : Tcp.Buffer} {now : Tcp.Instant} {call : StackCall}
    {made : Except Tcp.Fail FutureOperation × InetStack} {stack : InetStack}
    (ran : h.stack.doPush qd buf now = .ok made) (arp : stack.arp = made.2.arp)
    (udp : stack.udp = made.2.udp) (tcp : stack.tcp = made.2.tcp)
    (told : h.tcpEvent env (.call call) = h.sendEvent qd buf now)
    (noUdp : h.udpEvent env (.call call) = none) :
    Steps env h (.call call) { h with stack := stack } := by
  unfold InetStack.doPush at ran
  split at ran
  next found =>
    obtain ⟨⟨result, peer⟩, sent, ran⟩ := bind_eq_ok.mp ran
    cases ran
    have sends : h.sendEvent qd buf now = some (.send qd buf (h.stack.envFor qd now)) := by
      simp only [sendEvent, found]
    refine .of_tcp arp udp (told.trans sends) noUdp fun accepted => ⟨accepted, ?_⟩
    rw [tcp]
    exact bind_eq_ok.mpr ⟨_, sent, rfl⟩
  next found =>
    cases ran
    exact .of_none arp udp tcp noUdp (told.trans (by simp only [sendEvent, found]))
  next found =>
    cases ran
    exact .of_none arp udp tcp noUdp (told.trans (by simp only [sendEvent, found]))

/-- So does a push to an address, however its future is issued. -/
theorem doPushto_steps {qd : QDesc} {buf : Tcp.Buffer} {remoteAddr : Tcp.SocketAddrV4}
    {now : Tcp.Instant} {call : StackCall} {made : Except Tcp.Fail FutureOperation × InetStack}
    {stack : InetStack} (ran : h.stack.doPushto env.overflowChecks qd buf remoteAddr now = .ok made)
    (arp : stack.arp = made.2.arp) (udp : stack.udp = made.2.udp) (tcp : stack.tcp = made.2.tcp)
    (told : h.udpEvent env (.call call) = h.pushtoEvent qd buf remoteAddr now)
    (noTcp : h.tcpEvent env (.call call) = none) :
    Steps env h (.call call) { h with stack := stack } := by
  unfold InetStack.doPushto at ran
  split at ran
  next found =>
    obtain ⟨⟨result, peer⟩, sent, ran⟩ := bind_eq_ok.mp ran
    obtain ⟨frames, -, ran⟩ := bind_eq_ok.mp ran
    cases ran
    have sends : h.pushtoEvent qd buf remoteAddr now = some (.pushto qd buf remoteAddr
        { now := now, remoteLinkAddr := h.stack.arp.tryQuery remoteAddr.ip }) := by
      simp only [pushtoEvent, found]
    refine .of_udp arp tcp (told.trans sends) noTcp ?_
    rw [udp]
    exact bind_eq_ok.mpr ⟨_, sent, rfl⟩
  next found =>
    cases ran
    exact .of_none arp udp tcp (told.trans (by simp only [pushtoEvent, found])) noTcp
  next found =>
    cases ran
    exact .of_none arp udp tcp (told.trans (by simp only [pushtoEvent, found])) noTcp

/-- Handing a future to the scheduler reaches no peer. -/
theorem issue_same (intoRaw : List FutureOperation → QToken)
    (made : Except Tcp.Fail FutureOperation × InetStack) :
    (InetStack.issue intoRaw made).2.arp = made.2.arp ∧
      (InetStack.issue intoRaw made).2.udp = made.2.udp ∧
      (InetStack.issue intoRaw made).2.tcp = made.2.tcp := by
  obtain ⟨result, s⟩ := made
  cases result with
  | error fail => exact ⟨rfl, rfl, rfl⟩
  | ok future => exact ⟨rfl, rfl, rfl⟩

/-- **Every socket call** is at most one event of one peer. -/
theorem call_steps {call : StackCall} {stack : InetStack}
    (ran : h.stack.step env.overflowChecks env.alloc env.intoRaw env.crc call = .ok stack) :
    Steps env h (.call call) { h with stack := stack } := by
  cases call with
  | socket domain socketType protocol =>
    cases ran
    exact socket_steps env h domain socketType protocol
  | bind qd localAddr =>
    cases ran
    exact bind_steps env h qd localAddr
  | listen qd backlog nonce =>
    cases ran
    exact listen_steps env h qd backlog nonce
  | accept qd =>
    cases ran
    exact accept_steps env h qd
  | connect qd remoteAddr =>
    simp only [InetStack.step] at ran
    obtain ⟨⟨result, s⟩, called, rfl⟩ := Network.map_eq_ok.mp ran
    exact connect_steps called
  | close qd now =>
    simp only [InetStack.step] at ran
    obtain ⟨⟨result, s⟩, called, rfl⟩ := Network.map_eq_ok.mp ran
    exact close_steps called
  | doPush qd buf now =>
    simp only [InetStack.step] at ran
    obtain ⟨made, called, rfl⟩ := Network.map_eq_ok.mp ran
    exact doPush_steps called rfl rfl rfl rfl rfl
  | push2 qd data now =>
    simp only [InetStack.step] at ran
    obtain ⟨made, called, rfl⟩ := Network.map_eq_ok.mp ran
    -- an empty buffer is refused before any peer sees it
    unfold InetStack.push2 at called
    split at called
    next empty =>
      cases called
      exact .of_none rfl rfl rfl rfl (by simp only [tcpEvent, empty, if_true])
    next some =>
      obtain ⟨pushed, made, issued⟩ := bind_eq_ok.mp called
      cases issued
      obtain ⟨arp, udp, tcp⟩ := issue_same env.intoRaw pushed
      exact doPush_steps made arp udp tcp (by simp only [tcpEvent, some]; rfl) rfl
  | doPushto qd buf remoteAddr now =>
    simp only [InetStack.step] at ran
    obtain ⟨made, called, rfl⟩ := Network.map_eq_ok.mp ran
    exact doPushto_steps called rfl rfl rfl rfl rfl
  | pushto2 qd data remoteAddr now =>
    simp only [InetStack.step] at ran
    obtain ⟨made, called, rfl⟩ := Network.map_eq_ok.mp ran
    unfold InetStack.pushto2 at called
    split at called
    next empty =>
      cases called
      exact .of_none rfl rfl rfl (by simp only [udpEvent, empty, if_true]) rfl
    next some =>
      obtain ⟨pushed, made, issued⟩ := bind_eq_ok.mp called
      cases issued
      obtain ⟨arp, udp, tcp⟩ := issue_same env.intoRaw pushed
      exact doPushto_steps made arp udp tcp (by simp only [udpEvent, some]; rfl) rfl
  | pop qd =>
    simp only [InetStack.step] at ran
    obtain ⟨made, called, rfl⟩ := Network.map_eq_ok.mp ran
    unfold InetStack.pop at called
    split at called
    · cases called
      exact .of_none rfl rfl rfl rfl rfl
    · obtain ⟨queue, -, queued⟩ := bind_eq_ok.mp called
      cases queued
      exact .of_none rfl rfl rfl rfl rfl
    · cases called
      exact .of_none rfl rfl rfl rfl rfl

/-! ### Futures and background tasks -/

/-- A poll of a future reaches the TCP peer alone, if it reaches one. -/
theorem pollFuture_moves {future : FutureOperation} {now : Tcp.Instant} {result : Option OperationResult}
    {stack : InetStack} (ran : h.stack.pollFuture now future = .ok (result, stack)) :
    stack.arp = h.stack.arp ∧ stack.udp = h.stack.udp ∧
      ∀ accepted, ∃ accepted', stepOption (PeerRun.step env.eof env.crc env.fallbackMss)
        ⟨h.stack.tcp, accepted⟩ (h.pollEvent now future) = .ok ⟨stack.tcp, accepted'⟩ := by
  cases future with
  | accept qd newQd =>
    obtain ⟨⟨polled, tcp⟩, made, ran⟩ := bind_eq_ok.mp ran
    cases ran
    refine ⟨rfl, rfl, fun accepted => ?_⟩
    match polled, made with
    | some (.ok newQd), made => exact ⟨insert newQd accepted, bind_eq_ok.mpr ⟨_, made, rfl⟩⟩
    | some (.error fail), made => exact ⟨accepted, bind_eq_ok.mpr ⟨_, made, rfl⟩⟩
    | none, made => exact ⟨accepted, bind_eq_ok.mpr ⟨_, made, rfl⟩⟩
  | connect qd =>
    obtain ⟨⟨polled, tcp⟩, made, ran⟩ := bind_eq_ok.mp ran
    cases ran
    exact ⟨rfl, rfl, fun accepted => ⟨accepted, bind_eq_ok.mpr ⟨_, made, rfl⟩⟩⟩
  | push qd result =>
    have same : stack = h.stack := by
      cases result with
      | none =>
        cases ran
        rfl
      | some fail =>
        cases ran
        rfl
    subst same
    exact ⟨rfl, rfl, fun accepted => ⟨accepted, rfl⟩⟩
  | pop qd =>
    obtain ⟨⟨polled, tcp⟩, made, ran⟩ := bind_eq_ok.mp ran
    cases ran
    exact ⟨rfl, rfl, fun accepted => ⟨accepted, bind_eq_ok.mpr ⟨_, made, rfl⟩⟩⟩
  | udpPushto qd result =>
    cases ran
    exact ⟨rfl, rfl, fun accepted => ⟨accepted, rfl⟩⟩
  | udpPop qd =>
    cases ran
    exact ⟨rfl, rfl, fun accepted => ⟨accepted, rfl⟩⟩

/-- **A poll of a future** is a poll of the TCP peer, or touches none. -/
theorem pollFuture_steps {task : Nat} {now : Tcp.Instant} (ran : h.pollFuture task now = .ok h') :
    Steps env h (.pollFuture task now) h' := by
  unfold Host.pollFuture at ran
  split at ran
  next future scheduled pending =>
    have told : h.tcpEvent env (.pollFuture task now) = h.pollEvent now future := by
      simp only [tcpEvent, scheduled, pending]
    obtain ⟨⟨result, stack⟩, polled, ran⟩ := bind_eq_ok.mp ran
    obtain ⟨arp, udp, tcp⟩ := pollFuture_moves polled
    have moved : h'.stack = stack ∧ h'.localLinkAddr = h.localLinkAddr ∧
        h'.localIpv4Addr = h.localIpv4Addr ∧ h'.icmpv4 = h.icmpv4 := by
      cases result with
      | none =>
        rw [← Except.ok.inj ran]
        exact ⟨rfl, rfl, rfl, rfl⟩
      | some result =>
        rw [← Except.ok.inj ran]
        exact ⟨rfl, rfl, rfl, rfl⟩
    obtain ⟨rfl, link, ip, icmpv4⟩ := moved
    refine ⟨link, ip, ?_, ?_, ?_, ?_⟩
    · rw [arp]; rfl
    · rw [icmpv4]; rfl
    · rw [udp]; rfl
    · rw [told]
      exact tcp
  next idle =>
    cases ran
    refine .of_same rfl rfl rfl rfl rfl rfl rfl rfl rfl ?_
    unfold tcpEvent
    dsimp only
    split
    next future scheduled pending => exact (idle future scheduled pending).elim
    next => rfl

/-- Taking a result touches no peer. -/
theorem takeOperation_same (h : Host) (task : Nat) :
    (h.takeOperation task).2.localLinkAddr = h.localLinkAddr ∧
    (h.takeOperation task).2.localIpv4Addr = h.localIpv4Addr ∧
    (h.takeOperation task).2.icmpv4 = h.icmpv4 ∧
    (h.takeOperation task).2.stack.arp = h.stack.arp ∧
    (h.takeOperation task).2.stack.udp = h.stack.udp ∧
    (h.takeOperation task).2.stack.tcp = h.stack.tcp := by
  unfold takeOperation
  split
  · dsimp only
    split <;> exact ⟨rfl, rfl, rfl, rfl, rfl, rfl⟩
  · exact ⟨rfl, rfl, rfl, rfl, rfl, rfl⟩

/-- **A poll of a background task** of TCP. -/
theorem stepTcp_steps {task : TcpTask} {tcp : TcpPeer} (ran : h.stepTcp task = .ok tcp)
    (accepted : Finset QDesc) :
    PeerRun.step env.eof env.crc env.fallbackMss ⟨h.stack.tcp, accepted⟩ (h.taskEvent task) =
      .ok ⟨tcp, accepted⟩ := by
  cases task with
  | retryConnect key poll =>
    cases ran
    rfl
  | retryAccept localAddr remoteAddr poll =>
    cases ran
    rfl
  | background key call now => exact bind_eq_ok.mpr ⟨tcp, ran, rfl⟩

/-- **Every event of a host is at most one event of each peer.** -/
theorem step_steps (ran : h.step env event = .ok h') : Steps env h event h' := by
  cases event with
  | call call =>
    obtain ⟨stack, called, ran⟩ := bind_eq_ok.mp ran
    cases ran
    exact call_steps called
  | pollFuture task now => exact pollFuture_steps ran
  | takeOperation task =>
    cases ran
    obtain ⟨link, ip, icmpv4, arp, udp, tcp⟩ := takeOperation_same h task
    exact .of_same link ip arp icmpv4 udp tcp rfl rfl rfl rfl
  | arp task =>
    obtain ⟨arp, stepped, ran⟩ := bind_eq_ok.mp ran
    cases ran
    exact ⟨rfl, rfl, stepped, rfl, rfl, fun accepted => ⟨accepted, rfl⟩⟩
  | icmpv4 task =>
    obtain ⟨icmpv4, stepped, ran⟩ := bind_eq_ok.mp ran
    cases ran
    exact ⟨rfl, rfl, rfl, stepped, rfl, fun accepted => ⟨accepted, rfl⟩⟩
  | udp task =>
    obtain ⟨udp, stepped, ran⟩ := bind_eq_ok.mp ran
    cases ran
    exact ⟨rfl, rfl, rfl, rfl, stepped, fun accepted => ⟨accepted, rfl⟩⟩
  | tcp task =>
    obtain ⟨tcp, stepped, ran⟩ := bind_eq_ok.mp ran
    cases ran
    exact ⟨rfl, rfl, rfl, rfl, rfl, fun accepted => ⟨accepted, stepTcp_steps stepped accepted⟩⟩

end Host

end Inetstack
