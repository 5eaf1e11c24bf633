import Inetstack.Laws.Host.Frames
import Inetstack.Laws.Udp.Provenance

/-!
# Datagrams on a network of two hosts

Whatever the network does with the frames, what the user of one host reads from a UDP socket, the user of the
other has sent to the address of the socket.
-/

namespace Inetstack

open Machine (bind_eq_ok stepOption)
open Tcp (Buffer Instant Ipv4Addr MacAddress Runtime SocketAddrV4 TcpConfig)
open Udp (UdpDatagram UdpHeader UdpPeer)

/-- What the user sends to where with a call. -/
def HostEvent.pushes : HostEvent → Option (SocketAddrV4 × Buffer)
  | .call (.doPushto _ buf remoteAddr _) => some (remoteAddr, buf)
  | .call (.pushto2 _ data remoteAddr _) => some (remoteAddr, data)
  | _ => none

namespace Host

variable {env env' : Platform} {h h' a b a' b' : Host} {localLinkAddr : MacAddress}
  {localIpv4Addr : Ipv4Addr} {config : TcpConfig} {frame padding : Buffer} {event : HostEvent}
  {asked : SocketAddrV4 → Buffer → Prop} {got : SocketAddrV4 → SocketAddrV4 → Buffer → Prop}

/-- What an event of a host tells its UDP peer: no datagram, and to send what the user sends. -/
structure Tells (event : HostEvent) (e : Udp.PeerEvent) : Prop where
  silent : ∀ ipv4Hdr buf, e ≠ .receive ipv4Hdr buf
  pushes : ∀ qd data remoteAddr env, e = .pushto qd data remoteAddr env →
    event.pushes = some (remoteAddr, data)

theorem tells_other {e : Udp.PeerEvent} (silent : ∀ ipv4Hdr buf, e ≠ .receive ipv4Hdr buf)
    (other : ∀ qd data remoteAddr env, e ≠ .pushto qd data remoteAddr env) : Tells event e :=
  ⟨silent, fun qd data remoteAddr env eq => (other qd data remoteAddr env eq).elim⟩

theorem tells_pushto {qd : QDesc} {data : Buffer} {remoteAddr : SocketAddrV4} {now : Instant}
    {e : Udp.PeerEvent} (pushes : event.pushes = some (remoteAddr, data))
    (told : h.pushtoEvent qd data remoteAddr now = some e) : Tells event e := by
  unfold pushtoEvent at told
  split at told
  · cases told
    refine ⟨fun _ _ eq => (by cases eq), fun _ _ _ _ eq => ?_⟩
    cases eq
    exact pushes
  · cases told

theorem udpEvent_tells {e : Udp.PeerEvent} (told : h.udpEvent env event = some e) : Tells event e := by
  unfold udpEvent at told
  split at told
  · split at told
    · cases told
      exact tells_other (fun _ _ eq => by cases eq) fun _ _ _ _ eq => by cases eq
    · cases told
  · split at told
    · cases told
      exact tells_other (fun _ _ eq => by cases eq) fun _ _ _ _ eq => by cases eq
    · cases told
  · split at told
    · cases told
      exact tells_other (fun _ _ eq => by cases eq) fun _ _ _ _ eq => by cases eq
    · cases told
  · exact tells_pushto rfl told
  · split at told
    · cases told
    · exact tells_pushto rfl told
  next task =>
    cases told
    cases task with
    | pollPop localAddr => exact tells_other (fun _ _ eq => by cases eq) fun _ _ _ _ eq => by cases eq
    | sender reply => exact tells_other (fun _ _ eq => by cases eq) fun _ _ _ _ eq => by cases eq
  · cases told

/-- A peer that sends what it was asked to keeps to it, whatever its host is asked. -/
theorem step_asked (h₀ : h.stack.udp.Asked asked)
    (asks : ∀ remoteAddr data, event.pushes = some (remoteAddr, data) → asked remoteAddr data)
    (ran : h.step env event = .ok h') : h'.stack.udp.Asked asked := by
  have moved := (step_steps ran).udp
  cases told : h.udpEvent env event with
  | none =>
    rw [told] at moved
    rw [← Except.ok.inj moved]
    exact h₀
  | some e =>
    rw [told] at moved
    refine UdpPeer.step_asked h₀ ?_ moved
    rintro qd data remoteAddr env' rfl
    exact asks remoteAddr data ((udpEvent_tells told).pushes qd data remoteAddr env' rfl)

/-- A frame asks for nothing. -/
theorem arrive_asked (h₀ : h.stack.udp.Asked asked) {bytes : Buffer} {now : Instant}
    (ran : h.arrive env bytes now = .ok h') : h'.stack.udp.Asked asked := by
  cases arrive_arrives ran with
  | ignored => exact h₀
  | arp read etherType stepped => exact h₀
  | icmpv4 carries protocol stepped => exact h₀
  | udp carries protocol stepped =>
    refine UdpPeer.step_asked h₀ ?_ stepped
    intro qd data remoteAddr env' eq
    cases eq
  | tcp carries protocol stepped => exact h₀

/-- No event of its own is a datagram to a host. -/
theorem step_got (h₀ : h.stack.udp.Got got) (ran : h.step env event = .ok h') : h'.stack.udp.Got got := by
  have moved := (step_steps ran).udp
  cases told : h.udpEvent env event with
  | none =>
    rw [told] at moved
    rw [← Except.ok.inj moved]
    exact h₀
  | some e =>
    rw [told] at moved
    refine UdpPeer.step_got h₀ ?_ moved
    intro ipv4Hdr buf udpHdr data eq
    exact ((udpEvent_tells told).silent ipv4Hdr buf eq).elim

/-- **What arrives in a frame of a host that sends what it was asked to.** -/
theorem arrive_got (h₀ : h.stack.udp.Got got) {other : Host}
    (speaks : other.Speaks localLinkAddr localIpv4Addr config) (asks : other.stack.udp.Asked asked)
    (so : ∀ localAddr remoteAddr data, asked localAddr data → remoteAddr.ip = localIpv4Addr →
      got localAddr remoteAddr data)
    (sent : frame ∈ other.frames) {now : Instant} (ran : h.arrive env (frame ++ padding) now = .ok h') :
    h'.stack.udp.Got got := by
  cases arrive_arrives ran with
  | ignored => exact h₀
  | arp read etherType stepped => exact h₀
  | icmpv4 carries protocol stepped => exact h₀
  | tcp carries protocol stepped => exact h₀
  | @udp ipHdr data udp carries protocol stepped =>
    refine UdpPeer.step_got h₀ ?_ stepped
    intro ipv4Hdr buf udpHdr payload eq parsed
    cases eq
    cases speaks.carried sent carries with
    | icmpv4 member addresses other read => cases protocol.symm.trans other
    | tcp member addresses other read => cases protocol.symm.trans other
    | @udp datagram member addresses _ read =>
      have same : (udpHdr, payload) = (datagram.udpHdr, datagram.data) := by
        rcases read.gives_or_refuses h.stack.udp.checksumOffload with whole | refused
        · cases parsed.symm.trans whole
          rfl
        · cases parsed.symm.trans refused
      cases same
      obtain ⟨dstAddr, built⟩ := (speaks.udp.2.2 datagram member).ipv4
      refine so _ _ _ ?_ ?_
      · rw [addresses.dstAddr]
        exact asks.sent datagram member
      · change ipHdr.srcAddr = localIpv4Addr
        rw [addresses.srcAddr, built]
        rfl

theorem new_udp {setup : Setup} (made : Host.new setup = .ok h) :
    h.stack.udp =
      .new setup.shuffle setup.localLinkAddr setup.localIpv4Addr setup.udpOffloadChecksum := by
  obtain ⟨stack, madeStack, eq⟩ := bind_eq_ok.mp made
  cases eq
  obtain ⟨arp, madeArp, eq⟩ := bind_eq_ok.mp madeStack
  cases eq
  rfl

/-- A new peer has sent nothing. -/
theorem new_asked (shuffle : List UInt16 → List UInt16) (localLinkAddr : MacAddress)
    (localIpv4Addr : Ipv4Addr) (checksumOffload : Bool) :
    (UdpPeer.new shuffle localLinkAddr localIpv4Addr checksumOffload).Asked asked where
  queued _ member := absurd member List.not_mem_nil
  waiting _ waits := by cases waits
  sent _ member := absurd member List.not_mem_nil

/-- **What one user reads, the other has sent there.** On a network that drops, repeats, delays, reorders and
pads the frames of two hosts as it likes, whatever is read from a UDP socket came from the address of the
other host, and its user has asked for exactly these bytes to be sent to the address of the socket. -/
theorem datagrams_asked (env env' : Platform) (setupA setupB : Setup)
    (interface : setupA.rt.localLinkAddr = setupA.localLinkAddr) (nothing : setupA.rt.transmitted = [])
    (madeA : Host.new setupA = .ok a) (madeB : Host.new setupB = .ok b)
    (events : List (Network.Event HostEvent HostEvent Arrival))
    (ran : Machine.run (Network.step (node env) (node env')) (a, b) events = .ok (a', b'))
    (localAddr remoteAddr : SocketAddrV4) (data : Buffer) (udp : UdpPeer)
    (read : b'.stack.udp.pollPop localAddr = .ok (some (remoteAddr, data), udp)) :
    remoteAddr.ip = setupA.localIpv4Addr ∧
      ∃ event, .left event ∈ events ∧ event.pushes = some (localAddr, data) := by
  have kept : a'.Speaks setupA.localLinkAddr setupA.localIpv4Addr setupA.rt.tcpOptions ∧
      a'.stack.udp.Asked (fun remoteAddr data =>
        ∃ event, .left event ∈ events ∧ event.pushes = some (remoteAddr, data)) ∧
      b'.stack.udp.Got fun localAddr remoteAddr data => remoteAddr.ip = setupA.localIpv4Addr ∧
        ∃ event, .left event ∈ events ∧ event.pushes = some (localAddr, data) := by
    refine Network.invariant (R := fun a b =>
      a.Speaks setupA.localLinkAddr setupA.localIpv4Addr setupA.rt.tcpOptions ∧
      a.stack.udp.Asked (fun remoteAddr data =>
        ∃ event, .left event ∈ events ∧ event.pushes = some (remoteAddr, data)) ∧
      b.stack.udp.Got fun localAddr remoteAddr data => remoteAddr.ip = setupA.localIpv4Addr ∧
        ∃ event, .left event ∈ events ∧ event.pushes = some (localAddr, data)) ?_ ?_ ?_ ?_ ?_ ran
    · intro s s' t e member ⟨speaks, asked, got⟩ stepped
      exact ⟨step_speaks speaks stepped,
        step_asked asked (fun remoteAddr data pushes => ⟨e, member, pushes⟩) stepped, got⟩
    · intro s t t' e _ ⟨speaks, asked, got⟩ stepped
      exact ⟨speaks, asked, step_got got stepped⟩
    · intro s s' t frame x ⟨speaks, asked, got⟩ sent arrived
      exact ⟨arrive_speaks speaks arrived, arrive_asked asked arrived, got⟩
    · intro s t t' frame x ⟨speaks, asked, got⟩ sent arrived
      exact ⟨speaks, asked, arrive_got got speaks asked
        (fun localAddr remoteAddr data own ip => ⟨ip, own⟩) sent arrived⟩
    · refine ⟨new_speaks interface nothing madeA, new_udp madeA ▸ new_asked .., ?_⟩
      rw [new_udp madeB]
      exact fun _ _ found => by cases found
  exact (kept.2.2.pollPop read).2 _ rfl

/-- 10.0.0.1 sends twice to 10.0.0.2, before it knows the link address; the second datagram arrives first, and
is read. -/
def sampleDatagrams : List (Network.Event HostEvent HostEvent Arrival) :=
  [.left (.call (.socket AF_INET SOCK_DGRAM 0)), .left (.call (.bind 0 ⟨0x0a000001, 80⟩)),
    .right (.call (.socket AF_INET SOCK_DGRAM 0)), .right (.call (.bind 0 ⟨0x0a000002, 90⟩)),
    .left (.call (.pushto2 0 [1, 2] ⟨0x0a000002, 90⟩ 0)), .left (.call (.pushto2 0 [3] ⟨0x0a000002, 90⟩ 0)),
    .left (.udp (.sender (.ok 9))), .left (.udp (.sender (.ok 9))), .left (.udp (.sender (.ok 9))),
    .toRight 1 ⟨0, [0, 0, 0]⟩, .toRight 0 ⟨0, []⟩]

theorem datagrams_asked_second :
    ∃ a b udp, Machine.run (Network.step (node samplePlatform) (node samplePlatform))
        (sampleHost 7 0x0a000001, sampleHost 9 0x0a000002) sampleDatagrams = .ok (a, b) ∧
      b.stack.udp.pollPop ⟨0x0a000002, 90⟩ = .ok (some (⟨0x0a000001, 80⟩, [3]), udp) ∧
      ∃ event, .left event ∈ sampleDatagrams ∧ event.pushes = some (⟨0x0a000002, 90⟩, [3]) := by
  obtain ⟨⟨a, b⟩, ran, view⟩ := Machine.map_eq_ok
    (x := Machine.run (Network.step (node samplePlatform) (node samplePlatform))
      (sampleHost 7 0x0a000001, sampleHost 9 0x0a000002) sampleDatagrams)
    (fun s => (s.2.stack.udp.pollPop ⟨0x0a000002, 90⟩).toOption.bind Prod.fst)
    (t := some (⟨0x0a000001, 80⟩, [3])) (by decide +kernel)
  cases popped : b.stack.udp.pollPop ⟨0x0a000002, 90⟩ with
  | error fault =>
    rw [popped] at view
    cases view
  | ok result =>
    obtain ⟨msg, udp⟩ := result
    rw [popped] at view
    cases view
    refine ⟨a, b, udp, ran, popped, ?_⟩
    exact (datagrams_asked samplePlatform samplePlatform (InetStack.sampleSetup 7 0x0a000001)
      (InetStack.sampleSetup 9 0x0a000002) rfl rfl (new_sampleHost 7 0x0a000001)
      (new_sampleHost 9 0x0a000002) sampleDatagrams ran _ _ _ udp popped).2

end Host

end Inetstack
