import Inetstack.InetStack
import Inetstack.Laws.Arp.Peer
import Inetstack.Laws.Tcp.Sockets
import Inetstack.Laws.Udp.Datagram
import Inetstack.Laws.Udp.Deferred

/-!
# Socket calls that panic

Without polling there are no connections, and the background sender of the UDP peer does not hold the
send queue. So every socket call returns, but for `pop` on a UDP descriptor without a bound address: one
that was never bound, or one that a `close` has taken out of the table of sockets before it failed.

A build with overflow checks panics on two sums besides: that of the initial sequence number in `connect`,
and the total length in the IPv4 header of a datagram that is sent at once.
-/

namespace Inetstack

open Machine (bind_eq_ok)
open Tcp (Buffer Env Fail Fault Instant Ipv4Addr MacAddress SocketAddrV4 TcpPeer length_toBeBytes toBeBytes)
open Udp (SharedQueueSlot UDP_HEADER_SIZE UdpDatagram UdpHeader UdpPeer)

/-- The buffer a call is handed. -/
def StackCall.buffer : StackCall → Buffer
  | .doPush _ buf _ => buf
  | .push2 _ data _ => data
  | .doPushto _ buf _ _ => buf
  | .pushto2 _ data _ _ => data
  | _ => []

/-! ## TCP without connections -/

namespace Tcp.TcpPeer

variable {p : TcpPeer}

/-- No connection has been set up. -/
def Unconnected (p : TcpPeer) : Prop := ∀ key, p.established.lookup key = none

/-- None of the calls enters a connection: connections are entered by polls only. -/
theorem established_doSocket (p : TcpPeer) (qd : QDesc) : (p.doSocket qd).2.established = p.established := by
  unfold doSocket
  split
  · rfl
  · rfl

theorem established_bind (p : TcpPeer) (qd : QDesc) (addr : SocketAddrV4) :
    (p.bind qd addr).2.established = p.established := by
  unfold bind
  split
  · rfl
  split
  · rfl
  split
  · rfl
  · rfl
  · rfl

theorem established_listen (p : TcpPeer) (qd : QDesc) (backlog : Nat) (nonce : UInt32) :
    (p.listen qd backlog nonce).2.established = p.established := by
  unfold listen
  split
  next =>
    split
    · rfl
    · rfl
  all_goals rfl

theorem established_connect (crc : List UInt8 → UInt32) (p : TcpPeer) (qd : QDesc)
    (remoteAddr : SocketAddrV4) : (p.connect crc qd remoteAddr).2.established = p.established := by
  unfold connect
  split
  next =>
    split
    · rfl
    · rfl
  all_goals rfl

/-- With nothing entered, `close` fails and leaves the connections as they are. -/
theorem doClose_unconnected (h : p.Unconnected) (qd : QDesc) (env : Env) :
    ∃ fail p', p.doClose qd env = .ok (.error fail, p') ∧ p'.established = p.established := by
  unfold doClose
  split
  next localAddr remoteAddr found =>
    rw [h (localAddr, remoteAddr)]
    exact ⟨_, _, rfl, rfl⟩
  next => exact ⟨_, _, rfl, rfl⟩
  next => exact ⟨_, _, rfl, rfl⟩

/-- With nothing entered, there is nothing to send on. -/
theorem send_unconnected (h : p.Unconnected) (fd : QDesc) (buf : Buffer) (env : Env) :
    ∃ fail, p.send fd buf env = .ok (.error fail, p) := by
  have refused (other : Socket → Fail) : ∃ fail, p.connection fd other = .error fail := by
    unfold connection
    split
    next localAddr remoteAddr found =>
      rw [h (localAddr, remoteAddr)]
      exact ⟨_, rfl⟩
    next => exact ⟨_, rfl⟩
    next => exact ⟨_, rfl⟩
  obtain ⟨fail, none⟩ := refused fun _ => { errno := .ENOTCONN, cause := "connection not established" }
  refine ⟨fail, ?_⟩
  unfold send
  rw [none]

end Tcp.TcpPeer

/-! ## UDP without polls -/

namespace Udp

namespace UdpPeer

variable {p p' : UdpPeer} {qd : QDesc}

/-- The tables are sound, and nobody holds the send queue. -/
structure Unpolled (p : UdpPeer) : Prop where
  sound : p.Sound
  counted : p.sendQueue.Counted
  released : p.sendQueue.borrowed = false

/-- A new UDP peer is unpolled, since its ports are a permutation of the private ones. -/
theorem Unpolled.new {shuffle : List UInt16 → List UInt16} (perm : ∀ l, (shuffle l).Perm l)
    (localLinkAddr : MacAddress) (localIpv4Addr : Ipv4Addr) (checksumOffload : Bool) :
    (UdpPeer.new shuffle localLinkAddr localIpv4Addr checksumOffload).Unpolled := by
  set start := UdpPeer.new shuffle localLinkAddr localIpv4Addr checksumOffload
  have ran : Machine.run step start [] = .ok start := rfl
  exact ⟨run_sound perm ran, .new (by decide), rfl⟩

/-- A call that leaves the send queue alone. -/
theorem Unpolled.keep (h : p.Unpolled) {event : PeerEvent} (stepped : p.step event = .ok p')
    (queue : p'.sendQueue = p.sendQueue) : p'.Unpolled := by
  refine ⟨step_sound h.sound stepped, ?_, ?_⟩
  · rw [queue]
    exact h.counted
  · rw [queue]
    exact h.released

theorem Unpolled.doSocket (h : p.Unpolled) (qd : QDesc) : (p.doSocket qd).2.Unpolled := by
  have stepped : p.step (.socket qd) = .ok (p.doSocket qd).2 := rfl
  refine h.keep stepped ?_
  unfold UdpPeer.doSocket
  split
  · rfl
  · rfl

theorem Unpolled.doBind (h : p.Unpolled) (qd : QDesc) (addr : SocketAddrV4) :
    (p.doBind qd addr).2.Unpolled := by
  have stepped : p.step (.bind qd addr) = .ok (p.doBind qd addr).2 := rfl
  refine h.keep stepped ?_
  obtain ⟨fail, ports, -, ran⟩ | ⟨got, ports, -, -, -, -, ran⟩ := doBind_cases h.sound qd addr
  · rw [ran]
  · rw [ran]

theorem Unpolled.doClose (h : p.Unpolled) (qd : QDesc) : (p.doClose qd).2.Unpolled := by
  have stepped : p.step (.close qd) = .ok (p.doClose qd).2 := rfl
  refine h.keep stepped ?_
  obtain ⟨fail, -, ran⟩ | ⟨fail, -, ran⟩ | ⟨addr, -, ran⟩ := doClose_cases h.sound qd
  · rw [ran]
  · rw [ran]
  · rw [ran]

/-- The datagram that `do_pushto` transmits at once. -/
def sends (p : UdpPeer) (qd : QDesc) (data : Buffer) (remoteAddr : SocketAddrV4)
    (remoteLinkAddr : Option MacAddress) : Option UdpDatagram :=
  match p.sockets.lookup qd, remoteLinkAddr with
  | some (some localAddr), some linkAddr => some (p.datagram ⟨localAddr, remoteAddr, data⟩ linkAddr)
  | _, _ => none

/-- **A datagram is refused, transmitted or queued**, and the send queue always has room. -/
theorem Unpolled.doPushto (h : p.Unpolled) (qd : QDesc) (data : Buffer) (remoteAddr : SocketAddrV4)
    (env : Env) :
    ∃ result p', p.doPushto qd data remoteAddr env = .ok (result, p') ∧ p'.Unpolled ∧
      p'.transmitted = p.transmitted ++ (p.sends qd data remoteAddr env.remoteLinkAddr).toList := by
  have sound {result : Except Fail Unit} {p' : UdpPeer}
      (ran : p.doPushto qd data remoteAddr env = .ok (result, p')) : p'.Sound := h.sound.kept (.doPushto ran)
  unfold sends
  split
  next localAddr linkAddr found resolved =>
    have ran : p.doPushto qd data remoteAddr env =
        .ok (.ok (), p.doSend ⟨localAddr, remoteAddr, data⟩ linkAddr) := by
      unfold UdpPeer.doPushto
      rw [found, resolved]
    exact ⟨_, _, ran, ⟨sound ran, h.counted, h.released⟩, rfl⟩
  next other =>
    rw [Option.toList_none, List.append_nil]
    by_cases bound : ∃ localAddr, p.sockets.lookup qd = some (some localAddr)
    · obtain ⟨localAddr, found⟩ := bound
      have unresolved : env.remoteLinkAddr = none := by
        cases known : env.remoteLinkAddr with
        | none => rfl
        | some linkAddr => exact (other localAddr linkAddr found known).elim
      have ran : p.doPushto qd data remoteAddr env = .ok (.ok (), _) :=
        doPushto_deferred h.counted found unresolved fun _ => h.released
      exact ⟨_, _, ran, ⟨sound ran, h.counted.pushed, h.released⟩, rfl⟩
    · obtain ⟨fail, ran⟩ : ∃ fail, p.doPushto qd data remoteAddr env = .ok (.error fail, p) :=
        doPushto_unbound (not_exists.mp bound)
      exact ⟨_, _, ran, h, rfl⟩

/-- A pop future can be made exactly for a bound socket. -/
theorem doPop_cases (h : p.Sound) (qd : QDesc) :
    (p.sockets.lookup qd).join = none ∧ p.doPop qd = .error .invalidQueueDescriptor ∨
    ∃ addr queue, (p.sockets.lookup qd).join = some addr ∧ p.doPop qd = .ok queue := by
  unfold doPop
  split
  next localAddr found =>
    obtain ⟨queue, known⟩ := Option.isSome_iff_exists.mp (h.queues qd localAddr found)
    rw [known, found]
    exact .inr ⟨localAddr, queue, rfl, rfl⟩
  next other =>
    refine .inl ⟨?_, rfl⟩
    cases found : p.sockets.lookup qd with
    | none => rfl
    | some socket =>
      cases socket with
      | none => rfl
      | some localAddr => exact (other localAddr found).elim

end UdpPeer

/-! ## Frames -/

/-- The sum of a checksum fits for every buffer below 64 KiB. -/
theorem UdpHeader.overflows_eq (h : UdpHeader) (ipv4Hdr : Ipv4.Ipv4Header) {data : Buffer}
    (short : data.length < 65536) : h.overflows ipv4Hdr data = false := by
  have src := Bytes.wordSum_le (Ipv4Addr.octets ipv4Hdr.srcAddr)
  have dst := Bytes.wordSum_le (Ipv4Addr.octets ipv4Hdr.dstAddr)
  have protocol := Bytes.wordSum_le [0, Ip.IpProtocol.udp.toU8]
  have header := Bytes.wordSum_le (toBeBytes 2 h.srcPort.toNat ++ toBeBytes 2 h.destPort.toNat ++
    toBeBytes 2 (UInt16.ofNat (UDP_HEADER_SIZE + data.length)).toNat)
  have text := Bytes.wordSum_le data
  rw [show (Ipv4Addr.octets ipv4Hdr.srcAddr).length = 4 from rfl] at src
  rw [show (Ipv4Addr.octets ipv4Hdr.dstAddr).length = 4 from rfl] at dst
  rw [List.length_append, List.length_append, length_toBeBytes, length_toBeBytes, length_toBeBytes]
    at header
  simp only [List.length_cons, List.length_nil] at protocol
  refine decide_eq_false (Nat.not_le_of_lt ?_)
  simp only [UDP_HEADER_SIZE] at header ⊢
  omega

/-- Of the buffers below 64 KiB, these have a total length that does not fit. -/
theorem UdpDatagram.overflows_iff {datagram : UdpDatagram} (short : datagram.data.length < 65536) :
    datagram.overflows = true ↔ 65508 ≤ datagram.data.length ∧ datagram.data.length ≤ 65527 := by
  have sum := UdpHeader.overflows_eq datagram.udpHdr datagram.ipv4Hdr short
  simp only [overflows, sum, Bool.and_false, Bool.or_false, Ipv4.Ipv4Header.overflows, decide_eq_true_eq]
  change 65536 ≤ 20 + (8 + datagram.data.length) % 65536 ↔ _
  omega

end Udp

namespace InetStack

/-- The runtime writes the frame, unless a length does not fit and the build checks. -/
theorem transmit_cases (overflowChecks : Bool) (datagram : UdpDatagram) :
    (overflowChecks && datagram.overflows) = true ∧
      transmit overflowChecks datagram = .error .arithmeticOverflow ∨
    ∃ frame, (overflowChecks && datagram.overflows) = false ∧
      transmit overflowChecks datagram = .ok frame := by
  unfold transmit
  split
  next tooLong => exact .inl ⟨tooLong, rfl⟩
  next fits =>
    have room : datagram.headerSize ≤ (List.replicate datagram.headerSize (0 : UInt8)).length := by
      rw [List.length_replicate]
    obtain ⟨sum, -, wrote⟩ := UdpDatagram.writeHeader_eq room
    rw [wrote]
    exact .inr ⟨_, Bool.eq_false_of_not_eq_true fits, rfl⟩

/-- What a call transmits, at most one datagram. -/
theorem transmit_all_cases (overflowChecks : Bool) (sent : Option UdpDatagram) :
    (overflowChecks && sent.any UdpDatagram.overflows) = true ∧
      (∃ fault, sent.toList.mapM (transmit overflowChecks) = .error fault) ∨
    ∃ frames, (overflowChecks && sent.any UdpDatagram.overflows) = false ∧
      sent.toList.mapM (transmit overflowChecks) = .ok frames := by
  cases sent with
  | none => exact .inr ⟨[], Bool.and_false _, rfl⟩
  | some datagram =>
    rw [Option.toList_some, List.mapM_cons, List.mapM_nil]
    obtain ⟨tooLong, failed⟩ | ⟨frame, fits, wrote⟩ := transmit_cases overflowChecks datagram
    · rw [failed]
      exact .inl ⟨tooLong, _, rfl⟩
    · rw [wrote]
      exact .inr ⟨[frame], fits, rfl⟩

/-! ## Calls -/

variable {s s' : InetStack} {bad : Bool}

/-- The invariant of a stack that is not polled. -/
structure Unpolled (s : InetStack) : Prop where
  tcp : s.tcp.Unconnected
  udp : s.udp.Unpolled

/-- A call panics exactly if it is a bad one, and otherwise keeps the invariant. -/
def Settles (bad : Bool) : Except Fault InetStack → Prop
  | .ok s' => bad = false ∧ s'.Unpolled
  | .error _ => bad = true

/-- A TCP peer with the same connections may take the place of that of the stack. -/
theorem Unpolled.withTcp (h : s.Unpolled) {tcp : TcpPeer} (same : tcp.established = s.tcp.established) :
    Unpolled { s with tcp := tcp } := by
  refine ⟨?_, h.udp⟩
  intro key
  change tcp.established.lookup key = none
  rw [same]
  exact h.tcp key

/-- And an unpolled UDP peer may take the place of that of the stack. -/
theorem Unpolled.withUdp (h : s.Unpolled) {udp : UdpPeer} (unpolled : udp.Unpolled) :
    Unpolled { s with udp := udp } := ⟨h.tcp, unpolled⟩

section

variable (overflowChecks : Bool) (alloc : IoQueueTable → QDesc) (intoRaw : List FutureOperation → QToken)
  (crc : List UInt8 → UInt32)

theorem Unpolled.schedule (h : s.Unpolled) (future : FutureOperation) :
    (s.schedule intoRaw future).2.Unpolled := ⟨h.tcp, h.udp⟩

theorem Unpolled.socket (h : s.Unpolled) (domain socketType protocol : Int) :
    (s.socket alloc domain socketType protocol).2.Unpolled := by
  unfold InetStack.socket
  split
  · exact h
  split
  · have opened := h.withTcp (s.tcp.established_doSocket (alloc s.fileTable))
    dsimp only
    split
    next ran =>
      rw [ran] at opened
      exact ⟨opened.tcp, opened.udp⟩
    next ran =>
      rw [ran] at opened
      exact ⟨opened.tcp, opened.udp⟩
  split
  · have opened := h.udp.doSocket (alloc s.fileTable)
    dsimp only
    split
    next ran =>
      rw [ran] at opened
      exact ⟨h.tcp, opened⟩
    next ran =>
      rw [ran] at opened
      exact ⟨h.tcp, opened⟩
  · exact h

theorem Unpolled.bind (h : s.Unpolled) (qd : QDesc) (localAddr : SocketAddrV4) :
    (s.bind qd localAddr).2.Unpolled := by
  unfold InetStack.bind
  split
  · exact h.withTcp (s.tcp.established_bind qd localAddr)
  · exact h.withUdp (h.udp.doBind qd localAddr)
  · exact h

theorem Unpolled.listen (h : s.Unpolled) (qd : QDesc) (backlog : Nat) (nonce : UInt32) :
    (s.listen qd backlog nonce).2.Unpolled := by
  unfold InetStack.listen
  split
  · exact h
  split
  · exact h.withTcp (s.tcp.established_listen qd backlog nonce)
  · exact h
  · exact h

theorem Unpolled.accept (h : s.Unpolled) (qd : QDesc) : (s.accept alloc intoRaw qd).2.Unpolled := by
  unfold InetStack.accept
  split
  · exact ⟨h.tcp, h.udp⟩
  · exact h
  · exact h

/-- The sum of the initial sequence number does not fit. -/
def overrunsIsn (s : InetStack) (qd : QDesc) (remoteAddr : SocketAddrV4) : Bool :=
  s.fileTable.lookup qd == some .tcpSocket &&
    (s.tcp.connectFrom qd).any fun localAddr => s.tcp.isnGenerator.overflows crc localAddr remoteAddr

/-- `connect` panics in the sum of the initial sequence number, and nowhere else. -/
theorem connect_settles (h : s.Unpolled) (qd : QDesc) (remoteAddr : SocketAddrV4) :
    Settles (overflowChecks && s.overrunsIsn crc qd remoteAddr)
      ((s.connect overflowChecks intoRaw crc qd remoteAddr).map (·.2)) := by
  unfold overrunsIsn connect
  split
  next found =>
    rw [found]
    have attempted := h.withTcp (s.tcp.established_connect crc qd remoteAddr)
    dsimp only
    split
    next overflows => exact overflows
    next fits =>
      have calm := Bool.eq_false_of_not_eq_true fits
      split
      next ran =>
        rw [ran] at attempted
        exact ⟨calm, attempted⟩
      next ran =>
        rw [ran] at attempted
        exact ⟨calm, attempted.schedule intoRaw _⟩
  next found =>
    rw [found]
    exact ⟨Bool.and_false _, h⟩
  next found =>
    rw [found]
    exact ⟨Bool.and_false _, h⟩

/-- `close` does not panic before there are connections. -/
theorem close_settles (h : s.Unpolled) (qd : QDesc) (now : Instant) :
    Settles false ((s.close qd now).map (·.2)) := by
  unfold close
  cases s.fileTable.lookup qd with
  | none => exact ⟨rfl, h⟩
  | some qtype =>
    cases qtype with
    | tcpSocket =>
      obtain ⟨fail, tcp, ran, same⟩ := TcpPeer.doClose_unconnected h.tcp qd (s.envFor qd now)
      dsimp only
      rw [ran]
      exact ⟨rfl, h.withTcp same⟩
    | udpSocket =>
      have closed := h.withUdp (h.udp.doClose qd)
      dsimp only
      rcases ran : s.udp.doClose qd with ⟨result, udp⟩
      rw [ran] at closed
      cases result with
      | error fail => exact ⟨rfl, closed⟩
      | ok => exact ⟨rfl, closed.tcp, closed.udp⟩

/-- `do_push` finds no connection to send on, and fails. -/
theorem doPush_settles (h : s.Unpolled) (qd : QDesc) (buf : Buffer) (now : Instant) :
    Settles false ((s.doPush qd buf now).map (·.2)) := by
  unfold doPush
  split
  · obtain ⟨fail, ran⟩ := TcpPeer.send_unconnected h.tcp qd buf (s.envFor qd now)
    rw [ran]
    exact ⟨rfl, h⟩
  · exact ⟨rfl, h⟩
  · exact ⟨rfl, h⟩

/-- The future of a call goes to the scheduler, and the peers hear nothing of it. -/
theorem Settles.issue {ran : Except Fault (Except Fail FutureOperation × InetStack)}
    (settles : Settles bad (ran.map (·.2))) :
    Settles bad ((ran >>= fun made => .ok (InetStack.issue intoRaw made)).map (·.2)) := by
  cases ran with
  | error fault => exact settles
  | ok made =>
    obtain ⟨result, s'⟩ := made
    cases result with
    | error fail => exact settles
    | ok future => exact ⟨settles.1, settles.2.schedule intoRaw future⟩

theorem push2_settles (h : s.Unpolled) (qd : QDesc) (data : Buffer) (now : Instant) :
    Settles false ((s.push2 intoRaw qd data now).map (·.2)) := by
  unfold push2
  split
  · exact ⟨rfl, h⟩
  · exact (doPush_settles h qd data now).issue intoRaw

/-- A datagram that is sent at once and whose total length does not fit. -/
def overrunsLength (s : InetStack) (qd : QDesc) (data : Buffer) (remoteAddr : SocketAddrV4) : Bool :=
  s.fileTable.lookup qd == some .udpSocket && (s.udp.sockets.lookup qd).join.isSome &&
    (s.arp.tryQuery remoteAddr.ip).isSome && decide (65508 ≤ data.length ∧ data.length ≤ 65527)

/-- Whether a length does not fit is a property of the datagram that would be sent. -/
theorem overrunsLength_eq {qd : QDesc} {data : Buffer} (short : data.length < 65536)
    (found : s.fileTable.lookup qd = some .udpSocket) (remoteAddr : SocketAddrV4) :
    s.overrunsLength qd data remoteAddr =
      (s.udp.sends qd data remoteAddr (s.arp.tryQuery remoteAddr.ip)).any UdpDatagram.overflows := by
  unfold overrunsLength UdpPeer.sends
  rw [found]
  cases s.udp.sockets.lookup qd with
  | none => rfl
  | some socket =>
    cases socket with
    | none => rfl
    | some localAddr =>
      cases s.arp.tryQuery remoteAddr.ip with
      | none => rfl
      | some linkAddr =>
        have fits : (s.udp.datagram ⟨localAddr, remoteAddr, data⟩ linkAddr).overflows = true ↔ _ :=
          UdpDatagram.overflows_iff short
        change decide (65508 ≤ data.length ∧ data.length ≤ 65527) = UdpDatagram.overflows _
        rw [Bool.eq_iff_iff, decide_eq_true_iff, fits]
        exact Iff.rfl

/-- `do_pushto` panics in a length of the datagram, and nowhere else. -/
theorem doPushto_settles (h : s.Unpolled) (qd : QDesc) {buf : Buffer} (short : buf.length < 65536)
    (remoteAddr : SocketAddrV4) (now : Instant) :
    Settles (overflowChecks && s.overrunsLength qd buf remoteAddr)
      ((s.doPushto overflowChecks qd buf remoteAddr now).map (·.2)) := by
  unfold doPushto
  split
  next found =>
    obtain ⟨result, udp, ran, unpolled, transmitted⟩ := h.udp.doPushto qd buf remoteAddr
      { now := now, remoteLinkAddr := s.arp.tryQuery remoteAddr.ip }
    have sent : udp.transmitted.drop s.udp.transmitted.length =
        (s.udp.sends qd buf remoteAddr (s.arp.tryQuery remoteAddr.ip)).toList := by
      rw [transmitted, List.drop_left]
    rw [ran, overrunsLength_eq short found]
    simp only [Bind.bind, Except.bind]
    rw [sent]
    obtain ⟨tooLong, fault, failed⟩ | ⟨frames, fits, wrote⟩ := transmit_all_cases overflowChecks
      (s.udp.sends qd buf remoteAddr (s.arp.tryQuery remoteAddr.ip))
    · rw [failed]
      exact tooLong
    · rw [wrote]
      exact ⟨fits, h.tcp, unpolled⟩
  next found =>
    rw [overrunsLength, found]
    exact ⟨Bool.and_false _, h⟩
  next found =>
    rw [overrunsLength, found]
    exact ⟨Bool.and_false _, h⟩

theorem pushto2_settles (h : s.Unpolled) (qd : QDesc) {data : Buffer} (short : data.length < 65536)
    (remoteAddr : SocketAddrV4) (now : Instant) :
    Settles (overflowChecks && s.overrunsLength qd data remoteAddr)
      ((s.pushto2 overflowChecks intoRaw qd data remoteAddr now).map (·.2)) := by
  unfold pushto2
  split
  next empty =>
    have none : data = [] := List.isEmpty_iff.mp empty
    have fits : s.overrunsLength qd data remoteAddr = false := by
      simp [overrunsLength, none]
    rw [fits]
    exact ⟨Bool.and_false _, h⟩
  next => exact (doPushto_settles overflowChecks h qd short remoteAddr now).issue intoRaw

/-- A UDP descriptor without a bound address. -/
def unbound (s : InetStack) (qd : QDesc) : Bool :=
  s.fileTable.lookup qd == some .udpSocket && (s.udp.sockets.lookup qd).join.isNone

/-- `pop` panics on a UDP descriptor without an address. -/
theorem pop_settles (h : s.Unpolled) (qd : QDesc) :
    Settles (s.unbound qd) ((s.pop intoRaw qd).map (·.2)) := by
  unfold pop unbound
  split
  next found =>
    rw [found]
    exact ⟨rfl, h.schedule intoRaw _⟩
  next found =>
    rw [found]
    obtain ⟨none, ran⟩ | ⟨addr, queue, bound, ran⟩ := UdpPeer.doPop_cases h.udp.sound qd
    · rw [none, ran]
      rfl
    · rw [bound, ran]
      exact ⟨rfl, h.schedule intoRaw _⟩
  next found =>
    rw [found]
    exact ⟨rfl, h⟩

/-! ## Runs -/

/-- The calls that panic: `pop` on a UDP descriptor without an address and, in a build with overflow
checks, two sums. -/
def panics (s : InetStack) : StackCall → Bool
  | .pop qd => s.unbound qd
  | .connect qd remoteAddr => overflowChecks && s.overrunsIsn crc qd remoteAddr
  | .doPushto qd buf remoteAddr _ => overflowChecks && s.overrunsLength qd buf remoteAddr
  | .pushto2 qd data remoteAddr _ => overflowChecks && s.overrunsLength qd data remoteAddr
  | _ => false

/-- **Every call** returns an unpolled stack, or panics where `panics` says so. -/
theorem step_settles (h : s.Unpolled) {call : StackCall} (short : call.buffer.length < 65536) :
    Settles (s.panics overflowChecks crc call) (s.step overflowChecks alloc intoRaw crc call) := by
  cases call with
  | socket domain socketType protocol => exact ⟨rfl, h.socket alloc domain socketType protocol⟩
  | bind qd localAddr => exact ⟨rfl, h.bind qd localAddr⟩
  | listen qd backlog nonce => exact ⟨rfl, h.listen qd backlog nonce⟩
  | accept qd => exact ⟨rfl, h.accept alloc intoRaw qd⟩
  | connect qd remoteAddr => exact connect_settles overflowChecks intoRaw crc h qd remoteAddr
  | close qd now => exact close_settles h qd now
  | doPush qd buf now => exact doPush_settles h qd buf now
  | push2 qd data now => exact push2_settles intoRaw h qd data now
  | doPushto qd buf remoteAddr now => exact doPushto_settles overflowChecks h qd short remoteAddr now
  | pushto2 qd data remoteAddr now =>
    exact pushto2_settles overflowChecks intoRaw h qd short remoteAddr now
  | pop qd => exact pop_settles intoRaw h qd

/-- A new stack is unpolled. -/
theorem Unpolled.new {setup : Setup} (perm : ∀ l, (setup.shuffle l).Perm l)
    (made : InetStack.new setup = .ok s) : s.Unpolled := by
  obtain ⟨arp, -, made⟩ := bind_eq_ok.mp made
  cases made
  refine ⟨?_, .new perm setup.localLinkAddr setup.localIpv4Addr setup.udpOffloadChecksum⟩
  intro key
  rfl

/-- **Socket calls that panic.** From a new stack, and without polling, every call of a sequence returns
exactly when none of them is a `pop` on a UDP descriptor without an address or, in a build with overflow
checks, a call with one of the two sums that do not fit. -/
theorem calls_return_iff {setup : Setup} (perm : ∀ l, (setup.shuffle l).Perm l) {s₀ : InetStack}
    (made : InetStack.new setup = .ok s₀) {calls : List StackCall}
    (short : ∀ call ∈ calls, call.buffer.length < 65536) :
    (∃ s, Machine.run (step overflowChecks alloc intoRaw crc) s₀ calls = .ok s) ↔
      Machine.Admits (step overflowChecks alloc intoRaw crc)
        (fun s call => s.panics overflowChecks crc call = false) s₀ calls := by
  refine Machine.run_ok_iff_admits_of_forall Unpolled (fun call => call.buffer.length < 65536) _
    ?_ ?_ (.new perm made) short
  · intro s call s' h short stepped
    have settles := step_settles overflowChecks alloc intoRaw crc h short
    rw [stepped] at settles
    exact settles.2
  · intro s call h short
    have settles := step_settles overflowChecks alloc intoRaw crc h short
    cases stepped : s.step overflowChecks alloc intoRaw crc call with
    | ok s' =>
      rw [stepped] at settles
      exact iff_of_true ⟨s', rfl⟩ settles.1
    | error fault =>
      rw [stepped] at settles
      refine iff_of_false ?_ ?_
      · rintro ⟨s', returned⟩
        cases returned
      · intro calm
        cases settles.symm.trans calm

end

/-- The lowest descriptor that is not open. -/
def sampleAlloc (fileTable : IoQueueTable) : QDesc :=
  ((List.range (fileTable.entries.length + 1)).find? fun qd => (fileTable.lookup qd).isNone).getD 0

/-- A host with a link address and an address, that knows no other. -/
def sampleSetup (localLinkAddr : MacAddress) (localIpv4Addr : Ipv4Addr) : Setup where
  shuffle := id
  now := 0
  localLinkAddr := localLinkAddr
  localIpv4Addr := localIpv4Addr
  arpOptions := Arp.ArpPeer.sampleConfig
  nonce := 0
  rt := ⟨localLinkAddr, Tcp.sampleConfig, []⟩
  udpOffloadChecksum := false

/-- The stack of `sampleSetup 7 0x0a000001`. -/
def sampleStack : InetStack where
  arp := .samplePeer
  tcp := .new id 0 ⟨7, Tcp.sampleConfig, []⟩ 0x0a000001
  udp := .new id 7 0x0a000001 false
  fileTable := ∅
  scheduled := []
  outgoing := []

/-- A socket of each type. The first is bound before it is popped, and nothing is closed. -/
def sampleCalls : List StackCall :=
  [.socket AF_INET SOCK_DGRAM 0, .bind 0 ⟨0x0a000001, 80⟩, .pop 0, .pushto2 0 [7] ⟨0x0a000002, 90⟩ 0,
    .socket AF_INET SOCK_STREAM 0, .accept 1, .bind 1 ⟨0x0a000001, 80⟩, .connect 1 ⟨0x0a000002, 90⟩,
    .push2 1 [7] 0, .pop 1, .close 1 0, .pop 1, .close 3 0]

/-- Thirteen calls, all of which return in a build with overflow checks. -/
theorem calls_return_iff_bound :
    ∃ s, Machine.run (step true sampleAlloc List.length fun _ => 500) sampleStack sampleCalls = .ok s := by
  have made : InetStack.new (sampleSetup 7 0x0a000001) = .ok sampleStack := rfl
  have calm : Machine.admits (step true sampleAlloc List.length fun _ => 500)
      (fun s call => !s.panics true (fun _ => 500) call) sampleStack sampleCalls = true := by
    decide +kernel
  have admits := Machine.Admits.of_admits calm
  simp only [Bool.not_eq_true'] at admits
  refine (calls_return_iff true sampleAlloc List.length (fun _ => 500) (fun l => .refl l) made ?_).mpr admits
  decide

/-- `pop` on a socket that was never bound, and on one whose `close` has failed. In a build with overflow
checks, the second `connect` where the digest is as large as can be. -/
theorem calls_panic :
    ∃ s₀, InetStack.new (sampleSetup 7 0x0a000001) = .ok s₀ ∧
      Machine.run (step false sampleAlloc List.length fun _ => 500) s₀
        [.socket AF_INET SOCK_DGRAM 0, .pop 0] = .error .invalidQueueDescriptor ∧
      Machine.run (step false sampleAlloc List.length fun _ => 500) s₀
        [.socket AF_INET SOCK_DGRAM 0, .close 0 0, .pop 0] = .error .invalidQueueDescriptor ∧
      (Machine.run (step true sampleAlloc List.length fun _ => 0xffffffff) s₀
        [.socket AF_INET SOCK_STREAM 0, .bind 0 ⟨0x0a000001, 80⟩, .connect 0 ⟨0x0a000002, 90⟩,
          .socket AF_INET SOCK_STREAM 0, .bind 1 ⟨0x0a000001, 81⟩, .connect 1 ⟨0x0a000002, 90⟩]).map
        (fun _ => ()) = .error .arithmeticOverflow :=
  ⟨sampleStack, rfl, rfl, rfl, by decide +kernel⟩

end InetStack

end Inetstack
