import Inetstack.Laws.Tcp.Established.Emission
import Inetstack.Laws.Tcp.Sockets
import Inetstack.Laws.Tcp.Wire

/-!
# The checksums of what a peer transmits

A connection takes the transmit option for its segments; the handshakes of both sides and the RST take
the receive option in its place. So a peer that is to write checksums does, on every path, exactly when
it also verifies them.
-/

namespace Inetstack.Tcp

open Machine (bind_eq_ok)

/-- The segment is written with a checksum that the decoder accepts when it verifies. -/
def TcpSegment.Accepted (eof : Fail) (segment : TcpSegment) : Prop :=
  ∀ buf : Buffer, buf.length = segment.tcpHdr.computeSize →
    ∃ tcp, segment.tcpHdr.serialize buf segment.ipv4 segment.data segment.txChecksumOffload = .ok tcp ∧
      TcpHeader.parse eof segment.ipv4 (tcp ++ segment.data) false =
        pure (segment.tcpHdr, segment.data)

/-- A segment as one of the paths builds it: without options or with the two of a handshake, and with
one of the two checksum options. -/
structure TcpSegment.Sent (config : TcpConfig) (segment : TcpSegment) : Prop where
  options : segment.tcpHdr.optionList = [] ∨ ∃ mss scale,
    segment.tcpHdr.optionList = [.maximumSegmentSize mss, .windowScale scale]
  offload : segment.txChecksumOffload = config.txChecksumOffload ∨
    segment.txChecksumOffload = config.rxChecksumOffload

/-- A header with the options of one of the paths. -/
theorem TcpSegment.Sent.shape {config : TcpConfig} {segment : TcpSegment} (sent : segment.Sent config) :
    segment.tcpHdr.computeSize ≤ MAX_TCP_HEADER_SIZE ∧
      segment.tcpHdr.optionList.length ≤ MAX_TCP_OPTIONS ∧
      ∀ option ∈ segment.tcpHdr.optionList, option.WellFormed := by
  rw [TcpHeader.computeSize]
  rcases sent.options with none | ⟨mss, scale, two⟩
  · rw [none]
    simp [MIN_TCP_HEADER_SIZE, MAX_TCP_HEADER_SIZE, MAX_TCP_OPTIONS]
  · rw [two]
    simp [TcpOptions2.computeSize, TcpOptions2.WellFormed, MIN_TCP_HEADER_SIZE, MAX_TCP_HEADER_SIZE,
      MAX_TCP_OPTIONS]

/-- **What is sent is accepted**, where neither side leaves the checksum to its device. -/
theorem TcpSegment.Sent.accepted (eof : Fail) {config : TcpConfig} {segment : TcpSegment}
    (sent : segment.Sent config) (tx : config.txChecksumOffload = false)
    (rx : config.rxChecksumOffload = false) : segment.Accepted eof := by
  have checksummed : segment.txChecksumOffload = false := by
    rcases sent.offload with same | same
    · exact same.trans tx
    · exact same.trans rx
  obtain ⟨small, few, wf⟩ := sent.shape
  obtain ⟨checksum, summed, wrote⟩ :=
    TcpHeader.serialize_eq segment.tcpHdr segment.ipv4 segment.data segment.txChecksumOffload
  intro buf size
  exact ⟨_, wrote buf size, TcpHeader.parse_bytes small few wf (summed checksummed)⟩

/-! ## What the paths transmit -/

/-- Everything transmitted so far was built by one of the paths. -/
structure Runtime.Built (config : TcpConfig) (rt : Runtime) : Prop where
  tcpOptions : rt.tcpOptions = config
  transmitted : ∀ segment ∈ rt.transmitted, segment.Sent config

variable {config : TcpConfig} {rt : Runtime}

/-- One segment more in the log. -/
theorem Runtime.Built.transmit (h : rt.Built config) {segment : TcpSegment}
    (sent : segment.Sent config) : (rt.transmit segment).Built config := by
  refine ⟨h.tcpOptions, ?_⟩
  intro other member
  rcases List.mem_append.mp member with old | new
  · exact h.transmitted other old
  · rwa [List.mem_singleton.mp new]

/-- The segments of a handshake have no data, and either no options or the two of a SYN. -/
theorem bareSegment_sent (h : rt.Built config) (localAddr remoteAddr : SocketAddrV4)
    {header : TcpHeader} (remoteLinkAddr : MacAddress)
    (options : header.optionList = [] ∨ ∃ mss scale,
      header.optionList = [.maximumSegmentSize mss, .windowScale scale]) :
    (bareSegment rt localAddr remoteAddr header remoteLinkAddr).Sent config := by
  have same := congrArg TcpConfig.rxChecksumOffload h.tcpOptions
  exact ⟨options, .inr same⟩

/-- The ACK of a SYN+ACK is a bare segment. -/
theorem ActiveOpenSocket.receive_built {fallbackMss : Nat} {s s' : ActiveOpenSocket} {env : Env}
    {header : TcpHeader} (h : s.rt.Built config) (ran : s.receive fallbackMss env header = .ok s') :
    s'.rt.Built config := by
  simp only [receive] at ran
  split at ran
  · cases ran
    exact h
  split at ran
  · cases ran
    exact h
  split at ran
  · cases ran
    exact h
  split at ran
  · cases ran
  · obtain ⟨cb, -, eq⟩ := bind_eq_ok.mp ran
    cases eq
    exact h.transmit (bareSegment_sent h _ _ _ (.inl rfl))

/-- A SYN is a bare segment. -/
theorem ActiveOpenSocket.background_built {s : ActiveOpenSocket} (h : s.rt.Built config)
    (poll : RetryPoll) : (s.background poll).rt.Built config := by
  simp only [background]
  split
  · exact h
  · exact h.transmit (bareSegment_sent h _ _ _ (.inr ⟨_, _, rfl⟩))
  · exact h

/-- So is a SYN+ACK. -/
theorem PassiveSocket.background_built {s : PassiveSocket} (h : s.rt.Built config)
    (remoteAddr : SocketAddrV4) (poll : RetryPoll) : (s.background remoteAddr poll).rt.Built config := by
  simp only [background]
  split
  · exact h
  split
  · exact h
  · exact h.transmit (bareSegment_sent h _ _ _ (.inr ⟨_, _, rfl⟩))
  · exact h

/-- A listener transmits nothing when a segment arrives; the SYN+ACK is left to its retries. -/
theorem PassiveSocket.receive_built {crc : List UInt8 → UInt32} {fallbackMss : Nat}
    {s s' : PassiveSocket} {remoteAddr : SocketAddrV4} {header : TcpHeader}
    {result : Except Fail Unit} (h : s.rt.Built config)
    (ran : s.receive crc fallbackMss remoteAddr header = .ok (result, s')) : s'.rt.Built config := by
  rcases receive_cases ran with rfl | ⟨accept, cb, -, -, -, -, -, -, rfl⟩ | ⟨accept, isns, -, -, -, rfl⟩
  · exact h
  · exact h
  · exact h

/-- A connection transmits what its `emit` builds, with no options and at most an MSS of data. -/
theorem Endpoint.step_built {e e' : Endpoint CongestionControl.None} {event : Event}
    (h : e.cb.rt.Built config) (stepped : e.step event = .ok e') : e'.cb.rt.Built config := by
  cases step_speaks stepped with
  | silent silent => exact silent.rt ▸ h
  | answers answers =>
    cases answers with
    | emits segment emitted =>
      rw [emitted.rt]
      have plain := emitted.plain
      rw [h.tcpOptions] at plain
      exact h.transmit ⟨.inl plain.optionList, .inl plain.offload⟩
    | defers idle same running => exact same ▸ h
    | unresolved unknown same => exact same ▸ h

/-! ## Through a peer -/

namespace TcpPeer

variable {crc : List UInt8 → UInt32} {fallbackMss : Nat} {eof : Fail} {p p' : TcpPeer} {qd newQd : QDesc}
  {key : SocketAddrV4 × SocketAddrV4} {localAddr remoteAddr : SocketAddrV4}

/-- `bind` transmits nothing, and neither do `listen`, `connect` and the polls of futures. -/
theorem bind_rt (p : TcpPeer) (qd : QDesc) (addr : SocketAddrV4) : (p.bind qd addr).2.rt = p.rt := by
  unfold bind
  split
  · rfl
  split
  · rfl
  · split <;> rfl

theorem listen_rt (p : TcpPeer) (qd : QDesc) (backlog : Nat) (nonce : UInt32) :
    (p.listen qd backlog nonce).2.rt = p.rt := by
  obtain ⟨fail, ran⟩ | ⟨localAddr, -, ran⟩ := p.listen_cases qd backlog nonce
  · rw [ran]
  · rw [ran]

theorem connect_rt (p : TcpPeer) (qd : QDesc) (remoteAddr : SocketAddrV4) :
    (p.connect crc qd remoteAddr).2.rt = p.rt := by
  obtain ⟨fail, -, ran⟩ | ⟨localAddr, ports, isnGenerator, socket, -, ran⟩ :=
    p.connect_cases crc qd remoteAddr
  · rw [ran]
  · rw [ran]

theorem pollAccept_rt {result : Option (Except Fail QDesc)}
    (ran : p.pollAccept qd newQd = .ok (result, p')) : p'.rt = p.rt := by
  unfold pollAccept at ran
  split at ran
  · split at ran
    · cases ran
    obtain ⟨⟨taken, socket⟩, -, ran⟩ := bind_eq_ok.mp ran
    dsimp only at ran
    split at ran
    · cases ran
      rfl
    · cases ran
      rfl
    · obtain ⟨p'', entered, ran⟩ := bind_eq_ok.mp ran
      cases ran
      simp only [enterAccepted] at entered
      split at entered
      · cases entered
      split at entered
      · cases entered
      · cases entered
        rfl
  · cases ran
    rfl
  · cases ran
    rfl

theorem pollConnectFinished_rt {result : Option (Except Fail Unit)}
    (ran : p.pollConnectFinished qd = .ok (result, p')) : p'.rt = p.rt := by
  obtain ⟨-, rfl⟩ | ⟨localAddr, remoteAddr, -, ⟨-, rfl⟩ | ⟨e, -, rfl⟩⟩ := pollConnectFinished_cases ran
  · rfl
  · rfl
  · rfl

/-- An event of one connection of the peer. -/
theorem stepEstablished_built {e : Endpoint CongestionControl.None} {event : Event}
    (h : p.rt.Built config) (ran : p.stepEstablished key e event = .ok p') : p'.rt.Built config := by
  obtain ⟨e', stepped, ran⟩ := bind_eq_ok.mp ran
  cases ran
  exact Endpoint.step_built h stepped

theorem doClose_built {env : Env} {result : Except Fail Unit} (h : p.rt.Built config)
    (ran : p.doClose qd env = .ok (result, p')) : p'.rt.Built config := by
  unfold doClose at ran
  dsimp only at ran
  split at ran
  · split at ran
    · obtain ⟨closed, stepped, ran⟩ := bind_eq_ok.mp ran
      cases ran
      exact stepEstablished_built (p := { p with sockets := p.sockets.erase qd }) h stepped
    · cases ran
      exact h
  · cases ran
    exact h
  · cases ran
    exact h

theorem send_built {buf : Buffer} {env : Env} {result : Except Fail Unit} (h : p.rt.Built config)
    (ran : p.send qd buf env = .ok (result, p')) : p'.rt.Built config := by
  unfold send at ran
  split at ran
  · cases ran
    exact h
  · obtain ⟨answer, -, ran⟩ := bind_eq_ok.mp ran
    obtain ⟨sent, stepped, ran⟩ := bind_eq_ok.mp ran
    cases ran
    exact stepEstablished_built h stepped

theorem pollRecv_built {env : Env} {result : Option (Except Fail Buffer)} (h : p.rt.Built config)
    (ran : p.pollRecv qd env = .ok (result, p')) : p'.rt.Built config := by
  unfold pollRecv at ran
  dsimp only at ran
  split at ran
  · cases ran
    exact h
  · obtain ⟨read, stepped, ran⟩ := bind_eq_ok.mp ran
    cases ran
    exact stepEstablished_built h stepped

theorem background_built {call : Call} {env : Env} (h : p.rt.Built config)
    (ran : p.background key call env = .ok p') : p'.rt.Built config := by
  unfold background at ran
  split at ran
  · cases ran
    exact h
  · exact stepEstablished_built h ran

/-- An RST is a bare segment. -/
theorem sendRst_built (h : p.rt.Built config) (env : Env) (localAddr remoteAddr : SocketAddrV4) :
    (p.sendRst env localAddr remoteAddr).2.rt.Built config := by
  unfold sendRst
  split
  · exact h
  · exact h.transmit (bareSegment_sent h _ _ _ (.inl rfl))

/-- **Where a segment goes**, what is transmitted in answer is built as it should be. -/
theorem route_built {env : Env} {header : TcpHeader} {data : Buffer} {result : Except Fail Unit}
    (h : p.rt.Built config)
    (ran : p.route crc fallbackMss env localAddr remoteAddr header data = .ok (result, p')) :
    p'.rt.Built config := by
  unfold route at ran
  split at ran
  · obtain ⟨routed, stepped, ran⟩ := bind_eq_ok.mp ran
    cases ran
    exact stepEstablished_built h stepped
  split at ran
  next socket _ =>
    obtain ⟨socket', received, ran⟩ := bind_eq_ok.mp ran
    cases ran
    exact ActiveOpenSocket.receive_built (s := { socket with rt := p.rt }) h received
  split at ran
  next socket _ =>
    obtain ⟨⟨answer, socket'⟩, received, ran⟩ := bind_eq_ok.mp ran
    cases ran
    exact PassiveSocket.receive_built (s := { socket with rt := p.rt }) h received
  · have eq : (p.sendRst env localAddr remoteAddr).2 = p' := congrArg Prod.snd (Except.ok.inj ran)
    rw [← eq]
    exact sendRst_built h env localAddr remoteAddr

/-- A segment that arrives, from its octets on. -/
theorem receive_built {env : Env} {ipHdr : Ipv4.Ipv4Header} {buf : Buffer} {result : Except Fail Unit}
    (h : p.rt.Built config) (ran : p.receive eof crc fallbackMss env ipHdr buf = .ok (result, p')) :
    p'.rt.Built config := by
  obtain ⟨parsed, -, ran⟩ := bind_eq_ok.mp ran
  split at ran
  · cases ran
    exact h
  · dsimp only at ran
    split at ran
    · cases ran
      exact h
    · exact route_built h ran

theorem retryConnect_built (h : p.rt.Built config) (poll : RetryPoll) :
    (p.retryConnect key poll).rt.Built config := by
  unfold retryConnect
  split
  · exact h
  next socket _ => exact ActiveOpenSocket.background_built (s := { socket with rt := p.rt }) h poll

theorem retryAccept_built (h : p.rt.Built config) (poll : RetryPoll) :
    (p.retryAccept localAddr remoteAddr poll).rt.Built config := by
  unfold retryAccept
  split
  · exact h
  next socket _ =>
    exact PassiveSocket.background_built (s := { socket with rt := p.rt }) h remoteAddr poll

end TcpPeer

namespace PeerRun

variable {eof : Fail} {crc : List UInt8 → UInt32} {fallbackMss : Nat} {r r' : PeerRun}
  {event : PeerEvent}

/-- Whatever happens to a peer, what it transmits for it was built by one of the paths. -/
theorem step_built (h : r.peer.rt.Built config) (stepped : r.step eof crc fallbackMss event = .ok r') :
    r'.peer.rt.Built config := by
  cases event with
  | socket qd =>
    cases stepped
    unfold TcpPeer.doSocket
    split
    · exact h
    · exact h
  | bind qd addr =>
    cases stepped
    exact (r.peer.bind_rt qd addr).symm ▸ h
  | listen qd backlog nonce =>
    cases stepped
    exact (r.peer.listen_rt qd backlog nonce).symm ▸ h
  | accept qd newQd =>
    obtain ⟨⟨result, peer⟩, ran, stepped⟩ := bind_eq_ok.mp stepped
    have same := TcpPeer.pollAccept_rt ran
    split at stepped
    next taken =>
      cases taken
      cases stepped
      exact same.symm ▸ h
    next taken =>
      cases taken
      cases stepped
      exact same.symm ▸ h
  | connect qd remoteAddr =>
    cases stepped
    exact (r.peer.connect_rt qd remoteAddr).symm ▸ h
  | connectFinished qd =>
    obtain ⟨⟨result, peer⟩, ran, stepped⟩ := bind_eq_ok.mp stepped
    cases stepped
    exact (TcpPeer.pollConnectFinished_rt ran).symm ▸ h
  | close qd env =>
    obtain ⟨⟨result, peer⟩, ran, stepped⟩ := bind_eq_ok.mp stepped
    cases stepped
    exact TcpPeer.doClose_built h ran
  | send qd buf env =>
    obtain ⟨⟨result, peer⟩, ran, stepped⟩ := bind_eq_ok.mp stepped
    cases stepped
    exact TcpPeer.send_built h ran
  | recv qd env =>
    obtain ⟨⟨result, peer⟩, ran, stepped⟩ := bind_eq_ok.mp stepped
    cases stepped
    exact TcpPeer.pollRecv_built h ran
  | receive ipHdr buf env =>
    obtain ⟨⟨result, peer⟩, ran, stepped⟩ := bind_eq_ok.mp stepped
    cases stepped
    exact TcpPeer.receive_built h ran
  | retryConnect key poll =>
    cases stepped
    exact TcpPeer.retryConnect_built h poll
  | retryAccept localAddr remoteAddr poll =>
    cases stepped
    exact TcpPeer.retryAccept_built h poll
  | background key call env =>
    obtain ⟨peer, ran, stepped⟩ := bind_eq_ok.mp stepped
    cases stepped
    exact TcpPeer.background_built h ran

/-- **A run of a peer** transmits nothing else. -/
theorem run_built {r r' : PeerRun} {events : List PeerEvent} (h : r.peer.rt.Built config)
    (ran : Machine.run (step eof crc fallbackMss) r events = .ok r') : r'.peer.rt.Built config :=
  Machine.invariant (fun r => r.peer.rt.Built config) step_built h ran

/-- The header of an RST from port 80 to port 90. -/
def sampleRefusal : TcpHeader := { TcpHeader.new 80 90 with rst := true }

/-- Left to the device, its checksum is zero, which is not what it should be. -/
theorem not_accepted_of_offload (eof : Fail) {segment : TcpSegment}
    (header : segment.tcpHdr = sampleRefusal) (ipv4 : segment.ipv4 = .new 0x0a000001 0x0a000002 .tcp)
    (data : segment.data = []) (offload : segment.txChecksumOffload = true) :
    ¬segment.Accepted eof := by
  intro accepted
  obtain ⟨tcp, wrote, read⟩ := accepted (List.replicate 20 0) (by rw [header]; rfl)
  rw [header, ipv4, data, offload] at wrote
  rw [ipv4, data] at read
  have bytes : tcp = [0, 80, 0, 90, 0, 0, 0, 0, 0, 0, 0, 0, 0x50, 0x04, 0, 0, 0, 0, 0, 0] :=
    (Except.ok.inj wrote).symm
  rw [bytes] at read
  cases read

variable (eof crc fallbackMss) in
/-- A peer with no sockets refuses a segment. -/
theorem step_refuses (shuffle : List UInt16 → List UInt16) (nonce : UInt32) (rt : Runtime)
    (localIpv4Addr : Ipv4Addr) (rx : rt.tcpOptions.rxChecksumOffload = true) :
    ∃ r, (start (TcpPeer.new shuffle nonce rt localIpv4Addr)).step eof crc fallbackMss
        (.receive sampleIpHdr (sampleBytes 0x10) sampleEnv) = .ok r ∧
      bareSegment rt ⟨0x0a000001, 80⟩ ⟨0x0a000002, 90⟩ sampleRefusal 9 ∈ r.peer.rt.transmitted := by
  have parsed : TcpHeader.parse eof sampleIpHdr (sampleBytes 0x10) true =
      pure ({ TcpHeader.new 90 80 with seqNum := ⟨50⟩, ackNum := ⟨501⟩, ack := true, windowSize := 10 },
        []) := by
    rfl
  have received : (TcpPeer.new shuffle nonce rt localIpv4Addr).receive eof crc fallbackMss sampleEnv
      sampleIpHdr (sampleBytes 0x10) =
        .ok ((TcpPeer.new shuffle nonce rt localIpv4Addr).sendRst sampleEnv ⟨0x0a000001, 80⟩
          ⟨0x0a000002, 90⟩) := by
    unfold TcpPeer.receive
    change (TcpHeader.parse eof sampleIpHdr (sampleBytes 0x10) rt.tcpOptions.rxChecksumOffload).run >>=
      _ = _
    rw [rx, parsed]
    rfl
  refine ⟨_, Machine.bind_eq_ok.mpr ⟨_, received, rfl⟩, ?_⟩
  exact List.mem_append_right _ List.mem_cons_self

/-- **The checksums of a peer that does not leave them to the device.** Everything such a
peer transmits is accepted, in every run, exactly when it does not leave those of what it receives to the
device either. -/
theorem transmitted_accepted_iff (eof : Fail) (crc : List UInt8 → UInt32) (fallbackMss : Nat)
    (shuffle : List UInt16 → List UInt16) (nonce : UInt32) (rt : Runtime) (localIpv4Addr : Ipv4Addr)
    (nothing : rt.transmitted = []) (tx : rt.tcpOptions.txChecksumOffload = false) :
    (∀ events r, Machine.run (step eof crc fallbackMss)
        (start (TcpPeer.new shuffle nonce rt localIpv4Addr)) events = .ok r →
      ∀ segment ∈ r.peer.rt.transmitted, segment.Accepted eof) ↔
    rt.tcpOptions.rxChecksumOffload = false := by
  constructor
  · intro always
    by_contra offloaded
    have rx : rt.tcpOptions.rxChecksumOffload = true := Bool.eq_true_of_not_eq_false offloaded
    obtain ⟨r, stepped, member⟩ := step_refuses eof crc fallbackMss shuffle nonce rt localIpv4Addr rx
    have ran : Machine.run (step eof crc fallbackMss)
        (start (TcpPeer.new shuffle nonce rt localIpv4Addr))
        [.receive sampleIpHdr (sampleBytes 0x10) sampleEnv] = .ok r :=
      Machine.run_cons_ok.mpr ⟨r, stepped, rfl⟩
    exact not_accepted_of_offload eof rfl rfl rfl rx (always _ r ran _ member)
  · intro rx events r ran segment member
    have built : (start (TcpPeer.new shuffle nonce rt localIpv4Addr)).peer.rt.Built rt.tcpOptions := by
      refine ⟨rfl, ?_⟩
      change ∀ segment ∈ rt.transmitted, _
      simp [nothing]
    exact ((run_built built ran).transmitted segment member).accepted eof tx rx

/-- The SYNs of a peer that leaves nothing to the device are accepted. -/
theorem transmitted_accepted_iff_syn :
    ∃ r, Machine.run (step sampleFail (fun _ => 500) 536)
        (start (TcpPeer.new id 0 ⟨7, sampleConfig, []⟩ 0x0a000001))
        (sampleConnect ++ sampleRetries) = .ok r ∧
      r.peer.rt.transmitted.length = 3 ∧
      ∀ segment ∈ r.peer.rt.transmitted, segment.Accepted sampleFail := by
  obtain ⟨r, ran, one⟩ := Machine.map_eq_ok
    (x := Machine.run (step sampleFail (fun _ => 500) 536)
      (start (TcpPeer.new id 0 ⟨7, sampleConfig, []⟩ 0x0a000001))
      (sampleConnect ++ sampleRetries))
    (fun r => r.peer.rt.transmitted.length) (t := 3) (by decide +kernel)
  refine ⟨r, ran, one, ?_⟩
  exact (transmitted_accepted_iff sampleFail _ 536 id 0 ⟨7, sampleConfig, []⟩ 0x0a000001 rfl rfl).mpr rfl
    _ r ran

/-- The RST of a peer that verifies nothing goes out without its checksum. -/
theorem refusal_not_accepted :
    sampleStart.peer.rt.tcpOptions.txChecksumOffload = false ∧
    ∃ r, Machine.run (step sampleFail (fun _ => 500) 536) sampleStart
        [.receive sampleIpHdr (sampleBytes 0x10) sampleEnv] = .ok r ∧
      ∃ segment ∈ r.peer.rt.transmitted, ¬segment.Accepted sampleFail := by
  obtain ⟨r, stepped, member⟩ := step_refuses sampleFail (fun _ => 500) 536 id 0
    sampleStart.peer.rt 0x0a000001 rfl
  refine ⟨rfl, r, Machine.run_cons_ok.mpr ⟨r, stepped, rfl⟩, _, member, ?_⟩
  exact not_accepted_of_offload sampleFail rfl rfl rfl rfl

end PeerRun

end Inetstack.Tcp
