import Inetstack.Laws.Tcp.Sockets
import Inetstack.Laws.Tcp.ActiveOpen
import Inetstack.Laws.Tcp.Established.Delivery

/-!
# RST segments

A connection and a connect attempt take a RST in silence. A listener and a peer without a socket do not:
a RST that acknowledges the SYN+ACK of a handshake in flight completes the handshake, since that path
looks at the ACK flag only, and a RST for an address nothing listens on is answered with a RST, as any
other segment is. The established path has the check that the last one misses.

The RST a peer sends has no ACK flag and acknowledges nothing, so a connect attempt, which asks for both
before it looks at the RST flag, never takes it for a refusal.
-/

namespace Inetstack.Tcp

open Machine (bind_eq_ok)
open PeerRun (sampleBytes sampleConnect sampleFail sampleIpHdr sampleStart)

/-! ## Connections and handshakes -/

namespace InSegment

theorem trimFront_rst {seg seg' : InSegment} {receiveNext : SeqNumber}
    (ran : seg.trimFront receiveNext = .ok seg') : seg'.header.rst = seg.header.rst := by
  unfold trimFront at ran
  dsimp only at ran
  split at ran
  all_goals
    obtain ⟨data, -, ran⟩ := bind_eq_ok.mp ran
    cases ran
    rfl

theorem trimBack_rst {seg seg' : InSegment} {afterReceiveWindow : SeqNumber}
    (ran : seg.trimBack afterReceiveWindow = .ok seg') : seg'.header.rst = seg.header.rst := by
  unfold trimBack at ran
  split at ran
  · dsimp only at ran
    split at ran
    all_goals
      obtain ⟨data, -, ran⟩ := bind_eq_ok.mp ran
      cases ran
      rfl
  · cases ran
    rfl

theorem accept_rst {receiveNext : SeqNumber} {window : UInt32} {header : TcpHeader} {data : Buffer}
    {seg : InSegment} (ran : accept receiveNext window header data = .ok (some seg)) :
    seg.header.rst = header.rst := by
  rcases accept_cases ran with ⟨-, back⟩ | ⟨-, -, cut, front, back⟩ | ⟨-, -, -, back⟩
  · exact trimBack_rst back
  · exact (trimBack_rst back).trans (trimFront_rst front)
  · exact trimBack_rst back

end InSegment

/-- A connection answers no RST. -/
theorem ControlBlock.receive_rst {σ : Type} [CongestionControl σ] {cb cb' : ControlBlock σ} {env : Env}
    {header : TcpHeader} {data : Buffer} (rst : header.rst = true)
    (ran : cb.receive env header data = .ok cb') : cb'.rt = cb.rt := by
  obtain ⟨accepted, haccept, ran⟩ := bind_eq_ok.mp ran
  cases accepted with
  | none =>
    dsimp only at ran
    rw [if_pos rst] at ran
    cases ran
    rfl
  | some seg =>
    have inside : seg.header.rst = true := (InSegment.accept_rst haccept).trans rst
    simp only [receiveInWindow, inside, if_true, receiveRst] at ran
    split at ran
    · cases ran
    · cases ran
      rfl

/-- A connect attempt answers no RST, and is not connected by one. -/
theorem ActiveOpenSocket.receive_rst {fallbackMss : Nat} {s s' : ActiveOpenSocket} {env : Env}
    {header : TcpHeader} (rst : header.rst = true)
    (ran : s.receive fallbackMss env header = .ok s') :
    s'.rt = s.rt ∧ ∀ cb, s'.result = some (.ok cb) → s.result = some (.ok cb) := by
  obtain ⟨-, ⟨-, rfl⟩ | ⟨-, -, rfl⟩ | ⟨-, noRst, -⟩⟩ := receive_result ran
  · exact ⟨rfl, fun _ => id⟩
  · exact ⟨rfl, fun cb result => by simp [setResult] at result⟩
  · cases rst.symm.trans noRst

namespace PassiveSocket

variable {crc : List UInt8 → UInt32} {fallbackMss : Nat} {s s' : PassiveSocket}
  {remoteAddr : SocketAddrV4} {header : TcpHeader} {result : Except Fail Unit}

/-- The segment acknowledges the SYN+ACK of the remote's handshake in flight. -/
def completes (s : PassiveSocket) (remoteAddr : SocketAddrV4) (header : TcpHeader) : Bool :=
  remoteAddr ∉ s.ready.endpoints && match s.inflight.lookup remoteAddr with
    | some accept => header.ack && header.ackNum == accept.localIsn + SeqNumber.mk 1
    | none => false

/-- A segment that does completes the handshake, whatever its other flags. -/
theorem receive_completes (completes : s.completes remoteAddr header = true)
    (ran : s.receive crc fallbackMss remoteAddr header = .ok (result, s')) :
    ∃ cb, s'.ready.ready = s.ready.ready ++ [.ok cb] := by
  simp only [PassiveSocket.completes, Bool.and_eq_true, decide_eq_true_eq] at completes
  obtain ⟨notReady, completes⟩ := completes
  unfold receive at ran
  rw [if_neg notReady] at ran
  cases known : s.inflight.lookup remoteAddr with
  | none =>
    rw [known] at completes
    cases completes
  | some accept =>
    simp only [known, Bool.and_eq_true, beq_iff_eq] at completes ran
    unfold receiveInflight at ran
    simp only [completes.1, completes.2, Bool.not_true, Bool.false_eq_true, if_false, ne_eq,
      not_true_eq_false] at ran
    obtain ⟨cb, -, ran⟩ := bind_eq_ok.mp ran
    obtain ⟨ready, pushed, ran⟩ := bind_eq_ok.mp ran
    cases ran
    unfold ReadySockets.pushOk at pushed
    split at pushed
    · cases pushed
    · cases pushed
      exact ⟨cb, rfl⟩

/-- A RST that does not is ignored. -/
theorem receive_ignores (rst : header.rst = true) (incomplete : s.completes remoteAddr header = false)
    (ran : s.receive crc fallbackMss remoteAddr header = .ok (result, s')) : s' = s := by
  obtain same | ⟨accept, cb, notReady, known, ack, expected, -⟩ | ⟨-, -, -, flags, -⟩ :=
    receive_cases ran
  · exact same
  · simp [completes, notReady, known, ack, expected] at incomplete
  · cases rst.symm.trans flags.2.2

end PassiveSocket

/-! ## A RST for a peer -/

namespace TcpPeer

/-- The connections that wait to be accepted on an address. -/
def acceptQueue (p : TcpPeer) (addr : SocketAddrV4) : List (ControlBlock CongestionControl.None) :=
  match p.passive.lookup addr with
  | some s => s.ready.ready.filterMap Except.toOption
  | none => []

/-- The connection a connect attempt has come to. -/
def connectResult (p : TcpPeer) (key : SocketAddrV4 × SocketAddrV4) :
    Option (ControlBlock CongestionControl.None) :=
  match p.connecting.lookup key with
  | some s => s.result.bind Except.toOption
  | none => none

/-- Nothing has been transmitted, and no connection has been opened. -/
structure Quiet (p p' : TcpPeer) : Prop where
  transmitted : p'.rt.transmitted = p.rt.transmitted
  acceptQueue : ∀ addr, p'.acceptQueue addr = p.acceptQueue addr
  connectResult : ∀ key cb, p'.connectResult key = some cb → p.connectResult key = some cb

/-- The segment goes to a connection or a connect attempt; or it goes to a listener and does not
acknowledge the SYN+ACK of a handshake in flight; or it is for no socket and its sender's link address
is not known. A segment from an address nothing can come from is dropped before that. -/
def ignoresRst (p : TcpPeer) (env : Env) (localAddr remoteAddr : SocketAddrV4) (header : TcpHeader) :
    Bool :=
  isInvalidSource remoteAddr.ip || (p.established.lookup (localAddr, remoteAddr)).isSome ||
    (p.connecting.lookup (localAddr, remoteAddr)).isSome ||
    match p.passive.lookup localAddr with
    | some s => !s.completes remoteAddr header
    | none => env.remoteLinkAddr.isNone

variable {eof : Fail} {crc : List UInt8 → UInt32} {fallbackMss : Nat} {p p' : TcpPeer} {env : Env}
  {localAddr remoteAddr : SocketAddrV4} {header : TcpHeader} {data : Buffer}
  {result : Except Fail Unit}

theorem Quiet.refl (p : TcpPeer) : Quiet p p := ⟨rfl, fun _ => rfl, fun _ _ => id⟩

theorem connectResult_insert {key : SocketAddrV4 × SocketAddrV4} {s s' : ActiveOpenSocket} {rt : Runtime}
    (known : p.connecting.lookup key = some s)
    (less : ∀ cb, s'.result = some (.ok cb) → s.result = some (.ok cb))
    (other : SocketAddrV4 × SocketAddrV4) (cb : ControlBlock CongestionControl.None)
    (h : connectResult { p with connecting := p.connecting.insert key s', rt := rt } other = some cb) :
    p.connectResult other = some cb := by
  simp only [connectResult, Table.lookup_insert] at h ⊢
  by_cases same : other = key
  · subst same
    have opened {result : Option OpenResult} : result.bind Except.toOption = some cb ↔
        result = some (.ok cb) := by
      rcases result with _ | _ | cb' <;> simp [Except.toOption]
    simp only [if_true, known, opened] at h ⊢
    exact less cb h
  · simpa only [if_neg same] using h

theorem Quiet.stepEstablished {key : SocketAddrV4 × SocketAddrV4}
    {e : Endpoint CongestionControl.None} (rst : header.rst = true)
    (ran : p.stepEstablished key e (.receive header data env) = .ok p') : p.Quiet p' := by
  obtain ⟨e', stepped, ran⟩ := bind_eq_ok.mp ran
  cases ran
  obtain ⟨cb, received, after⟩ := bind_eq_ok.mp stepped
  have same : cb.rt = p.rt := ControlBlock.receive_rst rst received
  cases after
  exact ⟨congrArg Runtime.transmitted same, fun _ => rfl, fun _ _ => id⟩

/-- A listener keeps quiet exactly when the segment completes no handshake. -/
theorem quiet_passive_iff {s s' : PassiveSocket} (rst : header.rst = true)
    (known : p.passive.lookup localAddr = some s)
    (received : { s with rt := p.rt }.receive crc fallbackMss remoteAddr header = .ok (result, s')) :
    p.Quiet { p with passive := p.passive.insert localAddr s', rt := s'.rt } ↔
      s.completes remoteAddr header = false := by
  have queue (addr : SocketAddrV4) :
      acceptQueue { p with passive := p.passive.insert localAddr s', rt := s'.rt } addr =
        if addr = localAddr then s'.ready.ready.filterMap Except.toOption else p.acceptQueue addr := by
    simp only [acceptQueue, Table.lookup_insert]
    by_cases same : addr = localAddr
    · simp only [if_pos same]
    · simp only [if_neg same]
  have old : p.acceptQueue localAddr = s.ready.ready.filterMap Except.toOption := by
    simp only [acceptQueue, known]
  constructor
  · intro quiet
    refine Bool.eq_false_iff.mpr fun completes => ?_
    obtain ⟨cb, longer⟩ := PassiveSocket.receive_completes (s := { s with rt := p.rt }) completes
      received
    have same := quiet.acceptQueue localAddr
    rw [queue, if_pos rfl, old, longer] at same
    simp [Except.toOption] at same
  · intro incomplete
    cases PassiveSocket.receive_ignores (s := { s with rt := p.rt }) rst incomplete received
    refine ⟨rfl, fun addr => ?_, fun _ _ => id⟩
    rw [queue]
    split
    next same => rw [same, old]
    next => rfl

/-- **What a RST does to a peer.** -/
theorem route_rst_iff (rst : header.rst = true) (valid : isInvalidSource remoteAddr.ip = false)
    (ran : p.route crc fallbackMss env localAddr remoteAddr header data = .ok (result, p')) :
    p.Quiet p' ↔ p.ignoresRst env localAddr remoteAddr header = true := by
  unfold route at ran
  cases established : p.established.lookup (localAddr, remoteAddr) with
  | some e =>
    simp only [established] at ran
    obtain ⟨peer, stepped, ran⟩ := bind_eq_ok.mp ran
    cases ran
    simp only [ignoresRst, established, Option.isSome_some, Bool.or_true, Bool.true_or, iff_true]
    exact .stepEstablished rst stepped
  | none =>
  cases connecting : p.connecting.lookup (localAddr, remoteAddr) with
  | some s =>
    simp only [established, connecting] at ran
    obtain ⟨s', received, ran⟩ := bind_eq_ok.mp ran
    cases ran
    obtain ⟨same, less⟩ := ActiveOpenSocket.receive_rst rst received
    simp only [ignoresRst, connecting, Option.isSome_some, Bool.or_true, Bool.true_or, iff_true]
    exact ⟨congrArg Runtime.transmitted same, fun _ => rfl, connectResult_insert connecting less⟩
  | none =>
  have condition : p.ignoresRst env localAddr remoteAddr header =
      match p.passive.lookup localAddr with
      | some s => !s.completes remoteAddr header
      | none => env.remoteLinkAddr.isNone := by
    simp only [ignoresRst, valid, established, connecting, Option.isSome_none, Bool.or_false,
      Bool.false_or]
  rw [condition]
  cases passive : p.passive.lookup localAddr with
  | some s =>
    simp only [established, connecting, passive] at ran
    obtain ⟨⟨answer, s'⟩, received, ran⟩ := bind_eq_ok.mp ran
    cases ran
    simpa only [Bool.not_eq_true'] using quiet_passive_iff rst passive received
  | none =>
    simp only [established, connecting, passive] at ran
    have eq : (p.sendRst env localAddr remoteAddr).2 = p' := congrArg Prod.snd (Except.ok.inj ran)
    rw [← eq]
    unfold sendRst
    cases env.remoteLinkAddr with
    | none => simp only [Option.isNone_none, Quiet.refl]
    | some remoteLinkAddr =>
      simp only [Option.isNone_some, Bool.false_eq_true, iff_false]
      intro quiet
      simpa [Runtime.transmit] using quiet.transmitted

/-- **A RST is kept quiet about exactly when it is for a socket and completes no handshake, or cannot be
answered.** -/
theorem rst_quiet_iff (eof : Fail) (crc : List UInt8 → UInt32) (fallbackMss : Nat) (p p' : TcpPeer)
    (env : Env) (ipHdr : Ipv4.Ipv4Header) (buf : Buffer) (header : TcpHeader) (data : Buffer)
    (result : Except Fail Unit)
    (parsed : TcpHeader.parse eof ipHdr buf p.rt.tcpOptions.rxChecksumOffload = pure (header, data))
    (rst : header.rst = true)
    (ran : p.receive eof crc fallbackMss env ipHdr buf = .ok (result, p')) :
    p.Quiet p' ↔ p.ignoresRst env (ends ipHdr header).1 (ends ipHdr header).2 header = true := by
  unfold receive at ran
  rw [parsed] at ran
  change (if isInvalidSource (ends ipHdr header).2.ip then _ else _) = _ at ran
  split at ran
  next invalid =>
    cases ran
    simp only [ignoresRst, invalid, Bool.true_or, Quiet.refl]
  next valid => exact route_rst_iff rst (Bool.eq_false_iff.mpr valid) ran

/-- The header of a RST that acknowledges 501, from port 90 to port 80. -/
def sampleRst : TcpHeader :=
  { TcpHeader.new 90 80 with
    seqNum := ⟨50⟩, ackNum := ⟨501⟩, ack := true, rst := true, windowSize := 10 }

theorem parse_sampleRst :
    TcpHeader.parse sampleFail sampleIpHdr (sampleBytes 0x14) true = pure (sampleRst, []) := by
  change ExceptT.run _ = Except.ok (Except.ok _)
  decide +kernel

theorem exists_ok_of_isSome {ε α : Type} {x : Except ε α} (h : x.toOption.isSome = true) :
    ∃ a, x = .ok a := by
  cases x with
  | ok a => exact ⟨a, rfl⟩
  | error e => cases h

/-- A RST for a connect attempt refuses it, and nothing is said. -/
theorem rst_quiet_iff_connecting :
    ∃ r result p', Machine.run (PeerRun.step sampleFail (fun _ => 500) 536) sampleStart
        sampleConnect = .ok r ∧
      r.peer.receive sampleFail (fun _ => 500) 536 sampleEnv sampleIpHdr (sampleBytes 0x14) =
        .ok (result, p') ∧ r.peer.Quiet p' := by
  obtain ⟨r, ran, view⟩ := Machine.map_eq_ok
    (x := Machine.run (PeerRun.step sampleFail (fun _ => 500) 536) sampleStart sampleConnect)
    (fun r => (r.peer.rt.tcpOptions.rxChecksumOffload,
      (r.peer.receive sampleFail (fun _ => 500) 536 sampleEnv sampleIpHdr
        (sampleBytes 0x14)).toOption.isSome,
      r.peer.ignoresRst sampleEnv ⟨0x0a000001, 80⟩ ⟨0x0a000002, 90⟩ sampleRst))
    (t := (true, true, true)) (by decide +kernel)
  obtain ⟨offload, view⟩ := Prod.mk.inj view
  obtain ⟨returns, ignores⟩ := Prod.mk.inj view
  obtain ⟨⟨result, p'⟩, received⟩ := exists_ok_of_isSome returns
  refine ⟨r, result, p', ran, received, ?_⟩
  exact (rst_quiet_iff _ _ _ r.peer p' _ _ _ sampleRst [] result (offload ▸ parse_sampleRst) rfl
    received).mpr ignores

/-- A listener on port 80, and a SYN from port 90 that opens a handshake. -/
def sampleHandshake : List PeerEvent :=
  [.socket 1, .bind 1 ⟨0x0a000001, 80⟩, .listen 1 4 0,
    .receive sampleIpHdr (sampleBytes 0x02) sampleEnv]

/-- A RST for no socket is answered with a RST, and a RST that acknowledges a SYN+ACK opens a
connection. -/
theorem rst_not_quiet :
    (∃ result p', sampleStart.peer.receive sampleFail (fun _ => 500) 536 sampleEnv sampleIpHdr
        (sampleBytes 0x14) = .ok (result, p') ∧ ¬sampleStart.peer.Quiet p') ∧
    ∃ r result p', Machine.run (PeerRun.step sampleFail (fun _ => 500) 536) sampleStart
        sampleHandshake = .ok r ∧
      r.peer.receive sampleFail (fun _ => 500) 536 sampleEnv sampleIpHdr (sampleBytes 0x14) =
        .ok (result, p') ∧ ¬r.peer.Quiet p' := by
  constructor
  · obtain ⟨⟨result, p'⟩, received, answers⟩ := Machine.map_eq_ok
      (x := sampleStart.peer.receive sampleFail (fun _ => 500) 536 sampleEnv sampleIpHdr
        (sampleBytes 0x14))
      (fun answer => answer.2.rt.transmitted.map fun segment => segment.tcpHdr.rst) (t := [true])
      (by decide +kernel)
    refine ⟨result, p', received, fun quiet => ?_⟩
    rw [quiet.transmitted] at answers
    cases answers
  · obtain ⟨r, ran, view⟩ := Machine.map_eq_ok
      (x := Machine.run (PeerRun.step sampleFail (fun _ => 500) 536) sampleStart sampleHandshake)
      (fun r => ((r.peer.acceptQueue ⟨0x0a000001, 80⟩).length,
        (r.peer.receive sampleFail (fun _ => 500) 536 sampleEnv sampleIpHdr
          (sampleBytes 0x14)).map fun answer => (answer.2.acceptQueue ⟨0x0a000001, 80⟩).length))
      (t := (0, .ok 1)) (by decide +kernel)
    obtain ⟨before, after⟩ := Prod.mk.inj view
    obtain ⟨⟨result, p'⟩, received, after⟩ := Machine.map_eq_ok _ after
    refine ⟨r, result, p', ran, received, fun quiet => ?_⟩
    rw [quiet.acceptQueue, before] at after
    cases after

end TcpPeer

/-! ## A refusal -/

/-- The segment tells a connect attempt that it is refused. -/
def ActiveOpenSocket.LearnsRefusal (fallbackMss : Nat) (s : ActiveOpenSocket) (env : Env)
    (segment : TcpSegment) : Prop :=
  ∃ s' fail, s.receive fallbackMss env segment.tcpHdr = .ok s' ∧
    s'.result = some (.error fail) ∧ fail.errno = .ECONNREFUSED

namespace TcpPeer

/-- A segment without the ACK flag is ignored by a connect attempt. -/
theorem receive_without_ack {fallbackMss : Nat} {s : ActiveOpenSocket} {env : Env} {header : TcpHeader}
    (noAck : header.ack = false) : s.receive fallbackMss env header = .ok s := by
  simp only [ActiveOpenSocket.receive, noAck, Bool.false_and, Bool.not_false, if_true]

/-- **A refusal is never understood.** A peer without a socket for a client's SYN answers it with a RST,
and the client's connect attempt, still without a result, does not change when the RST is delivered. -/
theorem refusal_not_understood (eof : Fail) (crc : List UInt8 → UInt32) (fallbackMss : Nat)
    (p : TcpPeer) (env : Env) (ipHdr : Ipv4.Ipv4Header) (buf data : Buffer)
    (client : ActiveOpenSocket) (remoteLinkAddr : MacAddress)
    (parsed : TcpHeader.parse eof ipHdr buf p.rt.tcpOptions.rxChecksumOffload =
      pure (client.synHeader, data))
    (src : ipHdr.srcAddr = client.localAddr.ip) (dst : ipHdr.dstAddr = client.remoteAddr.ip)
    (valid : isInvalidSource client.localAddr.ip = false)
    (noConnection : p.established.lookup (client.remoteAddr, client.localAddr) = none)
    (noAttempt : p.connecting.lookup (client.remoteAddr, client.localAddr) = none)
    (noListener : p.passive.lookup client.remoteAddr = none)
    (resolvable : env.remoteLinkAddr = some remoteLinkAddr)
    (waiting : client.result = none) :
    ∃ segment, p.receive eof crc fallbackMss env ipHdr buf =
        .ok (.ok (), { p with rt := p.rt.transmit segment }) ∧
      segment.tcpHdr.rst = true ∧
      ∀ clientEnv, ¬client.LearnsRefusal fallbackMss clientEnv segment := by
  have local_eq : (ends ipHdr client.synHeader).1 = client.remoteAddr :=
    congrArg (fun ip => SocketAddrV4.mk ip client.remoteAddr.port) dst
  have remote_eq : (ends ipHdr client.synHeader).2 = client.localAddr :=
    congrArg (fun ip => SocketAddrV4.mk ip client.localAddr.port) src
  refine ⟨p.rstSegment client.remoteAddr client.localAddr remoteLinkAddr, ?_, rfl, ?_⟩
  · unfold receive
    rw [parsed]
    change (if isInvalidSource (ends ipHdr client.synHeader).2.ip then _ else _) = _
    rw [remote_eq, valid]
    change p.route crc fallbackMss env (ends ipHdr client.synHeader).1
      (ends ipHdr client.synHeader).2 client.synHeader data = _
    rw [local_eq, remote_eq, route, noConnection]
    simp only [noAttempt, noListener, sendRst, resolvable]
  · rintro clientEnv ⟨s', fail, received, refused, -⟩
    rw [receive_without_ack rfl] at received
    cases received
    cases waiting.symm.trans refused

/-- A connect attempt from port 90 to port 80. -/
def sampleClient : ActiveOpenSocket :=
  .new ⟨500⟩ ⟨0x0a000002, 90⟩ ⟨0x0a000001, 80⟩ ⟨9, sampleConfig, []⟩

/-- The bytes of its SYN. -/
def sampleSynBytes : Buffer :=
  [0, 90, 0, 80, 0, 0, 0x01, 0xf4, 0, 0, 0, 0, 0x70, 0x02, 0xff, 0xff, 0, 0, 0, 0, 2, 4, 0x05, 0xb4, 3,
    3, 0, 0]

theorem refusal_not_understood_fresh :
    ∃ segment, sampleStart.peer.receive sampleFail (fun _ => 500) 536 sampleEnv sampleIpHdr
        sampleSynBytes =
          .ok (.ok (), { sampleStart.peer with rt := sampleStart.peer.rt.transmit segment }) ∧
      segment.tcpHdr.rst = true ∧
      ∀ clientEnv, ¬sampleClient.LearnsRefusal 536 clientEnv segment := by
  have parsed : TcpHeader.parse sampleFail sampleIpHdr sampleSynBytes true =
      pure (sampleClient.synHeader, []) := by
    change ExceptT.run _ = Except.ok (Except.ok _)
    decide +kernel
  exact refusal_not_understood sampleFail (fun _ => 500) 536 sampleStart.peer sampleEnv sampleIpHdr
    sampleSynBytes [] sampleClient 9 parsed rfl rfl (by decide) rfl rfl rfl rfl rfl

/-- The RST for a SYN leaves the connect attempt without a result. -/
theorem refusal_lost :
    ∃ result p' segment, sampleStart.peer.receive sampleFail (fun _ => 500) 536 sampleEnv sampleIpHdr
        sampleSynBytes = .ok (result, p') ∧
      p'.rt.transmitted = [segment] ∧ segment.tcpHdr.rst = true ∧
      ¬sampleClient.LearnsRefusal 536 sampleEnv segment := by
  obtain ⟨⟨result, p'⟩, received, transmitted⟩ := Machine.map_eq_ok
    (x := sampleStart.peer.receive sampleFail (fun _ => 500) 536 sampleEnv sampleIpHdr
      sampleSynBytes)
    (fun answer => answer.2.rt.transmitted)
    (t := [sampleStart.peer.rstSegment ⟨0x0a000001, 80⟩ ⟨0x0a000002, 90⟩ 9]) (by decide +kernel)
  refine ⟨result, p', _, received, transmitted, rfl, ?_⟩
  rintro ⟨s', fail, delivered, refused, -⟩
  rw [receive_without_ack rfl] at delivered
  cases delivered
  cases refused

end TcpPeer

end Inetstack.Tcp
