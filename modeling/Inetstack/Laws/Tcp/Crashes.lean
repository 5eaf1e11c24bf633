import Inetstack.Laws.Tcp.Grammar
import Inetstack.Laws.Tcp.HandshakePanics
import Inetstack.Laws.Tcp.Moves
import Inetstack.Laws.Tcp.Pending

/-!
# The segments a peer does not survive

A segment is for a connection, for a connect attempt or for a listener, and the peer stops on it exactly where
that one does. Of an attempt and of a listener this is said by the segment and what the socket holds: every
listener of a peer keeps its accept queue and the set of its endpoints in step.
-/

namespace Inetstack.Tcp

open Machine (bind_eq_ok bind_returns_iff)

/-! ## Listeners -/

namespace PassiveSocket

variable {crc : List UInt8 → UInt32} {fallbackMss : Nat} {s s' : PassiveSocket} {remoteAddr : SocketAddrV4}

/-- A new listener, -/
theorem new_consistent (localAddr : SocketAddrV4) (maxBacklog : Nat) (rt : Runtime) (nonce : UInt32) :
    (new localAddr maxBacklog rt nonce).ready.Consistent :=
  ⟨fun remoteAddr => by simp [new, ReadySockets.waiting], List.nodup_nil⟩

/-- a segment for it, -/
theorem receive_consistent {header : TcpHeader} {result : Except Fail Unit} (h : s.ready.Consistent)
    (ran : s.receive crc fallbackMss remoteAddr header = .ok (result, s')) : s'.ready.Consistent := by
  rcases receive_cases ran with rfl | ⟨accept, cb, new, -, -, -, -, remote, rfl⟩ |
    ⟨accept, isns, -, -, -, rfl⟩
  · exact h
  · obtain ⟨ready, pushed, consistent⟩ := h.pushOk (remote ▸ new)
    rw [ReadySockets.pushOk, remote, if_neg new] at pushed
    cases pushed
    exact consistent
  · exact h

/-- and a poll of it. -/
theorem pollAccept_consistent {result : Option OpenResult} (h : s.ready.Consistent)
    (ran : s.pollAccept = .ok (result, s')) : s'.ready.Consistent := by
  obtain ⟨⟨polled, ready⟩, taken, eq⟩ := bind_eq_ok.mp ran
  cases eq
  obtain ⟨polled', ready', taken', consistent⟩ := h.poll
  cases taken.symm.trans taken'
  exact consistent

/-- Whatever happens to a listener keeps its queue and its endpoints in step. -/
theorem consistent_kept (crc : List UInt8 → UInt32) (fallbackMss : Nat) :
    KeptByHandshakes crc fallbackMss (fun _ _ => True) (fun _ _ => True) fun _ s => s.ready.Consistent where
  started _ _ _ _ := trivial
  answered _ _ _ _ := trivial
  retried _ _ _ := trivial
  opened addr backlog rt nonce := new_consistent addr backlog rt nonce
  reached := fun {_ _ s _ _ _} rt h _ ran => receive_consistent (s := { s with rt := rt }) h ran
  repeated := fun {_ s} rt remoteAddr poll h => (background_frame { s with rt := rt } remoteAddr poll h).2
  taken h ran := pollAccept_consistent h ran

end PassiveSocket

/-! ## A peer -/

namespace TcpPeer

variable {eof : Fail} {crc : List UInt8 → UInt32} {fallbackMss : Nat} {p p' : TcpPeer} {env : Env}
  {localAddr remoteAddr : SocketAddrV4} {header : TcpHeader} {data : Buffer}

/-- What every event of a peer keeps, of the configuration and of the listeners. -/
structure Steady (config : TcpConfig) (p : TcpPeer) : Prop where
  options : p.rt.tcpOptions = config
  listeners : p.Pending (fun _ _ => True) fun _ s => s.ready.Consistent

/-- A new peer. -/
theorem Steady.new (shuffle : List UInt16 → List UInt16) (nonce : UInt32) (rt : Runtime)
    (localIpv4Addr : Ipv4Addr) : (new shuffle nonce rt localIpv4Addr).Steady rt.tcpOptions :=
  ⟨rfl, .new shuffle nonce rt localIpv4Addr⟩

/-- An event keeps the link address and the configuration. -/
theorem Moves.rt_same {event : PeerEvent} (moves : Moves eof p event p') : p.rt.Same p'.rt := by
  cases moves with
  | idle apart same quiet => exact quiet.toSame
  | opened untold offered fresh entered same => exact same ▸ ⟨rfl, rfl⟩
  | moved named known stepped entered rt => exact rt ▸ Endpoint.step_same stepped

/-- **The segments that stop a peer**: one for a connection that stops it, one for a connect attempt or for a
listener that makes it panic. -/
inductive Crashes (fallbackMss : Nat) (p : TcpPeer) (env : Env) (localAddr remoteAddr : SocketAddrV4)
    (header : TcpHeader) (data : Buffer) : Prop where
  | connection {e : Endpoint CongestionControl.None} {fault : Fault}
      (known : p.established.lookup (localAddr, remoteAddr) = some e)
      (stops : (e.on p.rt).cb.receive env header data = .error fault)
  | attempt {socket : ActiveOpenSocket} (apart : p.established.lookup (localAddr, remoteAddr) = none)
      (known : p.connecting.lookup (localAddr, remoteAddr) = some socket)
      (panics : ConnectEvent.Crashes fallbackMss socket.localIsn (.receive header env))
  | listener {socket : PassiveSocket} (apart : p.established.lookup (localAddr, remoteAddr) = none)
      (idle : p.connecting.lookup (localAddr, remoteAddr) = none)
      (known : p.passive.lookup localAddr = some socket) (panics : socket.Crashes remoteAddr header)

/-- A segment for a connection goes to its control block, with the runtime of the peer. -/
theorem stepEstablished_returns_iff {key : SocketAddrV4 × SocketAddrV4}
    {e : Endpoint CongestionControl.None} :
    (∃ p', p.stepEstablished key e (.receive header data env) = .ok p') ↔
      ¬∃ fault, (e.on p.rt).cb.receive env header data = .error fault := by
  refine bind_returns_iff.trans (bind_returns_iff.trans ?_)
  change (∃ cb, (e.on p.rt).cb.receive env header data = .ok cb) ↔ _
  cases (e.on p.rt).cb.receive env header data with
  | ok cb => exact iff_of_true ⟨cb, rfl⟩ fun ⟨fault, stopped⟩ => (by cases stopped)
  | error fault => exact iff_of_false (fun ⟨cb, ran⟩ => (by cases ran)) fun fine => fine ⟨fault, rfl⟩

/-- **A segment is routed exactly if it stops none of those it may be for.** -/
theorem route_returns_iff (own : p.rt.tcpOptions.windowScale ≤ 14) :
    (∃ r, p.route crc fallbackMss env localAddr remoteAddr header data = .ok r) ↔
      ¬p.Crashes fallbackMss env localAddr remoteAddr header data := by
  unfold route
  split
  -- a connection is found first, then an attempt, then a listener
  next e known =>
    refine (bind_returns_iff.trans stepEstablished_returns_iff).trans (not_congr ⟨?_, ?_⟩)
    · rintro ⟨fault, stops⟩
      exact .connection known stops
    · intro crashes
      cases crashes with
      | connection known' stops =>
        cases known.symm.trans known'
        exact ⟨_, stops⟩
      | attempt apart => cases known.symm.trans apart
      | listener apart => cases known.symm.trans apart
  next apart =>
  split
  next socket known =>
    have returns := @ActiveOpenSocket.step_returns_iff fallbackMss { socket with rt := p.rt }
      (.receive header env) own
    refine (bind_returns_iff.trans returns).trans
      (not_congr ⟨fun panics => .attempt apart known panics, ?_⟩)
    intro crashes
    cases crashes with
    | connection known' => cases apart.symm.trans known'
    | attempt _ known' panics =>
      cases known.symm.trans known'
      exact panics
    | listener _ idle => cases known.symm.trans idle
  next idle =>
  split
  next socket known =>
    have returns := @PassiveSocket.receive_returns_iff crc fallbackMss { socket with rt := p.rt } remoteAddr
      header own
    refine (bind_returns_iff.trans (Prod.exists.trans returns)).trans
      (not_congr ⟨fun panics => .listener apart idle known panics, ?_⟩)
    intro crashes
    cases crashes with
    | connection known' => cases apart.symm.trans known'
    | attempt _ known' => cases idle.symm.trans known'
    | listener _ _ known' panics =>
      cases known.symm.trans known'
      exact panics
  -- an RST at most, which panics nowhere
  next unbound =>
    refine iff_of_true ⟨_, rfl⟩ ?_
    intro crashes
    cases crashes with
    | connection known' => cases apart.symm.trans known'
    | attempt _ known' => cases idle.symm.trans known'
    | listener _ _ known' => cases unbound.symm.trans known'

/-- A datagram stops a peer if it is a segment that does, from a source there can be. -/
def StoppedBy (eof : Fail) (fallbackMss : Nat) (p : TcpPeer) (env : Env) (ipHdr : Ipv4.Ipv4Header)
    (buf : Buffer) : Prop :=
  ∃ header data, TcpHeader.parse eof ipHdr buf p.rt.tcpOptions.rxChecksumOffload = pure (header, data) ∧
    isInvalidSource ipHdr.srcAddr = false ∧
      p.Crashes fallbackMss env (ends ipHdr header).1 (ends ipHdr header).2 header data

/-- A peer survives exactly the datagrams that do not stop it. -/
theorem receive_returns_iff {ipHdr : Ipv4.Ipv4Header} {buf : Buffer}
    (own : p.rt.tcpOptions.windowScale ≤ 14) :
    (∃ r, p.receive eof crc fallbackMss env ipHdr buf = .ok r) ↔
      ¬p.StoppedBy eof fallbackMss env ipHdr buf := by
  obtain ⟨parsed, parses⟩ :=
    @TcpHeader.parse_returns eof ipHdr buf p.rt.tcpOptions.rxChecksumOffload
  simp only [receive, StoppedBy, parses]
  cases parsed with
  | error fail =>
    refine iff_of_true ⟨_, rfl⟩ ?_
    rintro ⟨header, data, read, -⟩
    cases read
  | ok parsed =>
    obtain ⟨header, data⟩ := parsed
    change (∃ r, (if isInvalidSource ipHdr.srcAddr = true then _ else _) = _) ↔ _
    cases invalid : isInvalidSource ipHdr.srcAddr with
    | true =>
      refine iff_of_true ⟨_, if_pos rfl⟩ ?_
      rintro ⟨_, _, -, valid, -⟩
      cases valid
    | false =>
      rw [if_neg Bool.false_ne_true, route_returns_iff own, not_iff_not]
      constructor
      · intro crashes
        exact ⟨header, data, rfl, rfl, crashes⟩
      · rintro ⟨header', data', read, -, crashes⟩
        cases read
        exact crashes

end TcpPeer

/-- Every event keeps a peer steady. -/
theorem PeerRun.step_steady {eof : Fail} {crc : List UInt8 → UInt32} {fallbackMss : Nat} {r r' : PeerRun}
    {event : PeerEvent} {config : TcpConfig} (h : r.peer.Steady config)
    (stepped : r.step eof crc fallbackMss event = .ok r') : r'.peer.Steady config where
  options := (step_moves stepped).rt_same.tcpOptions.trans h.options
  listeners := step_pending (PassiveSocket.consistent_kept crc fallbackMss) h.listeners
    (fun _ _ _ _ _ _ _ => trivial) stepped

end Inetstack.Tcp
