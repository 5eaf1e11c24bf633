import Inetstack.Laws.InetStack

/-!
# Handshakes under way

A peer keeps a table of its connect attempts and one of its listeners. What is kept by whatever happens to
one connect attempt and to one listener is kept by every event of the peer (`step_pending`), so a law about
handshakes is proved for the two sockets and not again for the peer.
-/

namespace Inetstack.Tcp

open Machine (bind_eq_ok)

/-- What holds of a connect attempt by its addresses, and of a listener by its own, is kept by whatever
happens to them. The segments that arrive between two addresses are as `arriving` says. -/
structure KeptByHandshakes (crc : List UInt8 → UInt32) (fallbackMss : Nat)
    (arriving : SocketAddrV4 × SocketAddrV4 → TcpHeader → Prop)
    (attempt : SocketAddrV4 × SocketAddrV4 → ActiveOpenSocket → Prop)
    (listener : SocketAddrV4 → PassiveSocket → Prop) : Prop where
  started : ∀ localIsn localAddr remoteAddr rt,
    attempt (localAddr, remoteAddr) (.new localIsn localAddr remoteAddr rt)
  answered : ∀ {key s s' env header} (rt : Runtime), attempt key s → arriving key header →
    ActiveOpenSocket.receive fallbackMss { s with rt := rt } env header = .ok s' → attempt key s'
  retried : ∀ {key s} (rt : Runtime) (poll : RetryPoll), attempt key s →
    attempt key (ActiveOpenSocket.background { s with rt := rt } poll)
  opened : ∀ addr backlog rt nonce, listener addr (.new addr backlog rt nonce)
  reached : ∀ {addr remoteAddr s s' header result} (rt : Runtime), listener addr s →
    arriving (addr, remoteAddr) header →
    PassiveSocket.receive crc fallbackMss { s with rt := rt } remoteAddr header = .ok (result, s') →
    listener addr s'
  repeated : ∀ {addr s} (rt : Runtime) (remoteAddr : SocketAddrV4) (poll : RetryPoll), listener addr s →
    listener addr (PassiveSocket.background { s with rt := rt } remoteAddr poll)
  taken : ∀ {addr s s' result}, listener addr s → PassiveSocket.pollAccept s = .ok (result, s') →
    listener addr s'

namespace TcpPeer

/-- Every connect attempt and every listener of a peer is as it is said. -/
structure Pending (attempt : SocketAddrV4 × SocketAddrV4 → ActiveOpenSocket → Prop)
    (listener : SocketAddrV4 → PassiveSocket → Prop) (p : TcpPeer) : Prop where
  connecting : ∀ key s, p.connecting.lookup key = some s → attempt key s
  passive : ∀ addr s, p.passive.lookup addr = some s → listener addr s

variable {eof : Fail} {crc : List UInt8 → UInt32} {fallbackMss : Nat} {p p' : TcpPeer}
  {arriving : SocketAddrV4 × SocketAddrV4 → TcpHeader → Prop}
  {attempt : SocketAddrV4 × SocketAddrV4 → ActiveOpenSocket → Prop}
  {listener : SocketAddrV4 → PassiveSocket → Prop} {key : SocketAddrV4 × SocketAddrV4}
  {addr : SocketAddrV4} {qd newQd : QDesc}

/-- A new peer has no handshakes. -/
theorem Pending.new (shuffle : List UInt16 → List UInt16) (nonce : UInt32) (rt : Runtime)
    (localIpv4Addr : Ipv4Addr) : (new shuffle nonce rt localIpv4Addr).Pending attempt listener where
  connecting _ _ found := by cases found
  passive _ _ found := by cases found

/-- Only the two tables matter. -/
theorem Pending.of_same (h : p.Pending attempt listener) (connecting : p'.connecting = p.connecting)
    (passive : p'.passive = p.passive) : p'.Pending attempt listener :=
  ⟨connecting ▸ h.connecting, passive ▸ h.passive⟩

/-- One listener more, or one replaced. -/
theorem Pending.listened (h : p.Pending attempt listener) {s : PassiveSocket} (new : listener addr s) :
    Pending attempt listener { p with passive := p.passive.insert addr s } :=
  ⟨h.connecting, Table.forall_insert h.passive new⟩

/-- One connect attempt more, or one replaced. -/
theorem Pending.attempted (h : p.Pending attempt listener) {s : ActiveOpenSocket} (new : attempt key s) :
    Pending attempt listener { p with connecting := p.connecting.insert key s } :=
  ⟨Table.forall_insert h.connecting new, h.passive⟩

/-! ## The calls of the user -/

/-- `bind` touches no handshake. -/
theorem Pending.bind (h : p.Pending attempt listener) (qd : QDesc) (addr : SocketAddrV4) :
    (p.bind qd addr).2.Pending attempt listener := by
  unfold TcpPeer.bind
  split
  · exact h
  split
  · exact h
  · split
    · exact h.of_same rfl rfl
    · exact h.of_same rfl rfl
    · exact h.of_same rfl rfl

/-- `listen` opens a listener. -/
theorem Pending.listen (kept : KeptByHandshakes crc fallbackMss arriving attempt listener)
    (h : p.Pending attempt listener) (qd : QDesc) (backlog : Nat) (nonce : UInt32) :
    (p.listen qd backlog nonce).2.Pending attempt listener := by
  unfold TcpPeer.listen
  split
  · split
    · exact h
    · exact (h.listened (kept.opened _ backlog p.rt nonce)).of_same rfl rfl
  all_goals exact h

/-- A connect attempt is started with a number of its own. -/
theorem Pending.startConnecting (kept : KeptByHandshakes crc fallbackMss arriving attempt listener)
    (h : p.Pending attempt listener) (qd : QDesc) (localAddr remoteAddr : SocketAddrV4) :
    (p.startConnecting crc qd localAddr remoteAddr).2.Pending attempt listener := by
  unfold TcpPeer.startConnecting
  exact (h.attempted (kept.started _ localAddr remoteAddr p.rt)).of_same rfl rfl

/-- `connect` starts an attempt, or fails. -/
theorem Pending.connect (kept : KeptByHandshakes crc fallbackMss arriving attempt listener)
    (h : p.Pending attempt listener) (qd : QDesc) (remoteAddr : SocketAddrV4) :
    (p.connect crc qd remoteAddr).2.Pending attempt listener := by
  unfold TcpPeer.connect
  split
  · split
    · exact h
    next localPort ports _ =>
      have drawn : Pending attempt listener { p with ephemeralPorts := ports } := h.of_same rfl rfl
      exact drawn.startConnecting kept qd _ remoteAddr
  · exact h.startConnecting kept qd _ remoteAddr
  all_goals exact h

/-- An accept takes from the queue of its listener. -/
theorem Pending.pollAccept (kept : KeptByHandshakes crc fallbackMss arriving attempt listener)
    {result : Option (Except Fail QDesc)} (h : p.Pending attempt listener)
    (ran : p.pollAccept qd newQd = .ok (result, p')) : p'.Pending attempt listener := by
  unfold TcpPeer.pollAccept at ran
  split at ran
  · split at ran
    · cases ran
    next passive known =>
    obtain ⟨⟨taken, socket⟩, polled, ran⟩ := bind_eq_ok.mp ran
    have listened := h.listened (kept.taken (h.passive _ passive known) polled)
    dsimp only at ran
    split at ran
    · cases ran
      exact listened
    · cases ran
      exact listened
    next cb =>
      obtain ⟨p'', entered, ran⟩ := bind_eq_ok.mp ran
      cases ran
      simp only [enterAccepted] at entered
      split at entered
      · cases entered
      split at entered
      · cases entered
      · cases entered
        exact listened.of_same rfl rfl
  · cases ran
    exact h
  · cases ran
    exact h

theorem Pending.pollConnectFinished {result : Option (Except Fail Unit)} (h : p.Pending attempt listener)
    (ran : p.pollConnectFinished qd = .ok (result, p')) : p'.Pending attempt listener := by
  have erased (key : SocketAddrV4 × SocketAddrV4) :
      Pending attempt listener { p with connecting := p.connecting.erase key } :=
    ⟨Table.forall_erase h.connecting, h.passive⟩
  unfold TcpPeer.pollConnectFinished at ran
  split at ran
  · dsimp only at ran
    split at ran
    · cases ran
      exact h
    split at ran
    · cases ran
      exact h
    split at ran
    · cases ran
      exact erased _
    split at ran
    · cases ran
    · cases ran
      exact (erased _).of_same rfl rfl
  · cases ran
    exact h
  · cases ran
    exact h

/-- A step of a connection is none of a handshake. -/
theorem Pending.stepEstablished {e : Endpoint CongestionControl.None} {ev : Event}
    (h : p.Pending attempt listener) (ran : p.stepEstablished key e ev = .ok p') :
    p'.Pending attempt listener := by
  obtain ⟨e', stepped, ran⟩ := bind_eq_ok.mp ran
  cases ran
  exact h.of_same rfl rfl

theorem Pending.doClose {env : Env} {result : Except Fail Unit} (h : p.Pending attempt listener)
    (ran : p.doClose qd env = .ok (result, p')) : p'.Pending attempt listener := by
  have closed : Pending attempt listener { p with sockets := p.sockets.erase qd } := h.of_same rfl rfl
  unfold TcpPeer.doClose at ran
  dsimp only at ran
  split at ran
  · split at ran
    next e known =>
      obtain ⟨p'', ended, ran⟩ := bind_eq_ok.mp ran
      cases ran
      exact closed.stepEstablished ended
    · cases ran
      exact closed
  · cases ran
    exact closed
  · cases ran
    exact h

theorem Pending.send {buf : Buffer} {env : Env} {result : Except Fail Unit}
    (h : p.Pending attempt listener) (ran : p.send qd buf env = .ok (result, p')) :
    p'.Pending attempt listener := by
  unfold TcpPeer.send at ran
  split at ran
  · cases ran
    exact h
  · obtain ⟨sent, -, ran⟩ := bind_eq_ok.mp ran
    obtain ⟨p'', stepped, ran⟩ := bind_eq_ok.mp ran
    cases ran
    exact h.stepEstablished stepped

theorem Pending.pollRecv {env : Env} {result : Option (Except Fail Buffer)}
    (h : p.Pending attempt listener) (ran : p.pollRecv qd env = .ok (result, p')) :
    p'.Pending attempt listener := by
  unfold TcpPeer.pollRecv at ran
  dsimp only at ran
  split at ran
  · cases ran
    exact h
  · obtain ⟨p'', stepped, ran⟩ := bind_eq_ok.mp ran
    cases ran
    exact h.stepEstablished stepped

/-! ## Segments and background tasks -/

/-- **Where a segment goes**: to the attempt between its addresses, or the listener at its address. -/
theorem Pending.route (kept : KeptByHandshakes crc fallbackMss arriving attempt listener) {env : Env}
    {localAddr remoteAddr : SocketAddrV4} {header : TcpHeader} {data : Buffer} {result : Except Fail Unit}
    (h : p.Pending attempt listener) (arrives : arriving (localAddr, remoteAddr) header)
    (ran : p.route crc fallbackMss env localAddr remoteAddr header data = .ok (result, p')) :
    p'.Pending attempt listener := by
  unfold TcpPeer.route at ran
  split at ran
  · obtain ⟨routed, stepped, ran⟩ := bind_eq_ok.mp ran
    cases ran
    exact h.stepEstablished stepped
  split at ran
  next socket known =>
    obtain ⟨socket', received, ran⟩ := bind_eq_ok.mp ran
    cases ran
    exact (h.attempted (kept.answered p.rt (h.connecting _ socket known) arrives received)).of_same rfl rfl
  split at ran
  next socket known =>
    obtain ⟨⟨answer, socket'⟩, received, ran⟩ := bind_eq_ok.mp ran
    cases ran
    exact (h.listened (kept.reached p.rt (h.passive _ socket known) arrives received)).of_same rfl rfl
  · have eq := congrArg Prod.snd (Except.ok.inj ran)
    dsimp only at eq
    subst eq
    unfold sendRst
    split
    · exact h
    · exact h.of_same rfl rfl

/-- **A segment arrives**, and is parsed. -/
theorem Pending.receive (kept : KeptByHandshakes crc fallbackMss arriving attempt listener) {env : Env}
    {ipHdr : Ipv4.Ipv4Header} {buf : Buffer} {result : Except Fail Unit} (h : p.Pending attempt listener)
    (arrives : ∀ header data,
      (TcpHeader.parse eof ipHdr buf p.rt.tcpOptions.rxChecksumOffload).run = .ok (.ok (header, data)) →
      arriving (ends ipHdr header) header)
    (ran : p.receive eof crc fallbackMss env ipHdr buf = .ok (result, p')) : p'.Pending attempt listener := by
  obtain ⟨parsed, parses, ran⟩ := bind_eq_ok.mp ran
  split at ran
  · cases ran
    exact h
  next header data =>
    dsimp only at ran
    split at ran
    · cases ran
      exact h
    · exact h.route kept (arrives header data parses) ran

theorem Pending.retryConnect (kept : KeptByHandshakes crc fallbackMss arriving attempt listener)
    (h : p.Pending attempt listener) (key : SocketAddrV4 × SocketAddrV4) (poll : RetryPoll) :
    (p.retryConnect key poll).Pending attempt listener := by
  unfold TcpPeer.retryConnect
  split
  · exact h
  next socket known =>
    exact (h.attempted (kept.retried p.rt poll (h.connecting key socket known))).of_same rfl rfl

/-- The retry task of one handshake of a listener. -/
theorem Pending.retryAccept (kept : KeptByHandshakes crc fallbackMss arriving attempt listener)
    (h : p.Pending attempt listener) (localAddr remoteAddr : SocketAddrV4) (poll : RetryPoll) :
    (p.retryAccept localAddr remoteAddr poll).Pending attempt listener := by
  unfold TcpPeer.retryAccept
  split
  · exact h
  next socket known =>
    have after := kept.repeated p.rt remoteAddr poll (h.passive localAddr socket known)
    exact (h.listened after).of_same rfl rfl

/-- The background tasks of a connection touch no handshake. -/
theorem Pending.background {call : Call} {env : Env} (h : p.Pending attempt listener)
    (ran : p.background key call env = .ok p') : p'.Pending attempt listener := by
  unfold TcpPeer.background at ran
  split at ran
  · cases ran
    exact h
  · exact h.stepEstablished ran

end TcpPeer

namespace PeerRun

variable {eof : Fail} {crc : List UInt8 → UInt32} {fallbackMss : Nat} {r r' : PeerRun}
  {arriving : SocketAddrV4 × SocketAddrV4 → TcpHeader → Prop}
  {attempt : SocketAddrV4 × SocketAddrV4 → ActiveOpenSocket → Prop}
  {listener : SocketAddrV4 → PassiveSocket → Prop} {event : PeerEvent}

/-- The segments of an event of a peer are as `arriving` says. -/
def Arriving (eof : Fail) (arriving : SocketAddrV4 × SocketAddrV4 → TcpHeader → Prop) (r : PeerRun)
    (event : PeerEvent) : Prop :=
  ∀ ipHdr buf env header data, event = .receive ipHdr buf env →
    (TcpHeader.parse eof ipHdr buf r.peer.rt.tcpOptions.rxChecksumOffload).run = .ok (.ok (header, data)) →
    arriving (TcpPeer.ends ipHdr header) header

/-- **Every event keeps what handshakes keep.** -/
theorem step_pending (kept : KeptByHandshakes crc fallbackMss arriving attempt listener)
    (h : r.peer.Pending attempt listener) (arrives : r.Arriving eof arriving event)
    (stepped : r.step eof crc fallbackMss event = .ok r') : r'.peer.Pending attempt listener := by
  cases event with
  | socket qd =>
    cases stepped
    unfold TcpPeer.doSocket
    split
    · exact h.of_same rfl rfl
    · exact h
  | bind qd addr =>
    cases stepped
    exact h.bind qd addr
  | listen qd backlog nonce =>
    cases stepped
    exact h.listen kept qd backlog nonce
  | accept qd newQd =>
    obtain ⟨⟨result, peer⟩, ran, stepped⟩ := bind_eq_ok.mp stepped
    have pending := h.pollAccept kept ran
    -- a connection that was taken and a failure leave the same peer
    split at stepped
    next taken =>
      cases taken
      cases stepped
      exact pending
    next taken =>
      cases taken
      cases stepped
      exact pending
  | connect qd remoteAddr =>
    cases stepped
    exact h.connect kept qd remoteAddr
  | connectFinished qd =>
    obtain ⟨⟨result, peer⟩, ran, stepped⟩ := bind_eq_ok.mp stepped
    cases stepped
    exact h.pollConnectFinished ran
  | close qd env =>
    obtain ⟨⟨result, peer⟩, ran, stepped⟩ := bind_eq_ok.mp stepped
    cases stepped
    exact h.doClose ran
  | send qd buf env =>
    obtain ⟨⟨result, peer⟩, ran, stepped⟩ := bind_eq_ok.mp stepped
    cases stepped
    exact h.send ran
  | recv qd env =>
    obtain ⟨⟨result, peer⟩, ran, stepped⟩ := bind_eq_ok.mp stepped
    cases stepped
    exact h.pollRecv ran
  | receive ipHdr buf env =>
    obtain ⟨⟨result, peer⟩, ran, stepped⟩ := bind_eq_ok.mp stepped
    cases stepped
    exact h.receive kept (fun header data parsed => arrives ipHdr buf env header data rfl parsed) ran
  | retryConnect key poll =>
    cases stepped
    exact h.retryConnect kept key poll
  | retryAccept localAddr remoteAddr poll =>
    cases stepped
    exact h.retryAccept kept localAddr remoteAddr poll
  | background key call env =>
    obtain ⟨peer, ran, stepped⟩ := bind_eq_ok.mp stepped
    cases stepped
    exact h.background ran

end PeerRun

end Inetstack.Tcp
