import Inetstack.Lib.Log
import Inetstack.Lib.Simulation
import Inetstack.Laws.InetStack
import Inetstack.Laws.Tcp.Checksums
import Inetstack.Laws.Tcp.Established.Log

/-!
# What an event of a peer is for

An event of a peer is for at most one connection, which `addressed` names with what happens to it. The
other connections stay as they are; this one takes a step of its own, on the runtime of the peer (`Moves`).
No connection reads what has been transmitted, so it takes the step it would take on any other log.
-/

namespace Inetstack.Tcp

open Machine (Simulates bind_eq_ok stepOption trace)

/-- The link address and the configuration are the same. -/
structure Runtime.Same (rt rt' : Runtime) : Prop where
  localLinkAddr : rt'.localLinkAddr = rt.localLinkAddr
  tcpOptions : rt'.tcpOptions = rt.tcpOptions

/-- A runtime with another log. -/
def Runtime.withLog (rt : Runtime) (log : List TcpSegment) : Runtime := { rt with transmitted := log }

theorem Runtime.Same.withLog {rt rt' : Runtime} (h : rt.Same rt') (log : List TcpSegment) :
    rt'.withLog log = rt.withLog log := by
  simp only [Runtime.withLog, h.localLinkAddr, h.tcpOptions]

/-- A segment of the interface that carries neither data nor a FIN. -/
structure Runtime.Bare (rt : Runtime) (segment : TcpSegment) : Prop where
  carriesText : segment.carriesText = false
  srcAddr : segment.ethernet2Hdr.srcAddr = rt.localLinkAddr

/-- Segments without data and without a FIN may have been added to the log. -/
structure Runtime.Quiet (rt rt' : Runtime) : Prop extends Runtime.Same rt rt' where
  log : Log.Adds rt.Bare rt.transmitted rt'.transmitted

theorem Runtime.Quiet.refl (rt : Runtime) : rt.Quiet rt := ⟨⟨rfl, rfl⟩, .refl _⟩

/-- One bare segment more. -/
theorem Runtime.Quiet.transmit (rt : Runtime) {segment : TcpSegment} (bare : rt.Bare segment) :
    rt.Quiet (rt.transmit segment) := ⟨⟨rfl, rfl⟩, .one bare _⟩

/-! ## A connection on another runtime -/

namespace Endpoint

variable {σ : Type}

/-- A connection with a runtime in place of its own. -/
def on (e : Endpoint σ) (rt : Runtime) : Endpoint σ := { e with cb := { e.cb with rt := rt } }

/-- A connection with the runtime of the peer is the one alone, behind the log of the peer. -/
theorem on_behind (e : Endpoint σ) (rt : Runtime) :
    e.on rt = (e.on (rt.withLog [])).behind rt.transmitted := by
  simp only [on, behind, ControlBlock.behind, Runtime.behind, Runtime.withLog, List.append_nil]

variable [CongestionControl σ]

/-- **A step on one log is a step on any other.** What it transmits is the same. -/
theorem step_on {e e' : Endpoint σ} {rt : Runtime} {event : Event}
    (stepped : (e.on rt).step event = .ok e') (log : List TcpSegment) :
    ∃ new, e'.cb.rt.transmitted = rt.transmitted ++ new ∧
      (e.on (rt.withLog log)).step event = .ok (e'.on (e'.cb.rt.withLog (log ++ new))) := by
  rw [on_behind, step_behind] at stepped
  cases alone : (e.on (rt.withLog [])).step event with
  | error fault =>
    rw [alone] at stepped
    cases stepped
  | ok first =>
    rw [alone] at stepped
    cases stepped
    refine ⟨first.cb.rt.transmitted, rfl, ?_⟩
    rw [on_behind, step_behind,
      show (rt.withLog log).withLog [] = rt.withLog [] from rfl, alone]
    rfl

/-- A step keeps the link address and the configuration, and adds to the log. -/
theorem step_same {e e' : Endpoint CongestionControl.None} {event : Event}
    (stepped : e.step event = .ok e') : e.cb.rt.Same e'.cb.rt := by
  cases step_speaks stepped with
  | silent silent => exact silent.rt ▸ ⟨rfl, rfl⟩
  | answers answers =>
    cases answers with
    | emits segment emitted => exact emitted.rt ▸ ⟨rfl, rfl⟩
    | defers idle same running => exact same ▸ ⟨rfl, rfl⟩
    | unresolved unknown same => exact same ▸ ⟨rfl, rfl⟩

end Endpoint

/-! ## What an event of a peer is for -/

namespace TcpPeer

/-- The connection of a descriptor, if its socket has one. -/
def connectionOf (p : TcpPeer) (qd : QDesc) : Option (SocketAddrV4 × SocketAddrV4) :=
  match p.sockets.lookup qd with
  | some (.established localAddr remoteAddr) => some (localAddr, remoteAddr)
  | _ => none

/-- The addresses an event names, and what happens to a connection between them. -/
def addressed (eof : Fail) (p : TcpPeer) :
    PeerEvent → Option ((SocketAddrV4 × SocketAddrV4) × Event)
  | .close qd env => (p.connectionOf qd).map fun key => (key, .call .close env)
  | .send qd buf env => (p.connectionOf qd).map fun key => (key, .call (.send buf) env)
  | .recv qd env => (p.connectionOf qd).map fun key => (key, .call .pollRecv env)
  | .receive ipHdr buf env =>
    match (TcpHeader.parse eof ipHdr buf p.rt.tcpOptions.rxChecksumOffload).run with
    | .ok (.ok (header, data)) =>
      if isInvalidSource (ends ipHdr header).2.ip then none
      else some (ends ipHdr header, .receive header data env)
    | _ => none
  | .background key call env => some (key, .call call env)
  | _ => none

/-- What happens to one connection. -/
def eventFor (eof : Fail) (p : TcpPeer) (key : SocketAddrV4 × SocketAddrV4) (event : PeerEvent) :
    Option Event :=
  match p.addressed eof event with
  | some (named, ev) => if named = key then some ev else none
  | none => none

/-- A finished handshake has left a control block for a connection. -/
def Offers (p : TcpPeer) (key : SocketAddrV4 × SocketAddrV4) (cb : ControlBlock CongestionControl.None) :
    Prop :=
  (∃ socket, p.connecting.lookup key = some socket ∧ socket.result = some (.ok cb)) ∨
    ∃ addr socket, p.passive.lookup addr = some socket ∧ .ok cb ∈ socket.ready.ready ∧
      key = (cb.localAddr, cb.remoteAddr)

/-- **What one event of a peer can do to its connections**: nothing, enter a new one, or a step of one. -/
inductive Moves (eof : Fail) (p : TcpPeer) (event : PeerEvent) (p' : TcpPeer) : Prop where
  | idle (apart : ∀ key ev, p.addressed eof event = some (key, ev) → p.established.lookup key = none)
      (same : p'.established = p.established) (quiet : p.rt.Quiet p'.rt)
  | opened {key : SocketAddrV4 × SocketAddrV4} {cb : ControlBlock CongestionControl.None}
      (untold : p.addressed eof event = none) (offered : p.Offers key cb)
      (fresh : p.established.lookup key = none)
      (entered : p'.established = p.established.insert key (.start cb)) (same : p'.rt = p.rt)
  | moved {key : SocketAddrV4 × SocketAddrV4} {ev : Event} {e e' : Endpoint CongestionControl.None}
      (named : p.addressed eof event = some (key, ev)) (known : p.established.lookup key = some e)
      (stepped : (e.on p.rt).step ev = .ok e')
      (entered : p'.established = p.established.insert key e') (same : p'.rt = e'.cb.rt)

variable {eof : Fail} {crc : List UInt8 → UInt32} {fallbackMss : Nat} {p p' : TcpPeer} {event : PeerEvent}
  {key : SocketAddrV4 × SocketAddrV4} {qd newQd : QDesc}

/-- An event that is for no connection. -/
theorem Moves.untouched (untold : p.addressed eof event = none)
    (same : p'.established = p.established) (quiet : p.rt.Quiet p'.rt) : Moves eof p event p' := by
  refine .idle (fun key ev named => ?_) same quiet
  rw [untold] at named
  cases named

/-- An event that is for a connection is a step of it. -/
theorem Moves.ofStep {ev : Event} {e : Endpoint CongestionControl.None}
    (named : p.addressed eof event = some (key, ev)) (known : p.established.lookup key = some e)
    (ran : p.stepEstablished key e ev = .ok p') : Moves eof p event p' := by
  obtain ⟨e', stepped, ran⟩ := bind_eq_ok.mp ran
  cases ran
  exact .moved named known stepped rfl rfl

/-- The connection of an established socket. -/
theorem connectionOf_eq_some {localAddr remoteAddr : SocketAddrV4}
    (found : p.sockets.lookup qd = some (.established localAddr remoteAddr)) :
    p.connectionOf qd = some (localAddr, remoteAddr) := by
  simp only [connectionOf, found]

/-- No other socket has a connection. -/
theorem connectionOf_eq_none
    (other : ∀ localAddr remoteAddr, p.sockets.lookup qd ≠ some (.established localAddr remoteAddr)) :
    p.connectionOf qd = none := by
  unfold connectionOf
  split
  next localAddr remoteAddr found => exact (other localAddr remoteAddr found).elim
  next => rfl

/-- A read or a write that finds a connection finds the one of its descriptor. -/
theorem connection_named {other : Socket → Fail} {e : Endpoint CongestionControl.None}
    (answer : p.connection qd other = .ok (key, e)) :
    p.connectionOf qd = some key ∧ p.established.lookup key = some e := by
  unfold connection at answer
  split at answer
  next localAddr remoteAddr found =>
    split at answer
    next known =>
      cases answer
      exact ⟨connectionOf_eq_some found, known⟩
    next => cases answer
  next => cases answer
  next => cases answer

/-- Where the lookup fails there is no connection, so the event is for none. -/
theorem connection_apart {other : Socket → Fail} {fail : Fail}
    (answer : p.connection qd other = .error fail) (named : p.connectionOf qd = some key) :
    p.established.lookup key = none := by
  cases known : p.established.lookup key with
  | none => rfl
  | some e =>
    unfold connectionOf at named
    split at named
    next localAddr remoteAddr found =>
      cases named
      simp only [connection, found, known] at answer
      cases answer
    next => cases named

/-! ## Each event -/

/-- An accept that returns enters its connection. -/
theorem pollAccept_moves {result : Option (Except Fail QDesc)}
    (ran : p.pollAccept qd newQd = .ok (result, p')) : Moves eof p (.accept qd newQd) p' := by
  unfold pollAccept at ran
  split at ran
  · split at ran
    · cases ran
    next passive known =>
    obtain ⟨⟨taken, socket⟩, polled, ran⟩ := bind_eq_ok.mp ran
    dsimp only at ran
    split at ran
    · cases ran
      exact .untouched rfl rfl (.refl _)
    · cases ran
      exact .untouched rfl rfl (.refl _)
    next cb =>
      obtain ⟨p'', entered, ran⟩ := bind_eq_ok.mp ran
      cases ran
      simp only [enterAccepted] at entered
      split at entered
      · cases entered
      split at entered
      · cases entered
      next fresh =>
        cases entered
        obtain ⟨none, -⟩ | ⟨first, rest, endpoints, same, queue, -⟩ :=
          PassiveSocket.pollAccept_cases polled
        · cases none
        · cases same
          have member : .ok cb ∈ passive.ready.ready := queue ▸ List.mem_cons_self
          exact .opened rfl (.inr ⟨_, passive, known, member, rfl⟩) fresh rfl rfl
  · cases ran
    exact .untouched rfl rfl (.refl _)
  · cases ran
    exact .untouched rfl rfl (.refl _)

/-- And so does a connect. -/
theorem pollConnectFinished_moves {result : Option (Except Fail Unit)}
    (ran : p.pollConnectFinished qd = .ok (result, p')) : Moves eof p (.connectFinished qd) p' := by
  unfold pollConnectFinished at ran
  split at ran
  · dsimp only at ran
    split at ran
    · cases ran
      exact .untouched rfl rfl (.refl _)
    next socket known =>
    split at ran
    · cases ran
      exact .untouched rfl rfl (.refl _)
    next result result' =>
    split at ran
    · cases ran
      exact .untouched rfl rfl (.refl _)
    next cb =>
    split at ran
    · cases ran
    next fresh =>
      cases ran
      exact .opened rfl (.inl ⟨socket, known, result'⟩) fresh rfl rfl
  · cases ran
    exact .untouched rfl rfl (.refl _)
  · cases ran
    exact .untouched rfl rfl (.refl _)

/-- `close` is for the connection of the socket; a socket without one fails. -/
theorem doClose_moves {env : Env} {result : Except Fail Unit}
    (ran : p.doClose qd env = .ok (result, p')) : Moves eof p (.close qd env) p' := by
  unfold doClose at ran
  dsimp only at ran
  split at ran
  next localAddr remoteAddr found =>
    have named : p.addressed eof (.close qd env) =
        some ((localAddr, remoteAddr), .call .close env) := by
      simp only [addressed, connectionOf_eq_some found, Option.map_some]
    split at ran
    next e known =>
      obtain ⟨p'', ended, ran⟩ := bind_eq_ok.mp ran
      cases ran
      obtain ⟨e', stepped, ran⟩ := bind_eq_ok.mp ended
      cases ran
      exact .moved named known stepped rfl rfl
    next absent =>
      cases ran
      refine .idle (fun key ev told => ?_) rfl (.refl _)
      rw [named] at told
      cases told
      exact absent
  next socket other found =>
    cases ran
    refine .untouched ?_ rfl (.refl _)
    have none : p.connectionOf qd = none := connectionOf_eq_none fun localAddr remoteAddr same =>
      other localAddr remoteAddr (Option.some.inj (found.symm.trans same))
    simp only [addressed, none, Option.map_none]
  next absent =>
    cases ran
    refine .untouched ?_ rfl (.refl _)
    simp only [addressed, connectionOf, absent, Option.map_none]

/-- `send` is for the connection of the socket. -/
theorem send_moves {buf : Buffer} {env : Env} {result : Except Fail Unit}
    (ran : p.send qd buf env = .ok (result, p')) : Moves eof p (.send qd buf env) p' := by
  unfold send at ran
  split at ran
  next fail answer =>
    cases ran
    refine .idle (fun key ev told => ?_) rfl (.refl _)
    obtain ⟨named, same, eq⟩ := Option.map_eq_some_iff.mp told
    cases eq
    exact connection_apart answer same
  next key e answer =>
    obtain ⟨named, known⟩ := connection_named answer
    obtain ⟨sent, -, ran⟩ := bind_eq_ok.mp ran
    obtain ⟨p'', stepped, ran⟩ := bind_eq_ok.mp ran
    cases ran
    exact .ofStep (by simp only [addressed, named, Option.map_some]) known stepped

theorem pollRecv_moves {env : Env} {result : Option (Except Fail Buffer)}
    (ran : p.pollRecv qd env = .ok (result, p')) : Moves eof p (.recv qd env) p' := by
  unfold pollRecv at ran
  dsimp only at ran
  split at ran
  next fail answer =>
    cases ran
    refine .idle (fun key ev told => ?_) rfl (.refl _)
    obtain ⟨named, same, eq⟩ := Option.map_eq_some_iff.mp told
    cases eq
    exact connection_apart answer same
  next key e answer =>
    obtain ⟨named, known⟩ := connection_named answer
    obtain ⟨p'', stepped, ran⟩ := bind_eq_ok.mp ran
    cases ran
    exact .ofStep (by simp only [addressed, named, Option.map_some]) known stepped

/-- The background tasks are those of one connection. -/
theorem background_moves {call : Call} {env : Env} (ran : p.background key call env = .ok p') :
    Moves eof p (.background key call env) p' := by
  unfold background at ran
  split at ran
  next absent =>
    cases ran
    refine .idle (fun named ev told => ?_) rfl (.refl _)
    cases told
    exact absent
  next e known => exact .ofStep rfl known ran

/-- A connect attempt transmits nothing but a SYN or the ACK of a SYN+ACK. -/
theorem receive_quiet {s s' : ActiveOpenSocket} {env : Env} {header : TcpHeader}
    (ran : s.receive fallbackMss env header = .ok s') : s.rt.Quiet s'.rt := by
  simp only [ActiveOpenSocket.receive] at ran
  split at ran
  · cases ran
    exact .refl _
  split at ran
  · cases ran
    exact .refl _
  split at ran
  · cases ran
    exact .refl _
  split at ran
  · cases ran
  · obtain ⟨cb, -, eq⟩ := bind_eq_ok.mp ran
    cases eq
    exact .transmit s.rt ⟨rfl, rfl⟩

/-- A retry task sends SYNs. -/
theorem retryConnect_quiet (s : ActiveOpenSocket) (poll : RetryPoll) :
    s.rt.Quiet (s.background poll).rt := by
  simp only [ActiveOpenSocket.background]
  split
  · exact .refl _
  · exact .transmit s.rt ⟨rfl, rfl⟩
  · exact .refl _

/-- A listener transmits nothing but SYN+ACKs. -/
theorem retryAccept_quiet (s : PassiveSocket) (remoteAddr : SocketAddrV4) (poll : RetryPoll) :
    s.rt.Quiet (s.background remoteAddr poll).rt := by
  simp only [PassiveSocket.background]
  split
  · exact .refl _
  split
  · exact .refl _
  · exact .transmit s.rt ⟨rfl, rfl⟩
  · exact .refl _

/-- A listener sends nothing when a segment arrives. -/
theorem passive_receive_rt {s s' : PassiveSocket} {remoteAddr : SocketAddrV4} {header : TcpHeader}
    {result : Except Fail Unit}
    (ran : s.receive crc fallbackMss remoteAddr header = .ok (result, s')) : s'.rt = s.rt := by
  rcases PassiveSocket.receive_cases ran with rfl | ⟨accept, cb, -, -, -, -, -, -, rfl⟩ |
    ⟨accept, isns, -, -, -, rfl⟩
  · rfl
  · rfl
  · rfl

/-- **A segment moves the connection between its addresses**, if there is one. -/
theorem route_moves {env : Env} {header : TcpHeader} {data : Buffer} {result : Except Fail Unit}
    {ends : SocketAddrV4 × SocketAddrV4}
    (named : p.addressed eof event = some (ends, .receive header data env))
    (ran : p.route crc fallbackMss env ends.1 ends.2 header data = .ok (result, p')) :
    Moves eof p event p' := by
  unfold route at ran
  split at ran
  next e known =>
    obtain ⟨routed, stepped, ran⟩ := bind_eq_ok.mp ran
    cases ran
    exact .ofStep named known stepped
  next absent =>
  have apart : ∀ key ev, p.addressed eof event = some (key, ev) → p.established.lookup key = none := by
    intro key ev told
    rw [named] at told
    cases told
    exact absent
  split at ran
  next socket _ =>
    obtain ⟨socket', received, ran⟩ := bind_eq_ok.mp ran
    cases ran
    exact .idle apart rfl (receive_quiet (s := { socket with rt := p.rt }) received)
  split at ran
  next socket _ =>
    obtain ⟨⟨answer, socket'⟩, received, ran⟩ := bind_eq_ok.mp ran
    cases ran
    have same := passive_receive_rt (s := { socket with rt := p.rt }) received
    exact .idle apart rfl (same ▸ .refl p.rt)
  · have eq := congrArg Prod.snd (Except.ok.inj ran)
    dsimp only at eq
    subst eq
    unfold sendRst
    split
    · exact .idle apart rfl (.refl _)
    · exact .idle apart rfl (.transmit p.rt ⟨rfl, rfl⟩)

/-- **A segment arrives**: it is for a connection, or moves a handshake. -/
theorem receive_moves {env : Env} {ipHdr : Ipv4.Ipv4Header} {buf : Buffer} {result : Except Fail Unit}
    (ran : p.receive eof crc fallbackMss env ipHdr buf = .ok (result, p')) :
    Moves eof p (.receive ipHdr buf env) p' := by
  obtain ⟨parsed, parse, ran⟩ := bind_eq_ok.mp ran
  split at ran
  next fail =>
    cases ran
    exact .untouched (by simp only [addressed, parse]) rfl (.refl _)
  next header data =>
    dsimp only at ran
    split at ran
    next invalid =>
      cases ran
      exact .untouched (by simp only [addressed, parse, invalid, if_true]) rfl (.refl _)
    next valid => exact route_moves (by simp only [addressed, parse, valid]; rfl) ran

end TcpPeer

namespace PeerRun

variable {eof : Fail} {crc : List UInt8 → UInt32} {fallbackMss : Nat} {r r' : PeerRun}
  {event : PeerEvent}

/-- **Every event does to the connections what `Moves` says.** -/
theorem step_moves (stepped : r.step eof crc fallbackMss event = .ok r') :
    TcpPeer.Moves eof r.peer event r'.peer := by
  cases event with
  | socket qd =>
    cases stepped
    refine .untouched rfl (r.peer.established_doSocket qd) ?_
    unfold TcpPeer.doSocket
    split
    · exact .refl _
    · exact .refl _
  | bind qd addr =>
    cases stepped
    exact .untouched rfl (r.peer.established_bind qd addr) ((r.peer.bind_rt qd addr).symm ▸ .refl _)
  | listen qd backlog nonce =>
    cases stepped
    exact .untouched rfl (r.peer.established_listen qd backlog nonce)
      ((r.peer.listen_rt qd backlog nonce).symm ▸ .refl _)
  | accept qd newQd =>
    obtain ⟨⟨result, peer⟩, ran, stepped⟩ := bind_eq_ok.mp stepped
    have moves : TcpPeer.Moves eof r.peer (.accept qd newQd) peer := TcpPeer.pollAccept_moves ran
    -- a failed accept and a taken connection move the table in the same way
    split at stepped
    next taken =>
      cases taken
      cases stepped
      exact moves
    next taken =>
      cases taken
      cases stepped
      exact moves
  | connect qd remoteAddr =>
    cases stepped
    exact .untouched rfl (TcpPeer.established_connect crc r.peer qd remoteAddr)
      ((r.peer.connect_rt qd remoteAddr).symm ▸ .refl _)
  | connectFinished qd =>
    obtain ⟨⟨result, peer⟩, ran, stepped⟩ := bind_eq_ok.mp stepped
    cases stepped
    exact TcpPeer.pollConnectFinished_moves ran
  | close qd env =>
    obtain ⟨⟨result, peer⟩, ran, stepped⟩ := bind_eq_ok.mp stepped
    cases stepped
    exact TcpPeer.doClose_moves ran
  | send qd buf env =>
    obtain ⟨⟨result, peer⟩, ran, stepped⟩ := bind_eq_ok.mp stepped
    cases stepped
    exact TcpPeer.send_moves ran
  | recv qd env =>
    obtain ⟨⟨result, peer⟩, ran, stepped⟩ := bind_eq_ok.mp stepped
    cases stepped
    exact TcpPeer.pollRecv_moves ran
  | receive ipHdr buf env =>
    obtain ⟨⟨result, peer⟩, ran, stepped⟩ := bind_eq_ok.mp stepped
    cases stepped
    exact TcpPeer.receive_moves ran
  | retryConnect key poll =>
    cases stepped
    unfold TcpPeer.retryConnect
    split
    · exact .untouched rfl rfl (.refl _)
    next socket _ =>
      exact .untouched rfl rfl (TcpPeer.retryConnect_quiet { socket with rt := r.peer.rt } poll)
  | retryAccept localAddr remoteAddr poll =>
    cases stepped
    unfold TcpPeer.retryAccept
    split
    · exact .untouched rfl rfl (.refl _)
    next socket _ =>
      exact .untouched rfl rfl
        (TcpPeer.retryAccept_quiet { socket with rt := r.peer.rt } remoteAddr poll)
  | background key call env =>
    obtain ⟨peer, ran, stepped⟩ := bind_eq_ok.mp stepped
    cases stepped
    exact TcpPeer.background_moves ran

end PeerRun

end Inetstack.Tcp
