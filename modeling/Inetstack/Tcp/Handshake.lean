import Inetstack.Tcp.PassiveOpen
import Inetstack.Tcp.Established.Endpoint

/-!
# A client, a listener and the network between them

One connect attempt and one listener, on one address pair. A segment is routed as `Inner::receive` of
`protocols/tcp/peer.rs` routes it: to the established connection of the address pair if there is one,
else to the connect attempt, else to the listener, and is answered with an RST where there is
nothing. The user's polls move a finished handshake to the established connections
(`poll_connect_finished`, `poll_accept`), where it becomes an endpoint and stays.

The network keeps every segment ever transmitted and may deliver any of them, in any order, any
number of times or never. The lists of produced control blocks are not in the code: they record
every control block either side has come up with, as it was when new.
-/

namespace Inetstack.Tcp

/-- The client's end of the address pair. -/
inductive ClientSide where
  | connecting (socket : ActiveOpenSocket)
  | established (e : Endpoint CongestionControl.None)
  /-- The attempt is over without a connection. -/
  | failed (fail : Fail) (rt : Runtime)

/-- The server's end of the address pair: the listener, and the connection once it is accepted. -/
structure ServerSide where
  passive : PassiveSocket
  established : Option (Endpoint CongestionControl.None)

structure Handshake where
  clientAddr : SocketAddrV4
  serverAddr : SocketAddrV4
  client : ClientSide
  server : ServerSide
  toServer : List TcpSegment
  toClient : List TcpSegment
  clientBlocks : List (ControlBlock CongestionControl.None)
  serverBlocks : List (ControlBlock CongestionControl.None)

inductive HandshakeEvent where
  /-- A poll of the client's retry task. -/
  | clientRetry (poll : RetryPoll)
  /-- A poll of the server's retry task for the client. -/
  | serverRetry (poll : RetryPoll)
  | deliverToClient (index : Nat) (env : Env)
  | deliverToServer (index : Nat) (env : Env)
  /-- `poll_connect_finished` -/
  | pollConnect
  /-- `poll_accept` -/
  | pollAccept
  /-- A call on the established connection of one end. -/
  | clientCall (call : Call) (env : Env)
  | serverCall (call : Call) (env : Env)

/-- The RST that answers a segment for which there is no socket, if the link address is known. -/
def sendRst (rt : Runtime) (localAddr remoteAddr : SocketAddrV4) (env : Env) : Runtime :=
  match env.remoteLinkAddr with
  | none => rt
  | some remoteLinkAddr =>
    rt.transmit (bareSegment rt localAddr remoteAddr
      { TcpHeader.new localAddr.port remoteAddr.port with rst := true } remoteLinkAddr)

/-- The segments a runtime has transmitted since it was as before. -/
def Runtime.since (rt before : Runtime) : List TcpSegment :=
  rt.transmitted.drop before.transmitted.length

/-- The control blocks among the results of an open. -/
def producedBlocks (results : List OpenResult) : List (ControlBlock CongestionControl.None) :=
  results.filterMap Except.toOption

namespace Handshake

/-- A connect attempt that has not begun and a listener that has heard nothing. -/
def start (clientIsn : SeqNumber) (clientAddr serverAddr : SocketAddrV4)
    (clientRt serverRt : Runtime) (maxBacklog : Nat) (nonce : UInt32) : Handshake where
  clientAddr := clientAddr
  serverAddr := serverAddr
  client := .connecting (ActiveOpenSocket.new clientIsn clientAddr serverAddr clientRt)
  server :=
    { passive := PassiveSocket.new serverAddr maxBacklog serverRt nonce, established := none }
  toServer := []
  toClient := []
  clientBlocks := []
  serverBlocks := []

variable (crc : List UInt8 → UInt32) (fallbackMss : Nat)

/-- A segment for the client. -/
def clientReceive (h : Handshake) (env : Env) (segment : TcpSegment) : Except Fault Handshake := do
  match h.client with
  | .established e =>
    let e' ← e.step (.receive segment.tcpHdr segment.data env)
    .ok { h with
      client := .established e'
      toServer := h.toServer ++ e'.cb.rt.since e.cb.rt }
  | .connecting socket =>
    let socket' ← socket.receive fallbackMss env segment.tcpHdr
    .ok { h with
      client := .connecting socket'
      toServer := h.toServer ++ socket'.rt.since socket.rt
      clientBlocks := h.clientBlocks ++ producedBlocks socket'.result.toList }
  | .failed fail rt =>
    let rt' := sendRst rt h.clientAddr h.serverAddr env
    .ok { h with client := .failed fail rt', toServer := h.toServer ++ rt'.since rt }

/-- A segment for the server. -/
def serverReceive (h : Handshake) (env : Env) (segment : TcpSegment) : Except Fault Handshake := do
  match h.server.established with
  | some e =>
    let e' ← e.step (.receive segment.tcpHdr segment.data env)
    .ok { h with
      server := { h.server with established := some e' }
      toClient := h.toClient ++ e'.cb.rt.since e.cb.rt }
  | none =>
    let (_, passive) ← h.server.passive.receive crc fallbackMss h.clientAddr segment.tcpHdr
    .ok { h with
      server := { h.server with passive := passive }
      toClient := h.toClient ++ passive.rt.since h.server.passive.rt
      serverBlocks := h.serverBlocks ++ producedBlocks passive.ready.ready }

def pollConnect (h : Handshake) : Handshake :=
  match h.client with
  | .connecting socket =>
    match socket.pollResult with
    | (none, socket) => { h with client := .connecting socket }
    | (some (.ok cb), _) => { h with client := .established (Endpoint.start cb) }
    | (some (.error fail), socket) => { h with client := .failed fail socket.rt }
  | _ => h

def pollAccept (h : Handshake) : Except Fault Handshake := do
  match ← h.server.passive.pollAccept with
  | (some (.ok cb), passive) =>
    -- a second connection under the same key panics
    if h.server.established.isSome then .error .duplicateEndpoint
    else .ok { h with server := { passive := passive, established := some (Endpoint.start cb) } }
  | (_, passive) => .ok { h with server := { h.server with passive := passive } }

def step (h : Handshake) : HandshakeEvent → Except Fault Handshake
  | .clientRetry poll =>
    match h.client with
    | .connecting socket =>
      let socket' := socket.background poll
      .ok { h with
        client := .connecting socket'
        toServer := h.toServer ++ socket'.rt.since socket.rt }
    | _ => .ok h
  | .serverRetry poll =>
    let passive := h.server.passive.background h.clientAddr poll
    .ok { h with
      server := { h.server with passive := passive }
      toClient := h.toClient ++ passive.rt.since h.server.passive.rt }
  | .deliverToClient index env =>
    match h.toClient[index]? with
    | some segment => h.clientReceive fallbackMss env segment
    | none => .ok h
  | .deliverToServer index env =>
    match h.toServer[index]? with
    | some segment => h.serverReceive crc fallbackMss env segment
    | none => .ok h
  | .pollConnect => .ok h.pollConnect
  | .pollAccept => h.pollAccept
  | .clientCall call env =>
    match h.client with
    | .established e => do
      let e' ← e.step (.call call env)
      .ok { h with
        client := .established e'
        toServer := h.toServer ++ e'.cb.rt.since e.cb.rt }
    | _ => .ok h
  | .serverCall call env =>
    match h.server.established with
    | some e => do
      let e' ← e.step (.call call env)
      .ok { h with
        server := { h.server with established := some e' }
        toClient := h.toClient ++ e'.cb.rt.since e.cb.rt }
    | none => .ok h

/-- A run of the handshake. -/
def run (h : Handshake) (events : List HandshakeEvent) : Except Fault Handshake :=
  Machine.run (step crc fallbackMss) h events

end Handshake

end Inetstack.Tcp
