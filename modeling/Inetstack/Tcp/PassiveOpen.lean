import Mathlib.Data.List.AList
import Mathlib.Data.Finset.Erase
import Mathlib.Data.Finset.Insert
import Inetstack.Tcp.ActiveOpen
import Inetstack.Tcp.IsnGenerator

/-!
# Accepting a connection (`protocols/tcp/passive_open.rs`)

`PassiveSocket` is a listener. A SYN opens an in-flight entry, with a retry task that sends SYN+ACKs;
an ACK of the SYN+ACK turns the entry into a control block, which waits in `ready` to be accepted. A
retry task that gives up puts an error there and leaves the entry where it is.

The hash map of in-flight entries is an association list without duplicate keys, the hash set of
ready endpoints a finite set. Removing an entry drops its task.
-/

namespace Inetstack.Tcp

structure InflightAccept where
  localIsn : SeqNumber
  remoteIsn : SeqNumber
  headerWindowSize : UInt16
  remoteWindowScale : Option UInt8
  mss : Nat
  handle : RetryTask
  deriving DecidableEq

structure ReadySockets where
  ready : List OpenResult
  endpoints : Finset SocketAddrV4

namespace ReadySockets

def pushOk (r : ReadySockets) (cb : ControlBlock CongestionControl.None) :
    Except Fault ReadySockets :=
  if cb.remoteAddr ∈ r.endpoints then .error .duplicateEndpoint
  else .ok { ready := r.ready ++ [.ok cb], endpoints := insert cb.remoteAddr r.endpoints }

def pushErr (r : ReadySockets) (err : Fail) : ReadySockets :=
  { r with ready := r.ready ++ [.error err] }

/-- Take the oldest result. `none` is a pending poll. -/
def poll (r : ReadySockets) : Except Fault (Option OpenResult × ReadySockets) :=
  match r.ready with
  | [] => .ok (none, r)
  | .ok cb :: rest =>
    if cb.remoteAddr ∈ r.endpoints then
      .ok (some (.ok cb), { ready := rest, endpoints := r.endpoints.erase cb.remoteAddr })
    else .error .missingEndpoint
  | .error err :: rest => .ok (some (.error err), { r with ready := rest })

end ReadySockets

structure PassiveSocket where
  inflight : AList fun _ : SocketAddrV4 => InflightAccept
  ready : ReadySockets
  maxBacklog : Nat
  isnGenerator : IsnGenerator
  localAddr : SocketAddrV4
  rt : Runtime

namespace PassiveSocket

def new (localAddr : SocketAddrV4) (maxBacklog : Nat) (rt : Runtime) (nonce : UInt32) :
    PassiveSocket where
  inflight := ∅
  ready := { ready := [], endpoints := ∅ }
  maxBacklog := maxBacklog
  isnGenerator := IsnGenerator.new nonce
  localAddr := localAddr
  rt := rt

def pollAccept (s : PassiveSocket) : Except Fault (Option OpenResult × PassiveSocket) := do
  let (result, ready) ← s.ready.poll
  .ok (result, { s with ready := ready })

/-- The control block of an in-flight entry whose SYN+ACK has been acknowledged. -/
def controlBlock (s : PassiveSocket) (remoteAddr : SocketAddrV4) (accept : InflightAccept) :
    Except Fault (ControlBlock CongestionControl.None) := do
  let config := s.rt.tcpOptions
  let (localWindowScale, remoteWindowScale) := negotiatedScales config accept.remoteWindowScale
  let remoteWindowSize ← checkedShl16 accept.headerWindowSize remoteWindowScale.toNat
  let localWindowSize ← checkedShl32 config.receiveWindowSize localWindowScale.toNat
  .ok (ControlBlock.new s.localAddr remoteAddr s.rt (accept.remoteIsn + SeqNumber.mk 1)
    config.ackDelayTimeout localWindowSize localWindowScale (accept.localIsn + SeqNumber.mk 1)
    remoteWindowSize remoteWindowScale accept.mss)

/-- A segment for an in-flight connection. -/
def receiveInflight (s : PassiveSocket) (remoteAddr : SocketAddrV4) (accept : InflightAccept)
    (header : TcpHeader) : Except Fault (Except Fail Unit × PassiveSocket) := do
  if !header.ack then .ok (.error { errno := .EBADMSG, cause := "expeting ACK" }, s)
  else if header.ackNum ≠ accept.localIsn + SeqNumber.mk 1 then
    .ok (.error { errno := .EBADMSG, cause := "invalid SYN+ACK seq num" }, s)
  else
    let cb ← s.controlBlock remoteAddr accept
    let s := { s with inflight := s.inflight.erase remoteAddr }
    let ready ← s.ready.pushOk cb
    .ok (.ok (), { s with ready := ready })

/-- A segment of a remote that has no in-flight connection. -/
def receiveNew (crc : List UInt8 → UInt32) (fallbackMss : Nat) (s : PassiveSocket)
    (remoteAddr : SocketAddrV4) (header : TcpHeader) : Except Fail Unit × PassiveSocket :=
  if !header.syn || header.ack || header.rst then
    (.error { errno := .EBADMSG, cause := "invalid flags" }, s)
  else if s.maxBacklog ≤ s.inflight.entries.length + s.ready.ready.length then
    (.error { errno := .ECONNREFUSED, cause := "connection refused" }, s)
  else
    let (localIsn, isnGenerator) := s.isnGenerator.generate crc s.localAddr remoteAddr
    let (remoteWindowScale, mss) := handshakeOptions fallbackMss header
    let accept :=
      { localIsn := localIsn
        remoteIsn := header.seqNum
        headerWindowSize := header.windowSize
        remoteWindowScale := remoteWindowScale
        mss := mss
        handle := .spawned }
    (.ok (), { s with
      isnGenerator := isnGenerator
      inflight := s.inflight.insert remoteAddr accept })

/-- A segment for a listener, from `remoteAddr`. -/
def receive (crc : List UInt8 → UInt32) (fallbackMss : Nat) (s : PassiveSocket)
    (remoteAddr : SocketAddrV4) (header : TcpHeader) :
    Except Fault (Except Fail Unit × PassiveSocket) :=
  if remoteAddr ∈ s.ready.endpoints then .ok (.ok (), s)
  else
    match s.inflight.lookup remoteAddr with
    | some accept => s.receiveInflight remoteAddr accept header
    | none => .ok (s.receiveNew crc fallbackMss remoteAddr header)

/-- The SYN+ACK a retry task sends. -/
def synAckHeader (s : PassiveSocket) (remoteAddr : SocketAddrV4) (accept : InflightAccept) :
    TcpHeader :=
  { TcpHeader.new s.localAddr.port remoteAddr.port with
    syn := true
    seqNum := accept.localIsn
    ack := true
    ackNum := accept.remoteIsn + SeqNumber.mk 1
    windowSize := s.rt.tcpOptions.receiveWindowSize }.advertise s.rt.tcpOptions

/-- A poll of the retry task of one in-flight connection. -/
def background (s : PassiveSocket) (remoteAddr : SocketAddrV4) (poll : RetryPoll) : PassiveSocket :=
  match s.inflight.lookup remoteAddr with
  | none => s
  | some accept =>
    let (handle, action) := accept.handle.poll s.rt.tcpOptions.handshakeRetries poll
    let s := { s with
      inflight := s.inflight.insert remoteAddr { accept with handle := handle } }
    match action with
    | .nothing => s
    | .transmit remoteLinkAddr =>
      { s with rt := s.rt.transmit (bareSegment s.rt s.localAddr remoteAddr
          (s.synAckHeader remoteAddr accept) remoteLinkAddr) }
    | .giveUp =>
      { s with ready := s.ready.pushErr { errno := .ETIMEDOUT, cause := "handshake timeout" } }

end PassiveSocket

/-! ## A listener as a machine -/

/-- What happens to a listener: a segment arrives from a remote, the retry task of a remote's in-flight
connection is polled, or the user asks for a connection. -/
inductive ListenEvent where
  | receive (remoteAddr : SocketAddrV4) (header : TcpHeader)
  | retry (remoteAddr : SocketAddrV4) (poll : RetryPoll)
  | pollAccept

/-- A listener and a ledger of the SYNs it has admitted, which is not in the code: they are numbered
in order, `syn` is the number of the SYN that opened the present entry of a remote, and `results` is,
for each result ever put into the accept queue, the number of the SYN it came from. -/
structure Listener where
  socket : PassiveSocket
  admitted : Nat
  syn : SocketAddrV4 → Nat
  results : List Nat

namespace Listener

def start (socket : PassiveSocket) : Listener where
  socket := socket
  admitted := 0
  syn := fun _ => 0
  results := []

/-- Enter in the ledger what a segment or a task of `remoteAddr` has done: a new in-flight entry is an
admitted SYN, and a longer accept queue is a result of the entry there was. -/
def record (l : Listener) (remoteAddr : SocketAddrV4) (socket : PassiveSocket) : Listener :=
  let opened := (l.socket.inflight.lookup remoteAddr).isNone &&
    (socket.inflight.lookup remoteAddr).isSome
  { socket := socket
    admitted := if opened then l.admitted + 1 else l.admitted
    syn := if opened then Function.update l.syn remoteAddr l.admitted else l.syn
    results :=
      if l.socket.ready.ready.length < socket.ready.ready.length then
        l.results ++ [l.syn remoteAddr]
      else l.results }

/-- One event of a listener. -/
def step (crc : List UInt8 → UInt32) (fallbackMss : Nat) (l : Listener) :
    ListenEvent → Except Fault Listener
  | .receive remoteAddr header => do
    let (_, socket) ← l.socket.receive crc fallbackMss remoteAddr header
    .ok (l.record remoteAddr socket)
  | .retry remoteAddr poll => .ok (l.record remoteAddr (l.socket.background remoteAddr poll))
  | .pollAccept => do
    let (_, socket) ← l.socket.pollAccept
    .ok { l with socket := socket }

end Listener

end Inetstack.Tcp
