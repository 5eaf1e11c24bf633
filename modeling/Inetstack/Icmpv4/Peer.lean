import Mathlib.Data.List.AList
import Inetstack.Icmpv4.Datagram
import Inetstack.Tcp.IsnGenerator

/-!
# The ICMPv4 peer (`protocols/icmpv4/peer.rs`)

An echo request goes through a channel to a background task, which asks ARP for the link address of its
sender and answers it. A ping leaves the sending end of a channel in the table of requests, under its
identifier and its sequence number, and waits on the other end until its timer runs out.

The background task is cut at its two waits, for a request and for the ARP query. The future of a ping is a
task with a name; a poll of it is told the time, what the ARP query has answered, if it has, and whether
`select!` looks at the timer first. A timer that has just been started has not run out.
-/

namespace Inetstack.Icmpv4

open Tcp (Buffer Duration Fail Fault Instant Ipv4Addr MacAddress toBeBytes)

/-- What is sent through the channel for an echo request. -/
structure EchoRequest where
  dstIpv4Addr : Ipv4Addr
  id : UInt16
  seqNum : UInt16
  deriving DecidableEq, Repr

/-- Where the background task waits: for a request, or for the link address of its sender. -/
inductive BackgroundTask where
  | awaitRequest
  | awaitArp (request : EchoRequest)
  deriving DecidableEq, Repr

/-- The name of the future of a ping. -/
abbrev PingId := Nat

/-- Where a ping stands: not polled yet, waiting for ARP since `t0`, waiting for the reply until its
deadline, at its end, or dropped before that. -/
inductive PingTask where
  | created (request : EchoRequest) (timeout : Duration)
  | awaitArp (request : EchoRequest) (timeout : Duration) (t0 : Instant)
  | awaitReply (t0 deadline : Instant) (answered : Bool)
  | ready (result : Except Fail Duration)
  | dropped

structure Icmpv4Peer where
  /-- The requests between `tx` and the background task. -/
  channel : List EchoRequest
  requests : AList fun _ : UInt16 × UInt16 => PingId
  seq : UInt16
  background : BackgroundTask
  pings : AList fun _ : PingId => PingTask
  localLinkAddr : MacAddress
  localIpv4Addr : Ipv4Addr
  transmitted : List Icmpv4Message

namespace Icmpv4Peer

def new (localLinkAddr : MacAddress) (localIpv4Addr : Ipv4Addr) : Icmpv4Peer where
  channel := []
  requests := ∅
  seq := 0
  background := .awaitRequest
  pings := ∅
  localLinkAddr := localLinkAddr
  localIpv4Addr := localIpv4Addr
  transmitted := []

/-- The message of a type to an address. It has no body. -/
def message (p : Icmpv4Peer) (dstLinkAddr : MacAddress) (dstIpv4Addr : Ipv4Addr)
    (icmpv4Type : Icmpv4Type2) : Icmpv4Message where
  ethernet2Hdr := .new dstLinkAddr p.localLinkAddr .ipv4
  ipv4Hdr := .new p.localIpv4Addr dstIpv4Addr .icmpv4
  icmpv4Hdr := .new icmpv4Type 0

def transmit (p : Icmpv4Peer) (message : Icmpv4Message) : Icmpv4Peer :=
  { p with transmitted := p.transmitted ++ [message] }

/-! ## The background task -/

/-- What is transmitted for a request. -/
def reply (p : Icmpv4Peer) (request : EchoRequest) (dstLinkAddr : MacAddress) : Icmpv4Message :=
  p.message dstLinkAddr request.dstIpv4Addr (.echoReply request.id request.seqNum)

/-- Run the task from the top of its loop to its next wait. -/
def backgroundIterate (p : Icmpv4Peer) : Icmpv4Peer :=
  match p.channel with
  | request :: rest => { p with channel := rest, background := .awaitArp request }
  | [] => { p with background := .awaitRequest }

/-- A poll of the task: `answer` is that of the ARP query, if it waits for one. -/
def backgroundPoll (p : Icmpv4Peer) (answer : Except Fail MacAddress) : Icmpv4Peer :=
  match p.background, answer with
  | .awaitRequest, _ => p.backgroundIterate
  | .awaitArp request, .ok dstLinkAddr => (p.transmit (p.reply request dstLinkAddr)).backgroundIterate
  | .awaitArp _, .error _ => p.backgroundIterate

/-! ## Messages -/

/-- Take the sender for a request out of the table, and send. -/
def complete (p : Icmpv4Peer) (req : UInt16 × UInt16) : Icmpv4Peer :=
  match p.requests.lookup req with
  | none => p
  | some ping =>
    let p := { p with requests := p.requests.erase req }
    match p.pings.lookup ping with
    | some (.awaitReply t0 deadline _) =>
      { p with pings := p.pings.insert ping (.awaitReply t0 deadline true) }
    | _ => p

def receive (p : Icmpv4Peer) (ipv4Header : Ipv4.Ipv4Header) (buf : Buffer) :
    Except Fault (Except Fail Unit × Icmpv4Peer) := do
  match ← (Icmpv4Header.parse buf).run with
  | .error fail => .ok (.error fail, p)
  | .ok (icmpv4Hdr, _) =>
    match icmpv4Hdr.protocol with
    | .echoRequest id seqNum =>
      .ok (.ok (), { p with channel := p.channel ++ [⟨ipv4Header.srcAddr, id, seqNum⟩] })
    | .echoReply id seqNum => .ok (.ok (), p.complete (id, seqNum))
    | _ => .ok (.ok (), p)

/-! ## Pings -/

/-- `nonce` is the draw of the generator. -/
def makeId (p : Icmpv4Peer) (processId : UInt32) (nonce : UInt16) : UInt16 :=
  let state := Bytes.sumWords 0xffff (Tcp.Ipv4Addr.octets p.localIpv4Addr)
  let state := Bytes.sumWords state (toBeBytes 4 processId.toNat)
  let state := Bytes.sumWords state (toBeBytes 2 nonce.toNat)
  Bytes.checksum state

def makeSeqNum (p : Icmpv4Peer) : UInt16 × Icmpv4Peer := (p.seq, { p with seq := p.seq + 1 })

def setPing (p : Icmpv4Peer) (ping : PingId) (task : PingTask) : Icmpv4Peer :=
  { p with pings := p.pings.insert ping task }

/-- Make a ping. The identifier and the sequence number are taken now, the rest when it is polled. -/
def ping (p : Icmpv4Peer) (ping : PingId) (dstIpv4Addr : Ipv4Addr) (timeout : Option Duration)
    (processId : UInt32) (nonce : UInt16) : Icmpv4Peer :=
  let timeout := timeout.getD 5
  let id := p.makeId processId nonce
  let (seqNum, p) := p.makeSeqNum
  p.setPing ping (.created ⟨dstIpv4Addr, id, seqNum⟩ timeout)

/-- A ping with the answer of the ARP query, or without one yet. -/
def pingArp (p : Icmpv4Peer) (ping : PingId) (request : EchoRequest) (timeout : Duration)
    (t0 now : Instant) (answer : Option (Except Fail MacAddress)) : Except Fault Icmpv4Peer :=
  match answer with
  | none => .ok (p.setPing ping (.awaitArp request timeout t0))
  | some (.error fail) => .ok (p.setPing ping (.ready (.error fail)))
  | some (.ok dstLinkAddr) =>
    let p := p.transmit
      (p.message dstLinkAddr request.dstIpv4Addr (.echoRequest request.id request.seqNum))
    let req := (request.id, request.seqNum)
    match p.requests.lookup req with
    | some _ => .error .duplicateRequest
    | none =>
      let p := { p with requests := p.requests.insert req ping }
      .ok (p.setPing ping (.awaitReply t0 (now + timeout) false))

/-- A ping that waits for its reply. One that times out leaves its sender in the table. -/
def pingReply (p : Icmpv4Peer) (ping : PingId) (t0 deadline : Instant) (answered : Bool) (now : Instant)
    (timerFirst : Bool) : Icmpv4Peer :=
  let expired := decide (deadline ≤ now)
  if answered && !(timerFirst && expired) then p.setPing ping (.ready (.ok (now - t0)))
  else if expired then
    p.setPing ping (.ready (.error { errno := .ETIMEDOUT, cause := "timer expired" }))
  else p

def pollPing (p : Icmpv4Peer) (ping : PingId) (now : Instant) (answer : Option (Except Fail MacAddress))
    (timerFirst : Bool) : Except Fault Icmpv4Peer :=
  match p.pings.lookup ping with
  | some (.created request timeout) => p.pingArp ping request timeout now now answer
  | some (.awaitArp request timeout t0) => p.pingArp ping request timeout t0 now answer
  | some (.awaitReply t0 deadline answered) =>
    .ok (p.pingReply ping t0 deadline answered now timerFirst)
  | _ => .ok p

end Icmpv4Peer

/-! ## The peer as a machine -/

/-- A message arrives, the background task goes on, or a ping is made, under a name that has not been used,
polled or dropped. -/
inductive Icmpv4Event where
  | receive (ipv4Header : Ipv4.Ipv4Header) (buf : Buffer)
  | background (answer : Except Fail MacAddress)
  | ping (ping : PingId) (dstIpv4Addr : Ipv4Addr) (timeout : Option Duration) (processId : UInt32)
      (nonce : UInt16)
  | pollPing (ping : PingId) (now : Instant) (answer : Option (Except Fail MacAddress))
      (timerFirst : Bool)
  | dropPing (ping : PingId)

namespace Icmpv4Peer

/-- One event of a peer. A ping that is dropped leaves its sender where it is. -/
def step (p : Icmpv4Peer) : Icmpv4Event → Except Fault Icmpv4Peer
  | .receive ipv4Header buf => do
    let (_, p) ← p.receive ipv4Header buf
    .ok p
  | .background answer => .ok (p.backgroundPoll answer)
  | .ping ping dstIpv4Addr timeout processId nonce =>
    match p.pings.lookup ping with
    | some _ => .ok p
    | none => .ok (p.ping ping dstIpv4Addr timeout processId nonce)
  | .pollPing ping now answer timerFirst => p.pollPing ping now answer timerFirst
  | .dropPing ping =>
    match p.pings.lookup ping with
    | some _ => .ok (p.setPing ping .dropped)
    | none => .ok p

end Icmpv4Peer

end Inetstack.Icmpv4
