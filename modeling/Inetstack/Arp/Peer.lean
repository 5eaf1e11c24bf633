import Inetstack.Arp.Packet
import Inetstack.Collections.HashTtlCache

/-!
# The ARP peer (`protocols/arp/peer.rs`, `protocols/arp/cache/mod.rs`)

A query that misses the cache leaves the sending end of a channel in the table of waiters, under the
address it asks for, and waits on the receiving end, for one timeout after another. The packet that
answers takes the sender out of the table.

The future of a query is a task with a name, cut at its one wait. A sending end is the name of the query
that has the other end. A poll is told whether the query's timer has run out, and which of its two
branches `select!` looks at first: the source leaves the choice to chance. A timer that has just been
started has not run out.
-/

namespace Inetstack.Arp

open Collections (HashTtlCache)
open Ethernet2 (Ethernet2Header)
open Tcp (Buffer Duration Fail Fault Instant Ipv4Addr MacAddress)

/-- What every address resolves to with ARP disabled. -/
def DUMMY_MAC_ADDRESS : MacAddress := 0

/-- The link address of everybody. -/
def BROADCAST : MacAddress := 0xffffffffffff

/-! ## The cache -/

/-- The cache of the mappings, and whether ARP is disabled. -/
structure ArpCache where
  cache : HashTtlCache Ipv4Addr MacAddress
  disable : Bool

namespace ArpCache

/-- Returns the link address replaced. -/
def insert (c : ArpCache) (ipv4Addr : Ipv4Addr) (linkAddr : MacAddress) :
    Except Fault (Option MacAddress × ArpCache) := do
  let (replaced, cache) ← c.cache.insert ipv4Addr linkAddr
  .ok (replaced, { c with cache := cache })

/-- The loop that populates a new cache. -/
def populate (c : ArpCache) : List (Ipv4Addr × MacAddress) → Except Fault ArpCache
  | [] => .ok c
  | (k, v) :: values => do
    let (_, c) ← c.insert k v
    c.populate values

/-- The initial values are inserted with the default time to live. -/
def new (now : Instant) (defaultTtl : Option Duration) (values : List (Ipv4Addr × MacAddress))
    (disable : Bool) : Except Fault ArpCache := do
  let cache ← HashTtlCache.new now defaultTtl
  { cache := cache, disable := disable : ArpCache }.populate values

/-- With ARP disabled the cache is not looked at. -/
def get (c : ArpCache) (ipv4Addr : Ipv4Addr) : Option MacAddress :=
  if c.disable then some DUMMY_MAC_ADDRESS else c.cache.get ipv4Addr

def advanceClock (c : ArpCache) (now : Instant) : Except Fault ArpCache := do
  let cache ← c.cache.advanceClock now
  .ok { c with cache := cache }

end ArpCache

/-! ## Queries -/

/-- The name of the future of a query. -/
abbrev QueryId := Nat

/-- The receiving end of a channel: its sender is still there, has sent, or has been dropped. -/
inductive Response where
  | pending
  | sent (linkAddr : MacAddress)
  | cancelled
  deriving DecidableEq, Repr

/-- Where a query stands: not polled yet, waiting with `left` retries to go, at its end, or dropped
before that. -/
inductive QueryTask where
  | created (ipv4Addr : Ipv4Addr)
  | waiting (ipv4Addr : Ipv4Addr) (left : Nat) (response : Response)
  | ready (result : Except Fail MacAddress)
  | dropped

/-- What a poll finds: whether the timer has run out, and whether `select!` looks at it first. -/
structure Select where
  expired : Bool
  timerFirst : Bool
  deriving DecidableEq, Repr

/-- What a poll of `with_timeout` gives. -/
inductive Selected where
  | pending
  | response (linkAddr : MacAddress)
  | timeout
  | cancelled
  deriving DecidableEq, Repr

/-- A poll of a response alone. -/
def Response.poll : Response → Selected
  | .pending => .pending
  | .sent linkAddr => .response linkAddr
  | .cancelled => .cancelled

/-- The timer and the response can be ready at once; which of them wins is up to `select!`. -/
def Response.withTimeout (r : Response) (s : Select) : Selected :=
  if s.timerFirst && s.expired then .timeout
  else
    match r.poll with
    | .pending => if s.expired then .timeout else .pending
    | other => other

/-- What the user configures. -/
structure ArpConfig where
  cacheTtl : Duration
  retryCount : Nat
  initialValues : List (Ipv4Addr × MacAddress)
  disableArp : Bool

/-- The peer, the futures of its queries under their names, and what it has sent. -/
structure ArpPeer where
  cache : ArpCache
  waiters : AList fun _ : Ipv4Addr => QueryId
  queries : AList fun _ : QueryId => QueryTask
  retryCount : Nat
  localLinkAddr : MacAddress
  localIpv4Addr : Ipv4Addr
  transmitted : List ArpMessage

namespace ArpPeer

/-- A new peer, which has seen nothing but its initial values. -/
def new (now : Instant) (localLinkAddr : MacAddress) (localIpv4Addr : Ipv4Addr) (options : ArpConfig) :
    Except Fault ArpPeer := do
  let cache ← ArpCache.new now (some options.cacheTtl) options.initialValues options.disableArp
  .ok {
    cache := cache
    waiters := ∅
    queries := ∅
    retryCount := options.retryCount
    localLinkAddr := localLinkAddr
    localIpv4Addr := localIpv4Addr
    transmitted := [] }

/-- The other end of the channel hears of its sender, if it still waits for it. -/
def notify (p : ArpPeer) (query : QueryId) (response : Response) : ArpPeer :=
  match p.queries.lookup query with
  | some (.waiting ipv4Addr left .pending) =>
    { p with queries := p.queries.insert query (.waiting ipv4Addr left response) }
  | _ => p

/-- Take the sender for an address out of the table, and send or drop it. -/
def takeWaiter (p : ArpPeer) (ipv4Addr : Ipv4Addr) (response : Response) : ArpPeer :=
  match p.waiters.lookup ipv4Addr with
  | some query => { p with waiters := p.waiters.erase ipv4Addr }.notify query response
  | none => p

/-- The sender for an address is dropped. -/
def doDrop (p : ArpPeer) (ipv4Addr : Ipv4Addr) : ArpPeer := p.takeWaiter ipv4Addr .cancelled

/-- Whoever waits for the address is told before the mapping is entered. -/
def doInsert (p : ArpPeer) (ipv4Addr : Ipv4Addr) (linkAddr : MacAddress) : Except Fault ArpPeer := do
  let p := p.takeWaiter ipv4Addr (.sent linkAddr)
  let (_, cache) ← p.cache.insert ipv4Addr linkAddr
  .ok { p with cache := cache }

/-- The receiving end that a query waits on. -/
def doWaitLinkAddr (p : ArpPeer) (query : QueryId) (ipv4Addr : Ipv4Addr) :
    Except Fault (Response × ArpPeer) :=
  match p.cache.get ipv4Addr with
  | some linkAddr => .ok (.sent linkAddr, p)
  | none =>
    match p.waiters.lookup ipv4Addr with
    | some _ => .error .duplicateWaiter
    | none => .ok (.pending, { p with waiters := p.waiters.insert ipv4Addr query })

/-- The request a query sends. -/
def requestFor (p : ArpPeer) (ipv4Addr : Ipv4Addr) : ArpMessage where
  ethernet2Hdr := .new BROADCAST p.localLinkAddr .arp
  header := .new .request p.localLinkAddr p.localIpv4Addr BROADCAST ipv4Addr

/-- The message goes to the end of what has been sent. -/
def transmit (p : ArpPeer) (message : ArpMessage) : ArpPeer :=
  { p with transmitted := p.transmitted ++ [message] }

/-- Where a query stands now. -/
def setQuery (p : ArpPeer) (query : QueryId) (task : QueryTask) : ArpPeer :=
  { p with queries := p.queries.insert query task }

/-- An iteration of the loop, with a new timer, to its wait. -/
def iterate (p : ArpPeer) (query : QueryId) (ipv4Addr : Ipv4Addr) (left : Nat) (response : Response) :
    Except Fault ArpPeer :=
  let p := p.transmit (p.requestFor ipv4Addr)
  match response with
  | .pending => .ok (p.setQuery query (.waiting ipv4Addr left .pending))
  | .sent linkAddr => .ok (p.setQuery query (.ready (.ok linkAddr)))
  | .cancelled => .error .droppedWaiter

/-- The first poll of a query. -/
def start (p : ArpPeer) (query : QueryId) (ipv4Addr : Ipv4Addr) : Except Fault ArpPeer :=
  match p.cache.get ipv4Addr with
  | some linkAddr => .ok (p.setQuery query (.ready (.ok linkAddr)))
  | none => do
    let (response, p) ← p.doWaitLinkAddr query ipv4Addr
    p.iterate query ipv4Addr p.retryCount response

/-- A poll of a query that waits. -/
def resume (p : ArpPeer) (query : QueryId) (ipv4Addr : Ipv4Addr) (left : Nat) (response : Response)
    (s : Select) : Except Fault ArpPeer :=
  match response.withTimeout s with
  | .pending => .ok p
  | .response linkAddr => .ok (p.setQuery query (.ready (.ok linkAddr)))
  | .cancelled => .error .droppedWaiter
  | .timeout =>
    match left with
    | left + 1 => p.iterate query ipv4Addr left response
    | 0 =>
      .ok ((p.doDrop ipv4Addr).setQuery query
        (.ready (.error { errno := .ETIMEDOUT, cause := "ARP query timeout" })))

/-- A query that is at its end or dropped is not polled again. -/
def poll (p : ArpPeer) (query : QueryId) (s : Select) : Except Fault ArpPeer :=
  match p.queries.lookup query with
  | some (.created ipv4Addr) => p.start query ipv4Addr
  | some (.waiting ipv4Addr left response) => p.resume query ipv4Addr left response s
  | _ => .ok p

/-! ## Packets -/

/-- The end of `receive`: a request is answered, and a reply is entered once more. -/
def respond (p : ArpPeer) (header : ArpHeader) : Except Fault (Except Fail Unit × ArpPeer) :=
  match header.operation with
  | .request =>
    .ok (.ok (), p.transmit {
      ethernet2Hdr := .new header.senderHardwareAddr p.localLinkAddr .arp
      header := .new .reply p.localLinkAddr p.localIpv4Addr header.senderHardwareAddr
        header.senderProtocolAddr })
  | .reply => do
    let (_, cache) ← p.cache.insert header.senderProtocolAddr header.senderHardwareAddr
    .ok (.ok (), { p with cache := cache })

/-- A packet is merged if its sender is known, and refused if it is neither that nor for this host. -/
def receive (p : ArpPeer) (buf : Buffer) : Except Fault (Except Fail Unit × ArpPeer) := do
  match ← (ArpHeader.parse buf).run with
  | .error fail => .ok (.error fail, p)
  | .ok header =>
    let mergeFlag := (p.cache.get header.senderProtocolAddr).isSome
    let p ← if mergeFlag then p.doInsert header.senderProtocolAddr header.senderHardwareAddr else .ok p
    if header.targetProtocolAddr ≠ p.localIpv4Addr then
      if mergeFlag then .ok (.ok (), p)
      else .ok (.error { errno := .EBADMSG, cause := "unrecognized IP address" }, p)
    else
      let p ← if mergeFlag then .ok p else p.doInsert header.senderProtocolAddr header.senderHardwareAddr
      p.respond header

def tryQuery (p : ArpPeer) (ipv4Addr : Ipv4Addr) : Option MacAddress := p.cache.get ipv4Addr

end ArpPeer

/-! ## The peer as a machine -/

/-- A query is made, under a name that has not been used; it is polled, or dropped; a packet arrives; or
the background task moves the clock of the cache. -/
inductive ArpEvent where
  | query (query : QueryId) (ipv4Addr : Ipv4Addr)
  | poll (query : QueryId) (s : Select)
  | drop (query : QueryId)
  | receive (buf : Buffer)
  | background (now : Instant)

namespace ArpPeer

/-- One event of a peer. A query that is dropped leaves its sender where it is. -/
def step (p : ArpPeer) : ArpEvent → Except Fault ArpPeer
  | .query query ipv4Addr =>
    match p.queries.lookup query with
    | some _ => .ok p
    | none => .ok (p.setQuery query (.created ipv4Addr))
  | .poll query s => p.poll query s
  | .drop query =>
    match p.queries.lookup query with
    | some _ => .ok (p.setQuery query .dropped)
    | none => .ok p
  | .receive buf => do
    let (_, p) ← p.receive buf
    .ok p
  | .background now => do
    let cache ← p.cache.advanceClock now
    .ok { p with cache := cache }

end ArpPeer

end Inetstack.Arp
