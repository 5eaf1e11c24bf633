import Inetstack.Tcp.Basic

/-!
# Shared queues (`protocols/udp/queue.rs`)

A bounded queue that drops its oldest messages when it is full. The channel underneath is a list, and the
source's own count of the messages is kept beside it. The receiving end is behind a `RefCell`: a pending
`pop` holds it, and a `try_pop` then panics.
-/

namespace Inetstack.Udp

open Tcp (Buffer Fail Fault SocketAddrV4)

structure SharedQueueSlot where
  localAddr : SocketAddrV4
  remoteAddr : SocketAddrV4
  data : Buffer
  deriving DecidableEq, Repr

structure SharedQueue where
  channel : List SharedQueueSlot
  length : Nat
  capacity : Nat
  /-- The receiving end is held by a pending `pop`. -/
  borrowed : Bool

namespace SharedQueue

def new (size : Nat) : SharedQueue where
  channel := []
  length := 0
  capacity := size
  borrowed := false

def tryPop (q : SharedQueue) : Except Fault (Option SharedQueueSlot × SharedQueue) :=
  if q.borrowed then .error .alreadyBorrowed
  else
    match q.channel with
    | msg :: rest => .ok (some msg, { q with channel := rest, length := q.length - 1 })
    | [] => .ok (none, q)

/-- The loop of `push`: drop messages while the queue is half full. An empty channel under a count that
is too large would spin. -/
def discard (half : Nat) : List SharedQueueSlot → Nat → Except Fault (List SharedQueueSlot × Nat)
  | [], length => if half ≤ length then .error .discardSpins else .ok ([], length)
  | msg :: rest, length =>
    if half ≤ length then discard half rest (length - 1) else .ok (msg :: rest, length)

/-- The channel takes a message as long as there are no more in it than its size. -/
def trySend (q : SharedQueue) (msg : SharedQueueSlot) : Except Fail Unit × SharedQueue :=
  if q.channel.length ≤ q.capacity then
    (.ok (), { q with channel := q.channel ++ [msg], length := q.length + 1 })
  else (.error { errno := Tcp.Errno.EIO, cause := "failed to push to shared queue" }, q)

def push (q : SharedQueue) (msg : SharedQueueSlot) : Except Fault (Except Fail Unit × SharedQueue) := do
  if q.length = q.capacity then
    if q.borrowed then .error .alreadyBorrowed
    else
      let (channel, length) ← discard (q.capacity / 2) q.channel q.length
      .ok ({ q with channel := channel, length := length }.trySend msg)
  else .ok (q.trySend msg)

/-- A poll of `pop`. `none` is a pending one, which holds the receiving end. -/
def pop (q : SharedQueue) : Option SharedQueueSlot × SharedQueue :=
  match q.channel with
  | msg :: rest => (some msg, { q with channel := rest, length := q.length - 1, borrowed := false })
  | [] => (none, { q with borrowed := true })

end SharedQueue

end Inetstack.Udp
