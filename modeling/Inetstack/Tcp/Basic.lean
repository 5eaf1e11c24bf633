import Mathlib.Data.Rat.Defs
import Inetstack.Tcp.SequenceNumber

/-!
# What the TCP code takes from the runtime, and the ways a call can fail

The runtime crate is outside the repository. The TCP code uses of it: byte buffers that are cut at
either end, addresses, a clock, a configuration, and `Fail`, the error a call returns. Buffers are
lists of bytes. `adjust` cuts bytes off the front and `trim` off the back, and both panic when they
are asked for more bytes than the buffer holds. Instants and durations are exact rationals, in
seconds.

A call that returns an error returns an `Except Fail`. A call that does not return at all is a
`Fault`: the panics of the established code and of the handshake, and the one loop that would spin
for ever. The release build is modelled: arithmetic wraps and `debug_assert!` is off.
-/

namespace Inetstack.Tcp

abbrev Instant := ℚ

abbrev Duration := ℚ

abbrev MacAddress := BitVec 48

abbrev Ipv4Addr := BitVec 32

/-- An IPv4 address and a port. -/
structure SocketAddrV4 where
  ip : Ipv4Addr
  port : UInt16
  deriving DecidableEq, Repr

/-- The error numbers the modelled code returns. -/
inductive Errno where
  | EADDRINUSE
  | EAGAIN
  | EALREADY
  | EBADF
  | EBADMSG
  | EBUSY
  | ECONNREFUSED
  | EDESTADDRREQ
  | EEXIST
  | EINPROGRESS
  | EINVAL
  | EIO
  | EISCONN
  | ENOENT
  | ENOTCONN
  | ENOTSUP
  | EOPNOTSUPP
  | ETIMEDOUT
  deriving DecidableEq, Repr

/-- The error a call returns. -/
structure Fail where
  errno : Errno
  cause : String
  deriving DecidableEq, Repr

/-- The TCP configuration the runtime hands out (`tcp_options()`). -/
structure TcpConfig where
  advertisedMss : Nat
  windowScale : UInt8
  receiveWindowSize : UInt16
  ackDelayTimeout : Duration
  handshakeRetries : Nat
  handshakeTimeout : Duration
  rxChecksumOffload : Bool
  txChecksumOffload : Bool

/-- The states of a connection that has a control block. LISTEN, SYN-RCVD and SYN-SENT are not among
them: a control block exists from ESTABLISHED on. -/
inductive State where
  | established
  | finWait1
  | finWait2
  | closing
  | timeWait
  | closeWait
  | lastAck
  | closed
  deriving DecidableEq, Repr

/-- The ways a call does not return: one constructor for each panic the modelled code can raise, and two
for loops that spin: `unackedUnderrun` for that of `remove_acknowledged_data`, when the queue runs out
before the acknowledged bytes do, and `discardSpins` for that of a full shared queue, when the count of
its messages is wrong. -/
inductive Fault where
  | adjustBeyondLength
  | trimBeyondLength
  | windowSizeOverflow
  | badTcpState (state : State)
  | sendFailed
  | noUnsentData
  | noBufferInUnsentQueue
  | unsentSequenceGap
  | unackedUnderrun
  | arpControlFlow
  | windowScaleTooLarge
  | duplicateEndpoint
  | missingEndpoint
  | indexOutOfBounds
  | wrongBufferSize
  | oddHeaderLength
  | socketsInconsistency
  | duplicateDescriptor
  | duplicateEstablished
  | alreadyBorrowed
  | discardSpins
  | invalidQueueDescriptor
  | pushFailed
  | zeroTtl
  | clockBackwards
  | missingEntry
  | duplicateWaiter
  | droppedWaiter
  | arithmeticOverflow
  | duplicateRequest
  | mssTooLarge
  | divideByZero
  deriving DecidableEq, Repr

/-- A byte buffer. -/
abbrev Buffer := List UInt8

/-- Cut `n` bytes off the front. -/
def Buffer.adjust (buf : Buffer) (n : Nat) : Except Fault Buffer :=
  if n ≤ buf.length then .ok (buf.drop n) else .error .adjustBeyondLength

/-- Cut `n` bytes off the back. -/
def Buffer.trim (buf : Buffer) (n : Nat) : Except Fault Buffer :=
  if n ≤ buf.length then .ok (buf.take (buf.length - n)) else .error .trimBeyondLength

/-- What the runtime answers while one call runs: the clock, and the ARP cache's entry for the
remote address (`try_query`). The scheduler is single-threaded, so neither changes inside a call. -/
structure Env where
  now : Instant
  remoteLinkAddr : Option MacAddress

end Inetstack.Tcp
