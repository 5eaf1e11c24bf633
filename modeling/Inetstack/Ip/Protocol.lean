import Inetstack.Tcp.Basic

/-!
# Protocol numbers (`protocols/ip/protocol.rs`)
-/

namespace Inetstack.Ip

open Tcp (Fail)

/-- What an IPv4 datagram can carry. -/
inductive IpProtocol where
  | icmpv4
  | tcp
  | udp
  deriving DecidableEq, Repr

namespace IpProtocol

def toU8 : IpProtocol → UInt8
  | .icmpv4 => 0x01
  | .tcp => 0x06
  | .udp => 0x11

/-- Any other number is refused. -/
def tryFrom (n : UInt8) : Except Fail IpProtocol :=
  if n = 0x01 then .ok .icmpv4
  else if n = 0x06 then .ok .tcp
  else if n = 0x11 then .ok .udp
  else .error { errno := .ENOTSUP, cause := "unsupported IPv4 protocol" }

end IpProtocol

end Inetstack.Ip
