import Inetstack.Tcp.Basic

/-!
# The pool of free private ports (`protocols/ip/ephemeral.rs`)

The pool is a list that is used as a stack. It starts with the private ports, shuffled; the last one of
them, 65535, is never in it. The shuffle of the random number generator is a parameter.
-/

namespace Inetstack.Ip

open Tcp (Fail)

/-- The first port of the range. -/
def FIRST_PRIVATE_PORT : UInt16 := 49152

/-- The end of the range, which is not in it. -/
def LAST_PRIVATE_PORT : UInt16 := 65535

/-- The pool of the free private ports. -/
structure EphemeralPorts where
  ports : List UInt16

namespace EphemeralPorts

/-- The ports of the range `FIRST_PRIVATE_PORT..LAST_PRIVATE_PORT`. -/
@[irreducible] def privatePorts : List UInt16 :=
  (List.range (LAST_PRIVATE_PORT.toNat - FIRST_PRIVATE_PORT.toNat)).map fun n =>
    UInt16.ofNat (FIRST_PRIVATE_PORT.toNat + n)

/-- All ports of the range are free, in a random order. -/
def new (shuffle : List UInt16 → List UInt16) : EphemeralPorts where
  ports := shuffle privatePorts

/-- The last port counts as private, though it is not in the pool. -/
def isPrivate (port : UInt16) : Bool := FIRST_PRIVATE_PORT ≤ port

/-- The last port of the pool. -/
def allocAny (p : EphemeralPorts) : Except Fail (UInt16 × EphemeralPorts) :=
  match p.ports.getLast? with
  | some port => .ok (port, { ports := p.ports.dropLast })
  | none => .error {
      errno := .EADDRINUSE
      cause := "all port numbers in the ephemeral port range are currently in use" }

/-- A port that is not in the pool is taken by somebody, or was never in it. -/
def allocPort (p : EphemeralPorts) (port : UInt16) : Except Fail EphemeralPorts :=
  if port ∉ p.ports then .error { errno := .ENOENT, cause := "port number not found" }
  else .ok { ports := p.ports.filter (· ≠ port) }

/-- The port is not looked for in the pool. -/
def free (p : EphemeralPorts) (port : UInt16) : EphemeralPorts where
  ports := p.ports ++ [port]

end EphemeralPorts

end Inetstack.Ip
