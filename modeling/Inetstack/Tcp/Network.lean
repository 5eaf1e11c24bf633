import Inetstack.Lib.Network
import Inetstack.Tcp.Established.Endpoint

/-!
# Two endpoints and the network between them

An endpoint is a node on a network of segments. Its own events are calls, and its log is what it has
transmitted: at any moment the network may hand to one end any segment the other end has transmitted so
far, any number of times or never.
-/

namespace Inetstack.Tcp

variable {σ : Type} [CongestionControl σ]

/-- An endpoint as a node of a network of segments. -/
def Endpoint.node : Network.Node (Endpoint σ) (Call × Env) TcpSegment Env Fault where
  step e event := e.step (.call event.1 event.2)
  arrive e segment env := e.step (.receive segment.tcpHdr segment.data env)
  sent e := e.cb.rt.transmitted

/-- The events of a connection: a call on either end, or the delivery to one end of the segment the
other end transmitted as its `index`-th. -/
abbrev ConnectionEvent := Network.Event (Call × Env) (Call × Env) Env

/-- Both ends of a connection. -/
abbrev Connection (σ : Type) := Endpoint σ × Endpoint σ

/-- A run of a connection. -/
def Connection.run (c : Connection σ) (events : List ConnectionEvent) : Except Fault (Connection σ) :=
  Machine.run (Network.step Endpoint.node Endpoint.node) c events

end Inetstack.Tcp
