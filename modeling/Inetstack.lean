import Inetstack.Tcp.Established.Endpoint
import Inetstack.Lib.Labelled
import Inetstack.Laws.Tcp.SequenceNumber
import Inetstack.Laws.Tcp.Established.CtrlBlk
import Inetstack.Laws.Tcp.Established.Sender
import Inetstack.Laws.Tcp.Established.Delivery
import Inetstack.Laws.Tcp.Established.Endpoint
import Inetstack.Laws.Tcp.Established.Transmission
import Inetstack.Tcp.Network
import Inetstack.Laws.Tcp.Network
import Inetstack.Laws.Tcp.Established.SendStream
import Inetstack.Laws.Tcp.Established.UnsentQueue
import Inetstack.Laws.Tcp.Established.SendWindow
import Inetstack.Laws.Tcp.Established.PeerFin
import Inetstack.Laws.Tcp.Established.Acceptance
import Inetstack.Laws.Tcp.Established.ReceiveWindow
import Inetstack.Laws.Tcp.Established.ReceivePanics
import Inetstack.Laws.Tcp.Established.Translation
import Inetstack.Laws.Tcp.Established.States
import Inetstack.Tcp.ActiveOpen
import Inetstack.Tcp.IsnGenerator
import Inetstack.Tcp.PassiveOpen
import Inetstack.Tcp.Handshake
import Inetstack.Laws.Tcp.Handshake
import Inetstack.Laws.Tcp.Established.Closed
import Inetstack.Laws.Tcp.ActiveOpen
import Inetstack.Laws.Tcp.PassiveOpen
import Inetstack.Ethernet2.Frame
import Inetstack.Ip.Protocol
import Inetstack.Ipv4.Datagram
import Inetstack.Tcp.Wire
import Inetstack.Laws.Tcp.Buffer
import Inetstack.Laws.Ethernet2.Frame
import Inetstack.Laws.Ipv4.Datagram
import Inetstack.Laws.Tcp.Wire
import Inetstack.Ip.EphemeralPorts
import Inetstack.Tcp.Peer
import Inetstack.Laws.Ip.EphemeralPorts
import Inetstack.Laws.Tcp.Peer
import Inetstack.Laws.Tcp.Sockets
import Inetstack.Laws.Tcp.Refusal
import Inetstack.Udp.Datagram
import Inetstack.Udp.Peer
import Inetstack.Laws.SocketCalls
import Inetstack.Arp.Packet
import Inetstack.Icmpv4.Datagram
import Inetstack.Laws.Udp.Datagram
import Inetstack.Laws.Arp.Packet
import Inetstack.Laws.Frames
import Inetstack.Collections.HashTtlCache
import Inetstack.Laws.Collections.HashTtlCache
import Inetstack.Laws.Tcp.HandshakePanics
import Inetstack.Laws.Tcp.Established.DelayedAck
import Inetstack.Laws.Tcp.Checksums
import Inetstack.Laws.Udp.Deferred
import Inetstack.Laws.Tcp.Established.TextSize
import Inetstack.Laws.EmittedFrames
import Inetstack.Arp.Peer
import Inetstack.Laws.Arp.Peer
import Inetstack.InetStack
import Inetstack.Laws.InetStack
import Inetstack.Laws.Udp.Tables
import Inetstack.Laws.PrivatePorts
import Inetstack.Laws.Tcp.Established.OutOfOrder
import Inetstack.Laws.Tcp.Established.Drain
import Inetstack.Laws.Tcp.Established.Trimming
import Inetstack.Laws.Tcp.Established.Unacceptable
import Inetstack.Laws.Tcp.Grammar
import Inetstack.Laws.InternetChecksum
import Inetstack.Laws.Udp.Checksum
import Inetstack.Laws.Tcp.Established.Close
import Inetstack.Laws.Tcp.Established.Acknowledged
import Inetstack.Laws.Tcp.Established.OpenWindow
import Inetstack.Laws.Arp.Receive
import Inetstack.Laws.Tcp.Established.WindowUpdate
import Inetstack.Laws.Udp.Fifo
import Inetstack.Icmpv4.Peer
import Inetstack.Laws.Icmpv4.Peer
import Inetstack.Laws.Tcp.Established.Rto
import Inetstack.Tcp.Established.Cubic
import Inetstack.Laws.Tcp.Established.Cubic
import Inetstack.Laws.Tcp.Established.StoreCoverage
import Inetstack.Host
import Inetstack.Laws.Tcp.Established.Addresses
import Inetstack.Laws.Tcp.Established.Log
import Inetstack.Laws.Tcp.Moves
import Inetstack.Laws.Tcp.Origins
import Inetstack.Laws.Tcp.Connections
import Inetstack.Laws.Host.Steps
import Inetstack.Laws.Arp.Trust
import Inetstack.Laws.Host.Arrival
import Inetstack.Laws.Host.Messages
import Inetstack.Laws.Host.Frames
import Inetstack.Laws.Host.Resolution
import Inetstack.Laws.Host.Datagrams
import Inetstack.Laws.Host.Pings
import Inetstack.Laws.Host.Streams
import Inetstack.Laws.Grammars
import Inetstack.Laws.Host.Crashes
import Inetstack.Laws.Tcp.Polls
import Inetstack.Laws.Host.Descriptors
