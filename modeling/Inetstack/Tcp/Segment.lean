import Inetstack.Tcp.Basic

/-!
# TCP headers and segments (`protocols/tcp/segment.rs`)

The header with all its fields, the five options the stack understands, and the segment handed to
`transmit`: the Ethernet and IPv4 headers it is wrapped in, the TCP header, the payload and the
checksum-offload flag. The option array of the source is the list of its used entries.
-/

namespace Inetstack.Tcp

/-- One block of a selective acknowledgement. -/
structure SelectiveAcknowlegement where
  begin : SeqNumber
  end_ : SeqNumber
  deriving DecidableEq, Repr

inductive TcpOptions2 where
  | noOperation
  | maximumSegmentSize (mss : UInt16)
  | windowScale (scale : UInt8)
  | selectiveAcknowlegementPermitted
  | selectiveAcknowlegement (sacks : List SelectiveAcknowlegement)
  | timestamp (senderTimestamp echoTimestamp : UInt32)
  deriving DecidableEq, Repr

structure TcpHeader where
  srcPort : UInt16
  dstPort : UInt16
  seqNum : SeqNumber
  ackNum : SeqNumber
  ns : Bool
  cwr : Bool
  ece : Bool
  urg : Bool
  ack : Bool
  psh : Bool
  rst : Bool
  syn : Bool
  fin : Bool
  windowSize : UInt16
  urgentPointer : UInt16
  optionList : List TcpOptions2
  deriving DecidableEq, Repr

def TcpHeader.new (srcPort dstPort : UInt16) : TcpHeader where
  srcPort := srcPort
  dstPort := dstPort
  seqNum := ⟨0⟩
  ackNum := ⟨0⟩
  ns := false
  cwr := false
  ece := false
  urg := false
  ack := false
  psh := false
  rst := false
  syn := false
  fin := false
  windowSize := 0
  urgentPointer := 0
  optionList := []

def TcpHeader.pushOption (header : TcpHeader) (option : TcpOptions2) : TcpHeader :=
  { header with optionList := header.optionList ++ [option] }

/-- The Ethernet header of an outgoing segment. Its type is always IPv4 here. -/
structure Ethernet2Header where
  dstAddr : MacAddress
  srcAddr : MacAddress
  deriving DecidableEq, Repr

/-- The addresses of an outgoing segment's IPv4 header. Its protocol is always TCP here, and the
other fields are the constants of `Ipv4Header::new`. -/
structure Ipv4Header where
  srcAddr : Ipv4Addr
  dstAddr : Ipv4Addr
  deriving DecidableEq, Repr

structure TcpSegment where
  ethernet2Hdr : Ethernet2Header
  ipv4Hdr : Ipv4Header
  tcpHdr : TcpHeader
  data : Buffer
  txChecksumOffload : Bool
  deriving DecidableEq, Repr

/-- What a connection uses of the runtime: the local link address, the configuration, and every
segment handed to `transmit` so far, oldest first. -/
structure Runtime where
  localLinkAddr : MacAddress
  tcpOptions : TcpConfig
  transmitted : List TcpSegment

def Runtime.transmit (rt : Runtime) (segment : TcpSegment) : Runtime :=
  { rt with transmitted := rt.transmitted ++ [segment] }

end Inetstack.Tcp
