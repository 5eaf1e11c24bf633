import Inetstack.Laws.Host.Messages
import Inetstack.Laws.Frames
import Inetstack.Laws.Tcp.Checksums

/-!
# A frame is read as the message it was written for

Whatever a host transmits, if a link can carry the frame, the layers of the host it arrives at read the
headers of the message off it, and no other message. A segment or a UDP datagram is refused where its checksum
is looked at and does not match, which happens only if its sender left the checksum to the device.
-/

namespace Inetstack

open Arp (ArpHeader ArpMessage)
open Ethernet2 (Ethernet2Header)
open Icmpv4 (Icmpv4Header Icmpv4Message)
open Ipv4 (Ipv4Header)
open Machine (bind_eq_ok)
open Tcp (Buffer Fail Ipv4Addr MacAddress TcpConfig TcpHeader TcpSegment toBeBytes)
open Udp (UdpDatagram UdpHeader UDP_HEADER_SIZE)

/-! ## Datagrams -/

theorem Ipv4.Ipv4Header.length_wire (h : Ipv4Header) (totalLength : UInt16) :
    (h.wire totalLength).length = 20 := rfl

/-- The frame, whatever follows it, is read as a datagram with these headers. -/
def ReadsDatagram (frame : Buffer) (ethernet2 : Ethernet2Header) (ipHdr : Ipv4Header) (data : Buffer) :
    Prop :=
  ∀ padding, ∃ payload, Ethernet2Header.parse (frame ++ padding) = pure (ethernet2, payload) ∧
    Ipv4Header.parse payload = pure (ipHdr, data)

/-- A header and its data behind an Ethernet header are read back. -/
theorem readsDatagram_of_wire {ethernet2 : Ethernet2Header} {ipHdr : Ipv4Header}
    (sendable : ipHdr.Sendable) {totalLength : UInt16} {data : Buffer}
    (size : totalLength.toNat = 20 + data.length) :
    ReadsDatagram (ethernet2.bytes ++ (ipHdr.wire totalLength ++ data)) ethernet2
      (ipHdr.delivered totalLength) data := by
  intro padding
  refine ⟨ipHdr.wire totalLength ++ data ++ padding, ?_, Ipv4Header.parse_wire sendable padding size⟩
  rw [List.append_assoc]
  exact Ethernet2Header.parse_bytes ethernet2 _

/-- What the frame carries is determined by it. -/
theorem ReadsDatagram.carries {frame : Buffer} {ethernet2 : Ethernet2Header} {ipHdr ipHdr' : Ipv4Header}
    {data data' : Buffer} (reads : ReadsDatagram frame ethernet2 ipHdr data) {h : Host} {padding : Buffer}
    (carries : h.Carries (frame ++ padding) ipHdr' data') : ipHdr' = ipHdr ∧ data' = data := by
  obtain ⟨payload, ethernet, ipv4⟩ := reads padding
  obtain ⟨header, payload', ethernet', -, ipv4'⟩ := carries.ethernet2
  cases ethernet.symm.trans ethernet'
  cases ipv4.symm.trans ipv4'
  exact ⟨rfl, rfl⟩

/-! ## Checksums that are left to the device -/

/-- A decoder, with verification left out or not, that gives one thing, but with verification refuses it if
the checksum it finds is not the one it computes. -/
def Tcp.Outcome.GivesChecked {α : Type} (parse : Bool → Outcome α) (sum computed : UInt16) (cause : String)
    (a : α) : Prop :=
  ∀ offload, parse offload =
    if !offload && sum != computed then throw { errno := .EBADMSG, cause := cause } else pure a

/-- Either way of the checksum. -/
theorem Tcp.Outcome.GivesChecked.gives_or_refuses {α : Type} {parse : Bool → Outcome α}
    {sum computed : UInt16} {cause : String} {a : α} (h : Outcome.GivesChecked parse sum computed cause a)
    (offload : Bool) :
    parse offload = pure a ∨ parse offload = throw { errno := .EBADMSG, cause := cause } := by
  rw [h offload]
  split
  · exact .inr rfl
  · exact .inl rfl

/-- The datagram is read off these bytes, or refused for its checksum. It is not refused if its sender wrote
the checksum. -/
def Udp.UdpDatagram.ReadAs (datagram : UdpDatagram) (ipHdr : Ipv4Header) (data : Buffer) : Prop :=
  ∃ sum computed : UInt16, Buffer.readU16 data 6 = .ok sum ∧
    UdpHeader.checksum ipHdr (data.take UDP_HEADER_SIZE) (data.drop UDP_HEADER_SIZE) = .ok computed ∧
    (datagram.checksumOffload = false → sum = computed) ∧
    Tcp.Outcome.GivesChecked (UdpHeader.parse ipHdr data) sum computed "UDP checksum mismatch"
      (datagram.udpHdr, datagram.data)

/-- The same of a segment. -/
def Tcp.TcpSegment.ReadAs (segment : TcpSegment) (ipHdr : Ipv4.Ipv4Header) (data : Buffer) : Prop :=
  ∃ sum computed : UInt16, Buffer.readU16 data 16 = .ok sum ∧
    Tcp.tcpChecksum ipHdr (data.take segment.tcpHdr.computeSize) (data.drop segment.tcpHdr.computeSize) =
      .ok computed ∧
    (segment.txChecksumOffload = false → sum = computed) ∧
    ∀ eof, Outcome.GivesChecked (TcpHeader.parse eof ipHdr data) sum computed "TCP checksum mismatch"
      (segment.tcpHdr, segment.data)

/-- Read by a UDP peer, with or without checksum offload. -/
theorem Udp.UdpDatagram.ReadAs.gives_or_refuses {datagram : UdpDatagram} {ipHdr : Ipv4Header} {data : Buffer}
    (h : datagram.ReadAs ipHdr data) (checksumOffload : Bool) :
    UdpHeader.parse ipHdr data checksumOffload = pure (datagram.udpHdr, datagram.data) ∨
      UdpHeader.parse ipHdr data checksumOffload =
        throw { errno := .EBADMSG, cause := "UDP checksum mismatch" } := by
  obtain ⟨sum, computed, -, -, -, gives⟩ := h
  exact gives.gives_or_refuses checksumOffload

/-- Read by a TCP peer, with or without checksum offload. -/
theorem Tcp.TcpSegment.ReadAs.gives_or_refuses {segment : TcpSegment} {ipHdr : Ipv4.Ipv4Header}
    {data : Buffer} (h : segment.ReadAs ipHdr data) (eof : Tcp.Fail) (rxChecksumOffload : Bool) :
    TcpHeader.parse eof ipHdr data rxChecksumOffload = pure (segment.tcpHdr, segment.data) ∨
      TcpHeader.parse eof ipHdr data rxChecksumOffload =
        throw { errno := .EBADMSG, cause := "TCP checksum mismatch" } := by
  obtain ⟨sum, computed, -, -, -, gives⟩ := h
  exact (gives eof).gives_or_refuses rxChecksumOffload

/-- What is read off the front of a datagram with the addresses it was written with. -/
theorem Udp.UdpDatagram.readAs_of_wire {datagram : UdpDatagram} {ipHdr : Ipv4Header} {sum : UInt16}
    (addresses : datagram.ipv4Hdr.SameAddresses ipHdr)
    (summed : datagram.checksumOffload = false → UdpHeader.checksum datagram.ipv4Hdr
      (datagram.udpHdr.front (UdpHeader.wireLength datagram.data) ++ toBeBytes 2 sum.toNat)
        datagram.data = .ok sum)
    (small : UDP_HEADER_SIZE + datagram.data.length ≤ 65535) :
    datagram.ReadAs ipHdr (datagram.udpHdr.front (UdpHeader.wireLength datagram.data) ++
      toBeBytes 2 sum.toNat ++ datagram.data) := by
  set hdr := datagram.udpHdr.front (UdpHeader.wireLength datagram.data) ++ toBeBytes 2 sum.toNat with hdr_eq
  have size : hdr.length = UDP_HEADER_SIZE := rfl
  have front : (hdr ++ datagram.data).take UDP_HEADER_SIZE = hdr := List.take_left' size
  have rest : (hdr ++ datagram.data).drop UDP_HEADER_SIZE = datagram.data := List.drop_left' size
  obtain ⟨computed, again⟩ := UdpHeader.checksum_ok ipHdr hdr datagram.data size
  refine ⟨sum, computed, congrArg Except.ok (Tcp.ofNat_ofBe_u16 sum), ?_, ?_, ?_⟩
  · rw [front, rest]
    exact again
  · intro checksummed
    have same : UdpHeader.checksum datagram.ipv4Hdr hdr datagram.data =
        UdpHeader.checksum ipHdr hdr datagram.data :=
      UdpHeader.checksum_hole datagram.data addresses.srcAddr.symm addresses.dstAddr.symm
        (datagram.udpHdr.length_front _) rfl rfl
    rw [summed checksummed, again] at same
    exact Except.ok.inj same
  · exact fun checksumOffload => UdpHeader.parse_checked small again checksumOffload

/-- What is read off the front of a segment with the addresses it was written with. -/
theorem Tcp.TcpSegment.readAs_of_wire {segment : TcpSegment} {ipHdr : Ipv4.Ipv4Header} {checksum : UInt16}
    (addresses : segment.ipv4.SameAddresses ipHdr)
    (summed : segment.txChecksumOffload = false → Tcp.tcpChecksum segment.ipv4
      (segment.tcpHdr.front ++ toBeBytes 2 checksum.toNat ++ segment.tcpHdr.back) segment.data = .ok checksum)
    (small : segment.tcpHdr.computeSize ≤ Tcp.MAX_TCP_HEADER_SIZE)
    (few : segment.tcpHdr.optionList.length ≤ Tcp.MAX_TCP_OPTIONS)
    (wf : ∀ option ∈ segment.tcpHdr.optionList, option.WellFormed) :
    segment.ReadAs ipHdr (segment.tcpHdr.front ++ toBeBytes 2 checksum.toNat ++ segment.tcpHdr.back ++
      segment.data) := by
  have two : (toBeBytes 2 checksum.toNat).length = 2 := Tcp.length_toBeBytes 2 _
  set hdr := segment.tcpHdr.front ++ toBeBytes 2 checksum.toNat ++ segment.tcpHdr.back with hdr_eq
  have size : hdr.length = segment.tcpHdr.computeSize := TcpHeader.length_hole two
  have front : (hdr ++ segment.data).take segment.tcpHdr.computeSize = hdr := List.take_left' size
  have rest : (hdr ++ segment.data).drop segment.tcpHdr.computeSize = segment.data := List.drop_left' size
  have words := TcpHeader.four_dvd_computeSize segment.tcpHdr
  have least : Tcp.MIN_TCP_HEADER_SIZE ≤ hdr.length := by
    rw [size, TcpHeader.computeSize_eq, Nat.add_assoc]
    exact Nat.le_add_right _ _
  obtain ⟨computed, again⟩ := TcpHeader.tcpChecksum_ok ipHdr segment.data least (by omega)
  refine ⟨checksum, computed, congrArg Except.ok (Tcp.ofNat_ofBe_u16 checksum),
    by rw [front, rest]; exact again, ?_, ?_⟩
  · intro checksummed
    have same : Tcp.tcpChecksum segment.ipv4 hdr segment.data = Tcp.tcpChecksum ipHdr hdr segment.data :=
      TcpHeader.tcpChecksum_hole segment.data addresses.srcAddr.symm addresses.dstAddr.symm
        (TcpHeader.length_front _) two two
    rw [summed checksummed, again] at same
    exact Except.ok.inj same
  · exact fun eof rxChecksumOffload => TcpHeader.parse_checked small few wf again rxChecksumOffload

/-! ## Every message -/

/-- **The frame is read as the message**, or refused for a checksum that its sender did not write. -/
def Message.ReadFrom (frame : Buffer) : Message → Prop
  | .arp message => ∀ padding, ∃ payload,
      Ethernet2Header.parse (frame ++ padding) = pure (message.ethernet2Hdr, payload) ∧
        ArpHeader.parse payload = pure message.header
  | .icmpv4 message => ∃ ipHdr data, ReadsDatagram frame message.ethernet2Hdr ipHdr data ∧
      message.ipv4Hdr.SameAddresses ipHdr ∧ Icmpv4Header.parse data = pure (message.icmpv4Hdr, [])
  | .udp datagram => ∃ ipHdr data, ReadsDatagram frame datagram.ethernet2Hdr ipHdr data ∧
      datagram.ipv4Hdr.SameAddresses ipHdr ∧ datagram.ReadAs ipHdr data
  | .tcp segment => ∃ ipHdr data, ReadsDatagram frame segment.ethernet2 ipHdr data ∧
      segment.ipv4.SameAddresses ipHdr ∧ segment.ReadAs ipHdr data

variable {localLinkAddr : MacAddress} {localIpv4Addr : Ipv4Addr} {config : TcpConfig} {frame : Buffer}

/-- The frame of an ARP packet. -/
theorem Arp.ArpMessage.readFrom {message : ArpMessage} (framed : message.packet.frame = .ok frame) :
    Message.ReadFrom frame (.arp message) := by
  obtain ⟨out, wrote, framed⟩ := bind_eq_ok.mp framed
  cases wrote.symm.trans (message.writeHeader_eq (Nat.le_of_eq List.length_replicate.symm))
  cases framed
  intro padding
  refine ⟨message.header.bytes ++ padding, ?_, ArpHeader.parse_bytes message.header padding⟩
  simp only [ArpMessage.packet, List.drop_replicate, Nat.sub_self, List.replicate_zero, List.append_nil,
    List.append_assoc]
  exact Ethernet2Header.parse_bytes message.ethernet2Hdr _

/-- The frame of an ICMPv4 message. -/
theorem Icmpv4.Icmpv4Message.From.readFrom {message : Icmpv4Message}
    (h : message.From localLinkAddr localIpv4Addr) (framed : message.packet.frame = .ok frame) :
    Message.ReadFrom frame (.icmpv4 message) := by
  obtain ⟨out, wrote, framed⟩ := bind_eq_ok.mp framed
  cases wrote.symm.trans (message.writeHeader_eq (Nat.le_of_eq List.length_replicate.symm))
  cases framed
  obtain ⟨dstAddr, built⟩ := h.ipv4
  have sendable : message.ipv4Hdr.Sendable := built ▸ Ipv4Header.new_sendable ..
  refine ⟨message.ipv4Hdr.delivered Icmpv4Message.totalLength, message.icmpv4Hdr.bytes, ?_,
    message.ipv4Hdr.sameAddresses_delivered _, Icmpv4Header.parse_bytes message.icmpv4Hdr⟩
  simp only [Icmpv4Message.packet, List.drop_replicate, Nat.sub_self, List.replicate_zero, List.append_nil,
    List.append_assoc]
  refine readsDatagram_of_wire sendable ?_
  rw [message.icmpv4Hdr.length_bytes]
  rfl

/-- The frame of a UDP datagram. -/
theorem Udp.UdpDatagram.From.readFrom {datagram : UdpDatagram}
    (h : datagram.From localLinkAddr localIpv4Addr) (framed : datagram.packet.frame = .ok frame)
    (small : frame.length ≤ Host.MAX_FRAME_SIZE) : Message.ReadFrom frame (.udp datagram) := by
  obtain ⟨out, wrote, framed⟩ := bind_eq_ok.mp framed
  have room : datagram.headerSize ≤ (List.replicate datagram.headerSize (0 : UInt8)).length :=
    Nat.le_of_eq List.length_replicate.symm
  obtain ⟨sum, summed, wrote'⟩ := UdpDatagram.writeHeader_eq room
  cases wrote.symm.trans wrote'
  cases framed
  obtain ⟨dstAddr, built⟩ := h.ipv4
  have sendable : datagram.ipv4Hdr.Sendable := built ▸ Ipv4Header.new_sendable ..
  set udp := datagram.udpHdr.front (UdpHeader.wireLength datagram.data) ++ toBeBytes 2 sum.toNat
  have eight : udp.length = 8 := rfl
  have whole : datagram.ethernet2Hdr.bytes ++ datagram.ipv4Hdr.wire datagram.totalLength ++ udp ++
      (List.replicate datagram.headerSize 0).drop datagram.headerSize ++ datagram.data =
        datagram.ethernet2Hdr.bytes ++ (datagram.ipv4Hdr.wire datagram.totalLength ++
          (udp ++ datagram.data)) := by
    simp only [List.drop_replicate, Nat.sub_self, List.replicate_zero, List.append_nil, List.append_assoc]
  change (_ ++ datagram.data).length ≤ _ at small
  change Message.ReadFrom (_ ++ datagram.data) _
  rw [whole] at small ⊢
  have short : datagram.data.length ≤ 65507 := by
    simp only [List.length_append, datagram.ethernet2Hdr.length_bytes, eight,
      datagram.ipv4Hdr.length_wire, Host.MAX_FRAME_SIZE] at small
    omega
  have addresses := datagram.ipv4Hdr.sameAddresses_delivered datagram.totalLength
  refine ⟨datagram.ipv4Hdr.delivered datagram.totalLength, udp ++ datagram.data, ?_, addresses,
    UdpDatagram.readAs_of_wire addresses summed (by rw [UDP_HEADER_SIZE]; omega)⟩
  refine readsDatagram_of_wire sendable ?_
  rw [UdpDatagram.toNat_totalLength short, List.length_append, eight, UDP_HEADER_SIZE]

/-- The frame of a TCP segment. -/
theorem Tcp.TcpSegment.From.readFrom {segment : TcpSegment} (h : segment.From localLinkAddr config)
    (framed : segment.packet.frame = .ok frame) (small : frame.length ≤ Host.MAX_FRAME_SIZE) :
    Message.ReadFrom frame (.tcp segment) := by
  obtain ⟨out, wrote, framed⟩ := bind_eq_ok.mp framed
  have room : segment.headerSize ≤ (List.replicate segment.headerSize (0 : UInt8)).length :=
    Nat.le_of_eq List.length_replicate.symm
  obtain ⟨checksum, summed, wrote'⟩ := TcpSegment.writeHeader_eq room
  cases wrote.symm.trans wrote'
  cases framed
  obtain ⟨fits, few, wellFormed⟩ := h.sent.shape
  set tcp := segment.tcpHdr.front ++ toBeBytes 2 checksum.toNat ++ segment.tcpHdr.back
  have size : tcp.length = segment.tcpHdr.computeSize := TcpHeader.length_hole (Tcp.length_toBeBytes 2 _)
  have whole : segment.ethernet2.bytes ++
      Ipv4Header.bytes segment.ipv4Hdr.srcAddr segment.ipv4Hdr.dstAddr .tcp segment.totalLength ++ tcp ++
      (List.replicate segment.headerSize 0).drop segment.headerSize ++ segment.data =
        segment.ethernet2.bytes ++ (segment.ipv4.wire segment.totalLength ++ (tcp ++ segment.data)) := by
    rw [TcpSegment.ipv4, Ipv4Header.wire_new]
    simp only [List.drop_replicate, Nat.sub_self, List.replicate_zero, List.append_nil, List.append_assoc]
  change (_ ++ segment.data).length ≤ _ at small
  change Message.ReadFrom (_ ++ segment.data) _
  rw [whole] at small ⊢
  have short : 20 + segment.tcpHdr.computeSize + segment.data.length ≤ 65535 := by
    simp only [List.length_append, segment.ethernet2.length_bytes, size, segment.ipv4.length_wire,
      Host.MAX_FRAME_SIZE] at small
    omega
  have addresses := segment.ipv4.sameAddresses_delivered segment.totalLength
  refine ⟨segment.ipv4.delivered segment.totalLength, tcp ++ segment.data, ?_, addresses,
    TcpSegment.readAs_of_wire addresses summed fits few wellFormed⟩
  refine readsDatagram_of_wire (Ipv4Header.new_sendable ..) ?_
  rw [TcpSegment.toNat_totalLength short, List.length_append, size]

/-- **Whatever a host says is read as what it says**, if a link can carry the frame. -/
theorem Message.From.readFrom {message : Message} (h : message.From localLinkAddr localIpv4Addr config)
    (framed : message.packet.frame = .ok frame) (small : frame.length ≤ Host.MAX_FRAME_SIZE) :
    message.ReadFrom frame := by
  cases message with
  | arp message => exact Arp.ArpMessage.readFrom framed
  | icmpv4 message => exact Icmpv4.Icmpv4Message.From.readFrom h framed
  | udp datagram => exact Udp.UdpDatagram.From.readFrom h framed small
  | tcp segment => exact Tcp.TcpSegment.From.readFrom h framed small

/-- A message can always be written to a frame. -/
theorem Message.frame_ok (message : Message) : ∃ frame, message.packet.frame = .ok frame := by
  have room (n : Nat) : n ≤ (List.replicate n (0 : UInt8)).length := Nat.le_of_eq List.length_replicate.symm
  cases message with
  | arp message => exact ⟨_, bind_eq_ok.mpr ⟨_, message.writeHeader_eq (room _), rfl⟩⟩
  | icmpv4 message => exact ⟨_, bind_eq_ok.mpr ⟨_, message.writeHeader_eq (room _), rfl⟩⟩
  | udp datagram =>
    obtain ⟨sum, -, wrote⟩ := UdpDatagram.writeHeader_eq (room datagram.headerSize)
    exact ⟨_, bind_eq_ok.mpr ⟨_, wrote, rfl⟩⟩
  | tcp segment =>
    obtain ⟨checksum, -, wrote⟩ := TcpSegment.writeHeader_eq (room segment.headerSize)
    exact ⟨_, bind_eq_ok.mpr ⟨_, wrote, rfl⟩⟩

namespace Host

variable {env : Platform} {h h₀ : Host}

/-- A frame that a link carries is that of a message. -/
theorem mem_frames : frame ∈ h.frames ↔
    ∃ message ∈ h.messages, message.packet.frame = .ok frame ∧ frame.length ≤ MAX_FRAME_SIZE := by
  simp only [frames, List.mem_filter, List.mem_filterMap, decide_eq_true_eq]
  constructor
  · rintro ⟨⟨message, member, framed⟩, small⟩
    refine ⟨message, member, ?_, small⟩
    cases made : message.packet.frame with
    | ok out =>
      rw [made] at framed
      cases framed
      rfl
    | error fault =>
      rw [made] at framed
      cases framed
  · rintro ⟨message, member, framed, small⟩
    exact ⟨⟨message, member, by rw [framed]; rfl⟩, small⟩

/-- What the datagram in a frame of a host is. -/
inductive Carried (h : Host) (ipHdr : Ipv4Header) (data : Buffer) : Prop where
  | icmpv4 {message : Icmpv4Message} (member : message ∈ h.icmpv4.transmitted)
      (addresses : message.ipv4Hdr.SameAddresses ipHdr) (protocol : ipHdr.protocol = .icmpv4)
      (read : Icmpv4Header.parse data = pure (message.icmpv4Hdr, []))
  | udp {datagram : UdpDatagram} (member : datagram ∈ h.stack.udp.transmitted)
      (addresses : datagram.ipv4Hdr.SameAddresses ipHdr) (protocol : ipHdr.protocol = .udp)
      (read : datagram.ReadAs ipHdr data)
  | tcp {segment : TcpSegment} (member : segment ∈ h.stack.tcp.rt.transmitted)
      (addresses : segment.ipv4.SameAddresses ipHdr) (protocol : ipHdr.protocol = .tcp)
      (read : segment.ReadAs ipHdr data)

/-- **A datagram that arrives in a frame of a host is one of those of its peers.** -/
theorem Speaks.carried (speaks : h.Speaks localLinkAddr localIpv4Addr config) (sent : frame ∈ h.frames)
    {other : Host} {padding data : Buffer} {ipHdr : Ipv4Header}
    (carries : other.Carries (frame ++ padding) ipHdr data) : h.Carried ipHdr data := by
  obtain ⟨message, member, framed, small⟩ := mem_frames.mp sent
  have own := speaks.messages message member
  have readFrom := own.readFrom framed small
  simp only [Host.messages, List.mem_append, List.mem_map] at member
  rcases member with ((⟨message, member, rfl⟩ | ⟨message, member, rfl⟩) | ⟨datagram, member, rfl⟩) |
    ⟨segment, member, rfl⟩
  · obtain ⟨header, payload, ethernet, etherType, -⟩ := carries.ethernet2
    obtain ⟨payload', ethernet', -⟩ := readFrom padding
    obtain ⟨dstAddr, built⟩ := own.ethernet2
    cases ethernet.symm.trans ethernet'
    rw [built] at etherType
    cases etherType
  · obtain ⟨ipHdr', data', reads, addresses, read⟩ := readFrom
    obtain ⟨rfl, rfl⟩ := reads.carries carries
    obtain ⟨dstAddr, built⟩ := own.ipv4
    exact .icmpv4 member addresses (addresses.protocol.trans (by rw [built]; rfl)) read
  · obtain ⟨ipHdr', data', reads, addresses, read⟩ := readFrom
    obtain ⟨rfl, rfl⟩ := reads.carries carries
    obtain ⟨dstAddr, built⟩ := own.ipv4
    exact .udp member addresses (addresses.protocol.trans (by rw [built]; rfl)) read
  · obtain ⟨ipHdr', data', reads, addresses, read⟩ := readFrom
    obtain ⟨rfl, rfl⟩ := reads.carries carries
    exact .tcp member addresses addresses.protocol read

/-- A new host has said nothing yet. -/
theorem new_speaks {setup : Setup} (interface : setup.rt.localLinkAddr = setup.localLinkAddr)
    (nothing : setup.rt.transmitted = []) (made : Host.new setup = .ok h₀) :
    h₀.Speaks setup.localLinkAddr setup.localIpv4Addr setup.rt.tcpOptions := by
  obtain ⟨stack, madeStack, eq⟩ := bind_eq_ok.mp made
  cases eq
  obtain ⟨arp, madeArp, eq⟩ := bind_eq_ok.mp madeStack
  cases eq
  obtain ⟨cache, -, eq⟩ := bind_eq_ok.mp madeArp
  cases eq
  refine ⟨rfl, ⟨rfl, rfl, ?_⟩, ⟨rfl, rfl, ?_⟩, ⟨rfl, rfl, ?_⟩, ⟨⟨rfl, ?_⟩, interface, ?_⟩⟩
  · exact fun _ member => absurd member List.not_mem_nil
  · exact fun _ member => absurd member List.not_mem_nil
  · exact fun _ member => absurd member List.not_mem_nil
  · change ∀ segment ∈ setup.rt.transmitted, _
    simp [nothing]
  · change ∀ segment ∈ setup.rt.transmitted, _
    simp [nothing]

/-- **What a host takes in does not make it speak for another.** -/
theorem input_speaks {h' : Host} {input : HostInput} (speaks : h.Speaks localLinkAddr localIpv4Addr config)
    (ran : h.input env input = .ok h') : h'.Speaks localLinkAddr localIpv4Addr config := by
  cases input with
  | event event => exact step_speaks speaks ran
  | frame bytes now => exact arrive_speaks speaks ran

/-- **A host speaks for itself, and is understood.** Whatever is asked of a host and whatever frames it is
sent, each of its messages comes from its own interface and, but for TCP, from its own address; it can be
written to a frame, and that frame, whatever the link puts behind it, is read as the message and no other,
or refused for a checksum that was left to the device, as long as a link can carry it. -/
theorem speaks_for_itself (env : Platform) (setup : Setup)
    (interface : setup.rt.localLinkAddr = setup.localLinkAddr) (nothing : setup.rt.transmitted = [])
    (made : Host.new setup = .ok h₀) (inputs : List HostInput)
    (ran : Machine.run (input env) h₀ inputs = .ok h) :
    ∀ message ∈ h.messages, message.From setup.localLinkAddr setup.localIpv4Addr setup.rt.tcpOptions ∧
      ∃ frame, message.packet.frame = .ok frame ∧
        (frame.length ≤ MAX_FRAME_SIZE → message.ReadFrom frame) := by
  have speaks : h.Speaks setup.localLinkAddr setup.localIpv4Addr setup.rt.tcpOptions :=
    Machine.invariant _ (fun speaks stepped => input_speaks speaks stepped)
      (new_speaks interface nothing made) ran
  intro message member
  have own := speaks.messages message member
  obtain ⟨frame, framed⟩ := message.frame_ok
  exact ⟨own, frame, framed, fun small => own.readFrom framed small⟩

/-- The platform of the sample hosts. -/
def samplePlatform : Platform where
  overflowChecks := false
  alloc := InetStack.sampleAlloc
  intoRaw := List.length
  eof := sampleEof
  crc := fun _ => 500
  fallbackMss := 536

/-- A host with a link address and an address, that knows no other. -/
def sampleHost (localLinkAddr : MacAddress) (localIpv4Addr : Ipv4Addr) : Host where
  stack :=
    { arp := { Arp.ArpPeer.samplePeer with localLinkAddr := localLinkAddr, localIpv4Addr := localIpv4Addr }
      tcp := .new id 0 ⟨localLinkAddr, Tcp.sampleConfig, []⟩ localIpv4Addr
      udp := .new id localLinkAddr localIpv4Addr false
      fileTable := ∅
      scheduled := []
      outgoing := [] }
  icmpv4 := .new localLinkAddr localIpv4Addr
  completed := ∅
  localLinkAddr := localLinkAddr
  localIpv4Addr := localIpv4Addr

/-- The example host is a new one. -/
theorem new_sampleHost (localLinkAddr : MacAddress) (localIpv4Addr : Ipv4Addr) :
    Host.new (InetStack.sampleSetup localLinkAddr localIpv4Addr) =
      .ok (sampleHost localLinkAddr localIpv4Addr) := rfl

/-- The frame of a request of 10.0.0.2, and one that is too short. -/
def sampleInputs : List HostInput :=
  [.frame [1, 2, 3] 0,
    .frame ((Ethernet2Header.new Arp.BROADCAST 9 .arp).bytes ++
      (ArpHeader.new .request 9 0x0a000002 Arp.BROADCAST 0x0a000001).bytes) 0,
    .event (.arp (.query 1 0x0a000003)), .event (.arp (.poll 1 Arp.ArpPeer.early))]

/-- The request is answered, and one is made. -/
theorem speaks_for_itself_request :
    ∃ h, Machine.run (input samplePlatform) (sampleHost 7 0x0a000001) sampleInputs = .ok h ∧
      h.messages.length = 2 ∧
      ∀ message ∈ h.messages, message.From 7 0x0a000001 Tcp.sampleConfig ∧
        ∃ frame, message.packet.frame = .ok frame ∧
          (frame.length ≤ MAX_FRAME_SIZE → message.ReadFrom frame) := by
  obtain ⟨h, ran, two⟩ := Machine.map_eq_ok
    (x := Machine.run (input samplePlatform) (sampleHost 7 0x0a000001) sampleInputs)
    (fun h => h.messages.length) (t := 2) (by decide +kernel)
  exact ⟨h, ran, two, speaks_for_itself samplePlatform (InetStack.sampleSetup 7 0x0a000001) rfl rfl
    (new_sampleHost 7 0x0a000001) sampleInputs ran⟩

end Host

end Inetstack
