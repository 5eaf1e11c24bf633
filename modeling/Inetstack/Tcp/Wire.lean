import Inetstack.Ethernet2.Frame
import Inetstack.Ipv4.Datagram
import Inetstack.Tcp.Segment

/-!
# TCP headers as bytes (`protocols/tcp/segment.rs`)

The encoder writes a header into a buffer that may hold anything, in the order of the source: the fixed
fields, the options one after another, an end of the option list if there are options, zeros up to the
alignment, and the checksum last. The decoder reads the fixed fields off the front and then the options
with a read cursor.

A selective acknowledgement is written with the number of its blocks in one byte, which wraps.
-/

namespace Inetstack.Tcp

def MIN_TCP_HEADER_SIZE : Nat := 20

def MAX_TCP_HEADER_SIZE : Nat := 60

def MAX_TCP_OPTIONS : Nat := 5

namespace TcpOptions2

def computeSize : TcpOptions2 → Nat
  | .noOperation => 1
  | .maximumSegmentSize _ => 4
  | .windowScale _ => 3
  | .selectiveAcknowlegementPermitted => 2
  | .selectiveAcknowlegement sacks => 2 + 8 * sacks.length
  | .timestamp _ _ => 10

/-- The bytes an option is written as. -/
def bytes : TcpOptions2 → Buffer
  | .noOperation => [1]
  | .maximumSegmentSize mss => [2, 4] ++ toBeBytes 2 mss.toNat
  | .windowScale scale => [3, 3, scale]
  | .selectiveAcknowlegementPermitted => [4, 2]
  | .selectiveAcknowlegement sacks =>
    [5, 2 + 8 * UInt8.ofNat sacks.length] ++ sacks.flatMap fun sack =>
      toBeBytes 4 sack.begin.value.toNat ++ toBeBytes 4 sack.end_.value.toNat
  | .timestamp senderTimestamp echoTimestamp =>
    [8, 10] ++ toBeBytes 4 senderTimestamp.toNat ++ toBeBytes 4 echoTimestamp.toNat

/-- Write an option to the front of a buffer, and return how many bytes it took. -/
def serialize (option : TcpOptions2) (buf : Buffer) : Except Fault (Nat × Buffer) := do
  let buf ← Buffer.write buf 0 option.bytes
  .ok (option.computeSize, buf)

end TcpOptions2

/-- The checksum of a segment: over the pseudo header, the header without its checksum, and the data.
The options end at a multiple of four bytes, which the source asserts as far as it needs it. -/
def tcpChecksum (ipv4Header : Ipv4.Ipv4Header) (header data : Buffer) : Except Fault UInt16 :=
  let state : UInt32 := 0xffff
  let state := Bytes.sumWords state (Ipv4Addr.octets ipv4Header.srcAddr)
  let state := Bytes.sumWords state (Ipv4Addr.octets ipv4Header.dstAddr)
  let state := Bytes.sumWords state [0, Ip.IpProtocol.tcp.toU8]
  let state := state + UInt32.ofNat (header.length + data.length)
  if header.length < MIN_TCP_HEADER_SIZE then .error .wrongBufferSize
  else
    let state := Bytes.sumWords state (header.take 16)
    let state := Bytes.sumWords state ((header.drop 18).take 2)
    if MIN_TCP_HEADER_SIZE < header.length && header.length % 2 != 0 then .error .oddHeaderLength
    else
      let state := Bytes.sumWords state (header.drop MIN_TCP_HEADER_SIZE)
      let state := Bytes.sumWords state data
      .ok (Bytes.checksum state)

namespace TcpHeader

/-- The size of a header on the wire: the options and the byte that ends their list, rounded up to a
multiple of four. -/
def computeSize (h : TcpHeader) : Nat :=
  let size := h.optionList.foldl (fun size option => size + option.computeSize) MIN_TCP_HEADER_SIZE
  let size := if 0 < h.optionList.length then size + 1 else size
  (size + 3) / 4 * 4

/-! ## Writing -/

/-- One flag in its place in a byte. -/
def flag (set : Bool) (bit : UInt8) : UInt8 := if set then 1 <<< bit else 0

/-- Octet 12: the data offset in words, and NS. -/
def offsetByte (h : TcpHeader) : UInt8 :=
  (UInt8.ofNat (h.computeSize / 4) <<< 4) ||| flag h.ns 0

/-- Octet 13: the other eight flags. -/
def flagsByte (h : TcpHeader) : UInt8 :=
  flag h.cwr 7 ||| flag h.ece 6 ||| flag h.urg 5 ||| flag h.ack 4 ||| flag h.psh 3 |||
    flag h.rst 2 ||| flag h.syn 1 ||| flag h.fin 0

/-- The options, one after another from `curPos` on. -/
def serializeOptions : List TcpOptions2 → Nat → Buffer → Except Fault (Nat × Buffer)
  | [], curPos, buf => .ok (curPos, buf)
  | option :: rest, curPos, buf => do
    let (written, slice) ← option.serialize (buf.drop curPos)
    serializeOptions rest (curPos + written) (buf.take curPos ++ slice)

/-- Zeros from `curPos` on. -/
def zeroFrom (curPos : Nat) (buf : Buffer) : Buffer :=
  buf.take curPos ++ List.replicate (buf.length - curPos) 0

/-- The fields of the first twenty bytes, but for the checksum. -/
def serializeFixed (h : TcpHeader) (buf : Buffer) : Except Fault Buffer := do
  let buf ← Buffer.write buf 0 (toBeBytes 2 h.srcPort.toNat)
  let buf ← Buffer.write buf 2 (toBeBytes 2 h.dstPort.toNat)
  let buf ← Buffer.write buf 4 (toBeBytes 4 h.seqNum.value.toNat)
  let buf ← Buffer.write buf 8 (toBeBytes 4 h.ackNum.value.toNat)
  let buf ← Buffer.write buf 12 [h.offsetByte]
  let buf ← Buffer.write buf 13 [h.flagsByte]
  let buf ← Buffer.write buf 14 (toBeBytes 2 h.windowSize.toNat)
  Buffer.write buf 18 (toBeBytes 2 h.urgentPointer.toNat)

/-- The options, the byte that ends their list if there are any, and the padding. -/
def serializeRest (h : TcpHeader) (buf : Buffer) : Except Fault Buffer := do
  let (curPos, buf) ← serializeOptions h.optionList MIN_TCP_HEADER_SIZE buf
  let (curPos, buf) ←
    if 0 < h.optionList.length then do
      let buf ← Buffer.write buf curPos [0]
      .ok (curPos + 1, buf)
    else .ok (curPos, buf)
  .ok (zeroFrom curPos buf)

def serialize (h : TcpHeader) (buf : Buffer) (ipv4Hdr : Ipv4.Ipv4Header) (data : Buffer)
    (txChecksumOffload : Bool) : Except Fault Buffer := do
  if buf.length < MIN_TCP_HEADER_SIZE then .error .indexOutOfBounds
  else
    let buf ← h.serializeFixed buf
    let buf ← h.serializeRest buf
    let checksum ← if txChecksumOffload then .ok 0 else tcpChecksum ipv4Hdr buf data
    Buffer.write buf 16 (toBeBytes 2 checksum.toNat)

/-! ## Reading -/

/-- The blocks of a selective acknowledgement. -/
def parseSacks (eof : Fail) : Nat → Buffer → Except Fail (List SelectiveAcknowlegement × Buffer)
  | 0, rdr => .ok ([], rdr)
  | numSacks + 1, rdr => do
    let (begin, rdr) ← Cursor.readU32 eof rdr
    let (end_, rdr) ← Cursor.readU32 eof rdr
    let (sacks, rdr) ← parseSacks eof numSacks rdr
    .ok ({ begin := ⟨begin⟩, end_ := ⟨end_⟩ } :: sacks, rdr)

/-- An option of a kind that has a length, after its kind. -/
def parseOption (eof : Fail) (kind : UInt8) (rdr : Buffer) : Except Fail (TcpOptions2 × Buffer) :=
  if kind = 2 then do
    let (optionLength, rdr) ← Cursor.readU8 eof rdr
    if optionLength ≠ 4 then .error { errno := .EBADMSG, cause := "MSS size was not 4" }
    else
      let (mss, rdr) ← Cursor.readU16 eof rdr
      .ok (.maximumSegmentSize mss, rdr)
  else if kind = 3 then do
    let (optionLength, rdr) ← Cursor.readU8 eof rdr
    if optionLength ≠ 3 then .error { errno := .EBADMSG, cause := "window scale size was not 3" }
    else
      let (windowScale, rdr) ← Cursor.readU8 eof rdr
      .ok (.windowScale windowScale, rdr)
  else if kind = 4 then do
    let (optionLength, rdr) ← Cursor.readU8 eof rdr
    if optionLength ≠ 2 then .error { errno := .EBADMSG, cause := "SACK permitted size was not 2" }
    else .ok (.selectiveAcknowlegementPermitted, rdr)
  else if kind = 5 then do
    let (optionLength, rdr) ← Cursor.readU8 eof rdr
    if optionLength = 10 ∨ optionLength = 18 ∨ optionLength = 26 ∨ optionLength = 34 then
      let (sacks, rdr) ← parseSacks eof ((optionLength.toNat - 2) / 8) rdr
      .ok (.selectiveAcknowlegement sacks, rdr)
    else .error { errno := .EBADMSG, cause := "invalid SACK size" }
  else if kind = 8 then do
    let (optionLength, rdr) ← Cursor.readU8 eof rdr
    if optionLength ≠ 10 then .error { errno := .EBADMSG, cause := "TCP timestamp size was not 10" }
    else
      let (senderTimestamp, rdr) ← Cursor.readU32 eof rdr
      let (echoTimestamp, rdr) ← Cursor.readU32 eof rdr
      .ok (.timestamp senderTimestamp echoTimestamp, rdr)
  else .error { errno := .EBADMSG, cause := "invalid TCP option" }

/-- The option loop. Every pass reads a byte, so as many passes as there are bytes are enough, and
`passes` is that number. -/
def parseOptions (eof : Fail) : Nat → List TcpOptions2 → Buffer → Except Fail (List TcpOptions2)
  | 0, options, _ => .ok options
  | _ + 1, options, [] => .ok options
  | passes + 1, options, kind :: rdr =>
    if kind = 0 then .ok options
    else if kind = 1 then parseOptions eof passes options rdr
    else do
      let (option, rdr) ← parseOption eof kind rdr
      if MAX_TCP_OPTIONS ≤ options.length then
        .error { errno := .EBADMSG, cause := "too many TCP options provided" }
      else parseOptions eof passes (options ++ [option]) rdr

def isSet (byte bit : UInt8) : Bool := byte &&& (1 <<< bit) != 0

/-- The fixed fields of a header. -/
def parseFixed (hdrBuf : Buffer) : Except Fault TcpHeader := do
  let srcPort ← Buffer.readU16 hdrBuf 0
  let dstPort ← Buffer.readU16 hdrBuf 2
  let seqNum ← Buffer.readU32 hdrBuf 4
  let ackNum ← Buffer.readU32 hdrBuf 8
  let byte12 ← Buffer.readU8 hdrBuf 12
  let byte13 ← Buffer.readU8 hdrBuf 13
  let windowSize ← Buffer.readU16 hdrBuf 14
  let urgentPointer ← Buffer.readU16 hdrBuf 18
  .ok {
    srcPort := srcPort
    dstPort := dstPort
    seqNum := ⟨seqNum⟩
    ackNum := ⟨ackNum⟩
    ns := isSet byte12 0
    cwr := isSet byte13 7
    ece := isSet byte13 6
    urg := isSet byte13 5
    ack := isSet byte13 4
    psh := isSet byte13 3
    rst := isSet byte13 2
    syn := isSet byte13 1
    fin := isSet byte13 0
    windowSize := windowSize
    urgentPointer := urgentPointer
    optionList := [] }

def parse (eof : Fail) (ipv4Header : Ipv4.Ipv4Header) (buf : Buffer) (rxChecksumOffload : Bool) :
    Outcome (TcpHeader × Buffer) := do
  if buf.length < MIN_TCP_HEADER_SIZE then
    throw { errno := .EBADMSG, cause := "TCP segment too small" }
  let dataOffset := ((← Buffer.readU8 buf 12) >>> 4).toNat * 4
  if buf.length < dataOffset then
    throw { errno := .EBADMSG, cause := "TCP segment smaller than data offset" }
  if dataOffset < MIN_TCP_HEADER_SIZE then
    throw { errno := .EBADMSG, cause := "TCP data offset too small" }
  if MAX_TCP_HEADER_SIZE < dataOffset then
    throw { errno := .EBADMSG, cause := "TCP data offset too large" }
  let hdrBuf := buf.take dataOffset
  let dataBuf := buf.drop dataOffset
  let fixed ← parseFixed hdrBuf
  if !rxChecksumOffload then
    let checksum ← Buffer.readU16 hdrBuf 16
    if checksum ≠ (← tcpChecksum ipv4Header hdrBuf dataBuf) then
      throw { errno := .EBADMSG, cause := "TCP checksum mismatch" }
  let rdr := hdrBuf.drop MIN_TCP_HEADER_SIZE
  let options ← (parseOptions eof rdr.length [] rdr : Except Fail (List TcpOptions2))
  let buf ← Buffer.adjust buf dataOffset
  return ({ fixed with optionList := options }, buf)

end TcpHeader

/-! ## Frames -/

namespace TcpSegment

/-- The Ethernet header a segment is sent with. -/
def ethernet2 (segment : TcpSegment) : Ethernet2.Ethernet2Header :=
  .new segment.ethernet2Hdr.dstAddr segment.ethernet2Hdr.srcAddr .ipv4

/-- The IPv4 header a segment is sent with. -/
def ipv4 (segment : TcpSegment) : Ipv4.Ipv4Header :=
  .new segment.ipv4Hdr.srcAddr segment.ipv4Hdr.dstAddr .tcp

def headerSize (segment : TcpSegment) : Nat :=
  segment.ethernet2.computeSize + segment.ipv4.computeSize + segment.tcpHdr.computeSize

def bodySize (segment : TcpSegment) : Nat := segment.data.length

def writeHeader (segment : TcpSegment) (buf : Buffer) : Except Fault Buffer := do
  let ethHdrSize := segment.ethernet2.computeSize
  let ipv4HdrSize := segment.ipv4.computeSize
  let tcpHdrSize := segment.tcpHdr.computeSize
  let buf ← Buffer.writeSlice buf 0 ethHdrSize segment.ethernet2.serialize
  let ipv4PayloadLen := tcpHdrSize + segment.data.length
  let buf ← Buffer.writeSlice buf ethHdrSize ipv4HdrSize fun slice =>
    segment.ipv4.serialize slice ipv4PayloadLen
  Buffer.writeSlice buf (ethHdrSize + ipv4HdrSize) tcpHdrSize fun slice =>
    segment.tcpHdr.serialize slice segment.ipv4 segment.data segment.txChecksumOffload

end TcpSegment

end Inetstack.Tcp
