import Inetstack.Laws.Tcp.Established.TextSize
import Inetstack.Laws.Udp.Datagram
import Inetstack.Laws.Udp.Peer

/-!
# The frames that are sent for a buffer

Nothing bounds the buffers of the user. The lengths in the headers are cut to 16 bits, so the frame of a
UDP datagram is well formed exactly when the payload is the longest IPv4 can carry or shorter, and what is
sent for a TCP connection when each piece fits the MSS of the peer and IPv4.
-/

namespace Inetstack.Udp

open Machine (bind_eq_ok)
open Tcp (Buffer Env Fail Fault MacAddress SocketAddrV4)

/-- The payload that fills an IPv4 packet. -/
def MAX_PAYLOAD : Nat := 65507

namespace UdpDatagram

variable {datagram : UdpDatagram}

/-- The frame of a datagram says its own lengths, and is decoded to the datagram's headers and data. -/
def WellFormed (datagram : UdpDatagram) : Prop :=
  ∀ buf padding : Buffer, datagram.headerSize ≤ buf.length →
    ∃ out, datagram.writeHeader buf = .ok out ∧
      Tcp.Buffer.SaysLength (out.take datagram.headerSize ++ datagram.data) 16 14 ∧
      Tcp.Buffer.SaysLength (out.take datagram.headerSize ++ datagram.data) 38 34 ∧
      parseFrame (out.take datagram.headerSize ++ datagram.data ++ padding) =
        pure (datagram.ethernet2Hdr, datagram.ipv4Hdr.delivered datagram.totalLength,
          datagram.udpHdr, datagram.data)

/-- The two length fields of a frame, and the length of the frame. -/
theorem frame_length {buf out : Buffer}
    (room : datagram.headerSize ≤ buf.length) (wrote : datagram.writeHeader buf = .ok out) :
    Tcp.Buffer.readU16 (out.take datagram.headerSize ++ datagram.data) 16 = .ok datagram.totalLength ∧
      Tcp.Buffer.readU16 (out.take datagram.headerSize ++ datagram.data) 38 =
        .ok (UdpHeader.wireLength datagram.data) ∧
      (out.take datagram.headerSize ++ datagram.data).length = 42 + datagram.data.length := by
  obtain ⟨sum, -, wrote'⟩ := writeHeader_eq room
  cases wrote.symm.trans wrote'
  have size : (datagram.ethernet2Hdr.bytes ++ datagram.ipv4Hdr.wire datagram.totalLength ++
      (datagram.udpHdr.front (UdpHeader.wireLength datagram.data) ++
        Tcp.toBeBytes 2 sum.toNat)).length = datagram.headerSize := rfl
  rw [List.take_left' size]
  refine ⟨?_, ?_, ?_⟩
  · simp only [Ipv4.Ipv4Header.wire, Ipv4.Ipv4Header.wireFront, List.append_assoc]
    rw [← List.append_assoc, ← List.append_assoc]
    exact Tcp.Buffer.readU16_middle rfl datagram.totalLength
  · simp only [UdpHeader.front, List.append_assoc]
    rw [← List.append_assoc, ← List.append_assoc, ← List.append_assoc]
    exact Tcp.Buffer.readU16_middle rfl (UdpHeader.wireLength datagram.data)
  · rw [List.length_append]
    rfl

/-- A datagram is well formed exactly when its payload fits. -/
theorem wellFormed_iff (built : datagram.ipv4Hdr.Built) (checksummed : datagram.checksumOffload = false) :
    datagram.WellFormed ↔ datagram.data.length ≤ MAX_PAYLOAD := by
  constructor
  · intro wellFormed
    obtain ⟨out, wrote, ⟨length, -, total⟩, -, -⟩ :=
      wellFormed (List.replicate datagram.headerSize 0) [] (by rw [List.length_replicate])
    obtain ⟨-, -, long⟩ := frame_length (by rw [List.length_replicate]) wrote
    have bound := length.toNat_lt
    rw [long] at total
    unfold MAX_PAYLOAD
    omega
  · intro fits buf padding room
    obtain ⟨out, wrote, read⟩ := parseFrame_writeHeader built checksummed fits room padding
    obtain ⟨ipv4, udp, long⟩ := frame_length room wrote
    refine ⟨out, wrote, ⟨_, ipv4, ?_⟩, ⟨_, udp, ?_⟩, read⟩
    · rw [toNat_totalLength fits, long, UDP_HEADER_SIZE]
      omega
    · unfold MAX_PAYLOAD at fits
      rw [UdpHeader.wireLength, UInt16.toNat_ofNat', long, UDP_HEADER_SIZE]
      change 34 + (8 + datagram.data.length) % 65536 = _
      omega

end UdpDatagram

namespace UdpPeer

variable {start p p' : UdpPeer} {event : PeerEvent}

/-- What is sent fits: a datagram that is sent at once, or that the background sender has the link
address for. -/
def fits (p : UdpPeer) : PeerEvent → Bool
  | .pushto qd data _ env =>
    !((p.sockets.lookup qd).join.isSome && env.remoteLinkAddr.isSome) ||
      decide (data.length ≤ MAX_PAYLOAD)
  | .sender (.ok _) =>
    match p.background with
    | .awaitArp slot => decide (slot.data.length ≤ MAX_PAYLOAD)
    | _ => true
  | _ => true

/-- Nothing was transmitted, or one datagram was, which fits if `fits` says so. -/
def Emits (p p' : UdpPeer) (fits : Bool) : Prop :=
  p.Quiet p' ∧ fits = true ∨
  p'.checksumOffload = p.checksumOffload ∧
    ∃ slot remoteLinkAddr, p'.transmitted = p.transmitted ++ [p.datagram slot remoteLinkAddr] ∧
      (fits = true ↔ slot.data.length ≤ MAX_PAYLOAD)

theorem pushto_emits {qd : QDesc} {data : Buffer} {remoteAddr : SocketAddrV4} {env : Env}
    {result : Except Fail Unit} (ran : p.doPushto qd data remoteAddr env = .ok (result, p')) :
    p.Emits p' (p.fits (.pushto qd data remoteAddr env)) := by
  unfold doPushto at ran
  split at ran
  next localAddr found =>
    cases link : env.remoteLinkAddr with
    | some remoteLinkAddr =>
      simp only [link, Except.ok.injEq, Prod.mk.injEq] at ran
      obtain ⟨-, rfl⟩ := ran
      refine .inr ⟨rfl, ⟨localAddr, remoteAddr, data⟩, remoteLinkAddr, rfl, ?_⟩
      simp [fits, found, link]
    | none =>
      simp only [link] at ran
      obtain ⟨⟨answer, sendQueue⟩, -, ran⟩ := bind_eq_ok.mp ran
      cases ran
      exact .inl ⟨⟨rfl, rfl⟩, by simp [fits, link]⟩
  next unbound =>
    cases ran
    refine .inl ⟨⟨rfl, rfl⟩, ?_⟩
    cases found : p.sockets.lookup qd with
    | none => simp [fits, found]
    | some socket =>
      cases socket with
      | none => simp [fits, found]
      | some localAddr => exact (unbound localAddr found).elim

theorem sender_emits (p : UdpPeer) (reply : Except Fail MacAddress) :
    p.Emits (p.senderPoll reply) (p.fits (.sender reply)) := by
  have iterates : p.Quiet p.senderIterate := .senderIterate p
  cases reply with
  | error fail =>
    refine .inl ⟨?_, rfl⟩
    cases waits : p.background with
    | top => simpa [senderPoll, waits] using iterates
    | awaitPop => simpa [senderPoll, waits] using iterates
    | awaitArp slot => simpa [senderPoll, waits] using iterates
  | ok remoteLinkAddr =>
    cases waits : p.background with
    | top => exact .inl ⟨by simpa [senderPoll, waits] using iterates, by simp [fits, waits]⟩
    | awaitPop => exact .inl ⟨by simpa [senderPoll, waits] using iterates, by simp [fits, waits]⟩
    | awaitArp slot =>
      have quiet := Quiet.senderIterate (p.doSend slot remoteLinkAddr)
      have polled : p.senderPoll (.ok remoteLinkAddr) =
          (p.doSend slot remoteLinkAddr).senderIterate := by
        simp [senderPoll, waits]
      rw [polled]
      refine .inr ⟨quiet.checksumOffload, slot, remoteLinkAddr, quiet.transmitted, ?_⟩
      simp [fits, waits]

/-- An event transmits nothing, or one datagram, which fits if the event does. -/
theorem step_emits (stepped : p.step event = .ok p') : p.Emits p' (p.fits event) := by
  cases event with
  | socket qd =>
    cases stepped
    refine .inl ⟨?_, rfl⟩
    unfold doSocket
    split
    · exact ⟨rfl, rfl⟩
    · exact ⟨rfl, rfl⟩
  | bind qd addr =>
    cases stepped
    exact .inl ⟨.doBind p qd addr, rfl⟩
  | close qd =>
    cases stepped
    exact .inl ⟨.doClose p qd, rfl⟩
  | pushto qd data remoteAddr env =>
    obtain ⟨⟨result, peer⟩, ran, stepped⟩ := bind_eq_ok.mp stepped
    cases stepped
    exact pushto_emits ran
  | pop qd =>
    obtain ⟨queue, -, stepped⟩ := bind_eq_ok.mp stepped
    cases stepped
    exact .inl ⟨⟨rfl, rfl⟩, rfl⟩
  | pollPop addr =>
    obtain ⟨⟨result, peer⟩, ran, stepped⟩ := bind_eq_ok.mp stepped
    cases stepped
    exact .inl ⟨.pollPop ran, rfl⟩
  | receive ipv4Hdr buf =>
    obtain ⟨⟨result, peer⟩, ran, stepped⟩ := bind_eq_ok.mp stepped
    cases stepped
    exact .inl ⟨.doReceive ran, rfl⟩
  | sender reply =>
    cases stepped
    exact sender_emits p reply

/-- All that was transmitted since is well formed. -/
structure Trim (start p : UdpPeer) : Prop where
  kept : start.transmitted <+: p.transmitted
  checksummed : p.checksumOffload = false
  wellFormed : ∀ datagram ∈ p.transmitted.drop start.transmitted.length, datagram.WellFormed

theorem datagram_wellFormed_iff (checksummed : p.checksumOffload = false) (slot : SharedQueueSlot)
    (remoteLinkAddr : MacAddress) :
    (p.datagram slot remoteLinkAddr).WellFormed ↔ slot.data.length ≤ MAX_PAYLOAD :=
  UdpDatagram.wellFormed_iff (.inl ⟨_, _, _, rfl⟩) checksummed

theorem step_trim (h : Trim start p) (fits : p.fits event = true) (stepped : p.step event = .ok p') :
    Trim start p' := by
  rcases step_emits stepped with ⟨quiet, -⟩ | ⟨offload, slot, remoteLinkAddr, transmitted, short⟩
  · refine ⟨?_, quiet.checksumOffload.trans h.checksummed, ?_⟩
    · rw [quiet.transmitted]
      exact h.kept
    · rw [quiet.transmitted]
      exact h.wellFormed
  · refine ⟨?_, offload.trans h.checksummed, ?_⟩
    · rw [transmitted]
      exact h.kept.trans (List.prefix_append _ _)
    · rw [transmitted, List.drop_append_of_le_length h.kept.length_le]
      intro datagram member
      rcases List.mem_append.mp member with old | new
      · exact h.wellFormed datagram old
      · rw [List.mem_singleton.mp new]
        exact (datagram_wellFormed_iff h.checksummed slot remoteLinkAddr).mpr (short.mp fits)

theorem not_wellFormed_of_long (h : Trim start p) (long : ¬p.fits event = true)
    (stepped : p.step event = .ok p') :
    ¬∀ datagram ∈ p'.transmitted.drop start.transmitted.length, datagram.WellFormed := by
  intro wellFormed
  rcases step_emits stepped with ⟨-, fits⟩ | ⟨-, slot, remoteLinkAddr, transmitted, short⟩
  · exact long fits
  · rw [transmitted, List.drop_append_of_le_length h.kept.length_le] at wellFormed
    have last := wellFormed _ (List.mem_append_right _ (List.mem_singleton_self _))
    exact long (short.mpr ((datagram_wellFormed_iff h.checksummed slot remoteLinkAddr).mp last))

/-- The datagrams of a peer that writes checksums are well formed exactly when all that it sends fits. -/
theorem wellFormed_iff_fits (p : UdpPeer) (events : List PeerEvent)
    (checksummed : p.checksumOffload = false) (ran : Machine.run step p events = .ok p') :
    (∀ n t, Machine.run step p (events.take n) = .ok t →
        ∀ datagram ∈ t.transmitted.drop p.transmitted.length, datagram.WellFormed) ↔
      Machine.Admits step (fun p event => p.fits event = true) p events := by
  have trim : Trim p p := by
    refine ⟨List.prefix_rfl, checksummed, ?_⟩
    simp
  exact Machine.forall_take_iff_admits (Trim p)
    (fun t => ∀ datagram ∈ t.transmitted.drop p.transmitted.length, datagram.WellFormed)
    (fun p event => p.fits event = true) step_trim (fun h => h.wellFormed) not_wellFormed_of_long trim ran

end UdpPeer

end Inetstack.Udp

namespace Inetstack

open Tcp (CongestionControl ControlBlock Endpoint Event Fail)
open Udp (PeerEvent UdpPeer)

/-- **The frames of what the user sends.** Throughout every run of a connection and of a UDP peer that
write checksums, each frame is as long as it says, is decoded to what it was made of, and carries no more
than the MSS of the peer, exactly when no event of the run sends what does not fit. -/
theorem emitted_frames_iff {σ : Type} [CongestionControl σ] (eof : Fail) :
    (∀ (cb : ControlBlock σ) (events : List Event) (e : Endpoint σ),
      cb.rt.tcpOptions.txChecksumOffload = false → (Endpoint.start cb).run events = .ok e →
      ((∀ n t, (Endpoint.start cb).run (events.take n) = .ok t →
          ∀ segment ∈ (Endpoint.start cb).said t,
            segment.WellFormed eof ∧ segment.data.length ≤ cb.sender.mss) ↔
        Machine.Admits Endpoint.step (fun e event => e.fits event = true) (Endpoint.start cb) events)) ∧
    ∀ (p : UdpPeer) (events : List PeerEvent) (p' : UdpPeer),
      p.checksumOffload = false → Machine.run UdpPeer.step p events = .ok p' →
      ((∀ n t, Machine.run UdpPeer.step p (events.take n) = .ok t →
          ∀ datagram ∈ t.transmitted.drop p.transmitted.length, datagram.WellFormed) ↔
        Machine.Admits UdpPeer.step (fun p event => p.fits event = true) p events) := by
  refine ⟨?_, fun p events p' checksummed ran =>
    UdpPeer.wellFormed_iff_fits p events checksummed ran⟩
  intro cb events e checksummed ran
  rw [← Endpoint.proper_iff_fits eof cb events checksummed ran]
  constructor
  · intro both n t part segment member
    obtain ⟨wellFormed, text⟩ := both n t part segment member
    exact ⟨wellFormed, text⟩
  · intro proper n t part segment member
    have h := proper n t part segment member
    exact ⟨h.wellFormed, h.text⟩

open Tcp (Buffer sampleBlock sampleEnv)
open Udp.UdpPeer (samplePeer)

/-- The user sends a buffer on a connection with an MSS of 10. -/
def sampleSend (buf : Buffer) : Event := .call (.send buf) sampleEnv

/-- The user sends a datagram to a remote that is resolved. -/
def samplePushto (data : Buffer) : PeerEvent := .pushto 1 data ⟨0x0a000002, 90⟩ sampleEnv

def sampleEof : Fail := { errno := .EINVAL, cause := "I/O error" }

theorem emitted_frames_iff_short :
    (∃ e, (Endpoint.start (sampleBlock ⟨50⟩ ⟨40⟩ 100 100 10)).run [sampleSend [1, 2, 3]] = .ok e ∧
      ((Endpoint.start (sampleBlock ⟨50⟩ ⟨40⟩ 100 100 10)).said e).map (fun s => s.data) = [[1, 2, 3]] ∧
      ∀ segment ∈ (Endpoint.start (sampleBlock ⟨50⟩ ⟨40⟩ 100 100 10)).said e,
        segment.WellFormed sampleEof ∧ segment.data.length ≤ 10) ∧
    ∃ p', Machine.run UdpPeer.step samplePeer [samplePushto [1, 2, 3]] = .ok p' ∧
      p'.transmitted.map (fun d => d.data) = [[1, 2, 3]] ∧
      ∀ datagram ∈ p'.transmitted, datagram.WellFormed := by
  obtain ⟨tcp, udp⟩ := emitted_frames_iff (σ := CongestionControl.None) sampleEof
  constructor
  · obtain ⟨e, ran, said⟩ := Machine.map_eq_ok
      (x := (Endpoint.start (sampleBlock ⟨50⟩ ⟨40⟩ 100 100 10)).run [sampleSend [1, 2, 3]])
      (fun e => ((Endpoint.start (sampleBlock ⟨50⟩ ⟨40⟩ 100 100 10)).said e).map fun s => s.data)
      (t := [[1, 2, 3]]) (by decide +kernel)
    have admits : Machine.admits Endpoint.step (fun e event => e.fits event)
        (Endpoint.start (sampleBlock ⟨50⟩ ⟨40⟩ 100 100 10)) [sampleSend [1, 2, 3]] = true := by
      decide +kernel
    have proper := (tcp (sampleBlock ⟨50⟩ ⟨40⟩ 100 100 10) _ e rfl ran).mpr (.of_admits admits)
    exact ⟨e, ran, said, proper 1 e ran⟩
  · obtain ⟨p', ran, sent⟩ := Machine.map_eq_ok
      (x := Machine.run UdpPeer.step samplePeer [samplePushto [1, 2, 3]])
      (fun p' => p'.transmitted.map fun d => d.data) (t := [[1, 2, 3]]) (by decide +kernel)
    have admits : Machine.admits UdpPeer.step (fun p event => p.fits event) samplePeer
        [samplePushto [1, 2, 3]] = true := by
      decide +kernel
    have proper := (udp samplePeer _ p' rfl ran).mpr (.of_admits admits)
    exact ⟨p', ran, sent, proper 1 p' ran⟩

/-- Eleven bytes go out in one segment where the MSS is ten, and the frame of a datagram of 65508 bytes
is not well formed. -/
theorem emitted_frames_fail :
    (∃ e, (Endpoint.start (sampleBlock ⟨50⟩ ⟨40⟩ 100 100 10)).run
        [sampleSend (List.replicate 11 0)] = .ok e ∧
      ∃ segment ∈ (Endpoint.start (sampleBlock ⟨50⟩ ⟨40⟩ 100 100 10)).said e,
        ¬segment.data.length ≤ 10) ∧
    ∃ p', Machine.run UdpPeer.step samplePeer [samplePushto (List.replicate 65508 0)] = .ok p' ∧
      ∃ datagram ∈ p'.transmitted, ¬datagram.WellFormed := by
  constructor
  · obtain ⟨e, ran, lengths⟩ := Machine.map_eq_ok
      (x := (Endpoint.start (sampleBlock ⟨50⟩ ⟨40⟩ 100 100 10)).run [sampleSend (List.replicate 11 0)])
      (fun e => ((Endpoint.start (sampleBlock ⟨50⟩ ⟨40⟩ 100 100 10)).said e).map fun s => s.data.length)
      (t := [11]) (by decide +kernel)
    refine ⟨e, ran, ?_⟩
    have member : 11 ∈ ((Endpoint.start (sampleBlock ⟨50⟩ ⟨40⟩ 100 100 10)).said e).map
        fun s => s.data.length := by
      rw [lengths]
      exact List.mem_singleton_self 11
    obtain ⟨segment, member, length⟩ := List.mem_map.mp member
    refine ⟨segment, member, ?_⟩
    rw [length]
    decide
  · have sends (data : Buffer) : Machine.run UdpPeer.step samplePeer [samplePushto data] =
        .ok (samplePeer.doSend ⟨⟨0x0a000001, 80⟩, ⟨0x0a000002, 90⟩, data⟩ 9) := rfl
    refine ⟨_, sends _,
      samplePeer.datagram ⟨⟨0x0a000001, 80⟩, ⟨0x0a000002, 90⟩, List.replicate 65508 0⟩ 9, ?_, ?_⟩
    · exact List.mem_append_right _ (List.mem_singleton_self _)
    · rw [UdpPeer.datagram_wellFormed_iff rfl, List.length_replicate]
      decide

end Inetstack
