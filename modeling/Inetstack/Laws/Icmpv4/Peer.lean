import Inetstack.Icmpv4.Peer
import Inetstack.Laws.Icmpv4.Datagram
import Inetstack.Lib.Machine

/-!
# Echo replies

RFC 792 has an echo reply return the identifier, the sequence number and the data of its request, under the
checksum of RFC 1071. The data of a request gets no further than `receive`: the channel carries an address
and two numbers, and a message has no body. The checksum of a message is right but for one message: the sum
of a reply with the identifier and the sequence number zero is of zeros only, and the complement of zero is
not the complement of all ones.

Requests are answered in the order they came, one message each, as far as ARP answers.
-/

namespace Inetstack.Icmpv4

open Tcp (Buffer Fail Fault Instant Ipv4Addr MacAddress toBeBytes)

/-! ## The message -/

/-- The echo reply of RFC 792, with the checksum of RFC 1071. -/
def echoReply (id seqNum : UInt16) (payload : Buffer) : Buffer :=
  let rest := toBeBytes 2 id.toNat ++ toBeBytes 2 seqNum.toNat ++ payload
  [0, 0] ++ toBeBytes 2 (0xffff - Bytes.fold (Bytes.wordSum ([0, 0] ++ [0, 0] ++ rest))) ++ rest

/-- The message, when it is written to a frame, is the echo reply to a request. -/
structure Icmpv4Message.Echoes (message : Icmpv4Message) (dstLinkAddr : MacAddress)
    (dstIpv4Addr : Ipv4Addr) (id seqNum : UInt16) (payload : Buffer) : Prop where
  link : message.ethernet2Hdr.dstAddr = dstLinkAddr
  address : message.ipv4Hdr.dstAddr = dstIpv4Addr
  protocol : message.ipv4Hdr.protocol = .icmpv4
  wire : ∀ buf : Buffer, buf.length = message.headerSize →
    ∃ out, message.writeHeader buf = .ok out ∧
      out.drop (message.ethernet2Hdr.computeSize + message.ipv4Hdr.computeSize) =
        echoReply id seqNum payload

theorem wordSum_numbers (id seqNum : UInt16) :
    Bytes.wordSum (toBeBytes 2 id.toNat ++ toBeBytes 2 seqNum.toNat) = id.toNat + seqNum.toNat := by
  have value (x : UInt16) : Bytes.wordSum (toBeBytes 2 x.toNat) = x.toNat := by
    have read : Bytes.ofBe (toBeBytes 2 x.toNat) = x.toNat := Tcp.ofBe_toBeBytes_of_lt x.toNat_lt
    change Bytes.ofBe (toBeBytes 2 x.toNat) + 0 = _
    rw [read, Nat.add_zero]
  rw [Bytes.wordSum_append _ (by rw [Tcp.length_toBeBytes]), value, value]

/-- The checksum of a reply is that of RFC 1071, unless there are only zeros to sum. -/
theorem wireSum_reply {id seqNum : UInt16} (some_ : ¬(id = 0 ∧ seqNum = 0)) :
    (Icmpv4Header.new (.echoReply id seqNum) 0).wireSum.toNat =
      0xffff - Bytes.fold (id.toNat + seqNum.toNat) := by
  have idLt := id.toNat_lt
  have seqLt := seqNum.toNat_lt
  have positive : 0 < id.toNat + seqNum.toNat := by
    by_contra none
    refine some_ ⟨UInt16.toNat_inj.mp ?_, UInt16.toNat_inj.mp ?_⟩
    · change id.toNat = 0
      omega
    · change seqNum.toNat = 0
      omega
  have start : Bytes.sumWords 0xffff (Icmpv4Header.new (.echoReply id seqNum) 0).front = 0xffff := by
    change Bytes.sumWords 0xffff [0, 0] = 0xffff
    decide
  have begins : (0xffff : UInt32).toNat = 0xffff := rfl
  rw [Icmpv4Header.wireSum, start]
  refine Bytes.toNat_checksum positive ?_
  rw [Icmpv4Header.new, Icmpv4Type2.serialize, Bytes.toNat_sumWords, wordSum_numbers, begins]
  rw [wordSum_numbers, begins]
  omega

/-- **When a header is the echo reply**: the request had no data, and not both numbers are zero. -/
theorem bytes_echoReply_iff (id seqNum : UInt16) (payload : Buffer) :
    (Icmpv4Header.new (.echoReply id seqNum) 0).bytes = echoReply id seqNum payload ↔
      payload = [] ∧ ¬(id = 0 ∧ seqNum = 0) := by
  have sum : Bytes.wordSum ([0, 0] ++ [0, 0] ++ (toBeBytes 2 id.toNat ++ toBeBytes 2 seqNum.toNat)) =
      id.toNat + seqNum.toNat := by
    rw [Bytes.wordSum_append _ rfl, wordSum_numbers]
    exact Nat.zero_add _
  constructor
  · intro same
    have lengths := congrArg List.length same
    have empty : payload = [] := by
      rw [Icmpv4Header.length_bytes] at lengths
      simp only [echoReply, List.length_append, List.length_cons, List.length_nil,
        Tcp.length_toBeBytes] at lengths
      exact List.length_eq_zero_iff.mp (by omega)
    refine ⟨empty, ?_⟩
    rintro ⟨rfl, rfl⟩
    subst empty
    -- the first byte of the checksum is zero in one and all ones in the other
    have byte := congrArg (fun bytes : Buffer => bytes.getD 2 0) same
    simp only [echoReply, List.append_nil, sum] at byte
    rw [Bytes.fold] at byte
    revert byte
    decide +kernel
  · rintro ⟨rfl, some_⟩
    rw [Icmpv4Header.bytes, wireSum_reply some_, echoReply, List.append_nil, sum]
    rfl

theorem echoes_iff (p : Icmpv4Peer) (request : EchoRequest) (dstLinkAddr : MacAddress)
    (payload : Buffer) :
    (p.reply request dstLinkAddr).Echoes dstLinkAddr request.dstIpv4Addr request.id request.seqNum
      payload ↔ payload = [] ∧ ¬(request.id = 0 ∧ request.seqNum = 0) := by
  rw [← bytes_echoReply_iff]
  have written : ∀ buf : Buffer, buf.length = (p.reply request dstLinkAddr).headerSize →
      ∃ out, (p.reply request dstLinkAddr).writeHeader buf = .ok out ∧
        out.drop 34 = (Icmpv4Header.new (.echoReply request.id request.seqNum) 0).bytes := by
    intro buf size
    refine ⟨_, (p.reply request dstLinkAddr).writeHeader_eq (Nat.le_of_eq size.symm), ?_⟩
    rw [List.drop_eq_nil_of_le (Nat.le_of_eq size), List.append_nil]
    exact List.drop_left' rfl
  constructor
  · intro echoes
    have size : (List.replicate 42 (0 : UInt8)).length = (p.reply request dstLinkAddr).headerSize := rfl
    obtain ⟨out, ran, echoed⟩ := echoes.wire _ size
    obtain ⟨out', ran', bytes⟩ := written _ size
    cases ran.symm.trans ran'
    exact bytes.symm.trans echoed
  · intro same
    refine ⟨rfl, rfl, rfl, ?_⟩
    intro buf size
    obtain ⟨out, ran, bytes⟩ := written buf size
    exact ⟨out, ran, bytes.trans same⟩

/-! ## The background task -/

/-- The request whose sender's link address the task waits for. -/
def BackgroundTask.asked : BackgroundTask → List EchoRequest
  | .awaitRequest => []
  | .awaitArp request => [request]

namespace Icmpv4Peer

variable {p p' : Icmpv4Peer} {arp : Ipv4Addr → Except Fail MacAddress}

/-- The requests that have no answer yet. -/
def pending (p : Icmpv4Peer) : List EchoRequest := p.background.asked ++ p.channel

/-- The address ARP is asked for. What ARP says while the task waits for a request is not looked at. -/
def asks (p : Icmpv4Peer) : Ipv4Addr :=
  match p.background with
  | .awaitRequest => p.localIpv4Addr
  | .awaitArp request => request.dstIpv4Addr

/-- The task polled a number of times, where ARP answers as `arp` says. -/
def polls (arp : Ipv4Addr → Except Fail MacAddress) : Nat → Icmpv4Peer → Icmpv4Peer
  | 0, p => p
  | n + 1, p => polls arp n (p.backgroundPoll (arp p.asks))

/-- The message that answers a request, if ARP knows its sender. -/
def answered (p : Icmpv4Peer) (arp : Ipv4Addr → Except Fail MacAddress) (request : EchoRequest) :
    Option Icmpv4Message :=
  match arp request.dstIpv4Addr with
  | .ok dstLinkAddr => some (p.reply request dstLinkAddr)
  | .error _ => none

/-- How often the task has to be polled until it waits for a request with none there. -/
def work (p : Icmpv4Peer) : Nat := if p.pending = [] then 0 else p.channel.length + 1

/-- What one poll does: a message goes from those to come to those transmitted, if any does. -/
structure Polled (arp : Ipv4Addr → Except Fail MacAddress) (p p' : Icmpv4Peer) : Prop where
  balance : p'.transmitted ++ p'.pending.filterMap (p'.answered arp) =
    p.transmitted ++ p.pending.filterMap (p.answered arp)
  work : p'.work ≤ p.work - 1

theorem Polled.iterate {q : Icmpv4Peer} (link : q.localLinkAddr = p.localLinkAddr)
    (address : q.localIpv4Addr = p.localIpv4Addr)
    (balance : q.transmitted ++ q.channel.filterMap (p.answered arp) =
      p.transmitted ++ p.pending.filterMap (p.answered arp))
    (work : q.channel.length ≤ p.work - 1) : Polled arp p q.backgroundIterate := by
  have same : q.answered arp = p.answered arp := by
    funext request
    simp only [answered, reply, message, link, address]
  unfold backgroundIterate
  split
  next request rest queued =>
    refine ⟨?_, ?_⟩
    · rw [queued] at balance
      rw [← balance, ← same]
      rfl
    · rw [queued, List.length_cons] at work
      simpa [Icmpv4Peer.work, pending, BackgroundTask.asked] using work
  next empty =>
    refine ⟨?_, ?_⟩
    · rw [empty] at balance
      rw [← balance]
      simp [pending, BackgroundTask.asked, empty]
    · simp [Icmpv4Peer.work, pending, BackgroundTask.asked, empty]

theorem backgroundPoll_polled (p : Icmpv4Peer) (arp : Ipv4Addr → Except Fail MacAddress) :
    Polled arp p (p.backgroundPoll (arp p.asks)) := by
  unfold backgroundPoll asks
  cases task : p.background with
  | awaitRequest =>
    refine Polled.iterate rfl rfl ?_ ?_
    · simp [pending, task, BackgroundTask.asked]
    · cases queued : p.channel with
      | nil => exact Nat.zero_le _
      | cons request rest => simp [work, pending, task, BackgroundTask.asked, queued]
  | awaitArp request =>
    have left : p.channel.length ≤ p.work - 1 := by
      simp [work, pending, task, BackgroundTask.asked]
    dsimp only
    cases found : arp request.dstIpv4Addr with
    | ok dstLinkAddr =>
      refine Polled.iterate rfl rfl ?_ left
      simp [transmit, pending, task, BackgroundTask.asked, answered, found]
    | error fail =>
      refine Polled.iterate rfl rfl ?_ left
      simp [pending, task, BackgroundTask.asked, answered, found]

theorem polls_polled (n : Nat) :
    (p.polls arp n).transmitted ++ (p.polls arp n).pending.filterMap ((p.polls arp n).answered arp) =
        p.transmitted ++ p.pending.filterMap (p.answered arp) ∧
      (p.polls arp n).work ≤ p.work - n := by
  induction n generalizing p with
  | zero => exact ⟨rfl, Nat.le_refl _⟩
  | succ n ih =>
    have first := p.backgroundPoll_polled arp
    obtain ⟨balance, work⟩ := @ih (p.backgroundPoll (arp p.asks))
    refine ⟨balance.trans first.balance, ?_⟩
    have less := first.work
    rw [polls]
    omega

/-- **Every request is answered once, in order**, if its sender has a link address. -/
theorem polls_transmitted {n : Nat} (enough : p.pending.length < n) :
    (p.polls arp n).transmitted = p.transmitted ++ p.pending.filterMap (p.answered arp) := by
  obtain ⟨balance, work⟩ := @polls_polled p arp n
  have few : p.work ≤ p.pending.length + 1 := by
    unfold Icmpv4Peer.work
    split
    · exact Nat.zero_le _
    · rw [pending, List.length_append]
      omega
  have done : (p.polls arp n).pending = [] := by
    by_contra more
    rw [Icmpv4Peer.work, if_neg more] at work
    omega
  rw [done, List.filterMap_nil, List.append_nil] at balance
  exact balance

/-! ## A request -/

/-- A request is answered: beside the answers to those that came before it, the task transmits one message,
and it returns the request. -/
def Returns (p : Icmpv4Peer) (arp : Ipv4Addr → Except Fail MacAddress) (ipv4Header : Ipv4.Ipv4Header)
    (buf : Buffer) (dstLinkAddr : MacAddress) (id seqNum : UInt16) (payload : Buffer) : Prop :=
  ∃ (p' : Icmpv4Peer) (message : Icmpv4Message),
    p.receive ipv4Header buf = .ok (.ok (), p') ∧
    (∀ n, p'.pending.length < n → (p'.polls arp n).transmitted =
      p.transmitted ++ p.pending.filterMap (p.answered arp) ++ [message]) ∧
    message.Echoes dstLinkAddr ipv4Header.srcAddr id seqNum payload

theorem returns_iff (p : Icmpv4Peer) {ipv4Header : Ipv4.Ipv4Header} {buf payload : Buffer}
    {id seqNum : UInt16} {code : UInt8} {dstLinkAddr : MacAddress}
    (parsed : Icmpv4Header.parse buf = pure (⟨.echoRequest id seqNum, code⟩, payload))
    (resolves : arp ipv4Header.srcAddr = .ok dstLinkAddr) :
    p.Returns arp ipv4Header buf dstLinkAddr id seqNum payload ↔
      payload = [] ∧ ¬(id = 0 ∧ seqNum = 0) := by
  have read : (Icmpv4Header.parse buf).run = .ok (.ok (⟨.echoRequest id seqNum, code⟩, payload)) := by
    rw [parsed]
    rfl
  have received : p.receive ipv4Header buf =
      .ok (.ok (), { p with channel := p.channel ++ [⟨ipv4Header.srcAddr, id, seqNum⟩] }) := by
    simp only [receive, read, bind, Except.bind]
  have answers : ∀ n, (pending { p with
        channel := p.channel ++ [⟨ipv4Header.srcAddr, id, seqNum⟩] }).length < n →
      (polls arp n { p with channel := p.channel ++ [⟨ipv4Header.srcAddr, id, seqNum⟩] }).transmitted =
        p.transmitted ++ p.pending.filterMap (p.answered arp) ++
          [p.reply ⟨ipv4Header.srcAddr, id, seqNum⟩ dstLinkAddr] := by
    intro n enough
    have last : p.answered arp ⟨ipv4Header.srcAddr, id, seqNum⟩ =
        some (p.reply ⟨ipv4Header.srcAddr, id, seqNum⟩ dstLinkAddr) := by
      simp only [answered, resolves]
    rw [polls_transmitted enough, List.append_assoc, pending, pending, ← List.append_assoc]
    change _ ++ List.filterMap (p.answered arp) _ = _
    rw [List.filterMap_append, List.filterMap_cons, last, List.filterMap_nil]
  rw [← echoes_iff p ⟨ipv4Header.srcAddr, id, seqNum⟩ dstLinkAddr payload]
  constructor
  · rintro ⟨p', message, ran, transmitted, echoes⟩
    cases received.symm.trans ran
    have one := (answers _ (Nat.lt_succ_self _)).symm.trans (transmitted _ (Nat.lt_succ_self _))
    rw [List.append_cancel_left_eq, List.singleton_inj] at one
    rw [one]
    exact echoes
  · intro echoes
    exact ⟨_, _, received, answers, echoes⟩

/-- **Echo replies return the request**, in every state a peer can reach, exactly if the request has no data
and its numbers are not both zero. -/
theorem echo_returned_iff (localLinkAddr : MacAddress) (localIpv4Addr : Ipv4Addr)
    (events : List Icmpv4Event) (p : Icmpv4Peer)
    (_ran : Machine.run step (new localLinkAddr localIpv4Addr) events = .ok p)
    (arp : Ipv4Addr → Except Fail MacAddress) (ipv4Header : Ipv4.Ipv4Header) (buf payload : Buffer)
    (id seqNum : UInt16) (code : UInt8) (dstLinkAddr : MacAddress)
    (parsed : Icmpv4Header.parse buf = pure (⟨.echoRequest id seqNum, code⟩, payload))
    (resolves : arp ipv4Header.srcAddr = .ok dstLinkAddr) :
    p.Returns arp ipv4Header buf dstLinkAddr id seqNum payload ↔
      payload = [] ∧ ¬(id = 0 ∧ seqNum = 0) :=
  p.returns_iff parsed resolves

/-- A message from 10.0.0.2. -/
def sampleIpv4 : Ipv4.Ipv4Header := .new 0x0a000002 0x0a000001 .icmpv4

/-- A request with no data, after another one. -/
theorem echo_returned_iff_second :
    ∃ p, Machine.run step (new 7 0x0a000001)
        [.receive sampleIpv4 (Icmpv4Header.new (.echoRequest 1 1) 0).bytes] = .ok p ∧
      p.Returns (fun _ => .ok 9) sampleIpv4 (Icmpv4Header.new (.echoRequest 1 2) 0).bytes 9 1 2 [] := by
  have first : (new 7 0x0a000001).step
      (.receive sampleIpv4 (Icmpv4Header.new (.echoRequest 1 1) 0).bytes) =
      .ok { new 7 0x0a000001 with channel := [⟨0x0a000002, 1, 1⟩] } := by
    have read : (Icmpv4Header.parse (Icmpv4Header.new (.echoRequest 1 1) 0).bytes).run =
        .ok (.ok (Icmpv4Header.new (.echoRequest 1 1) 0, [])) := by
      rw [Icmpv4Header.parse_bytes]
      rfl
    simp only [step, receive, read, bind, Except.bind]
    rfl
  have ran : Machine.run step (new 7 0x0a000001)
      [.receive sampleIpv4 (Icmpv4Header.new (.echoRequest 1 1) 0).bytes] =
      .ok { new 7 0x0a000001 with channel := [⟨0x0a000002, 1, 1⟩] } :=
    Machine.run_cons_ok.mpr ⟨_, first, rfl⟩
  refine ⟨_, ran, (echo_returned_iff 7 0x0a000001 _ _ ran (fun _ => .ok 9) sampleIpv4 _ [] 1 2 0 9
    (Icmpv4Header.parse_bytes _) rfl).mpr ⟨rfl, by decide⟩⟩

/-- A byte of data is not returned, and the reply to a request with both numbers zero has the wrong
checksum. -/
theorem echo_not_returned :
    Icmpv4Header.parse [8, 0, 0xf2, 0xfd, 0, 1, 0, 1, 5] =
        pure (⟨.echoRequest 1 1, 0⟩, [5]) ∧
      ¬(new 7 0x0a000001).Returns (fun _ => .ok 9) sampleIpv4 [8, 0, 0xf2, 0xfd, 0, 1, 0, 1, 5] 9 1 1
        [5] ∧
      Icmpv4Header.parse [8, 0, 0xf7, 0xff, 0, 0, 0, 0] = pure (⟨.echoRequest 0 0, 0⟩, []) ∧
      ¬(new 7 0x0a000001).Returns (fun _ => .ok 9) sampleIpv4 [8, 0, 0xf7, 0xff, 0, 0, 0, 0] 9 0 0 [] := by
  have data : Icmpv4Header.parse [8, 0, 0xf2, 0xfd, 0, 1, 0, 1, 5] =
      pure (⟨.echoRequest 1 1, 0⟩, [5]) := by
    change (Icmpv4Header.parse [8, 0, 0xf2, 0xfd, 0, 1, 0, 1, 5]).run = .ok (.ok _)
    decide +kernel
  have zeros : Icmpv4Header.parse [8, 0, 0xf7, 0xff, 0, 0, 0, 0] =
      pure (⟨.echoRequest 0 0, 0⟩, []) := by
    change (Icmpv4Header.parse [8, 0, 0xf7, 0xff, 0, 0, 0, 0]).run = .ok (.ok _)
    decide +kernel
  refine ⟨data, ?_, zeros, ?_⟩
  · rw [returns_iff _ data rfl]
    simp
  · rw [returns_iff _ zeros rfl]
    simp

end Icmpv4Peer

end Inetstack.Icmpv4
