import Inetstack.Laws.Icmpv4.Peer
import Inetstack.Lib.Table

/-!
# Where echoes come from

A peer replies to the echo requests that have arrived, and to no others. A ping ends well after a reply has
arrived to the request it has sent, to the address its user has asked for. Both are invariants: one of the
requests on their way to a reply, and one of the pings and of the table of requests.
-/

namespace Inetstack.Icmpv4

open Machine (bind_eq_ok)
open Tcp (Buffer Duration Fail Instant Ipv4Addr MacAddress)

variable {log log' : List Icmpv4Message} {dstAddr : Ipv4Addr} {icmpv4Type : Icmpv4Type2}

/-- A message of a type has gone to an address. -/
def Sent (log : List Icmpv4Message) (dstAddr : Ipv4Addr) (icmpv4Type : Icmpv4Type2) : Prop :=
  ∃ message ∈ log, message.ipv4Hdr.dstAddr = dstAddr ∧ message.icmpv4Hdr.protocol = icmpv4Type

/-- A log only grows. -/
theorem Sent.mono (h : Sent log dstAddr icmpv4Type) (grows : ∀ message ∈ log, message ∈ log') :
    Sent log' dstAddr icmpv4Type := by
  obtain ⟨message, member, dst, type⟩ := h
  exact ⟨message, grows message member, dst, type⟩

/-! ## Replies -/

namespace Icmpv4Peer

variable {p p' : Icmpv4Peer} {ping : PingId} {request : EchoRequest} {timeout : Duration} {t0 now : Instant}
  {answer : Option (Except Fail MacAddress)} {timerFirst : Bool} {event : Icmpv4Event}
  {ipv4Header : Ipv4.Ipv4Header} {buf : Buffer} {result : Except Fail Unit}

/-- All requests that wait for a reply, and all that have had one, have arrived. -/
structure Replies (arrived : Ipv4Addr → UInt16 → UInt16 → Prop) (p : Icmpv4Peer) : Prop where
  pending : ∀ request ∈ p.pending, arrived request.dstIpv4Addr request.id request.seqNum
  sent : ∀ dstAddr id seqNum, Sent p.transmitted dstAddr (.echoReply id seqNum) → arrived dstAddr id seqNum

variable {arrived arrived' : Ipv4Addr → UInt16 → UInt16 → Prop}

theorem Replies.new (localLinkAddr : MacAddress) (localIpv4Addr : Ipv4Addr) :
    (new localLinkAddr localIpv4Addr).Replies arrived where
  pending _ member := absurd member List.not_mem_nil
  sent := by
    rintro dstAddr id seqNum ⟨message, member, -⟩
    exact absurd member List.not_mem_nil

theorem Replies.mono (h : p.Replies arrived)
    (weaker : ∀ dstAddr id seqNum, arrived dstAddr id seqNum → arrived' dstAddr id seqNum) :
    p.Replies arrived' :=
  ⟨fun request member => weaker _ _ _ (h.pending request member),
    fun dstAddr id seqNum sent => weaker _ _ _ (h.sent dstAddr id seqNum sent)⟩

/-- A message that goes out is no reply, or one to a request that has arrived. -/
theorem Replies.transmit (h : p.Replies arrived) (message : Icmpv4Message)
    (own : ∀ id seqNum, message.icmpv4Hdr.protocol = .echoReply id seqNum →
      arrived message.ipv4Hdr.dstAddr id seqNum) : (p.transmit message).Replies arrived := by
  refine ⟨h.pending, ?_⟩
  rintro dstAddr id seqNum ⟨other, member, rfl, type⟩
  rcases List.mem_append.mp member with old | last
  · exact h.sent _ id seqNum ⟨other, old, rfl, type⟩
  · cases List.mem_singleton.mp last
    exact own id seqNum type

/-- The task takes up what it was sent. -/
theorem Replies.backgroundIterate (h : p.Replies arrived) : p.backgroundIterate.Replies arrived := by
  unfold Icmpv4Peer.backgroundIterate
  split
  next request rest queued =>
    refine ⟨fun other member => h.pending other (List.mem_append_right _ ?_), h.sent⟩
    rw [queued]
    exact member
  next => exact ⟨fun other member => h.pending other (List.mem_append_right _ member), h.sent⟩

/-- The background task replies to the request it has in hand, or gives it up. -/
theorem Replies.backgroundPoll (h : p.Replies arrived) (answer : Except Fail MacAddress) :
    (p.backgroundPoll answer).Replies arrived := by
  unfold Icmpv4Peer.backgroundPoll
  split
  · exact h.backgroundIterate
  next request dstLinkAddr waits =>
    have own : request ∈ p.pending := by
      unfold Icmpv4Peer.pending
      rw [waits]
      exact List.mem_cons_self
    refine (h.transmit (p.reply request dstLinkAddr) fun id seqNum type => ?_).backgroundIterate
    cases type
    exact h.pending request own
  · exact h.backgroundIterate

/-- A reply that arrives completes a ping, and asks for none. -/
theorem Replies.complete (h : p.Replies arrived) (req : UInt16 × UInt16) :
    (p.complete req).Replies arrived := by
  unfold Icmpv4Peer.complete
  split
  · exact h
  · dsimp only
    split
    · exact ⟨h.pending, h.sent⟩
    · exact ⟨h.pending, h.sent⟩

/-- **A message arrives**: the requests that wait for a reply are those that were received. -/
theorem Replies.receive (h : p.Replies arrived)
    (arrives : ∀ header rest id seqNum, Icmpv4Header.parse buf = pure (header, rest) →
      header.protocol = .echoRequest id seqNum → arrived ipv4Header.srcAddr id seqNum)
    (ran : p.receive ipv4Header buf = .ok (result, p')) : p'.Replies arrived := by
  obtain ⟨parsed, parses, ran⟩ := bind_eq_ok.mp ran
  split at ran
  · cases ran
    exact h
  next header rest =>
  split at ran
  next id seqNum type =>
    cases ran
    refine ⟨fun request member => ?_, h.sent⟩
    rw [Icmpv4Peer.pending, ← List.append_assoc] at member
    rcases List.mem_append.mp member with old | last
    · exact h.pending request old
    · cases List.mem_singleton.mp last
      exact arrives header rest id seqNum parses type
  · cases ran
    exact h.complete _
  · cases ran
    exact h

/-- A ping transmits no reply. -/
theorem Replies.pingArp (h : p.Replies arrived)
    (ran : p.pingArp ping request timeout t0 now answer = .ok p') : p'.Replies arrived := by
  unfold Icmpv4Peer.pingArp at ran
  split at ran
  · cases ran
    exact ⟨h.pending, h.sent⟩
  · cases ran
    exact ⟨h.pending, h.sent⟩
  next dstLinkAddr =>
    dsimp only at ran
    split at ran
    · cases ran
    · cases ran
      have sent := h.transmit
        (p.message dstLinkAddr request.dstIpv4Addr (.echoRequest request.id request.seqNum))
        fun id seqNum type => by cases type
      exact ⟨sent.pending, sent.sent⟩

/-- **A peer replies to what has arrived, and keeps to it.** -/
theorem step_replies (h : p.Replies arrived)
    (arrives : ∀ ipv4Header buf header rest id seqNum, event = .receive ipv4Header buf →
      Icmpv4Header.parse buf = pure (header, rest) → header.protocol = .echoRequest id seqNum →
      arrived ipv4Header.srcAddr id seqNum)
    (stepped : p.step event = .ok p') : p'.Replies arrived := by
  cases event with
  | receive ipv4Header buf =>
    obtain ⟨⟨result, q⟩, ran, stepped⟩ := bind_eq_ok.mp stepped
    cases stepped
    exact h.receive (fun header rest id seqNum => arrives ipv4Header buf header rest id seqNum rfl) ran
  | background answer =>
    cases stepped
    exact h.backgroundPoll answer
  | ping ping dstIpv4Addr timeout processId nonce =>
    simp only [step] at stepped
    split at stepped
    · cases stepped
      exact h
    · cases stepped
      exact ⟨h.pending, h.sent⟩
  | pollPing ping now answer timerFirst =>
    simp only [step, pollPing] at stepped
    split at stepped
    · exact h.pingArp stepped
    · exact h.pingArp stepped
    · cases stepped
      unfold pingReply
      dsimp only
      split
      · exact ⟨h.pending, h.sent⟩
      split
      · exact ⟨h.pending, h.sent⟩
      · exact h
    · cases stepped
      exact h
  | dropPing ping =>
    simp only [step] at stepped
    split at stepped
    · cases stepped
      exact ⟨h.pending, h.sent⟩
    · cases stepped
      exact h

end Icmpv4Peer

/-! ## Pings -/

variable {pinged : PingId → Ipv4Addr → Prop} {replied replied' : UInt16 → UInt16 → Prop} {ping : PingId}

/-- A request of a ping has gone to the address its user has asked for. -/
def Requested (pinged : PingId → Ipv4Addr → Prop) (log : List Icmpv4Message) (ping : PingId)
    (id seqNum : UInt16) : Prop :=
  ∃ dstAddr, pinged ping dstAddr ∧ Sent log dstAddr (.echoRequest id seqNum)

/-- There is a reply to a request of a ping. -/
def Answered (pinged : PingId → Ipv4Addr → Prop) (replied : UInt16 → UInt16 → Prop)
    (log : List Icmpv4Message) (ping : PingId) : Prop :=
  ∃ id seqNum, Requested pinged log ping id seqNum ∧ replied id seqNum

/-- The request is still in the log. -/
theorem Requested.mono {id seqNum : UInt16} (h : Requested pinged log ping id seqNum)
    (grows : ∀ message ∈ log, message ∈ log') : Requested pinged log' ping id seqNum := by
  obtain ⟨dstAddr, own, sent⟩ := h
  exact ⟨dstAddr, own, sent.mono grows⟩

/-- And so is the reply. -/
theorem Answered.mono (h : Answered pinged replied log ping) (grows : ∀ message ∈ log, message ∈ log')
    (weaker : ∀ id seqNum, replied id seqNum → replied' id seqNum) :
    Answered pinged replied' log' ping := by
  obtain ⟨id, seqNum, requested, reply⟩ := h
  exact ⟨id, seqNum, requested.mono grows, weaker id seqNum reply⟩

/-- What is so of a ping at each of its waits, and at its end. -/
def PingTask.Holds (pinged : PingId → Ipv4Addr → Prop) (replied : UInt16 → UInt16 → Prop)
    (log : List Icmpv4Message) (ping : PingId) : PingTask → Prop
  | .created request _ | .awaitArp request _ _ => pinged ping request.dstIpv4Addr
  | .awaitReply _ _ answered => answered = true → Answered pinged replied log ping
  | .ready (.ok _) => Answered pinged replied log ping
  | .ready (.error _) | .dropped => True

/-- What is so of a ping stays so. -/
theorem PingTask.Holds.mono {task : PingTask} (h : task.Holds pinged replied log ping)
    (grows : ∀ message ∈ log, message ∈ log')
    (weaker : ∀ id seqNum, replied id seqNum → replied' id seqNum) :
    task.Holds pinged replied' log' ping := by
  cases task with
  | created request timeout => exact h
  | awaitArp request timeout t0 => exact h
  | awaitReply t0 deadline answered => exact fun told => Answered.mono (h told) grows weaker
  | ready result =>
    cases result with
    | ok rtt => exact Answered.mono h grows weaker
    | error fail => trivial
  | dropped => trivial

/-- How long a ping took that has ended well. -/
def PingTask.rtt : PingTask → Option Duration
  | .ready (.ok rtt) => some rtt
  | _ => none

/-- A ping has a time exactly if it has ended well. -/
theorem PingTask.rtt_eq_some {task : PingTask} {rtt : Duration} :
    task.rtt = some rtt ↔ task = .ready (.ok rtt) := by
  constructor
  · intro told
    unfold PingTask.rtt at told
    split at told
    · cases told
      rfl
    · cases told
  · rintro rfl
    rfl

namespace Icmpv4Peer

variable {p p' : Icmpv4Peer} {request : EchoRequest} {timeout : Duration} {t0 now : Instant}
  {answer : Option (Except Fail MacAddress)} {timerFirst : Bool} {event : Icmpv4Event}
  {ipv4Header : Ipv4.Ipv4Header} {buf : Buffer} {result : Except Fail Unit}

/-- **No ping has an answer that it has not had.** A sender in the table of requests is that of a ping whose
request has gone out. -/
structure Pings (pinged : PingId → Ipv4Addr → Prop) (replied : UInt16 → UInt16 → Prop) (p : Icmpv4Peer) :
    Prop where
  tasks : ∀ ping task, p.pings.lookup ping = some task → task.Holds pinged replied p.transmitted ping
  requests : ∀ req ping, p.requests.lookup req = some ping →
    Requested pinged p.transmitted ping req.1 req.2

theorem Pings.new (localLinkAddr : MacAddress) (localIpv4Addr : Ipv4Addr) :
    (new localLinkAddr localIpv4Addr).Pings pinged replied :=
  ⟨fun _ _ found => (by cases found), fun _ _ found => (by cases found)⟩

/-- More may have been replied. -/
theorem Pings.mono (h : p.Pings pinged replied)
    (weaker : ∀ id seqNum, replied id seqNum → replied' id seqNum) : p.Pings pinged replied' :=
  ⟨fun ping task found => (h.tasks ping task found).mono (fun _ member => member) weaker, h.requests⟩

/-- What changes neither the pings nor the requests. -/
theorem Pings.grow (h : p.Pings pinged replied) (pings : p'.pings = p.pings)
    (requests : p'.requests = p.requests) (grows : ∀ message ∈ p.transmitted, message ∈ p'.transmitted) :
    p'.Pings pinged replied := by
  refine ⟨fun ping task found => ?_, fun req ping found => ?_⟩
  · rw [pings] at found
    exact (h.tasks ping task found).mono grows fun _ _ reply => reply
  · rw [requests] at found
    exact (h.requests req ping found).mono grows

theorem Pings.transmit (h : p.Pings pinged replied) (message : Icmpv4Message) :
    (p.transmit message).Pings pinged replied :=
  h.grow rfl rfl fun _ member => List.mem_append_left _ member

/-- One ping goes to its next wait. -/
theorem Pings.setPing {task : PingTask} (h : p.Pings pinged replied)
    (holds : task.Holds pinged replied p.transmitted ping) :
    (p.setPing ping task).Pings pinged replied :=
  ⟨Table.forall_insert h.tasks holds, h.requests⟩

theorem Pings.backgroundIterate (h : p.Pings pinged replied) :
    p.backgroundIterate.Pings pinged replied := by
  unfold Icmpv4Peer.backgroundIterate
  split
  · exact ⟨h.tasks, h.requests⟩
  · exact ⟨h.tasks, h.requests⟩

/-- The background task touches no ping. -/
theorem Pings.backgroundPoll (h : p.Pings pinged replied) (answer : Except Fail MacAddress) :
    (p.backgroundPoll answer).Pings pinged replied := by
  unfold Icmpv4Peer.backgroundPoll
  split
  · exact h.backgroundIterate
  next request dstLinkAddr waits => exact (h.transmit (p.reply request dstLinkAddr)).backgroundIterate
  · exact h.backgroundIterate

/-- A reply is told to the ping whose request it answers. -/
theorem Pings.complete {req : UInt16 × UInt16} (h : p.Pings pinged replied) (arrived : replied req.1 req.2) :
    (p.complete req).Pings pinged replied := by
  unfold Icmpv4Peer.complete
  split
  · exact h
  next ping known =>
    have taken : Pings pinged replied { p with requests := p.requests.erase req } :=
      ⟨h.tasks, Table.forall_erase h.requests⟩
    dsimp only
    split
    · exact taken.setPing fun _ => ⟨req.1, req.2, h.requests req ping known, arrived⟩
    · exact taken

/-- **A message arrives**: a reply completes only the ping that waits for its numbers. -/
theorem Pings.receive (h : p.Pings pinged replied)
    (arrives : ∀ header rest id seqNum, Icmpv4Header.parse buf = pure (header, rest) →
      header.protocol = .echoReply id seqNum → replied id seqNum)
    (ran : p.receive ipv4Header buf = .ok (result, p')) : p'.Pings pinged replied := by
  obtain ⟨parsed, parses, ran⟩ := bind_eq_ok.mp ran
  split at ran
  · cases ran
    exact h
  next header rest =>
  split at ran
  · cases ran
    exact ⟨h.tasks, h.requests⟩
  next id seqNum type =>
    cases ran
    exact h.complete (arrives header rest id seqNum parses type)
  · cases ran
    exact h

/-- A request goes to the address that was asked for, and its sender goes into the table. -/
theorem Pings.pingArp (h : p.Pings pinged replied) (own : pinged ping request.dstIpv4Addr)
    (ran : p.pingArp ping request timeout t0 now answer = .ok p') : p'.Pings pinged replied := by
  unfold Icmpv4Peer.pingArp at ran
  split at ran
  · cases ran
    exact h.setPing own
  · cases ran
    exact h.setPing trivial
  next dstLinkAddr =>
    dsimp only at ran
    split at ran
    · cases ran
    · cases ran
      have sent := h.transmit
        (p.message dstLinkAddr request.dstIpv4Addr (.echoRequest request.id request.seqNum))
      refine ⟨Table.forall_insert sent.tasks fun told => (by cases told),
        Table.forall_insert sent.requests ?_⟩
      exact ⟨request.dstIpv4Addr, own, _, List.mem_append_right _ List.mem_cons_self, rfl, rfl⟩

/-- **A poll of a ping**: the request goes out once the address is resolved, and the ping ends with a reply,
or a timeout. -/
theorem Pings.pollPing (h : p.Pings pinged replied)
    (ran : p.pollPing ping now answer timerFirst = .ok p') : p'.Pings pinged replied := by
  unfold Icmpv4Peer.pollPing at ran
  split at ran
  next request timeout found => exact h.pingArp (h.tasks ping _ found) ran
  next request timeout t0 found => exact h.pingArp (h.tasks ping _ found) ran
  next t0 deadline answered found =>
    cases ran
    unfold pingReply
    dsimp only
    split
    next told =>
      have answered : answered = true := (Bool.and_eq_true_iff.mp told).1
      exact h.setPing (h.tasks ping _ found answered)
    split
    · exact h.setPing trivial
    · exact h
  · cases ran
    exact h

/-- **A ping ends well only with an answer.** -/
theorem step_pings (h : p.Pings pinged replied)
    (asks : ∀ ping dstIpv4Addr timeout processId nonce,
      event = .ping ping dstIpv4Addr timeout processId nonce → pinged ping dstIpv4Addr)
    (arrives : ∀ ipv4Header buf header rest id seqNum, event = .receive ipv4Header buf →
      Icmpv4Header.parse buf = pure (header, rest) → header.protocol = .echoReply id seqNum →
      replied id seqNum)
    (stepped : p.step event = .ok p') : p'.Pings pinged replied := by
  cases event with
  | receive ipv4Header buf =>
    obtain ⟨⟨result, q⟩, ran, stepped⟩ := bind_eq_ok.mp stepped
    cases stepped
    exact h.receive (fun header rest id seqNum => arrives ipv4Header buf header rest id seqNum rfl) ran
  | background answer =>
    cases stepped
    exact h.backgroundPoll answer
  | ping ping dstIpv4Addr timeout processId nonce =>
    simp only [step] at stepped
    split at stepped
    · cases stepped
      exact h
    · cases stepped
      exact ⟨Table.forall_insert h.tasks (asks ping dstIpv4Addr timeout processId nonce rfl), h.requests⟩
  | pollPing ping now answer timerFirst => exact h.pollPing stepped
  | dropPing ping =>
    simp only [step] at stepped
    split at stepped
    · cases stepped
      exact h.setPing trivial
    · cases stepped
      exact h

end Icmpv4Peer

end Inetstack.Icmpv4
