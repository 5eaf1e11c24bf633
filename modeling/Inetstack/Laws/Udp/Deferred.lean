import Inetstack.Lib.Ledger
import Inetstack.Lib.Machine
import Inetstack.Laws.Udp.Peer
import Inetstack.Laws.Udp.Queue

/-!
# Datagrams whose remote is not resolved

A datagram whose remote has no link address yet waits in the send queue for the background sender. The
ledger of a run has an entry for each datagram that was accepted so, in the order of the calls, and closes
the entry when the sender has its answer or a push drops the datagram.

The sender holds the receiving end of the queue while it waits for a datagram. So a push that finds the
queue full at such a time cannot drop anything, and panics. This is the only way a run stops, and up to
there every datagram has one end, in order.
-/

namespace Inetstack.Udp

open Ledger (Entry Grows closed opened settle)
open Machine (bind_eq_ok)
open Tcp (Buffer Env Fail Fault Instant MacAddress SocketAddrV4)
open UdpPeer (samplePeer)

/-- What becomes of a datagram that waits for its remote. -/
inductive Fate where
  | transmitted (remoteLinkAddr : MacAddress)
  | discarded
  | unresolved
  deriving DecidableEq, Repr

/-- A call with a remote that is not resolved, or a poll of the background sender that goes on. -/
inductive SendEvent where
  | pushto (qd : QDesc) (data : Buffer) (remoteAddr : SocketAddrV4) (now : Instant)
  | sender (reply : Except Fail MacAddress)

/-- The datagram whose link address the sender waits for. -/
def SenderTask.waiting : SenderTask → List SharedQueueSlot
  | .awaitArp slot => [slot]
  | _ => []

/-- A peer, and the ledger of the datagrams it accepted, which is not in the code. -/
structure SendRun where
  peer : UdpPeer
  ledger : List (Entry SharedQueueSlot Fate)

namespace SendRun

/-- A peer before anything has been sent. -/
def start (peer : UdpPeer) : SendRun where
  peer := peer
  ledger := []

/-- The ledger after a poll of the sender. -/
def answered (r : SendRun) (reply : Except Fail MacAddress) : List (Entry SharedQueueSlot Fate) :=
  match r.peer.background, reply with
  | .awaitArp _, .ok remoteLinkAddr => settle (.transmitted remoteLinkAddr) 0 1 r.ledger
  | .awaitArp _, .error _ => settle .unresolved 0 1 r.ledger
  | _, _ => r.ledger

/-- One event. What a push drops is what was in the queue and is not there any more; the datagram the
sender has taken out is not among it. -/
def step (r : SendRun) : SendEvent → Except Fault SendRun
  | .pushto qd data remoteAddr now => do
    let (result, peer) ← r.peer.doPushto qd data remoteAddr { now := now, remoteLinkAddr := none }
    match result, r.peer.sockets.lookup qd with
    | .ok (), some (some localAddr) =>
      let dropped := r.peer.sendQueue.channel.length + 1 - peer.sendQueue.channel.length
      let slot := { localAddr := localAddr, remoteAddr := remoteAddr, data := data }
      .ok {
        peer := peer
        ledger := settle .discarded r.peer.background.waiting.length dropped r.ledger ++ [opened slot] }
    | _, _ => .ok { r with peer := peer }
  | .sender reply => .ok { peer := r.peer.senderPoll reply, ledger := r.answered reply }

/-- A push by a bound socket to a full queue, while the sender waits for a datagram. -/
def crowded (r : SendRun) : SendEvent → Bool
  | .pushto qd _ _ _ =>
    (r.peer.sockets.lookup qd).join.isSome && r.peer.background == .awaitPop &&
      r.peer.sendQueue.channel.length == SEND_QUEUE_MAX_SIZE
  | .sender _ => false

end SendRun

/-- The datagram that was transmitted for an entry, if it was. -/
def UdpPeer.written (p : UdpPeer) (entry : Entry SharedQueueSlot Fate) : Option UdpDatagram :=
  match entry.fate with
  | some (.transmitted remoteLinkAddr) => some (p.datagram entry.item remoteLinkAddr)
  | _ => none

/-- A ledger and the peer it is about: what is done, the datagram the sender waits with, what was dropped
since it took that one, and what is in the queue. What was transmitted was so in the order of the
ledger. -/
structure SendRun.Accounted (before : List UdpDatagram) (done dropped : List (Entry SharedQueueSlot Fate))
    (r : SendRun) : Prop where
  ledger : r.ledger =
    done ++ r.peer.background.waiting.map opened ++ dropped ++ r.peer.sendQueue.channel.map opened
  ended : ∀ entry ∈ done, entry.fate ≠ none
  dropped : ∀ entry ∈ dropped, entry.fate = some .discarded
  transmitted : r.peer.transmitted = before ++ done.filterMap r.peer.written

/-- The invariant of the queue and the sender. -/
structure UdpPeer.Tended (p : UdpPeer) : Prop where
  counted : p.sendQueue.Counted
  capacity : p.sendQueue.capacity = SEND_QUEUE_MAX_SIZE
  held : p.sendQueue.borrowed = true ↔ p.background = .awaitPop

namespace UdpPeer

variable {p p' : UdpPeer} {qd : QDesc} {data : Buffer} {remoteAddr localAddr : SocketAddrV4} {env : Env}

/-- Without an address to send from, a push fails. -/
theorem doPushto_unbound (unbound : ∀ localAddr, p.sockets.lookup qd ≠ some (some localAddr)) :
    ∃ fail, p.doPushto qd data remoteAddr env = .ok (.error fail, p) := by
  unfold doPushto
  split
  next localAddr found => exact (unbound localAddr found).elim
  next => exact ⟨_, rfl⟩

/-- A deferred datagram is queued where there is room or room can be made. -/
theorem doPushto_deferred (h : p.sendQueue.Counted)
    (found : p.sockets.lookup qd = some (some localAddr)) (unresolved : env.remoteLinkAddr = none)
    (free : p.sendQueue.channel.length = p.sendQueue.capacity → p.sendQueue.borrowed = false) :
    p.doPushto qd data remoteAddr env = .ok (.ok (), { p with sendQueue := { p.sendQueue with
      channel := p.sendQueue.channel.drop p.sendQueue.overflow ++ [⟨localAddr, remoteAddr, data⟩]
      length := p.sendQueue.length - p.sendQueue.overflow + 1 } }) := by
  unfold doPushto
  rw [found, unresolved]
  dsimp only
  rw [SharedQueue.push_ok h free]
  rfl

/-- While the background task holds the queue, a push that would drop the oldest entry panics. -/
theorem doPushto_crowded (h : p.sendQueue.Counted)
    (found : p.sockets.lookup qd = some (some localAddr)) (unresolved : env.remoteLinkAddr = none)
    (full : p.sendQueue.channel.length = p.sendQueue.capacity) (held : p.sendQueue.borrowed = true) :
    p.doPushto qd data remoteAddr env = .error .alreadyBorrowed := by
  unfold doPushto
  rw [found, unresolved]
  dsimp only
  rw [SharedQueue.push_error h full held]
  rfl

/-- With nothing queued, the background task waits with the queue held. -/
theorem senderIterate_nil (empty : p.sendQueue.channel = []) :
    p.senderIterate = { p with
      sendQueue := { p.sendQueue with borrowed := true }, background := .awaitPop } := by
  rw [senderIterate, SharedQueue.pop_nil empty]

/-- The oldest entry leaves the queue, and an ARP query is made for it. -/
theorem senderIterate_cons {slot : SharedQueueSlot} {rest : List SharedQueueSlot}
    (more : p.sendQueue.channel = slot :: rest) :
    p.senderIterate = { p with
      sendQueue := { p.sendQueue with
        channel := rest, length := p.sendQueue.length - 1, borrowed := false }
      background := .awaitArp slot } := by
  rw [senderIterate, SharedQueue.pop_cons more]

theorem Tended.iterate (h : p.Tended) : p.senderIterate.Tended := by
  have counted := h.counted.pop
  cases more : p.sendQueue.channel with
  | nil =>
    rw [SharedQueue.pop_nil more] at counted
    rw [senderIterate_nil more]
    exact ⟨counted, h.capacity, fun _ => rfl, fun _ => rfl⟩
  | cons slot rest =>
    rw [SharedQueue.pop_cons more] at counted
    rw [senderIterate_cons more]
    exact ⟨counted, h.capacity, nofun, nofun⟩

/-- Whatever the ARP query is answered with, the task goes on. -/
theorem Tended.poll (h : p.Tended) (reply : Except Fail MacAddress) : (p.senderPoll reply).Tended := by
  unfold senderPoll
  split
  · exact h.iterate
  · exact h.iterate
  next slot remoteLinkAddr _ => exact Tended.iterate (p := p.doSend slot remoteLinkAddr) ⟨h.1, h.2, h.3⟩
  · exact h.iterate

end UdpPeer

namespace SendRun

variable {r r' : SendRun} {event : SendEvent} {before : List UdpDatagram}
  {done dropped : List (Entry SharedQueueSlot Fate)}

/-! ## One event -/

/-- When a push panics: the queue is full, and the background task holds it. -/
theorem crowded_iff (h : r.peer.Tended) {qd : QDesc} {localAddr : SocketAddrV4}
    (found : r.peer.sockets.lookup qd = some (some localAddr)) (data : Buffer)
    (remoteAddr : SocketAddrV4) (now : Instant) :
    r.crowded (.pushto qd data remoteAddr now) = true ↔
      r.peer.sendQueue.channel.length = r.peer.sendQueue.capacity ∧
        r.peer.sendQueue.borrowed = true := by
  simp only [crowded, found, h.held, h.capacity, Option.join_some, Option.isSome_some, Bool.true_and,
    Bool.and_eq_true, beq_iff_eq]
  exact And.comm

/-- A push without an address changes nothing, and is not in the ledger. -/
theorem step_refused {qd : QDesc}
    (unbound : ∀ localAddr, r.peer.sockets.lookup qd ≠ some (some localAddr)) (data : Buffer)
    (remoteAddr : SocketAddrV4) (now : Instant) : r.step (.pushto qd data remoteAddr now) = .ok r := by
  obtain ⟨fail, ran⟩ := UdpPeer.doPushto_unbound unbound
  rw [step, ran]
  rfl

/-- A push on a full queue that is held panics. -/
theorem step_crash (h : r.peer.Tended) {qd : QDesc} {data : Buffer} {remoteAddr : SocketAddrV4}
    {now : Instant} (crowded : r.crowded (.pushto qd data remoteAddr now) = true) :
    r.step (.pushto qd data remoteAddr now) = .error .alreadyBorrowed := by
  have socket := crowded
  simp only [SendRun.crowded, Bool.and_eq_true, Option.isSome_iff_exists, Option.join_eq_some_iff] at socket
  obtain ⟨⟨⟨localAddr, found⟩, -⟩, -⟩ := socket
  obtain ⟨full, held⟩ := (crowded_iff h found data remoteAddr now).mp crowded
  rw [step, UdpPeer.doPushto_crowded h.counted found rfl full held]
  rfl

/-- A push without a link address is queued, and enters the ledger as pending. On a full queue the oldest
entry makes room and is settled as discarded. -/
theorem step_queued (h : r.peer.Tended) {qd : QDesc} {data : Buffer} {remoteAddr : SocketAddrV4}
    {now : Instant} {localAddr : SocketAddrV4} (found : r.peer.sockets.lookup qd = some (some localAddr))
    (free : r.crowded (.pushto qd data remoteAddr now) = false) :
    r.step (.pushto qd data remoteAddr now) = .ok {
      peer := { r.peer with sendQueue := { r.peer.sendQueue with
        channel := r.peer.sendQueue.channel.drop r.peer.sendQueue.overflow ++
          [⟨localAddr, remoteAddr, data⟩]
        length := r.peer.sendQueue.length - r.peer.sendQueue.overflow + 1 } }
      ledger := settle .discarded r.peer.background.waiting.length r.peer.sendQueue.overflow r.ledger ++
        [opened ⟨localAddr, remoteAddr, data⟩] } := by
  have released (full : r.peer.sendQueue.channel.length = r.peer.sendQueue.capacity) :
      r.peer.sendQueue.borrowed = false := by
    refine Bool.eq_false_of_not_eq_true fun held => ?_
    rw [(crowded_iff h found data remoteAddr now).mpr ⟨full, held⟩] at free
    cases free
  have count : r.peer.sendQueue.channel.length + 1 -
      (r.peer.sendQueue.channel.drop r.peer.sendQueue.overflow ++
        [(⟨localAddr, remoteAddr, data⟩ : SharedQueueSlot)]).length = r.peer.sendQueue.overflow := by
    have small := SharedQueue.overflow_le h.counted
    simp only [List.length_append, List.length_drop, List.length_singleton]
    omega
  rw [step, UdpPeer.doPushto_deferred h.counted found rfl released]
  simp only [bind, Except.bind, found, count]

/-- **What a call can do**: be refused, panic, or queue its datagram. -/
theorem step_pushto (h : r.peer.Tended) (qd : QDesc) (data : Buffer) (remoteAddr : SocketAddrV4)
    (now : Instant) :
    (r.crowded (.pushto qd data remoteAddr now) = false ∧
      r.step (.pushto qd data remoteAddr now) = .ok r) ∨
    (r.crowded (.pushto qd data remoteAddr now) = true ∧
      r.step (.pushto qd data remoteAddr now) = .error .alreadyBorrowed) ∨
    ∃ slot, r.crowded (.pushto qd data remoteAddr now) = false ∧
      r.step (.pushto qd data remoteAddr now) = .ok {
        peer := { r.peer with sendQueue := { r.peer.sendQueue with
          channel := r.peer.sendQueue.channel.drop r.peer.sendQueue.overflow ++ [slot]
          length := r.peer.sendQueue.length - r.peer.sendQueue.overflow + 1 } }
        ledger := settle .discarded r.peer.background.waiting.length r.peer.sendQueue.overflow r.ledger ++
          [opened slot] } := by
  cases crowded : r.crowded (.pushto qd data remoteAddr now) with
  | true => exact .inr (.inl ⟨rfl, step_crash h crowded⟩)
  | false =>
  by_cases bound : ∃ localAddr, r.peer.sockets.lookup qd = some (some localAddr)
  · obtain ⟨localAddr, found⟩ := bound
    exact .inr (.inr ⟨_, rfl, step_queued h found crowded⟩)
  · exact .inl ⟨rfl, step_refused (not_exists.mp bound) data remoteAddr now⟩

/-- **One step** keeps the task tended. -/
theorem step_tended (h : r.peer.Tended) (stepped : r.step event = .ok r') : r'.peer.Tended := by
  cases event with
  | pushto qd data remoteAddr now =>
    rcases step_pushto h qd data remoteAddr now with ⟨-, same⟩ | ⟨-, crash⟩ | ⟨slot, -, queued⟩
    · cases same.symm.trans stepped
      exact h
    · cases crash.symm.trans stepped
    · cases queued.symm.trans stepped
      exact ⟨h.counted.pushed, h.capacity, h.held⟩
  | sender reply =>
    cases stepped
    exact h.poll reply

/-- An event returns exactly when it does not meet a full queue and a waiting sender. -/
theorem step_returns (h : r.peer.Tended) : (∃ r', r.step event = .ok r') ↔ r.crowded event = false := by
  cases event with
  | pushto qd data remoteAddr now =>
    rcases step_pushto h qd data remoteAddr now with ⟨free, same⟩ | ⟨crowded, crash⟩ | ⟨slot, free, queued⟩
    · exact ⟨fun _ => free, fun _ => ⟨r, same⟩⟩
    · rw [crowded, crash]
      exact ⟨nofun, nofun⟩
    · exact ⟨fun _ => free, fun _ => ⟨_, queued⟩⟩
  | sender reply => exact ⟨fun _ => rfl, fun _ => ⟨_, rfl⟩⟩

/-- **One step** enters at most one datagram, and settles others in order. -/
theorem step_grows (h : r.peer.Tended) (stepped : r.step event = .ok r') : Grows r.ledger r'.ledger := by
  cases event with
  | pushto qd data remoteAddr now =>
    rcases step_pushto h qd data remoteAddr now with ⟨-, same⟩ | ⟨-, crash⟩ | ⟨slot, -, queued⟩
    · cases same.symm.trans stepped
      exact .refl _
    · cases crash.symm.trans stepped
    · cases queued.symm.trans stepped
      exact (Ledger.grows_settle _ _ _ _).trans (Ledger.grows_append _ _)
  | sender reply =>
    cases stepped
    change Grows r.ledger (r.answered reply)
    unfold answered
    split
    · exact Ledger.grows_settle _ _ _ _
    · exact Ledger.grows_settle _ _ _ _
    · exact .refl _

/-! ## The ledger -/

/-- What was dropped was not written. -/
theorem written_of_dropped (p : UdpPeer) (lost : ∀ entry ∈ dropped, entry.fate = some .discarded) :
    dropped.filterMap p.written = [] := by
  rw [List.filterMap_eq_nil_iff]
  intro entry member
  rw [UdpPeer.written, lost entry member]

/-- A push drops from the front of the queue, and the new datagram is the last. -/
theorem Accounted.pushed (h : r.Accounted before done dropped) (count : Nat) (slot : SharedQueueSlot)
    {peer : UdpPeer} (background : peer.background = r.peer.background)
    (channel : peer.sendQueue.channel = r.peer.sendQueue.channel.drop count ++ [slot])
    (transmitted : peer.transmitted = r.peer.transmitted) (written : peer.written = r.peer.written) :
    Accounted before done (dropped ++ (r.peer.sendQueue.channel.take count).map (closed .discarded))
      { peer := peer
        ledger := settle .discarded r.peer.background.waiting.length count r.ledger ++ [opened slot] } := by
  refine ⟨?_, h.ended, ?_, ?_⟩
  · have passed : ∀ entry ∈ dropped, entry.fate ≠ none := fun entry member => by
      rw [h.dropped entry member]
      exact nofun
    dsimp only
    rw [h.ledger, background, channel]
    simp only [List.append_assoc]
    rw [Ledger.settle_append h.ended, Ledger.settle_skip, Ledger.settle_append passed,
      Ledger.settle_opened]
    simp only [List.append_assoc, List.map_append, List.map_cons, List.map_nil]
  · intro entry member
    rcases List.mem_append.mp member with old | new
    · exact h.dropped entry old
    · obtain ⟨slot, -, rfl⟩ := List.mem_map.mp new
      rfl
  · dsimp only
    rw [transmitted, written, h.transmitted]

/-- The peer when the sender has its answer, before it goes on to the next datagram. -/
def answeredPeer (r : SendRun) (reply : Except Fail MacAddress) : UdpPeer :=
  match r.peer.background, reply with
  | .awaitArp slot, .ok remoteLinkAddr => r.peer.doSend slot remoteLinkAddr
  | _, _ => r.peer

/-- A poll of the task is an answer for the entry in hand, and the next iteration. -/
theorem senderPoll_eq (r : SendRun) (reply : Except Fail MacAddress) :
    r.peer.senderPoll reply = { r.answeredPeer reply with background := .top }.senderIterate := by
  have iterate (p : UdpPeer) : p.senderIterate = { p with background := .top }.senderIterate := rfl
  unfold UdpPeer.senderPoll answeredPeer
  cases r.peer.background with
  | top => exact iterate _
  | awaitPop => exact iterate _
  | awaitArp slot =>
    cases reply with
    | ok remoteLinkAddr => exact iterate _
    | error fail => exact iterate _

/-- The entry of the datagram the sender waits with is closed. -/
theorem Accounted.settle (h : r.Accounted before done dropped) {slot : SharedQueueSlot}
    (waits : r.peer.background = .awaitArp slot) (fate : Fate) :
    Ledger.settle fate 0 1 r.ledger =
      (done ++ closed fate slot :: dropped) ++ r.peer.sendQueue.channel.map opened := by
  rw [h.ledger, waits]
  simp only [List.append_assoc, SenderTask.waiting, List.map_cons, List.map_nil, List.nil_append,
    List.cons_append]
  rw [Ledger.settle_append h.ended, Ledger.settle_first, Ledger.settle_zero]

/-- Entries that are settled behind others that are. -/
theorem Accounted.passed (h : r.Accounted before done dropped)
    (extra : List (Entry SharedQueueSlot Fate)) (closed : ∀ entry ∈ extra, entry.fate ≠ none) :
    ∀ entry ∈ done ++ (extra ++ dropped), entry.fate ≠ none := by
  intro entry member
  rcases List.mem_append.mp member with old | new
  · exact h.ended entry old
  rcases List.mem_append.mp new with new | lost
  · exact closed entry new
  · rw [h.dropped entry lost]
    exact nofun

/-- When the sender has its answer, the datagrams dropped meanwhile are done with too. -/
theorem Accounted.answered (h : r.Accounted before done dropped) (reply : Except Fail MacAddress) :
    ∃ done', Accounted before done' []
      { peer := { r.answeredPeer reply with background := .top }, ledger := r.answered reply } := by
  have lost (extra : List (Entry SharedQueueSlot Fate)) :
      before ++ (done ++ (extra ++ dropped)).filterMap r.peer.written =
        r.peer.transmitted ++ extra.filterMap r.peer.written := by
    simp [h.transmitted, written_of_dropped r.peer h.dropped]
  unfold SendRun.answered answeredPeer
  cases waits : r.peer.background with
  | top =>
    refine ⟨done ++ ([] ++ dropped), ?_, h.passed _ nofun, nofun, ?_⟩
    · simp [h.ledger, waits, SenderTask.waiting]
    · exact ((lost []).trans (List.append_nil _)).symm
  | awaitPop =>
    refine ⟨done ++ ([] ++ dropped), ?_, h.passed _ nofun, nofun, ?_⟩
    · simp [h.ledger, waits, SenderTask.waiting]
    · exact ((lost []).trans (List.append_nil _)).symm
  | awaitArp slot =>
    cases reply with
    | ok remoteLinkAddr =>
      refine ⟨done ++ ([closed (.transmitted remoteLinkAddr) slot] ++ dropped), ?_, h.passed _ ?_, nofun, ?_⟩
      · simp [h.settle waits, SenderTask.waiting, UdpPeer.doSend]
      · simp [closed]
      · exact (lost [closed (.transmitted remoteLinkAddr) slot]).symm
    | error fail =>
      refine ⟨done ++ ([closed .unresolved slot] ++ dropped), ?_, h.passed _ ?_, nofun, ?_⟩
      · simp [h.settle waits, SenderTask.waiting]
      · simp [closed]
      · exact ((lost [closed .unresolved slot]).trans (List.append_nil _)).symm

/-- The sender takes the next datagram. -/
theorem Accounted.iterate (h : r.Accounted before done []) (idle : r.peer.background.waiting = []) :
    Accounted before done [] { r with peer := r.peer.senderIterate } := by
  have cut := h.ledger
  rw [idle] at cut
  cases more : r.peer.sendQueue.channel with
  | nil =>
    rw [UdpPeer.senderIterate_nil more]
    exact ⟨cut, h.ended, h.dropped, h.transmitted⟩
  | cons slot rest =>
    rw [UdpPeer.senderIterate_cons more]
    refine ⟨?_, h.ended, h.dropped, h.transmitted⟩
    rw [more] at cut
    simpa [SenderTask.waiting] using cut

/-- **One step** keeps the account: what is done, what is dropped and what is queued are the ledger. -/
theorem step_accounted (tended : r.peer.Tended) (h : ∃ done dropped, r.Accounted before done dropped)
    (stepped : r.step event = .ok r') : ∃ done dropped, r'.Accounted before done dropped := by
  obtain ⟨done, dropped, h⟩ := h
  cases event with
  | pushto qd data remoteAddr now =>
    rcases step_pushto tended qd data remoteAddr now with ⟨-, same⟩ | ⟨-, crash⟩ | ⟨slot, -, queued⟩
    · cases same.symm.trans stepped
      exact ⟨done, dropped, h⟩
    · cases crash.symm.trans stepped
    · cases queued.symm.trans stepped
      exact ⟨_, _, h.pushed _ slot rfl rfl rfl rfl⟩
  | sender reply =>
    cases stepped
    rw [senderPoll_eq]
    obtain ⟨done', h⟩ := h.answered reply
    exact ⟨done', [], h.iterate rfl⟩

/-! ## Runs -/

/-- The invariant of a run. -/
structure Sound (before : List UdpDatagram) (r : SendRun) : Prop where
  tended : r.peer.Tended
  accounted : ∃ done dropped, r.Accounted before done dropped

/-- A peer with an empty queue owes nothing. -/
theorem sound_start {p : UdpPeer} (queue : p.sendQueue = .new SEND_QUEUE_MAX_SIZE)
    (idle : p.background = .top) : (start p).Sound p.transmitted := by
  refine ⟨⟨?_, ?_, ?_⟩, [], [], ?_, nofun, nofun, (List.append_nil _).symm⟩
  · change p.sendQueue.Counted
    rw [queue]
    exact .new (by decide)
  · change p.sendQueue.capacity = _
    rw [queue]
    rfl
  · change p.sendQueue.borrowed = true ↔ p.background = .awaitPop
    rw [queue, idle]
    exact ⟨nofun, nofun⟩
  · change [] = [] ++ p.background.waiting.map opened ++ [] ++ p.sendQueue.channel.map opened
    rw [queue, idle]
    rfl

theorem step_sound (h : r.Sound before) (stepped : r.step event = .ok r') : r'.Sound before :=
  ⟨step_tended h.tended stepped, step_accounted h.tended h.accounted stepped⟩

/-- **A run** only adds to the ledger, and settles. -/
theorem run_grows {events : List SendEvent} (h : r.Sound before)
    (ran : Machine.run step r events = .ok r') : Grows r.ledger r'.ledger := by
  refine (Machine.invariant (fun s => s.Sound before ∧ Grows r.ledger s.ledger) ?_ ⟨h, .refl _⟩ ran).2
  intro s event s' inv stepped
  exact ⟨step_sound inv.1 stepped, inv.2.trans (step_grows inv.1.tended stepped)⟩

/-- Nothing waits. -/
def Drained (r : SendRun) : Prop :=
  r.peer.sendQueue.channel = [] ∧ r.peer.background.waiting = []

/-- Once the queue is drained, every datagram has met its fate. -/
theorem Accounted.all_over (h : r.Accounted before done dropped) (drained : r.Drained) :
    ∀ entry ∈ r.ledger, entry.fate ≠ none := by
  have cut := h.ledger
  rw [drained.1, drained.2] at cut
  intro entry member
  rw [cut] at member
  simp only [List.map_nil, List.append_nil] at member
  exact h.passed [] nofun entry member

/-- A poll of the sender takes one datagram out of the queue; when there is none, nothing is left. -/
theorem sender_drains (r : SendRun) (reply : Except Fail MacAddress) :
    (r.peer.senderPoll reply).sendQueue.channel = r.peer.sendQueue.channel.tail ∧
      (r.peer.sendQueue.channel = [] → (r.peer.senderPoll reply).background.waiting = []) := by
  have queue : (r.answeredPeer reply).sendQueue = r.peer.sendQueue := by
    unfold answeredPeer
    split
    · rfl
    · rfl
  rw [senderPoll_eq, ← queue]
  cases more : (r.answeredPeer reply).sendQueue.channel with
  | nil =>
    rw [UdpPeer.senderIterate_nil (p := { r.answeredPeer reply with background := .top }) more]
    exact ⟨more, fun _ => rfl⟩
  | cons slot rest =>
    rw [UdpPeer.senderIterate_cons (p := { r.answeredPeer reply with background := .top }) more]
    exact ⟨rfl, nofun⟩

theorem answered_items (r : SendRun) (reply : Except Fail MacAddress) :
    (r.answered reply).map Entry.item = r.ledger.map Entry.item := by
  unfold SendRun.answered
  split
  · exact Ledger.map_item_settle _ _ _ _
  · exact Ledger.map_item_settle _ _ _ _
  · rfl

/-- Enough polls of the sender leave nothing waiting. -/
theorem run_sender (replies : List (Except Fail MacAddress))
    (enough : r.Drained ∨ r.peer.sendQueue.channel.length < replies.length) :
    ∃ r', Machine.run step r (replies.map .sender) = .ok r' ∧ r'.Drained ∧
      r'.ledger.map Entry.item = r.ledger.map Entry.item := by
  induction replies generalizing r with
  | nil =>
    have drained := enough.resolve_right (Nat.not_lt_zero _)
    exact ⟨r, rfl, drained, rfl⟩
  | cons reply rest ih =>
    obtain ⟨shorter, idle⟩ := sender_drains r reply
    have next : Drained ⟨r.peer.senderPoll reply, r.answered reply⟩ ∨
        (r.peer.senderPoll reply).sendQueue.channel.length < rest.length := by
      cases more : r.peer.sendQueue.channel with
      | nil => exact .inl ⟨shorter.trans (by rw [more]; rfl), idle more⟩
      | cons slot others =>
        refine .inr ?_
        rcases enough with ⟨empty, -⟩ | enough
        · cases more.symm.trans empty
        · rw [more, List.length_cons, List.length_cons] at enough
          rw [shorter, more]
          exact Nat.lt_of_succ_lt_succ enough
    obtain ⟨r', ran, drained, same⟩ := ih next
    exact ⟨r', ran, drained, same.trans (r.answered_items reply)⟩

/-- **Deferred datagrams.** For every order of calls and polls of the sender, no call panics exactly when
none finds the queue full while the sender waits for a datagram. Up to then every datagram that was
accepted has at most one end, which stays; those that have none are the one the sender waits with and
those in the queue, and what was transmitted was so in the order of the calls. With enough polls of the
sender every one has its end. -/
theorem deferred_returns_iff (p : UdpPeer) (queue : p.sendQueue = .new SEND_QUEUE_MAX_SIZE)
    (idle : p.background = .top) (events : List SendEvent) :
    ((∃ r, Machine.run step (start p) events = .ok r) ↔
      Machine.Admits step (fun r event => r.crowded event = false) (start p) events) ∧
    ∀ r, Machine.run step (start p) events = .ok r →
      (∃ done dropped, r.Accounted p.transmitted done dropped) ∧
      (∀ more r', Machine.run step r more = .ok r' → Grows r.ledger r'.ledger) ∧
      ∀ replies : List (Except Fail MacAddress), r.peer.sendQueue.channel.length < replies.length →
        ∃ r', Machine.run step r (replies.map .sender) = .ok r' ∧
          r'.ledger.map Entry.item = r.ledger.map Entry.item ∧
          ∀ entry ∈ r'.ledger, entry.fate ≠ none := by
  have start_sound := sound_start queue idle
  refine ⟨?_, ?_⟩
  · exact Machine.run_ok_iff_admits (Sound p.transmitted) (fun r event => r.crowded event = false)
      step_sound (fun h => step_returns h.tended) start_sound
  · intro r ran
    have sound := Machine.invariant (Sound p.transmitted) step_sound start_sound ran
    refine ⟨sound.accounted, fun more r' ran' => run_grows sound ran', ?_⟩
    intro replies enough
    obtain ⟨r', ran', drained, same⟩ := run_sender replies (.inr enough)
    have sound' := Machine.invariant (Sound p.transmitted) step_sound sound ran'
    obtain ⟨done, dropped, accounted⟩ := sound'.accounted
    exact ⟨r', ran', same, accounted.all_over drained⟩

/-- A datagram of the socket to a remote that is not resolved. -/
def samplePush : SendEvent := .pushto 1 [1, 2] ⟨0x0a000002, 90⟩ 0

/-- What an ARP query fails with that nobody answers. -/
def sampleTimeout : Fail := { errno := .ETIMEDOUT, cause := "ARP query timeout" }

/-- The first of two datagrams is transmitted, and the query for the second fails. -/
theorem deferred_returns_iff_two :
    ∃ r, Machine.run step (start samplePeer)
        [.sender (.ok 9), samplePush, samplePush, .sender (.ok 9), .sender (.ok 9),
          .sender (.error sampleTimeout)] = .ok r ∧
      r.ledger.map Entry.fate = [some (.transmitted 9), some .unresolved] ∧
      ∃ done dropped, r.Accounted [] done dropped := by
  obtain ⟨r, ran, fates⟩ := Machine.map_eq_ok
    (x := Machine.run step (start samplePeer)
      [.sender (.ok 9), samplePush, samplePush, .sender (.ok 9), .sender (.ok 9),
        .sender (.error sampleTimeout)])
    (fun r => r.ledger.map Entry.fate) (t := [some (.transmitted 9), some .unresolved])
    (by decide +kernel)
  exact ⟨r, ran, fates, ((deferred_returns_iff samplePeer rfl rfl _).2 r ran).1⟩

/-- While the sender waits for a datagram, the queue takes as many as it has room for. -/
theorem run_pushes (rest : List SendEvent) {n : Nat} (h : r.peer.Tended)
    (bound : r.peer.sockets = samplePeer.sockets) (waits : r.peer.background = .awaitPop)
    (room : r.peer.sendQueue.channel.length + n ≤ SEND_QUEUE_MAX_SIZE) :
    ∃ r', Machine.run step r (List.replicate n samplePush ++ rest) = Machine.run step r' rest ∧
      r'.peer.Tended ∧ r'.peer.sockets = samplePeer.sockets ∧ r'.peer.background = .awaitPop ∧
      r'.peer.sendQueue.channel.length = r.peer.sendQueue.channel.length + n := by
  induction n generalizing r with
  | zero => exact ⟨r, rfl, h, bound, waits, rfl⟩
  | succ n ih =>
    have found : r.peer.sockets.lookup 1 = some (some ⟨0x0a000001, 80⟩) := by
      rw [bound]
      rfl
    have few : r.peer.sendQueue.channel.length ≠ SEND_QUEUE_MAX_SIZE := by omega
    have free : r.crowded samplePush = false := by simp [samplePush, crowded, few]
    have keeps : r.peer.sendQueue.overflow = 0 := if_neg (h.capacity ▸ few)
    have stepped := step_queued h found free
    rw [keeps] at stepped
    have tended := step_tended h stepped
    obtain ⟨r', ran, tended', bound', waits', length⟩ := ih tended bound waits (by
      simp only [List.drop_zero, List.length_append, List.length_singleton]
      omega)
    refine ⟨r', ?_, tended', bound', waits', ?_⟩
    · rw [← ran, List.replicate_succ, List.cons_append, Machine.run, samplePush, stepped]
    · rw [length]
      simp only [List.drop_zero, List.length_append, List.length_singleton]
      omega

/-- The sender waits for a datagram, and the user sends one more than there is room for. -/
theorem deferred_crashes :
    Machine.run step (start samplePeer)
      (.sender (.ok 9) :: (List.replicate SEND_QUEUE_MAX_SIZE samplePush ++ [samplePush])) =
        .error .alreadyBorrowed := by
  have sound := sound_start (p := samplePeer) rfl rfl
  have waiting : (start samplePeer).step (.sender (.ok 9)) =
      .ok ⟨samplePeer.senderPoll (.ok 9), []⟩ := rfl
  have tended := step_tended sound.tended waiting
  obtain ⟨r, ran, tended, bound, waits, full⟩ :=
    run_pushes [samplePush] (n := SEND_QUEUE_MAX_SIZE) tended rfl rfl (by decide)
  have crowded : r.crowded samplePush = true := by
    change ((r.peer.sockets.lookup 1).join.isSome && r.peer.background == .awaitPop &&
      r.peer.sendQueue.channel.length == SEND_QUEUE_MAX_SIZE) = true
    have found : samplePeer.sockets.lookup 1 = some (some ⟨0x0a000001, 80⟩) := rfl
    have length : r.peer.sendQueue.channel.length = SEND_QUEUE_MAX_SIZE := full.trans (Nat.zero_add _)
    rw [bound, waits, length, found]
    simp
  have crash : r.step samplePush = .error .alreadyBorrowed := step_crash tended crowded
  rw [Machine.run, waiting]
  dsimp only
  rw [ran, Machine.run, crash]

end SendRun

end Inetstack.Udp
