import Inetstack.Laws.Tcp.Established.Delivery
import Inetstack.Laws.Tcp.Established.Emission

/-!
# The delayed ACK

What a connection has received and not acknowledged is covered by a running timer. So of two segments in
a row whose data are delivered, the second finds the timer of the first still running, and is answered
at once, or finds that something has been said in between, which acknowledged the first.
-/

namespace Inetstack.Tcp

namespace Endpoint

open ControlBlock (Answers Silent Speaks)

variable {σ : Type}

/-- The ACK number said last, which at first is that of the handshake. -/
def lastAck (handshake : SeqNumber) (said : List TcpSegment) : SeqNumber :=
  match said.getLast? with
  | some segment => segment.tcpHdr.ackNum
  | none => handshake

/-- Data have been added to the receive queue. -/
def Delivers (e e' : Endpoint σ) : Prop :=
  e.cb.receiver.recvQueue.length < e'.cb.receiver.recvQueue.length

/-- The link address of the peer is known. -/
def Resolved (event : Event) : Prop := event.env.remoteLinkAddr.isSome = true

variable [CongestionControl σ] {start e e' : Endpoint σ}

/-! ## What is owed -/

/-- Whatever has been received is acknowledged, or the timer runs. -/
structure Owes (start e : Endpoint σ) : Prop where
  kept : start.cb.rt.transmitted <+: e.cb.rt.transmitted
  timed : e.cb.receiver.receiveNext ≠ lastAck start.cb.receiver.receiveNext (start.said e) →
    e.cb.ackDeadline.isSome = true

theorem step_owes {event : Event} (resolved : Resolved event) (h : Owes start e)
    (stepped : e.step event = .ok e') : Owes start e' := by
  cases step_speaks stepped with
  | silent silent =>
    refine ⟨silent.rt ▸ h.kept, ?_⟩
    rw [said, silent.rt, silent.receiveNext, silent.ackDeadline]
    exact h.timed
  | answers answers =>
    cases answers with
    | emits segment emitted =>
      refine ⟨?_, ?_⟩
      · rw [emitted.rt]
        exact h.kept.trans (List.prefix_append _ _)
      · intro differs
        refine absurd ?_ differs
        rw [said_transmit h.kept emitted.rt, lastAck, List.getLast?_concat]
        exact emitted.ackNum.symm
    | defers idle same running => exact ⟨same ▸ h.kept, fun _ => running⟩
    | unresolved unknown same =>
      rw [Resolved, unknown] at resolved
      cases resolved

/-! ## Two deliveries in a row -/

/-- The receive side after in-order text: the queue has grown, or nothing has moved, or the peer has
finished. -/
theorem inOrder_cases (r : ReceiveSide) (seg : InSegment) :
    (r.receiver.recvQueue.length < (r.inOrder seg).receiver.recvQueue.length ∧ r.peer = .sending) ∨
    (r.inOrder seg = r) ∨
    ((r.inOrder seg).receiver.recvQueue = r.receiver.recvQueue ∧ (r.inOrder seg).peer ≠ .sending) := by
  have grows (buf : Buffer) : r.receiver.recvQueue.length < (r.takeData buf).receiver.recvQueue.length := by
    have drained := (ReceiveSide.drainOutOfOrder_queue (r.receiver.receiveNext + .ofLen buf.length)
      (r.receiver.push buf) r.outOfOrder).length_le
    rw [Receiver.push, List.length_append] at drained
    exact Nat.lt_of_lt_of_le (Nat.lt_succ_self _) drained
  rw [ReceiveSide.inOrder]
  split
  next text =>
    refine .inl ⟨?_, text.2⟩
    split
    · exact grows seg.data
    · exact grows seg.data
  next =>
    split
    · refine .inr (.inr ⟨rfl, ?_⟩)
      intro sending
      cases sending
    · exact .inr (.inl rfl)

/-- **What an event does to RCV.NXT.** Only data and a FIN move it on, and data only while the peer is
sending. -/
theorem step_receiveNext {event : Event} (stepped : e.step event = .ok e') :
    (e.Delivers e' ∧ e.cb.state.peerSide = .sending) ∨
    ¬e.Delivers e' ∧
      (e'.cb.receiver.receiveNext = e.cb.receiver.receiveNext ∧
        (e'.cb.state.peerSide = .sending → e.cb.state.peerSide = .sending) ∨
      e'.cb.state.peerSide ≠ .sending) := by
  have unmoved {e' : Endpoint σ} (receiver : e'.cb.receiveSide.receiver = e.cb.receiveSide.receiver)
      (peer : e'.cb.receiveSide.peer = .sending → e.cb.receiveSide.peer = .sending) :
      ¬e.Delivers e' ∧ (e'.cb.receiver.receiveNext = e.cb.receiver.receiveNext ∧
        (e'.cb.state.peerSide = .sending → e.cb.state.peerSide = .sending) ∨
        e'.cb.state.peerSide ≠ .sending) := by
    have receiver : e'.cb.receiver = e.cb.receiver := receiver
    refine ⟨?_, .inl ⟨congrArg _ receiver, peer⟩⟩
    rw [Delivers, receiver]
    exact Nat.lt_irrefl _
  cases step_receiveStep stepped with
  | untouched side delivered peerFin =>
    exact .inr (unmoved (congrArg _ side) fun sending => side ▸ sending)
  | @read env _ buf receiver popped side delivered peerFin =>
    obtain ⟨rest, queue, rfl⟩ := Receiver.pop_cases popped
    have receiver := congrArg ReceiveSide.receiver side
    have queue : e.cb.receiver.recvQueue = buf :: rest := queue
    have shorter := congrArg Receiver.recvQueue receiver
    have next := congrArg Receiver.receiveNext receiver
    refine .inr ⟨?_, .inl ⟨next, fun sending => ?_⟩⟩
    · have shorter : e'.cb.receiver.recvQueue = rest := shorter
      rw [Delivers, shorter, queue]
      exact Nat.not_lt.mpr (Nat.le_succ _)
    · exact (congrArg ReceiveSide.peer side).symm.trans sending
  | received side delivered peerFin =>
    generalize final : e'.cb.receiveSide = r at side
    have receiver : e'.cb.receiver = r.receiver := congrArg ReceiveSide.receiver final
    have peer : e'.cb.state.peerSide = r.peer := congrArg ReceiveSide.peer final
    -- a segment does not bring the peer's side back to sending
    have kept {peer' : PeerSide}
        (acked : peer' = e.cb.receiveSide.peer ∨ e.cb.receiveSide.peer = .finished ∧ peer' = .gone)
        (sending : peer' = .sending) : e.cb.receiveSide.peer = .sending := by
      rcases acked with same | ⟨-, gone⟩
      · exact same.symm.trans sending
      · cases gone.symm.trans sending
    cases side with
    | dropped => exact .inr (unmoved receiver fun sending => peer.symm.trans sending)
    | gone => exact .inr (unmoved receiver fun sending => by cases peer.symm.trans sending)
    | @inOrder seg peer' accepted goes noSyn acked atNext expected =>
      rcases inOrder_cases { e.cb.receiveSide with peer := peer' } seg with
        ⟨longer, sending⟩ | same | ⟨queue, finished⟩
      -- the queue is longer, nothing happens, or the FIN is consumed without text
      · refine .inl ⟨?_, kept acked sending⟩
        rw [Delivers, receiver]
        exact longer
      · rw [same] at receiver peer
        exact .inr (unmoved receiver fun sending => kept acked (peer.symm.trans sending))
      · refine .inr ⟨?_, .inr ?_⟩
        · rw [Delivers, receiver, queue]
          exact Nat.lt_irrefl _
        · rwa [peer]
    | @outOfOrder seg peer' _ accepted goes noSyn acked later stored =>
      obtain ⟨store, fin, rfl, -, -⟩ := ReceiveSide.store_cases stored
      exact .inr (unmoved receiver fun sending => kept acked (peer.symm.trans sending))

/-- Since `e` took the first segment, RCV.NXT has stood still, and the timer runs or something has been
said; or the peer has finished. `before` is the connection before that segment. -/
structure Covers (before first e : Endpoint σ) : Prop where
  kept : before.cb.rt.transmitted <+: e.cb.rt.transmitted
  covered : e.cb.state.peerSide = .sending →
    e.cb.receiver.receiveNext = first.cb.receiver.receiveNext ∧
      (e.cb.ackDeadline.isSome = true ∨
        ∃ segment ∈ before.said e, segment.tcpHdr.ackNum = first.cb.receiver.receiveNext)

variable {before first : Endpoint σ}

theorem covers_of_delivers {event : Event} (resolved : Resolved event) (delivers : before.Delivers first)
    (stepped : before.step event = .ok first) : Covers before first first := by
  cases step_speaks stepped with
  | silent silent => exact absurd delivers (Nat.not_lt.mpr silent.recvQueue)
  | answers answers =>
    cases answers with
    | emits segment emitted =>
      refine ⟨emitted.rt ▸ List.prefix_append _ _, fun _ => ⟨rfl, .inr ⟨segment, ?_, emitted.ackNum⟩⟩⟩
      rw [said, emitted.rt, Runtime.transmit, List.drop_left]
      exact List.mem_singleton_self segment
    | defers idle same running => exact ⟨same ▸ List.prefix_rfl, fun _ => ⟨rfl, .inl running⟩⟩
    | unresolved unknown same =>
      rw [Resolved, unknown] at resolved
      cases resolved

theorem step_covers {event : Event} (resolved : Resolved event) (h : Covers before first e)
    (quiet : ¬e.Delivers e') (stepped : e.step event = .ok e') : Covers before first e' := by
  have moved : e'.cb.state.peerSide = .sending →
      e'.cb.receiver.receiveNext = e.cb.receiver.receiveNext ∧ e.cb.state.peerSide = .sending := by
    intro sending
    rcases step_receiveNext stepped with ⟨delivers, -⟩ | ⟨-, ⟨next, peer⟩ | finished⟩
    · exact absurd delivers quiet
    · exact ⟨next, peer sending⟩
    · exact absurd sending finished
  cases step_speaks stepped with
  | silent silent =>
    refine ⟨silent.rt ▸ h.kept, fun sending => ?_⟩
    obtain ⟨next, sending⟩ := moved sending
    rw [next, silent.ackDeadline, said, silent.rt]
    exact h.covered sending
  | answers answers =>
    cases answers with
    | emits segment emitted =>
      refine ⟨emitted.rt ▸ h.kept.trans (List.prefix_append _ _), fun sending => ?_⟩
      obtain ⟨next, sending⟩ := moved sending
      have same := next.trans (h.covered sending).1
      refine ⟨same, .inr ⟨segment, ?_, emitted.ackNum.trans same⟩⟩
      rw [said_transmit h.kept emitted.rt]
      exact List.mem_append_right _ (List.mem_singleton_self segment)
    | defers idle same running =>
      refine ⟨same ▸ h.kept, fun sending => ?_⟩
      obtain ⟨next, sending⟩ := moved sending
      exact ⟨next.trans (h.covered sending).1, .inl running⟩
    | unresolved unknown same =>
      rw [Resolved, unknown] at resolved
      cases resolved

/-- The second segment finds the first acknowledged, or is acknowledged itself. -/
theorem covered_of_delivers {event : Event} (resolved : Resolved event) (h : Covers before first e)
    (delivers : e.Delivers e') (stepped : e.step event = .ok e') :
    ∃ segment ∈ before.said e', segment.tcpHdr.ackNum = first.cb.receiver.receiveNext ∨
      segment.tcpHdr.ackNum = e'.cb.receiver.receiveNext := by
  rcases step_receiveNext stepped with ⟨-, sending⟩ | ⟨quiet, -⟩
  swap
  · exact absurd delivers quiet
  cases step_speaks stepped with
  | silent silent => exact absurd delivers (Nat.not_lt.mpr silent.recvQueue)
  | answers answers =>
    cases answers with
    | emits segment emitted =>
      refine ⟨segment, ?_, .inr emitted.ackNum⟩
      rw [said_transmit h.kept emitted.rt]
      exact List.mem_append_right _ (List.mem_singleton_self segment)
    | defers idle same running =>
      -- the timer has just been started, so it was not running and something has been said
      obtain ⟨-, running' | ⟨segment, member, ackNum⟩⟩ := h.covered sending
      · rw [idle] at running'
        cases running'
      · refine ⟨segment, ?_, .inl ackNum⟩
        rwa [said, same]
    | unresolved unknown same =>
      rw [Resolved, unknown] at resolved
      cases resolved

/-! ## Runs -/

/-- **No byte goes unacknowledged without a timer.** In every run of a new connection whose peer's link
address is known throughout: while RCV.NXT is not the ACK number said last, the timer of the delayed
ACK runs; and of two segments whose data are delivered, with no delivery in between, the first is
acknowledged once the second has been taken, by a segment said since the first arrived. -/
theorem unacknowledged_is_timed (cb : ControlBlock σ) (events : List Event)
    (resolved : ∀ event ∈ events, Resolved event)
    (ran : (Endpoint.start cb).run events = .ok e) :
    (e.cb.receiver.receiveNext ≠ lastAck cb.receiver.receiveNext ((Endpoint.start cb).said e) →
      e.cb.ackDeadline.isSome = true) ∧
    ∀ (one two : Event) (between : List Event) (first second last : Endpoint σ),
      (∀ event ∈ one :: two :: between, Resolved event) →
      e.step one = .ok first → e.Delivers first → first.run between = .ok second →
      Machine.Admits step (fun s event => ∀ s', s.step event = .ok s' → ¬s.Delivers s') first between →
      second.step two = .ok last → second.Delivers last →
      ∃ segment ∈ e.said last, segment.tcpHdr.ackNum = first.cb.receiver.receiveNext ∨
        segment.tcpHdr.ackNum = last.cb.receiver.receiveNext := by
  constructor
  · have start : Owes (Endpoint.start cb) (Endpoint.start cb) := by
      refine ⟨List.prefix_rfl, fun differs => absurd ?_ differs⟩
      rw [said, List.drop_length]
      rfl
    exact (Machine.invariant_of_admits (Owes (Endpoint.start cb)) (fun _ event => Resolved event)
      (fun h resolved stepped => step_owes resolved h stepped) start
      (Machine.admits_of_forall resolved _) ran).timed
  · intro one two between first second last resolved stepped delivers ran quiet stepped' delivers'
    rw [List.forall_mem_cons, List.forall_mem_cons] at resolved
    obtain ⟨resolved₁, resolved₂, resolved⟩ := resolved
    have covers : Covers e first second :=
      Machine.invariant_of_admits (Covers e first) _
        (fun h admitted stepped => step_covers admitted.1 h (admitted.2 _ stepped) stepped)
        (covers_of_delivers resolved₁ delivers stepped)
        ((Machine.admits_of_forall resolved first).and quiet) ran
    exact covered_of_delivers resolved₂ covers delivers' stepped'

/-- Two bytes, and then one. -/
def sampleText (seqNum : UInt32) (data : Buffer) : Event :=
  .receive (sampleHeader seqNum 40 10) data sampleEnv

theorem unacknowledged_is_timed_twice :
    ∃ first last, (Endpoint.start (sampleBlock ⟨50⟩ ⟨40⟩ 100 10 10)).step (sampleText 50 [1, 2]) = .ok first ∧
      first.step (sampleText 52 [3]) = .ok last ∧
      first.cb.ackDeadline.isSome = true ∧
      ∃ segment ∈ (Endpoint.start (sampleBlock ⟨50⟩ ⟨40⟩ 100 10 10)).said last,
        segment.tcpHdr.ackNum = first.cb.receiver.receiveNext ∨
          segment.tcpHdr.ackNum = last.cb.receiver.receiveNext := by
  obtain ⟨first, stepped, view⟩ := Machine.map_eq_ok
    (x := (Endpoint.start (sampleBlock ⟨50⟩ ⟨40⟩ 100 10 10)).step (sampleText 50 [1, 2]))
    (fun first => (first.cb.receiver.recvQueue, first.cb.ackDeadline.isSome,
      (first.step (sampleText 52 [3])).map fun last => last.cb.receiver.recvQueue))
    (t := ([[1, 2]], true, .ok [[1, 2], [3]])) (by decide +kernel)
  simp only [Prod.mk.injEq] at view
  obtain ⟨queue, running, view⟩ := view
  obtain ⟨last, stepped', queue'⟩ := Machine.map_eq_ok _ view
  have resolved : ∀ event ∈ [sampleText 50 [1, 2], sampleText 52 [3]], Resolved event := by
    simp [Resolved, sampleText, Event.env, sampleEnv]
  obtain ⟨-, twice⟩ := unacknowledged_is_timed (sampleBlock ⟨50⟩ ⟨40⟩ 100 10 10) [] (by simp) rfl
  refine ⟨first, last, stepped, stepped', running, ?_⟩
  refine twice _ _ [] first first last resolved stepped ?_ rfl trivial stepped' ?_
  · rw [Delivers, queue]
    exact Nat.zero_lt_succ _
  · rw [Delivers, queue, queue']
    exact Nat.lt_succ_self _

end Endpoint

end Inetstack.Tcp
