import Inetstack.Tcp.Network
import Inetstack.Laws.Tcp.Established.Transmission

/-!
# What one end reads is what the other end was given

The two halves meet here. Every byte one end has transmitted stands at its number, so every byte
that arrives does, whatever the network does with the segments; so every byte the other end has
received does, and what it has read is a prefix of what was sent. The numbers are told apart as long
as the sender has used fewer than `2 ^ 31` of them.
-/

namespace Inetstack.Tcp

open Machine (bind_eq_ok)

/-- Received bytes that stand where transmitted bytes may are a prefix of the stream: the number of
the FIN belongs to no byte, so nothing past it continues them. -/
theorem prefix_of_textByte {base : SeqNumber} {S bytes : List UInt8} {fin : Bool}
    (short : S.length < 2 ^ 32) (h : Labelled (textByte base S fin) base bytes) : bytes <+: S := by
  apply prefix_of_agrees
  intro i b hi le
  have offset := toNat_offset base (k := i) (by omega)
  rcases h.get hi with here | ⟨-, past⟩
  · unfold streamByte at here
    rwa [offset] at here
  · rw [offset] at past
    omega

namespace Endpoint

variable {σ : Type} {base : SeqNumber} {S : List UInt8} {fin : Bool} {e : Endpoint σ}

theorem Transmits.prefix_accepted (h : e.Transmits base S fin) :
    S <+: e.history.accepted.flatten := by
  cases fin with
  | false =>
    rw [(h.streaming rfl).accepted]
    exact List.prefix_append _ _
  | true => exact (h.finished rfl).accepted

theorem Transmits.length_le_used (h : e.Transmits base S fin) : S.length ≤ e.history.used := by
  cases fin with
  | false => exact (h.streaming rfl).used.ge
  | true => exact (h.finished rfl).past.le

/-- A new control block has transmitted no text. -/
theorem opened_transmits [CongestionControl σ] {o : Opening}
    (handshake : ∀ segment ∈ o.rt.transmitted, segment.data = []) :
    (opened (σ := σ) o).Transmits o.senderSeqNo [] false where
  streaming := fun _ =>
    ⟨rfl, (add_zero o.senderSeqNo).symm, rfl, (add_zero o.senderSeqNo).symm,
      fun x captured => by cases captured⟩
  finished := fun h => by cases h
  small := fun _ member => absurd member List.not_mem_nil
  probe := fun x buf mac timeout probing => by cases probing
  log := by
    intro segment member
    rw [handshake segment member]
    trivial

end Endpoint

/-- The two ends of one handshake: each has the address of the other, and expects its first number. -/
def Opening.Meets (a b : Opening) : Prop :=
  a.localAddr = b.remoteAddr ∧ a.remoteAddr = b.localAddr ∧ a.senderSeqNo = b.receiverSeqNo ∧
    a.receiverSeqNo = b.senderSeqNo

namespace Connection

section

variable {σ : Type} [CongestionControl σ] {base : SeqNumber} {a a' b b' : Endpoint σ}

/-- Every byte A has transmitted, and every byte B has received, stands at its number. -/
def Agrees (base : SeqNumber) (a b : Endpoint σ) : Prop :=
  a.history.used < 2 ^ 31 → ∃ S fin, a.Transmits base S fin ∧
    b.cb.receiveSide.Holds (textByte base S fin) base b.history.delivered

/-- **One event of A keeps the agreement**: what it transmits extends the stream B has a part of. -/
theorem Agrees.stepSender (h : Agrees base a b) (event : Event) (stepped : a.step event = .ok a') :
    Agrees base a' b := by
  intro bound
  obtain ⟨S, fin, transmits, holds⟩ := h (lt_of_le_of_lt (Endpoint.step_used_le stepped) bound)
  obtain ⟨S', fin', transmits', grows⟩ :=
    Endpoint.step_transmits transmits stepped (lt_trans bound (by decide))
  exact ⟨S', fin', transmits', holds.mono grows⟩

/-- **One event of B keeps the agreement**, as long as a segment that arrives is one A has transmitted. -/
theorem Agrees.stepReceiver (h : Agrees base a b) (event : Event)
    (own : ∀ header data env, event = .receive header data env →
      ∃ segment ∈ a.cb.rt.transmitted, header = segment.tcpHdr ∧ data = segment.data)
    (stepped : b.step event = .ok b') : Agrees base a b' := by
  intro bound
  obtain ⟨S, fin, transmits, holds⟩ := h bound
  refine ⟨S, fin, transmits, Endpoint.step_holds holds ?_ stepped⟩
  intro header data env arrival
  obtain ⟨segment, member, rfl, rfl⟩ := own header data env arrival
  exact transmits.log segment member

/-- **A run keeps the agreement**, whatever the network does with the segments. -/
theorem run_agrees {events : List ConnectionEvent} (start : Agrees base a b)
    (ran : Connection.run (a, b) events = .ok (a', b')) : Agrees base a' b' := by
  refine Network.invariant (R := Agrees base) ?_ ?_ ?_ ?_ start ran
  · intro s s' t e _ agrees stepped
    exact agrees.stepSender (.call e.1 e.2) stepped
  · intro s t t' e _ agrees stepped
    exact agrees.stepReceiver (.call e.1 e.2) (fun _ _ _ arrival => by cases arrival) stepped
  · intro s s' t segment env agrees _ arrived
    exact agrees.stepSender (.receive segment.tcpHdr segment.data env) arrived
  · intro s t t' segment env agrees sent arrived
    refine agrees.stepReceiver (.receive segment.tcpHdr segment.data env) ?_ arrived
    intro header data env' arrival
    cases arrival
    exact ⟨segment, sent, rfl, rfl⟩

end

/-- **End-to-end prefix safety.** Two control blocks that start from a completed handshake, any
calls on either, any network that alters nothing: while A has used fewer than `2 ^ 31` sequence
numbers, what B's user has read is a prefix of what A's user has sent. -/
theorem delivered_prefix_accepted (openA openB : Opening) (meets : openA.Meets openB)
    (events : List ConnectionEvent) (a b : Endpoint CongestionControl.None)
    (handshake : ∀ segment ∈ openA.rt.transmitted, segment.data = [])
    (ran : Connection.run (.opened openA, .opened openB) events = .ok (a, b))
    (few : a.history.used < 2 ^ 31) :
    b.history.delivered.flatten <+: a.history.accepted.flatten := by
  obtain ⟨-, -, first, -⟩ := meets
  have agrees : Agrees openA.senderSeqNo a b := by
    refine run_agrees ?_ ran
    intro _
    refine ⟨[], false, Endpoint.opened_transmits handshake, ?_⟩
    rw [first]
    exact Endpoint.opened_holds openB
  obtain ⟨S, fin, transmits, holds⟩ := agrees few
  have short : S.length < 2 ^ 32 := by
    have := transmits.length_le_used
    omega
  have received := prefix_of_textByte short holds.received
  exact ((List.prefix_append _ _).trans received).trans transmits.prefix_accepted

/-- The handshake of the other end of the sample connection. -/
def samplePeer (receiveNext sendNext : SeqNumber) : Opening :=
  { sampleOpening receiveNext sendNext 100 100 1460 with
    localAddr := ⟨2, 20⟩, remoteAddr := ⟨1, 10⟩, rt := ⟨9, sampleConfig, []⟩ }

/-- A sends twice, the second segment arrives first and twice, and B reads what it can. -/
theorem delivered_prefix_accepted_reordered :
    ∃ a b : Endpoint CongestionControl.None,
      Connection.run (.opened (sampleOpening ⟨50⟩ ⟨7⟩ 100 100 1460), .opened (samplePeer ⟨7⟩ ⟨50⟩))
        [.left (.send [1, 2], sampleEnv), .left (.send [3], sampleEnv), .toRight 1 sampleEnv,
          .toRight 1 sampleEnv, .toRight 0 sampleEnv, .right (.pollRecv, sampleEnv),
          .right (.pollRecv, sampleEnv)] = .ok (a, b) ∧
      b.history.delivered = [[1, 2], [3]] ∧
      b.history.delivered.flatten <+: a.history.accepted.flatten := by
  obtain ⟨⟨a, b⟩, ran, view⟩ := Machine.map_eq_ok
    (x := Connection.run (σ := CongestionControl.None)
      (.opened (sampleOpening ⟨50⟩ ⟨7⟩ 100 100 1460), .opened (samplePeer ⟨7⟩ ⟨50⟩))
      [.left (.send [1, 2], sampleEnv), .left (.send [3], sampleEnv), .toRight 1 sampleEnv,
        .toRight 1 sampleEnv, .toRight 0 sampleEnv, .right (.pollRecv, sampleEnv),
        .right (.pollRecv, sampleEnv)])
    (fun c => (c.2.history.delivered, c.1.history.used))
    (t := ([[1, 2], [3]], 3)) (by decide +kernel)
  obtain ⟨delivered, used⟩ := Prod.mk.inj view
  refine ⟨a, b, ran, delivered, delivered_prefix_accepted (sampleOpening ⟨50⟩ ⟨7⟩ 100 100 1460)
    (samplePeer ⟨7⟩ ⟨50⟩) ⟨rfl, rfl, rfl, rfl⟩ _ a b ?_ ran (by rw [used]; decide)⟩
  exact fun _ member => absurd member List.not_mem_nil

end Connection

end Inetstack.Tcp
