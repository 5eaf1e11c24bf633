import Inetstack.Tcp.ActiveOpen
import Inetstack.Lib.Machine
import Inetstack.Laws.Tcp.Established.Endpoint

/-!
# The result of a connect attempt

A SYN+ACK leaves a control block in the result slot, for the user's next poll to take. Until then the
slot is not safe: the retry task runs on and overwrites it when it gives up, and so do a refusal and a
SYN+ACK with another sequence number. `keepsResult` names the events that leave a success in place.
-/

namespace Inetstack.Tcp

open Machine (bind_eq_ok Admits)

/-- Two control blocks start from the same numbers on both sides. -/
structure ControlBlock.SameNumbers {σ : Type} (cb cb' : ControlBlock σ) : Prop where
  sendUnacked : cb'.sender.sendUnacked = cb.sender.sendUnacked
  sendNext : cb'.sender.sendNext = cb.sender.sendNext
  receiver : cb'.receiver = cb.receiver

namespace ActiveOpenSocket

/-- The control block of a SYN+ACK numbered `remoteIsn`, for an attempt numbered `localIsn`. -/
structure Numbered (localIsn remoteIsn : SeqNumber) (cb : ControlBlock CongestionControl.None) :
    Prop where
  sendUnacked : cb.sender.sendUnacked = localIsn + SeqNumber.mk 1
  sendNext : cb.sender.sendNext = localIsn + SeqNumber.mk 1
  receiver : cb.receiver =
    Receiver.new (remoteIsn + SeqNumber.mk 1) (remoteIsn + SeqNumber.mk 1)

theorem Numbered.same {localIsn remoteIsn : SeqNumber}
    {cb cb' : ControlBlock CongestionControl.None} (h : Numbered localIsn remoteIsn cb)
    (h' : Numbered localIsn remoteIsn cb') : cb.SameNumbers cb' where
  sendUnacked := h'.sendUnacked.trans h.sendUnacked.symm
  sendNext := h'.sendNext.trans h.sendNext.symm
  receiver := h'.receiver.trans h.receiver.symm

/-- The events that leave a success in the result slot: a segment other than a refusal and a SYN+ACK
with another sequence number, and a poll of the retry task that does not give up. -/
def keepsResult (s : ActiveOpenSocket) (event : ConnectEvent) : Bool :=
  match s.result, event with
  | some (.ok cb), .receive header _ =>
    !(header.ack && header.ackNum == s.localIsn + SeqNumber.mk 1) ||
      !header.rst && (!header.syn || header.seqNum + SeqNumber.mk 1 == cb.receiver.receiveNext)
  | some (.ok _), .retry poll =>
    (s.handle.poll s.rt.tcpOptions.handshakeRetries poll).2 != .giveUp
  | _, _ => true

/-- The result slot holds a control block that starts from the numbers of `cb`. -/
def Succeeded (s : ActiveOpenSocket) (cb : ControlBlock CongestionControl.None) : Prop :=
  ∃ cb', s.result = some (.ok cb') ∧ cb.SameNumbers cb'

variable {fallbackMss : Nat} {s s' : ActiveOpenSocket}

theorem controlBlock_numbered {header : TcpHeader} {cb : ControlBlock CongestionControl.None}
    (built : s.controlBlock fallbackMss header = .ok cb) : Numbered s.localIsn header.seqNum cb := by
  unfold controlBlock at built
  dsimp only at built
  split at built
  · obtain ⟨rx, -, built⟩ := bind_eq_ok.mp built
    obtain ⟨tx, -, built⟩ := bind_eq_ok.mp built
    cases built
    exact ⟨rfl, rfl, rfl⟩
  · cases built

/-- **What a segment does to the result of a connect attempt.** -/
theorem receive_result {env : Env} {header : TcpHeader}
    (ran : s.receive fallbackMss env header = .ok s') :
    s'.localIsn = s.localIsn ∧
      (((header.ack && header.ackNum == s.localIsn + SeqNumber.mk 1) = false ∨
          header.rst = false ∧ header.syn = false) ∧ s' = s ∨
        (header.ack && header.ackNum == s.localIsn + SeqNumber.mk 1) = true ∧
          header.rst = true ∧ s' = s.setResult
            (.error { errno := .ECONNREFUSED, cause := "connection refused" }) ∨
        (header.ack && header.ackNum == s.localIsn + SeqNumber.mk 1) = true ∧
          header.rst = false ∧ header.syn = true ∧
          ∃ cb, Numbered s.localIsn header.seqNum cb ∧ s'.result = some (.ok cb)) := by
  unfold receive at ran
  dsimp only at ran
  split at ran
  next other =>
    cases ran
    exact ⟨rfl, .inl ⟨.inl (by rwa [Bool.not_eq_true'] at other), rfl⟩⟩
  next expected =>
  have expected : (header.ack && header.ackNum == s.localIsn + SeqNumber.mk 1) = true := by
    simpa using expected
  split at ran
  next rst =>
    cases ran
    exact ⟨rfl, .inr (.inl ⟨expected, rst, rfl⟩)⟩
  next noRst =>
  have noRst : header.rst = false := by simpa using noRst
  split at ran
  next noSyn =>
    cases ran
    exact ⟨rfl, .inl ⟨.inr ⟨noRst, by simpa using noSyn⟩, rfl⟩⟩
  next syn =>
  split at ran
  · cases ran
  · obtain ⟨cb, built, ran⟩ := bind_eq_ok.mp ran
    cases ran
    have numbered := controlBlock_numbered built
    exact ⟨rfl, .inr (.inr ⟨expected, noRst, by simpa using syn, cb, numbered, rfl⟩)⟩

/-- **What a poll of the retry task does to the result**: nothing, until it gives up. -/
theorem background_result (s : ActiveOpenSocket) (poll : RetryPoll) :
    (s.background poll).localIsn = s.localIsn ∧
      ((s.handle.poll s.rt.tcpOptions.handshakeRetries poll).2 ≠ .giveUp ∧
          (s.background poll).result = s.result ∨
        (s.handle.poll s.rt.tcpOptions.handshakeRetries poll).2 = .giveUp ∧
          (s.background poll).result =
            some (.error { errno := .ETIMEDOUT, cause := "handshake timeout" })) := by
  unfold background
  dsimp only
  split
  next nothing => exact ⟨rfl, .inl ⟨by rw [nothing]; nofun, rfl⟩⟩
  next mac transmits => exact ⟨rfl, .inl ⟨by rw [transmits]; nofun, rfl⟩⟩
  next givesUp => exact ⟨rfl, .inr ⟨givesUp, rfl⟩⟩

/-- A success is the control block of a SYN+ACK. -/
def Answered (s : ActiveOpenSocket) : Prop :=
  ∀ cb, s.result = some (.ok cb) → ∃ remoteIsn, Numbered s.localIsn remoteIsn cb

theorem step_answered {event : ConnectEvent} (answered : s.Answered)
    (stepped : s.step fallbackMss event = .ok s') : s'.Answered := by
  intro cb success
  cases event with
  | receive header env =>
    obtain ⟨isn, ⟨-, rfl⟩ | ⟨-, -, rfl⟩ | ⟨-, -, -, cb', numbered, result⟩⟩ := receive_result stepped
    · exact answered cb success
    · cases success
    · cases result.symm.trans success
      exact ⟨header.seqNum, isn ▸ numbered⟩
  | retry poll =>
    cases stepped
    obtain ⟨isn, ⟨-, result⟩ | ⟨-, result⟩⟩ := background_result s poll
    · rw [isn]
      exact answered cb (result.symm.trans success)
    · cases result.symm.trans success
  | pollResult =>
    cases stepped
    cases success

/-- **One event leaves a success in place exactly when `keepsResult` says so.** -/
theorem step_succeeded_iff {event : ConnectEvent} {cb : ControlBlock CongestionControl.None}
    (answered : s.Answered) (success : s.result = some (.ok cb)) (unpolled : event ≠ .pollResult)
    (stepped : s.step fallbackMss event = .ok s') :
    s'.Succeeded cb ↔ s.keepsResult event = true := by
  obtain ⟨remoteIsn, numbered⟩ := answered cb success
  have kept (same : s'.result = s.result) : s'.Succeeded cb :=
    ⟨cb, same.trans success, rfl, rfl, rfl⟩
  have lost {fail : Fail} (failed : s'.result = some (.error fail)) : ¬s'.Succeeded cb := by
    rintro ⟨cb', result, -⟩
    cases failed.symm.trans result
  cases event with
  | receive header env =>
    simp only [keepsResult, success]
    obtain ⟨-, ⟨ignored, rfl⟩ | ⟨expected, rst, rfl⟩ | ⟨expected, noRst, syn, cb', numbered', result⟩⟩ :=
      receive_result stepped
    · simp only [kept rfl, true_iff, Bool.or_eq_true]
      rcases ignored with other | ⟨noRst, noSyn⟩
      · exact .inl (by rw [other]; rfl)
      · exact .inr (by simp only [noRst, noSyn, Bool.not_false, Bool.true_or, Bool.and_self])
    · simp only [lost rfl, expected, rst, Bool.not_true, Bool.false_and, Bool.or_self,
        Bool.false_eq_true]
    · simp only [expected, noRst, syn, Bool.not_true, Bool.not_false, Bool.false_or, Bool.true_and,
        beq_iff_eq]
      constructor
      · rintro ⟨cb'', result', same⟩
        cases result.symm.trans result'
        have := congrArg Receiver.receiveNext same.receiver
        rwa [numbered'.receiver] at this
      · intro again
        have same : header.seqNum = remoteIsn := by
          rw [numbered.receiver] at again
          exact add_right_cancel again
        rw [same] at numbered'
        exact ⟨cb', result, numbered.same numbered'⟩
  | retry poll =>
    cases stepped
    simp only [keepsResult, success, bne_iff_ne]
    obtain ⟨-, ⟨going, result⟩ | ⟨givesUp, result⟩⟩ := background_result s poll
    · simp only [kept result, going, ne_eq, not_false_eq_true]
    · simp only [lost result, givesUp, ne_eq, not_true_eq_false]
  | pollResult => exact absurd rfl unpolled

/-- **A success is kept by the events that `keepsResult` admits, and by no others.** Wherever a run has
left a control block in the result slot, one more event other than the user's poll leaves one with the
same numbers exactly if it is admitted; and after any number of admitted events the user's poll takes
one with the same numbers. -/
theorem connect_result_final (fallbackMss : Nat) (localIsn : SeqNumber)
    (localAddr remoteAddr : SocketAddrV4) (rt : Runtime) (events : List ConnectEvent)
    (s : ActiveOpenSocket) (cb : ControlBlock CongestionControl.None)
    (ran : Machine.run (step fallbackMss) (ActiveOpenSocket.new localIsn localAddr remoteAddr rt)
      events = .ok s)
    (success : s.result = some (.ok cb)) :
    (∀ event s', event ≠ .pollResult → s.step fallbackMss event = .ok s' →
      (s'.Succeeded cb ↔ s.keepsResult event = true)) ∧
    ∀ later s', (∀ event ∈ later, event ≠ .pollResult) →
      Machine.run (step fallbackMss) s later = .ok s' →
      Admits (step fallbackMss) (fun s event => s.keepsResult event = true) s later →
      ∃ cb', s'.pollResult.1 = some (.ok cb') ∧ cb.SameNumbers cb' := by
  have answered : s.Answered :=
    Machine.invariant Answered (fun h stepped => step_answered h stepped)
      (fun cb success => by cases success) ran
  refine ⟨fun event s' unpolled stepped => step_succeeded_iff answered success unpolled stepped, ?_⟩
  intro later s' unpolled ran admits
  have kept := Machine.invariant_of_admits (fun s' => s'.Succeeded cb ∧ s'.Answered)
    (fun s event => event ≠ .pollResult ∧ s.keepsResult event = true)
    (fun {s event s'} inv admitted stepped => by
      obtain ⟨⟨cb', success, same⟩, answered⟩ := inv
      obtain ⟨cb'', success', same'⟩ :=
        (step_succeeded_iff answered success admitted.1 stepped).mpr admitted.2
      exact ⟨⟨cb'', success', same'.sendUnacked.trans same.sendUnacked,
        same'.sendNext.trans same.sendNext, same'.receiver.trans same.receiver⟩,
        step_answered answered stepped⟩)
    ⟨⟨cb, success, rfl, rfl, rfl⟩, answered⟩
    ((Machine.admits_of_forall unpolled s).and admits) ran
  exact kept.1

/-- An attempt with one retry, numbered 40. -/
def sampleAttempt : ActiveOpenSocket :=
  .new ⟨40⟩ ⟨1, 10⟩ ⟨2, 20⟩ ⟨7, { sampleConfig with handshakeRetries := 1 }, []⟩

/-- The SYN goes out, and a SYN+ACK numbered 50 answers it. -/
def sampleAnswer : List ConnectEvent :=
  [.retry .first, .retry (.arpReply (.ok 9)),
    .receive { sampleHeader 50 41 10 with syn := true } sampleEnv]

theorem success_of_isSome {result : Option OpenResult}
    (h : (result.bind Except.toOption).isSome = true) : ∃ cb, result = some (.ok cb) := by
  rcases result with _ | _ | cb
  · cases h
  · cases h
  · exact ⟨cb, rfl⟩

/-- The SYN+ACK is repeated before the user polls. -/
theorem connect_result_final_repeated :
    ∃ s cb, Machine.run (step 536) sampleAttempt sampleAnswer = .ok s ∧
      s.result = some (.ok cb) ∧ ∀ s',
        s.step 536 (.receive { sampleHeader 50 41 10 with syn := true } sampleEnv) = .ok s' →
        ∃ cb', s'.pollResult.1 = some (.ok cb') ∧ cb.SameNumbers cb' := by
  obtain ⟨s, ran, view⟩ := Machine.map_eq_ok
    (x := Machine.run (step 536) sampleAttempt sampleAnswer)
    (fun s => ((s.result.bind Except.toOption).isSome, s.keepsResult
      (.receive { sampleHeader 50 41 10 with syn := true } sampleEnv))) (t := (true, true))
    (by decide +kernel)
  obtain ⟨succeeded, kept⟩ := Prod.mk.inj view
  obtain ⟨cb, result⟩ := success_of_isSome succeeded
  refine ⟨s, cb, ran, result, fun s' stepped => ?_⟩
  obtain ⟨one, -⟩ := connect_result_final 536 _ _ _ _ _ s cb ran result
  exact (one _ s' (fun polled => by cases polled) stepped).mpr kept

/-- The retry task's timer runs out after the SYN+ACK has come, and the user is told of a timeout. -/
theorem connect_result_overwritten :
    ¬∀ (events later : List ConnectEvent) (s s' : ActiveOpenSocket)
      (cb : ControlBlock CongestionControl.None),
      Machine.run (step 536) sampleAttempt events = .ok s → s.result = some (.ok cb) →
      (∀ event ∈ later, event ≠ .pollResult) → Machine.run (step 536) s later = .ok s' →
      ∃ cb', s'.pollResult.1 = some (.ok cb') ∧ cb.SameNumbers cb' := by
  intro claim
  obtain ⟨s, ran, view⟩ := Machine.map_eq_ok
    (x := Machine.run (step 536) sampleAttempt sampleAnswer)
    (fun s => ((s.result.bind Except.toOption).isSome,
      (s.background .timeout).pollResult.1.map fun result => result.map fun _ => ()))
    (t := (true, some (.error { errno := .ETIMEDOUT, cause := "handshake timeout" })))
    (by decide +kernel)
  obtain ⟨succeeded, polled⟩ := Prod.mk.inj view
  obtain ⟨cb, result⟩ := success_of_isSome succeeded
  obtain ⟨cb', result', -⟩ := claim sampleAnswer [.retry .timeout] s _ cb ran result
    (by simp only [List.mem_singleton, forall_eq]; nofun) rfl
  rw [result'] at polled
  cases polled

end ActiveOpenSocket

end Inetstack.Tcp
