import Inetstack.Laws.Tcp.ActiveOpen
import Inetstack.Laws.Tcp.PassiveOpen

/-!
# The panics of a handshake

Both sides shift a window by a scale that the peer has announced, and the connecting side looks up the
peer's link address on the way. What the peer announces is not clamped: the connecting side panics on a
scale above 14, and the listening side, which stores the scale of a SYN until the handshake is finished,
on one from 16 on. The accept queue and the set of its endpoints always agree.
-/

namespace Inetstack.Tcp

open Machine (bind_eq_ok Admits)

/-- The window scale a segment announces. -/
def TcpHeader.announcedScale (fallbackMss : Nat) (header : TcpHeader) : Option UInt8 :=
  (handshakeOptions fallbackMss header).1

/-- The shift of a window is checked up to 15 places. -/
theorem checkedShl16_eq (window : UInt16) {scale : Nat} (small : scale < 16) :
    ∃ size, checkedShl16 window scale = .ok size := by
  rw [checkedShl16, if_pos small]
  exact ⟨_, rfl⟩

/-! ## Connecting -/

/-- A SYN+ACK of the attempt that comes while the link address is unknown, or that announces a scale
above 14. -/
def ConnectEvent.Crashes (fallbackMss : Nat) (localIsn : SeqNumber) : ConnectEvent → Prop
  | .receive header env =>
    (header.ack = true ∧ header.ackNum = localIsn + SeqNumber.mk 1 ∧ header.rst = false ∧
      header.syn = true) ∧
      (env.remoteLinkAddr = none ∨ ∃ w, header.announcedScale fallbackMss = some w ∧ 14 < w)
  | _ => False

namespace ActiveOpenSocket

variable {fallbackMss : Nat} {s s' : ActiveOpenSocket}

/-- A SYN+ACK stops the attempt if it announces a window scale above 14, which the `expect` does not
expect. -/
theorem controlBlock_returns_iff {header : TcpHeader} (own : s.rt.tcpOptions.windowScale ≤ 14) :
    (∃ cb, s.controlBlock fallbackMss header = .ok cb) ↔
      ¬∃ w, header.announcedScale fallbackMss = some w ∧ 14 < w := by
  have small : s.rt.tcpOptions.windowScale.toNat ≤ 14 := UInt8.le_iff_toNat_le.mp own
  have scales (w : UInt8) (le : w ≤ 14) : w.toNat < 16 :=
    Nat.lt_of_le_of_lt (UInt8.le_iff_toNat_le.mp le) (by decide)
  rw [TcpHeader.announcedScale, controlBlock]
  obtain ⟨announced, mss⟩ := handshakeOptions fallbackMss header
  cases announced with
  | none =>
    obtain ⟨rx, rx_eq⟩ := checkedShl16_eq s.rt.tcpOptions.receiveWindowSize (Nat.zero_lt_succ 15)
    obtain ⟨tx, tx_eq⟩ := checkedShl16_eq header.windowSize (Nat.zero_lt_succ 15)
    have shifts : (0 : UInt32).toNat = 0 ∧ (0 : UInt8).toNat = 0 := ⟨rfl, rfl⟩
    simp [negotiatedScales, shifts, rx_eq, tx_eq, bind, Except.bind]
  | some w =>
    have local_le : s.rt.tcpOptions.windowScale.toUInt32 ≤ 14 := by
      rw [UInt32.le_iff_toNat_le, UInt8.toNat_toUInt32]
      exact small
    obtain ⟨rx, rx_eq⟩ := checkedShl16_eq s.rt.tcpOptions.receiveWindowSize
      (Nat.lt_of_le_of_lt small (by decide))
    by_cases le : w ≤ 14
    · obtain ⟨tx, tx_eq⟩ := checkedShl16_eq header.windowSize (scales w le)
      have notLt : ¬14 < w := UInt8.not_lt.mpr le
      simp [negotiatedScales, local_le, le, notLt, rx_eq, tx_eq, bind, Except.bind]
    · have lt : 14 < w := UInt8.not_le.mp le
      simp [negotiatedScales, le, lt]

/-- No event of an attempt changes its number or its options. -/
theorem step_frame {event : ConnectEvent} (stepped : s.step fallbackMss event = .ok s') :
    s'.localIsn = s.localIsn ∧ s'.rt.tcpOptions = s.rt.tcpOptions := by
  cases event with
  | receive header env =>
    simp only [step, receive] at stepped
    split at stepped
    · cases stepped
      exact ⟨rfl, rfl⟩
    split at stepped
    · cases stepped
      exact ⟨rfl, rfl⟩
    split at stepped
    · cases stepped
      exact ⟨rfl, rfl⟩
    split at stepped
    · cases stepped
    · obtain ⟨cb, -, eq⟩ := bind_eq_ok.mp stepped
      cases eq
      exact ⟨rfl, rfl⟩
  | retry poll =>
    cases stepped
    simp only [background]
    split <;> exact ⟨rfl, rfl⟩
  | pollResult =>
    cases stepped
    exact ⟨rfl, rfl⟩

/-- A SYN+ACK of the attempt returns exactly when the link address is known and the scale is not too
large. -/
theorem receive_synAck_returns_iff {header : TcpHeader} {env : Env}
    (own : s.rt.tcpOptions.windowScale ≤ 14) (ack : header.ack = true)
    (ackNum : header.ackNum = s.localIsn + SeqNumber.mk 1) (rst : header.rst = false)
    (syn : header.syn = true) :
    (∃ s', s.receive fallbackMss env header = .ok s') ↔
      ¬(env.remoteLinkAddr = none ∨ ∃ w, header.announcedScale fallbackMss = some w ∧ 14 < w) := by
  have answers : (!(header.ack && header.ackNum == s.localIsn + SeqNumber.mk 1)) = false := by
    simp [ack, ackNum]
  simp only [receive, answers, rst, syn, Bool.not_true, Bool.false_eq_true, if_false]
  cases link : env.remoteLinkAddr with
  | none => simp
  | some remoteLinkAddr =>
    set asked : ActiveOpenSocket := { s with rt := s.rt.transmit (bareSegment s.rt s.localAddr
      s.remoteAddr (s.ackHeader (header.seqNum + SeqNumber.mk 1)) remoteLinkAddr) }
    have built : (∃ cb, asked.controlBlock fallbackMss header = .ok cb) ↔ _ :=
      controlBlock_returns_iff own
    simp only [reduceCtorEq, false_or, ← built]
    constructor
    · rintro ⟨s', ran⟩
      obtain ⟨cb, made, -⟩ := bind_eq_ok.mp ran
      exact ⟨cb, made⟩
    · rintro ⟨cb, made⟩
      exact ⟨_, bind_eq_ok.mpr ⟨cb, made, rfl⟩⟩

/-- **One event of an attempt** returns exactly if it does not crash. -/
theorem step_returns_iff {event : ConnectEvent} (own : s.rt.tcpOptions.windowScale ≤ 14) :
    (∃ s', s.step fallbackMss event = .ok s') ↔ ¬event.Crashes fallbackMss s.localIsn := by
  cases event with
  | receive header env =>
    by_cases synAck : header.ack = true ∧ header.ackNum = s.localIsn + SeqNumber.mk 1 ∧
        header.rst = false ∧ header.syn = true
    · obtain ⟨ack, ackNum, rst, syn⟩ := synAck
      simp only [step, receive_synAck_returns_iff own ack ackNum rst syn, ConnectEvent.Crashes, ack,
        ackNum, rst, syn, true_and]
    · simp only [step, receive, ConnectEvent.Crashes, synAck, false_and, not_false_eq_true, iff_true]
      split
      · exact ⟨_, rfl⟩
      next answers =>
      split
      · exact ⟨_, rfl⟩
      next rst =>
      split
      · exact ⟨_, rfl⟩
      next syn =>
      simp only [Bool.not_eq_true', Bool.and_eq_false_imp, beq_eq_false_iff_ne] at answers
      refine absurd ?_ synAck
      simp_all
  | retry poll => simp [step, ConnectEvent.Crashes]
  | pollResult => simp [step, ConnectEvent.Crashes]

/-- An attempt returns from every event exactly when none of them crashes it. -/
theorem run_returns_iff {events : List ConnectEvent} (own : s.rt.tcpOptions.windowScale ≤ 14) :
    (∃ s', Machine.run (step fallbackMss) s events = .ok s') ↔
      ∀ event ∈ events, ¬event.Crashes fallbackMss s.localIsn := by
  induction events generalizing s with
  | nil => simp [Machine.run]
  | cons event events ih =>
    rw [List.forall_mem_cons, ← step_returns_iff own]
    constructor
    · rintro ⟨s', ran⟩
      obtain ⟨t, stepped, ran⟩ := Machine.run_cons_ok.mp ran
      obtain ⟨isn, options⟩ := step_frame stepped
      rw [← isn, ← ih (options ▸ own)]
      exact ⟨⟨t, stepped⟩, ⟨s', ran⟩⟩
    · rintro ⟨⟨t, stepped⟩, rest⟩
      obtain ⟨isn, options⟩ := step_frame stepped
      rw [← isn, ← ih (options ▸ own)] at rest
      obtain ⟨s', ran⟩ := rest
      exact ⟨s', Machine.run_cons_ok.mpr ⟨t, stepped, ran⟩⟩

end ActiveOpenSocket

/-! ## Listening -/

/-- The endpoints of the connections that wait to be accepted, oldest first. -/
def ReadySockets.waiting (r : ReadySockets) : List SocketAddrV4 :=
  r.ready.filterMap fun
    | .ok cb => some cb.remoteAddr
    | .error _ => none

/-- The endpoints that are kept are those of the connections that wait, and none waits twice. -/
structure ReadySockets.Consistent (r : ReadySockets) : Prop where
  mem : ∀ remoteAddr, remoteAddr ∈ r.endpoints ↔ remoteAddr ∈ r.waiting
  once : r.waiting.Nodup

namespace ReadySockets.Consistent

variable {r : ReadySockets}

/-- A connection more in the queue, whose remote is not yet among the endpoints. -/
theorem pushOk (h : r.Consistent) {cb : ControlBlock CongestionControl.None}
    (new : cb.remoteAddr ∉ r.endpoints) : ∃ r', r.pushOk cb = .ok r' ∧ r'.Consistent := by
  refine ⟨_, if_neg new, ?_, ?_⟩
  · intro remoteAddr
    simp [waiting, h.mem remoteAddr, or_comm]
  · have absent : cb.remoteAddr ∉ r.waiting := mt (h.mem _).mpr new
    simp only [waiting, List.filterMap_append, List.filterMap_cons, List.filterMap_nil]
    exact List.nodup_append.mpr ⟨h.once, List.nodup_singleton _, fun a old b new' same =>
      absent (List.mem_singleton.mp new' ▸ same ▸ old)⟩

/-- A failure more in the queue, which has no endpoint. -/
theorem pushErr (h : r.Consistent) (err : Fail) : (r.pushErr err).Consistent := by
  have same : (r.pushErr err).waiting = r.waiting := by
    simp [waiting, ReadySockets.pushErr]
  exact ⟨fun remoteAddr => same ▸ h.mem remoteAddr, same ▸ h.once⟩

/-- Taking the oldest result never fails. -/
theorem poll (h : r.Consistent) : ∃ result r', r.poll = .ok (result, r') ∧ r'.Consistent := by
  rw [ReadySockets.poll]
  have once := h.once
  have mem := h.mem
  cases queue : r.ready with
  | nil => exact ⟨none, r, rfl, h⟩
  | cons first rest =>
    cases first with
    | error err =>
      simp only [waiting, queue, List.filterMap_cons] at once mem
      exact ⟨_, _, rfl, mem, once⟩
    | ok cb =>
      simp only [waiting, queue, List.filterMap_cons, List.nodup_cons, List.mem_cons] at once mem
      refine ⟨_, _, if_pos ((mem cb.remoteAddr).mpr (.inl rfl)), ?_, once.2⟩
      intro remoteAddr
      rw [Finset.mem_erase, mem remoteAddr]
      constructor
      · rintro ⟨other, same | later⟩
        · exact absurd same other
        · exact later
      · intro later
        exact ⟨fun same => once.1 (same ▸ later), .inr later⟩

end ReadySockets.Consistent

namespace PassiveSocket

variable {crc : List UInt8 → UInt32} {fallbackMss : Nat} {s s' : PassiveSocket}
  {remoteAddr : SocketAddrV4}

/-- The segment finishes a handshake whose SYN announced a scale from 16 on. -/
def Crashes (s : PassiveSocket) (remoteAddr : SocketAddrV4) (header : TcpHeader) : Prop :=
  remoteAddr ∉ s.ready.endpoints ∧ header.ack = true ∧
    ∃ accept w, s.inflight.lookup remoteAddr = some accept ∧
      header.ackNum = accept.localIsn + SeqNumber.mk 1 ∧ accept.remoteWindowScale = some w ∧ 16 ≤ w

/-- The last ACK of a handshake stops the listener if its SYN announced a window scale from 16 on. -/
theorem controlBlock_returns_iff {accept : InflightAccept}
    (own : s.rt.tcpOptions.windowScale ≤ 14) :
    (∃ cb, s.controlBlock remoteAddr accept = .ok cb) ↔
      ¬∃ w, accept.remoteWindowScale = some w ∧ 16 ≤ w := by
  have small : s.rt.tcpOptions.windowScale.toNat ≤ 14 := UInt8.le_iff_toNat_le.mp own
  rw [controlBlock]
  cases accept.remoteWindowScale with
  | none => simp [negotiatedScales, checkedShl16, checkedShl32, bind, Except.bind]
  | some w =>
    have rx : s.rt.tcpOptions.windowScale.toNat < 32 := Nat.lt_of_le_of_lt small (by decide)
    have scale : 16 ≤ w ↔ 16 ≤ w.toNat := UInt8.le_iff_toNat_le
    by_cases large : 16 ≤ w.toNat
    · have tx : ¬w.toNat < 16 := Nat.not_lt.mpr large
      simp [negotiatedScales, checkedShl16, bind, Except.bind, scale, large, tx]
    · have tx : w.toNat < 16 := Nat.not_le.mp large
      simp [negotiatedScales, checkedShl16, checkedShl32, bind, Except.bind, scale, large, tx, rx]

/-- The last segment of a handshake returns exactly when its window can be computed. -/
theorem receiveInflight_returns_iff {accept : InflightAccept} {header : TcpHeader}
    (own : s.rt.tcpOptions.windowScale ≤ 14) (new : remoteAddr ∉ s.ready.endpoints)
    (ack : header.ack = true) (expected : header.ackNum = accept.localIsn + SeqNumber.mk 1) :
    (∃ result s', s.receiveInflight remoteAddr accept header = .ok (result, s')) ↔
      ¬∃ w, accept.remoteWindowScale = some w ∧ 16 ≤ w := by
  have flags : ¬(!header.ack) = true := by simp [ack]
  rw [← controlBlock_returns_iff own, receiveInflight, if_neg flags, if_neg (not_not.mpr expected)]
  constructor
  · rintro ⟨result, s', ran⟩
    obtain ⟨cb, built, -⟩ := bind_eq_ok.mp ran
    exact ⟨cb, built⟩
  · rintro ⟨cb, built⟩
    have free : cb.remoteAddr ∉ s.ready.endpoints := (controlBlock_addresses built).2 ▸ new
    exact ⟨_, _, bind_eq_ok.mpr ⟨cb, built, bind_eq_ok.mpr ⟨_, if_neg free, rfl⟩⟩⟩

/-- **A segment for a listener** returns exactly if it does not crash it. -/
theorem receive_returns_iff {header : TcpHeader} (own : s.rt.tcpOptions.windowScale ≤ 14) :
    (∃ result s', s.receive crc fallbackMss remoteAddr header = .ok (result, s')) ↔
      ¬s.Crashes remoteAddr header := by
  rw [receive]
  by_cases ready : remoteAddr ∈ s.ready.endpoints
  · rw [if_pos ready]
    exact iff_of_true ⟨_, _, rfl⟩ fun crashes => crashes.1 ready
  rw [if_neg ready]
  cases known : s.inflight.lookup remoteAddr with
  | none =>
    refine iff_of_true ⟨_, _, rfl⟩ ?_
    rintro ⟨-, -, accept, w, found, -⟩
    cases known.symm.trans found
  | some accept =>
    by_cases finishes : header.ack = true ∧ header.ackNum = accept.localIsn + SeqNumber.mk 1
    · obtain ⟨ack, expected⟩ := finishes
      refine (receiveInflight_returns_iff own ready ack expected).trans (not_congr ?_)
      simp only [Crashes, ready, not_false_eq_true, ack, known, Option.some.injEq, true_and,
        exists_and_left, exists_eq_left', expected]
    · refine iff_of_true ?_ ?_
      · dsimp only [receiveInflight]
        split
        · exact ⟨_, _, rfl⟩
        split
        · exact ⟨_, _, rfl⟩
        next ack expected => exact absurd ⟨by simpa using ack, not_not.mp expected⟩ finishes
      · rintro ⟨-, ack, accept', w, found, expected, -⟩
        cases known.symm.trans found
        exact finishes ⟨ack, expected⟩

/-- A retry task changes no option, and leaves the queue consistent. -/
theorem background_frame (s : PassiveSocket) (remoteAddr : SocketAddrV4) (poll : RetryPoll)
    (consistent : s.ready.Consistent) :
    s.rt.tcpOptions = (s.background remoteAddr poll).rt.tcpOptions ∧
      (s.background remoteAddr poll).ready.Consistent := by
  rw [background]
  cases s.inflight.lookup remoteAddr with
  | none => exact ⟨rfl, consistent⟩
  | some accept =>
    dsimp only
    cases (accept.handle.poll s.rt.tcpOptions.handshakeRetries poll).2 with
    | nothing => exact ⟨rfl, consistent⟩
    | transmit remoteLinkAddr => exact ⟨rfl, consistent⟩
    | giveUp => exact ⟨rfl, consistent.pushErr _⟩

end PassiveSocket

namespace Listener

variable {crc : List UInt8 → UInt32} {fallbackMss : Nat} {l l' : Listener}

/-- Only a segment can crash a listener. -/
def Crashes (l : Listener) : ListenEvent → Prop
  | .receive remoteAddr header => l.socket.Crashes remoteAddr header
  | _ => False

/-- What every event of a listener keeps. -/
structure Steady (l : Listener) : Prop where
  own : l.socket.rt.tcpOptions.windowScale ≤ 14
  consistent : l.socket.ready.Consistent

/-- **One event of a listener** keeps it steady. -/
theorem step_steady {event : ListenEvent} (h : l.Steady)
    (stepped : l.step crc fallbackMss event = .ok l') : l'.Steady := by
  cases event with
  | receive remoteAddr header =>
    obtain ⟨⟨result, socket⟩, ran, eq⟩ := bind_eq_ok.mp stepped
    cases eq
    rcases PassiveSocket.receive_cases ran with rfl | ⟨accept, cb, new, -, -, -, -, remote, rfl⟩ |
      ⟨accept, isns, -, -, -, rfl⟩
    · exact ⟨h.own, h.consistent⟩
    · obtain ⟨ready, pushed, consistent⟩ := h.consistent.pushOk (remote ▸ new)
      rw [ReadySockets.pushOk, remote, if_neg new] at pushed
      cases pushed
      exact ⟨h.own, consistent⟩
    · exact ⟨h.own, h.consistent⟩
  | retry remoteAddr poll =>
    cases stepped
    obtain ⟨options, consistent⟩ := l.socket.background_frame remoteAddr poll h.consistent
    exact ⟨options ▸ h.own, consistent⟩
  | pollAccept =>
    obtain ⟨⟨result, socket⟩, ran, eq⟩ := bind_eq_ok.mp stepped
    cases eq
    obtain ⟨⟨polled, ready⟩, taken, eq⟩ := bind_eq_ok.mp ran
    cases eq
    obtain ⟨polled', ready', taken', consistent⟩ := h.consistent.poll
    cases taken.symm.trans taken'
    exact ⟨h.own, consistent⟩

/-- **One event of a listener** returns exactly if it does not crash it. -/
theorem step_returns_iff {event : ListenEvent} (h : l.Steady) :
    (∃ l', l.step crc fallbackMss event = .ok l') ↔ ¬l.Crashes event := by
  cases event with
  | receive remoteAddr header =>
    refine Iff.trans ?_
      (@PassiveSocket.receive_returns_iff crc fallbackMss l.socket remoteAddr header h.own)
    constructor
    · rintro ⟨l', stepped⟩
      obtain ⟨⟨result, socket⟩, ran, -⟩ := bind_eq_ok.mp stepped
      exact ⟨result, socket, ran⟩
    · rintro ⟨result, socket, ran⟩
      exact ⟨_, bind_eq_ok.mpr ⟨_, ran, rfl⟩⟩
  | retry remoteAddr poll => exact iff_of_true ⟨_, rfl⟩ not_false
  | pollAccept =>
    obtain ⟨polled, ready, taken, -⟩ := h.consistent.poll
    refine iff_of_true ⟨_, bind_eq_ok.mpr ⟨_, bind_eq_ok.mpr ⟨_, taken, rfl⟩, rfl⟩⟩ not_false

theorem steady_start {localAddr : SocketAddrV4} {maxBacklog : Nat} {rt : Runtime} {nonce : UInt32}
    (own : rt.tcpOptions.windowScale ≤ 14) :
    (start (PassiveSocket.new localAddr maxBacklog rt nonce)).Steady where
  own := own
  consistent := ⟨fun remoteAddr => by simp [start, PassiveSocket.new, ReadySockets.waiting],
    List.nodup_nil⟩

end Listener

/-! ## Both sides -/

/-- A connect attempt returns from every event exactly when none of them crashes it, and a listener from
every event exactly when none crashes it where it is taken. -/
theorem handshake_returns_iff (crc : List UInt8 → UInt32) (fallbackMss : Nat) (rt : Runtime)
    (own : rt.tcpOptions.windowScale ≤ 14) :
    (∀ localIsn localAddr remoteAddr events,
      (∃ s, Machine.run (ActiveOpenSocket.step fallbackMss)
        (ActiveOpenSocket.new localIsn localAddr remoteAddr rt) events = .ok s) ↔
        ∀ event ∈ events, ¬event.Crashes fallbackMss localIsn) ∧
    ∀ localAddr maxBacklog nonce events,
      (∃ l, Machine.run (Listener.step crc fallbackMss)
        (Listener.start (PassiveSocket.new localAddr maxBacklog rt nonce)) events = .ok l) ↔
        Admits (Listener.step crc fallbackMss) (fun l event => ¬l.Crashes event)
          (Listener.start (PassiveSocket.new localAddr maxBacklog rt nonce)) events := by
  constructor
  · intro localIsn localAddr remoteAddr events
    exact ActiveOpenSocket.run_returns_iff own
  · intro localAddr maxBacklog nonce events
    exact Machine.run_ok_iff_admits Listener.Steady _ Listener.step_steady Listener.step_returns_iff
      (Listener.steady_start own)

/-- A SYN+ACK with the largest scale either side takes. -/
theorem handshake_returns_iff_answered :
    ∃ s, Machine.run (ActiveOpenSocket.step 536) ActiveOpenSocket.sampleAttempt
      [.receive { sampleHeader 50 41 10 with syn := true, optionList := [.windowScale 14] } sampleEnv] =
        .ok s := by
  refine ((handshake_returns_iff (fun _ => 0) 536 _ (by decide)).1 _ _ _ _).mpr ?_
  intro event member
  rw [List.mem_singleton.mp member]
  rintro ⟨-, unknown | ⟨w, announced, large⟩⟩
  · cases unknown
  · cases announced
    exact absurd large (by decide)

/-- A SYN+ACK with a scale of 15, and a handshake whose SYN announced one of 16. -/
theorem handshake_crashes :
    Machine.run (ActiveOpenSocket.step 536) ActiveOpenSocket.sampleAttempt
        [.receive { sampleHeader 50 41 10 with syn := true, optionList := [.windowScale 15] }
          sampleEnv] = .error .windowScaleTooLarge ∧
    Machine.run (ActiveOpenSocket.step 536) ActiveOpenSocket.sampleAttempt
        [.receive { sampleHeader 50 41 10 with syn := true } { sampleEnv with remoteLinkAddr := none }] =
        .error .arpControlFlow ∧
    Machine.run (Listener.step (fun _ => 0) 536) (Listener.start Listener.sampleListener)
        [.receive ⟨2, 20⟩ { sampleHeader 50 0 10 with
            syn := true, ack := false, optionList := [.windowScale 16] },
          .receive ⟨2, 20⟩ (sampleHeader 51 1 10)] = .error .windowSizeOverflow := by
  refine ⟨?_, ?_, ?_⟩
  · rfl
  · rfl
  · rfl

end Inetstack.Tcp
