import Inetstack.Laws.Tcp.Established.Delivery
import Inetstack.Laws.Tcp.Established.SendWindow

/-!
# Window updates

A segment that is not older than the last one used for it carries the window the peer has now, also when it
acknowledges nothing new. The segment that reopens a window of zero acknowledges nothing new, and it is what
the sender probes a window of zero for. `receive` looks at the window of a segment only where the segment
acknowledges something new. The window of any other segment is lost, unless the sender has it already.

Which segment was used last is a matter of the run: `lastUsed` follows it, and before any segment of the
connection was used it is the one of the handshake that brought the first window. SND.WL1 and SND.WL2 are
there to remember it, and from the first update on they do. Until then SND.WL1 is a number of the local
sequence space, where the number of the peer's segment should be, and the first update may be refused for it.

The window of a segment that is used is shifted in 32 bits, and the peer may have asked for a scale with
which its window does not fit.
-/

namespace Inetstack.Tcp

open Machine (bind_eq_ok)

namespace InSegment

variable {seg seg' : InSegment}

/-- The front trim changes no field of the header but the SYN. -/
theorem trimFront_header {receiveNext : SeqNumber} (ran : seg.trimFront receiveNext = .ok seg') :
    seg'.header = { seg.header with syn := false } := by
  unfold trimFront at ran
  dsimp only at ran
  split at ran
  · obtain ⟨data, -, ran⟩ := bind_eq_ok.mp ran
    cases ran
    rfl
  next noSyn =>
    obtain ⟨data, -, ran⟩ := bind_eq_ok.mp ran
    cases ran
    rw [← Bool.eq_false_iff.mpr noSyn]

/-- The back trim changes no field of the header but the FIN. -/
theorem trimBack_header {after : SeqNumber} (ran : seg.trimBack after = .ok seg') :
    ∃ fin, seg'.header = { seg.header with fin := fin } := by
  unfold trimBack at ran
  split at ran
  · dsimp only at ran
    split at ran
    all_goals
      obtain ⟨data, -, ran⟩ := bind_eq_ok.mp ran
      cases ran
      exact ⟨_, rfl⟩
  · cases ran
    exact ⟨_, rfl⟩

/-- An accepted segment without a SYN has the header that came, but for the FIN. -/
theorem accept_header {receiveNext : SeqNumber} {window : UInt32} {header : TcpHeader} {data : Buffer}
    (ran : accept receiveNext window header data = .ok (some seg)) (noSyn : header.syn = false) :
    ∃ fin, seg.header = { header with fin := fin } := by
  rcases accept_cases ran with ⟨-, back⟩ | ⟨-, -, cut, front, back⟩ | ⟨-, -, -, back⟩
  · exact trimBack_header back
  · obtain ⟨fin, kept⟩ := trimBack_header back
    rw [trimFront_header front] at kept
    refine ⟨fin, ?_⟩
    rw [kept, ← noSyn]
    rfl
  · exact trimBack_header back

end InSegment

/-- The segment is not older than the one with this sequence and acknowledgement number. -/
def TcpHeader.notOlder (header : TcpHeader) (last : SeqNumber × SeqNumber) : Bool :=
  last.1.lt header.seqNum || (last.1 == header.seqNum && last.2.le header.ackNum)

namespace Sender

/-- The test of `update_send_window` compares with SND.WL1 and SND.WL2. -/
theorem windowUpdateIsCurrent_eq (s : Sender) (header : TcpHeader) :
    s.windowUpdateIsCurrent header = header.notOlder s.lastUpdate := rfl

/-- The window a header advertises, as the peer means it. -/
def advertised (s : Sender) (header : TcpHeader) : Nat :=
  header.windowSize.toNat * 2 ^ s.windowScale.toNat

/-- The window a header advertises, as the code shifts it. -/
def shifted (s : Sender) (header : TcpHeader) : UInt32 :=
  header.windowSize.toUInt32 <<< s.windowScale.toUInt32

/-- The shift in 32 bits is the window that was meant, exactly if that fits. -/
theorem shifted_eq_iff (s : Sender) (header : TcpHeader) :
    (s.shifted header).toNat = s.advertised header ↔ s.advertised header < 2 ^ 32 := by
  unfold shifted advertised
  have shifted : (header.windowSize.toUInt32 <<< s.windowScale.toUInt32).toNat =
      header.windowSize.toNat * 2 ^ (s.windowScale.toNat % 32) % 2 ^ 32 := by
    rw [UInt32.toNat_shiftLeft, Nat.shiftLeft_eq]
    rfl
  constructor
  · intro same
    rw [← same]
    exact UInt32.toNat_lt _
  · intro fits
    rw [shifted]
    by_cases scale : s.windowScale.toNat < 32
    · rw [Nat.mod_eq_of_lt scale, Nat.mod_eq_of_lt fits]
    · -- only a window of zero fits when it is shifted that far
      have zero : header.windowSize.toNat = 0 := by
        by_contra some_
        have far : 2 ^ 32 ≤ 2 ^ s.windowScale.toNat := Nat.pow_le_pow_right (by omega) (by omega)
        have := Nat.le_mul_of_pos_left (2 ^ s.windowScale.toNat) (Nat.pos_of_ne_zero some_)
        omega
      rw [zero, Nat.zero_mul, Nat.zero_mul, Nat.zero_mod]

/-- `update_send_window` reads the sequence numbers and the window of the header. -/
theorem updateSendWindow_sendWindow (s : Sender) (queue : List UnackedSegment) (unacked : SeqNumber)
    (header : TcpHeader) (fin : Bool) :
    (updateSendWindow { s with unackedQueue := queue, sendUnacked := unacked }
      { header with fin := fin }).sendWindow =
    if header.notOlder s.lastUpdate then s.shifted header else s.sendWindow := by
  rw [← windowUpdateIsCurrent_eq]
  unfold updateSendWindow
  by_cases current : s.windowUpdateIsCurrent header = true
  · rw [if_pos current, if_pos (by exact current)]
    rfl
  · rw [if_neg current, if_neg (by exact current)]

/-- `update_send_window` remembers the segment it has used. -/
theorem updateSendWindow_lastUpdate (s : Sender) (queue : List UnackedSegment) (unacked : SeqNumber)
    (header : TcpHeader) :
    (updateSendWindow { s with unackedQueue := queue, sendUnacked := unacked } header).lastUpdate =
      if s.windowUpdateIsCurrent header then (header.seqNum, header.ackNum) else s.lastUpdate := by
  unfold updateSendWindow
  by_cases current : s.windowUpdateIsCurrent header = true
  · rw [if_pos current, if_pos (by exact current)]
    rfl
  · rw [if_neg current, if_neg (by exact current)]
    rfl

end Sender

namespace ControlBlock

variable {σ : Type}

/-- The window after a segment is the one the segment advertises, if it is not older than the last that was
used, and the one before otherwise. -/
def AdoptsWindow (cb : ControlBlock σ) (last : SeqNumber × SeqNumber) (header : TcpHeader)
    (cb' : ControlBlock σ) : Prop :=
  cb'.sender.sendWindow.toNat =
    if header.notOlder last then cb.sender.advertised header else cb.sender.sendWindow.toNat

/-- Which windows are adopted. The code uses the window of a segment that acknowledges something new and
is not older than the one it compares with, `compared`. A segment not older than the last one used is to be
used and to fit 32 bits after the shift, or to bring the window the sender has already; an older one is not
to be used, or brings that window. -/
def adopts (cb : ControlBlock σ) (last compared : SeqNumber × SeqNumber) (header : TcpHeader) : Bool :=
  let uses := header.ackNum ≠ cb.sender.sendUnacked && header.notOlder compared
  if header.notOlder last then
    if uses then cb.sender.advertised header < 2 ^ 32
    else cb.sender.sendWindow.toNat = cb.sender.advertised header
  else !uses || cb.sender.shifted header = cb.sender.sendWindow

/-- The segment the code takes the window from, if it takes it: an acceptable ACK of something new that
passes the test of `update_send_window`. -/
def windowFrom (cb : ControlBlock σ) (header : TcpHeader) (data : Buffer) :
    Option (SeqNumber × SeqNumber) :=
  match InSegment.accept cb.receiver.receiveNext cb.getReceiveWindowSize header data with
  | .ok (some seg) =>
    if !seg.header.rst && !seg.header.syn && seg.header.ack &&
        cb.sender.sendUnacked.lt seg.header.ackNum && seg.header.ackNum.le cb.sender.sendNext &&
        cb.sender.windowUpdateIsCurrent seg.header then
      some (seg.header.seqNum, seg.header.ackNum)
    else none
  | _ => none

variable [CongestionControl σ] {cb cb' : ControlBlock σ} {env : Env} {header : TcpHeader} {data : Buffer}
  {seg : InSegment}

/-- The sender after an acceptable segment with an ACK between SND.UNA and SND.NXT: it changes if the ACK
is of something new. -/
theorem receive_sender_of_acks (ran : cb.receive env header data = .ok cb')
    (accepted : InSegment.accept cb.receiver.receiveNext cb.getReceiveWindowSize header data =
      .ok (some seg))
    (acks : seg.Acks) (known : seg.header.ackNum.le cb.sender.sendNext = true) :
    if cb.sender.sendUnacked.lt seg.header.ackNum then
      ∃ queue, cb'.sender = Sender.updateSendWindow
        { cb.sender with unackedQueue := queue, sendUnacked := seg.header.ackNum } seg.header
    else cb'.sender = cb.sender := by
  by_cases newer : cb.sender.sendUnacked.lt seg.header.ackNum = true
  · rw [if_pos newer]
    rcases receive_sender ran with same | ⟨found, queue, found_eq, -, -, -, eq⟩
    · have moved := receive_sendUnacked ran accepted acks newer known
      rw [same] at moved
      rw [moved] at newer
      rw [SeqNumber.lt_irrefl] at newer
      cases newer
    · cases accepted.symm.trans found_eq
      exact ⟨queue, eq⟩
  · rw [if_neg newer]
    rcases receive_sender ran with same | ⟨found, queue, found_eq, -, moved, -, -⟩
    · exact same
    · cases accepted.symm.trans found_eq
      exact absurd moved newer

/-- **SND.WL1 and SND.WL2 remember the segment the window was taken from.** -/
theorem receive_lastUpdate (ran : cb.receive env header data = .ok cb') :
    cb'.sender.lastUpdate = (cb.windowFrom header data).getD cb.sender.lastUpdate := by
  unfold windowFrom
  rcases receive_sender ran with same | ⟨seg, queue, accepted, acks, newer, known, eq⟩
  · rw [same]
    cases accepted : InSegment.accept cb.receiver.receiveNext cb.getReceiveWindowSize header data with
    | error fault => rfl
    | ok found =>
      cases found with
      | none => rfl
      | some seg =>
        dsimp only
        split
        next taken =>
          -- such an ACK would have moved SND.UNA
          simp only [Bool.and_eq_true, Bool.not_eq_true'] at taken
          obtain ⟨⟨⟨⟨⟨rst, syn⟩, ack⟩, newer⟩, known⟩, -⟩ := taken
          have moved := receive_sendUnacked ran accepted ⟨rst, syn, ack⟩ newer known
          rw [same] at moved
          rw [moved, SeqNumber.lt_irrefl] at newer
          cases newer
        next => rfl
  · rw [eq, accepted, Sender.updateSendWindow_lastUpdate]
    simp only [acks.rst, acks.syn, acks.ack, newer, known, Bool.not_false, Bool.and_self, Bool.true_and]
    cases cb.sender.windowUpdateIsCurrent seg.header with
    | true => rfl
    | false => rfl

/-- **Which windows are adopted**, in any state. -/
theorem receive_adoptsWindow_iff (ran : cb.receive env header data = .ok cb')
    (accepted : InSegment.accept cb.receiver.receiveNext cb.getReceiveWindowSize header data =
      .ok (some seg))
    (ack : header.ack = true) (syn : header.syn = false) (rst : header.rst = false)
    (unacked : cb.sender.sendUnacked.le header.ackNum = true)
    (known : header.ackNum.le cb.sender.sendNext = true) (last : SeqNumber × SeqNumber) :
    cb.AdoptsWindow last header cb' ↔ cb.adopts last cb.sender.lastUpdate header = true := by
  obtain ⟨fin, kept⟩ := InSegment.accept_header accepted syn
  have acks : seg.Acks := ⟨by rw [kept]; exact rst, by rw [kept]; exact syn, by rw [kept]; exact ack⟩
  have sender := receive_sender_of_acks ran accepted acks (by rw [kept]; exact known)
  rw [kept] at sender
  unfold AdoptsWindow adopts
  cases newer : cb.sender.sendUnacked.lt header.ackNum with
  | true =>
    have ne : header.ackNum ≠ cb.sender.sendUnacked := by
      intro same
      rw [same] at newer
      rw [SeqNumber.lt_irrefl] at newer
      cases newer
    rw [if_pos newer] at sender
    obtain ⟨queue, eq⟩ := sender
    rw [eq, Sender.updateSendWindow_sendWindow]
    cases header.notOlder cb.sender.lastUpdate with
    | true =>
      cases header.notOlder last with
      | true => simpa [ne] using cb.sender.shifted_eq_iff header
      | false => simp [ne, UInt32.toNat_inj]
    | false => cases header.notOlder last <;> simp
  | false =>
    have same : header.ackNum = cb.sender.sendUnacked := by
      have zero := (SeqNumber.le_iff _ _).mp unacked
      rw [Bool.eq_false_iff, Ne, SeqNumber.lt_iff] at newer
      have there := SeqNumber.eq_add_distance cb.sender.sendUnacked header.ackNum
      rw [zero.resolve_right newer, Nat.cast_zero, add_zero] at there
      exact there.symm
    rw [if_neg (by rw [newer]; exact Bool.false_ne_true)] at sender
    rw [sender]
    cases header.notOlder last <;> simp [same]

end ControlBlock

namespace Endpoint

variable {σ : Type} [CongestionControl σ]

/-! ## Which segment was used last -/

/-- What is remembered of the run, the segment the window was last taken from, after one more event. -/
def noteWindow (e : Endpoint σ) (event : Event) (last : Option (SeqNumber × SeqNumber)) :
    Option (SeqNumber × SeqNumber) :=
  match event with
  | .receive header data _ => (e.cb.windowFrom header data).or last
  | .call _ _ => last

/-- The last segment of a run whose window the code has used, if it has used any. -/
def lastUsed (e : Endpoint σ) (events : List Event) : Option (SeqNumber × SeqNumber) :=
  Machine.remembered Endpoint.step noteWindow e none events

variable {e e' : Endpoint σ}

/-- Nothing but the arrival of a segment changes SND.WL1 and SND.WL2. -/
theorem step_lastUpdate {event : Event} (stepped : e.step event = .ok e') :
    e'.cb.sender.lastUpdate = e.cb.sender.lastUpdate ∨ ∃ header data env,
      event = .receive header data env ∧ e.cb.receive env header data = .ok e'.cb := by
  cases step_sendStep stepped with
  | quiet acks task history window =>
    rcases window with same | ⟨header, data, env, rfl, -, ran⟩
    · exact .inl same.lastUpdate
    · exact .inr ⟨header, data, env, rfl, ran⟩
  | waits _ _ _ _ _ window => exact .inl window.lastUpdate
  | sent _ _ _ _ sent _ _ _ => exact .inl ((congrArg Sender.lastUpdate sent.sender_eq).trans rfl)
  | queued _ _ _ _ _ _ window _ _ _ => exact .inl window.lastUpdate
  | sentFin _ _ _ sent closed _ _ _ =>
    rw [closed]
    exact .inl ((congrArg Sender.lastUpdate sent.sender_eq).trans rfl)
  | queuedFin _ _ _ _ _ window _ => exact .inl window.lastUpdate
  | probed _ _ _ sent _ _ _ => exact .inl ((congrArg Sender.lastUpdate sent.sender_eq).trans rfl)
  | probedAgain _ _ sent _ _ => exact .inl (congrArg Sender.lastUpdate sent.sender_eq)
  | popped _ _ _ _ sent _ _ _ => exact .inl ((congrArg Sender.lastUpdate sent.sender_eq).trans rfl)

/-- **One event keeps SND.WL1 and SND.WL2 at the last segment used.** -/
theorem step_noteWindow {event : Event} {first : SeqNumber × SeqNumber}
    {last : Option (SeqNumber × SeqNumber)} (before : e.cb.sender.lastUpdate = last.getD first)
    (stepped : e.step event = .ok e') :
    e'.cb.sender.lastUpdate = (e.noteWindow event last).getD first := by
  cases event with
  | call c env =>
    rcases step_lastUpdate stepped with same | ⟨header, data, env, arrival, -⟩
    · exact same.trans before
    · cases arrival
  | receive header data env =>
    obtain ⟨cb, ran, eq⟩ := bind_eq_ok.mp stepped
    cases eq
    have taken := ControlBlock.receive_lastUpdate ran
    rw [before] at taken
    rw [noteWindow]
    cases from_ : e.cb.windowFrom header data with
    | none =>
      rw [from_] at taken
      exact taken
    | some segment =>
      rw [from_] at taken
      exact taken

/-- **SND.WL1 and SND.WL2 are those of the last segment used**, and the local sequence number until there is
one. -/
theorem run_lastUpdate {events : List Event} (ran : e.run events = .ok e') :
    e'.cb.sender.lastUpdate = (e.lastUsed events).getD e.cb.sender.lastUpdate :=
  Machine.invariant_remembered
    (fun e' (last : Option (SeqNumber × SeqNumber)) =>
      e'.cb.sender.lastUpdate = last.getD e.cb.sender.lastUpdate) step_noteWindow rfl ran

/-- **Window advertisements are adopted**, in every state a connection can reach, exactly where `adopts`
says so. The last segment used is the last one of the run, or else `opening`, the segment of the handshake
that brought the first window; the code compares with the last one of the run, or else with the local
initial sequence number. -/
theorem window_adopted_iff (o : Opening) (opening : SeqNumber × SeqNumber) (events : List Event)
    (e : Endpoint σ) (ran : (opened o).run events = .ok e) (header : TcpHeader) (data : Buffer) (env : Env)
    (seg : InSegment) (cb' : ControlBlock σ)
    (accepted : InSegment.accept e.cb.receiver.receiveNext e.cb.getReceiveWindowSize header data =
      .ok (some seg))
    (ack : header.ack = true) (syn : header.syn = false) (rst : header.rst = false)
    (unacked : e.cb.sender.sendUnacked.le header.ackNum = true)
    (known : header.ackNum.le e.cb.sender.sendNext = true)
    (received : e.cb.receive env header data = .ok cb') :
    e.cb.AdoptsWindow (((opened (σ := σ) o).lastUsed events).getD opening) header cb' ↔
      e.cb.adopts (((opened (σ := σ) o).lastUsed events).getD opening)
        (((opened (σ := σ) o).lastUsed events).getD (o.senderSeqNo, o.senderSeqNo)) header = true := by
  have compared : e.cb.sender.lastUpdate =
      ((opened (σ := σ) o).lastUsed events).getD (o.senderSeqNo, o.senderSeqNo) := run_lastUpdate ran
  rw [← compared]
  exact ControlBlock.receive_adoptsWindow_iff received accepted ack syn rst unacked known _

/-- A run, and then a segment without data. -/
def runThenReceive (e₀ : Endpoint σ) (events : List Event) (header : TcpHeader) :
    Except Fault (Endpoint σ × ControlBlock σ) := do
  let e ← e₀.run events
  let cb' ← e.cb.receive sampleEnv header []
  .ok (e, cb')

/-- What is computed of a run and the segment after it. -/
theorem runThenReceive_view {T : Type} (e₀ : Endpoint σ) (events : List Event) (header : TcpHeader)
    (view : Endpoint σ × ControlBlock σ → T) {t : T}
    (computed : (runThenReceive e₀ events header).map view = .ok t) :
    ∃ e cb', e₀.run events = .ok e ∧ e.cb.receive sampleEnv header [] = .ok cb' ∧ view (e, cb') = t := by
  obtain ⟨⟨e, cb'⟩, ran, same⟩ := Machine.map_eq_ok view computed
  obtain ⟨e', ran, received⟩ := bind_eq_ok.mp ran
  obtain ⟨cb'', received, eq⟩ := bind_eq_ok.mp received
  cases eq
  exact ⟨e, cb', ran, received, same⟩

/-- Three bytes are sent. -/
def sampleSends : List Event := [.call (.send [1, 2, 3]) sampleEnv]

/-- The ACK of three bytes closes the window. No segment had been used before it, and it is later than the
one of the handshake. -/
theorem window_adopted_iff_closed :
    ∃ (e : Endpoint CongestionControl.None) (cb' : _),
      (Endpoint.start (sampleBlock ⟨50⟩ ⟨40⟩ 100 10 1460)).run sampleSends = .ok e ∧
      e.cb.receive sampleEnv (sampleHeader 50 43 0) [] = .ok cb' ∧
      e.cb.AdoptsWindow (((Endpoint.start (sampleBlock ⟨50⟩ ⟨40⟩ 100 10 1460)).lastUsed sampleSends).getD
        (⟨49⟩, ⟨40⟩)) (sampleHeader 50 43 0) cb' := by
  obtain ⟨e, cb', ran, received, view⟩ := runThenReceive_view
    (Endpoint.start (sampleBlock ⟨50⟩ ⟨40⟩ 100 10 1460)) sampleSends (sampleHeader 50 43 0)
    (fun r => (r.1.cb.receiver.receiveNext, r.1.cb.getReceiveWindowSize, r.1.cb.sender.sendUnacked,
      r.1.cb.sender.sendNext, r.1.cb.adopts (⟨49⟩, ⟨40⟩) (⟨40⟩, ⟨40⟩) (sampleHeader 50 43 0)))
    (t := (⟨50⟩, 100, ⟨40⟩, ⟨43⟩, true)) (by decide +kernel)
  have unused : (Endpoint.start (sampleBlock ⟨50⟩ ⟨40⟩ 100 10 1460)).lastUsed sampleSends = none := by
    decide +kernel
  simp only [Prod.mk.injEq] at view
  obtain ⟨next, window, unacked, known, adopts⟩ := view
  refine ⟨e, cb', ran, received, (window_adopted_iff (sampleOpening ⟨50⟩ ⟨40⟩ 100 10 1460) (⟨49⟩, ⟨40⟩) _ e
    ran (sampleHeader 50 43 0) [] sampleEnv _ cb' (by rw [next, window]; rfl) rfl rfl rfl
    (by rw [unacked]; rfl) (by rw [known]; rfl) received).mpr ?_⟩
  change e.cb.adopts (((Endpoint.start (sampleBlock ⟨50⟩ ⟨40⟩ 100 10 1460)).lastUsed sampleSends).getD
    (⟨49⟩, ⟨40⟩)) (((Endpoint.start (sampleBlock ⟨50⟩ ⟨40⟩ 100 10 1460)).lastUsed sampleSends).getD
    (⟨40⟩, ⟨40⟩)) (sampleHeader 50 43 0) = true
  rw [unused]
  exact adopts

/-- After the run an acceptable ACK comes that is not older than the last segment used. It leaves the window
as it was, and this is not the window it brings. -/
def LosesWindow (e₀ : Endpoint σ) (opening : SeqNumber × SeqNumber) (events : List Event)
    (header : TcpHeader) : Prop :=
  ∃ e cb', e₀.run events = .ok e ∧
    (∃ seg, InSegment.accept e.cb.receiver.receiveNext e.cb.getReceiveWindowSize header [] =
      .ok (some seg)) ∧
    e.cb.sender.sendUnacked.le header.ackNum = true ∧ header.ackNum.le e.cb.sender.sendNext = true ∧
    header.notOlder ((e₀.lastUsed events).getD opening) = true ∧
    e.cb.receive sampleEnv header [] = .ok cb' ∧ cb'.sender.sendWindow = e.cb.sender.sendWindow ∧
    ¬e.cb.AdoptsWindow ((e₀.lastUsed events).getD opening) header cb'

/-- The states before and after the segment show that its window is lost. -/
theorem losesWindow_of_view {e₀ : Endpoint σ} {opening : SeqNumber × SeqNumber} {events : List Event}
    {header : TcpHeader} (current : header.notOlder ((e₀.lastUsed events).getD opening) = true)
    (next : SeqNumber) (room : UInt32) (unacked known : SeqNumber) (window : UInt32) (brought : Nat)
    (accepted : ∃ seg, InSegment.accept next room header [] = .ok (some seg))
    (within : unacked.le header.ackNum = true ∧ header.ackNum.le known = true)
    (other : window.toNat ≠ brought)
    (computed : (runThenReceive e₀ events header).map (fun r =>
      (r.1.cb.receiver.receiveNext, r.1.cb.getReceiveWindowSize, r.1.cb.sender.sendUnacked,
        r.1.cb.sender.sendNext, r.1.cb.sender.sendWindow, r.2.sender.sendWindow,
        r.1.cb.sender.advertised header)) =
      .ok (next, room, unacked, known, window, window, brought)) :
    LosesWindow e₀ opening events header := by
  obtain ⟨e, cb', ran, received, view⟩ := runThenReceive_view e₀ events header _ computed
  simp only [Prod.mk.injEq] at view
  obtain ⟨rfl, rfl, rfl, rfl, rfl, after, rfl⟩ := view
  refine ⟨e, cb', ran, accepted, within.1, within.2, current, received, after, ?_⟩
  rw [ControlBlock.AdoptsWindow, if_pos current, after]
  exact other

set_option synthInstance.maxSize 512 in
/-- Two windows that are lost. One was closed, and the segment that opens it again acknowledges nothing new:
it stays closed. The other is to be lowered from 100 to 10 by the first ACK after the handshake: its number
30 is before the local number 40, and the window stays 100. -/
theorem window_not_adopted :
    LosesWindow (Endpoint.start (sampleBlock ⟨50⟩ ⟨40⟩ 100 10 1460)) (⟨49⟩, ⟨40⟩)
      (sampleSends ++ [.receive (sampleHeader 50 43 0) [] sampleEnv]) (sampleHeader 50 43 100) ∧
    LosesWindow (Endpoint.start (sampleBlock ⟨30⟩ ⟨40⟩ 100 100 1460)) (⟨29⟩, ⟨40⟩) sampleSends
      (sampleHeader 30 43 10) :=
  ⟨losesWindow_of_view (by decide +kernel) ⟨50⟩ 100 ⟨43⟩ ⟨43⟩ 0 100 ⟨_, rfl⟩ ⟨rfl, rfl⟩ (by decide)
      (by decide +kernel),
    losesWindow_of_view (by decide +kernel) ⟨30⟩ 100 ⟨40⟩ ⟨43⟩ 100 10 ⟨_, rfl⟩ ⟨rfl, rfl⟩ (by decide)
      (by decide +kernel)⟩

end Endpoint

end Inetstack.Tcp
