import Inetstack.Laws.Tcp.Connections
import Inetstack.Laws.Tcp.Network

/-!
# The two directions of a connection of a peer

The text a peer transmits between two addresses stands at its numbers, before the connection there is
entered, while it lasts, and whatever the other connections do (`Sends`). What the peer has received stands at
its numbers, if what arrives does and the handshake began where it should (`Receives`).
-/

namespace Inetstack.Tcp

open Machine (bind_eq_ok stepOption)

/-! ## Where the numbers of a connection begin -/

namespace Endpoint

variable {σ : Type}

/-- The number of the first byte of text. -/
def firstSent (e : Endpoint σ) : SeqNumber := e.cb.sender.sendNext - (e.history.used : SeqNumber)

/-- What is used is counted from the first number, which stays. -/
theorem after_firstSent (e : Endpoint σ) (first : Bool) (cb : ControlBlock σ) (task : SenderTask) :
    (e.after first cb task).firstSent = e.firstSent := by
  change cb.sender.sendNext - ((e.history.used + (cb.sender.sendNext - e.cb.sender.sendNext).toNat : ℕ) :
    SeqNumber) = e.cb.sender.sendNext - (e.history.used : SeqNumber)
  rw [Nat.cast_add, SeqNumber.cast_toNat, add_comm, sub_add_eq_sub_sub, sub_sub_cancel]

variable [CongestionControl σ]

/-- A poll of the background sender moves SND.NXT by what it uses. -/
theorem senderStep_firstSent {e e' : Endpoint σ} {env : Env} {poll : SenderPoll}
    (stepped : e.senderStep env poll = .ok e') : e'.firstSent = e.firstSent := by
  unfold senderStep at stepped
  split at stepped
  · obtain ⟨⟨task, cb⟩, -, eq⟩ := bind_eq_ok.mp stepped
    cases eq
    exact after_firstSent ..
  · obtain ⟨⟨task, cb⟩, -, eq⟩ := bind_eq_ok.mp stepped
    cases eq
    exact after_firstSent ..
  · obtain ⟨⟨task, cb⟩, -, eq⟩ := bind_eq_ok.mp stepped
    cases eq
    exact after_firstSent ..
  · cases stepped
    rfl
  · cases stepped
    rfl
  · obtain ⟨⟨task, cb⟩, -, eq⟩ := bind_eq_ok.mp stepped
    cases eq
    exact after_firstSent ..
  · cases stepped
    rfl
  · cases stepped
    rfl

/-- Whatever is sent counts as used, so the first number stays. -/
theorem step_firstSent {e e' : Endpoint σ} {event : Event} (stepped : e.step event = .ok e') :
    e'.firstSent = e.firstSent := by
  cases event with
  | receive header data env =>
    obtain ⟨cb, -, eq⟩ := bind_eq_ok.mp stepped
    cases eq
    exact after_firstSent ..
  | call call env =>
    cases call with
    | send buf =>
      obtain ⟨⟨result, cb⟩, -, eq⟩ := bind_eq_ok.mp stepped
      cases result with
      | ok u =>
        cases eq
        exact after_firstSent e true cb e.task
      | error fail =>
        cases eq
        exact after_firstSent ..
    | close =>
      obtain ⟨cb, -, eq⟩ := bind_eq_ok.mp stepped
      cases eq
      exact after_firstSent ..
    | pollRecv =>
      simp only [step, call] at stepped
      split at stepped
      · cases stepped
        rfl
      next buf cb _ =>
        cases stepped
        exact after_firstSent e false cb e.task
    | sender poll => exact senderStep_firstSent stepped
    | acknowledger =>
      simp only [step, call] at stepped
      split at stepped
      · cases stepped
        rfl
      · obtain ⟨cb, -, eq⟩ := bind_eq_ok.mp stepped
        cases eq
        exact after_firstSent ..
    | retransmitter =>
      simp only [step, call] at stepped
      split at stepped
      · cases stepped
        rfl
      · cases stepped
        exact after_firstSent ..

end Endpoint

/-! ## What is sent -/

/-- The text of a log between two addresses stands where it may. -/
def Places (allows : SeqNumber → UInt8 → Prop) (key : SocketAddrV4 × SocketAddrV4) (log : List TcpSegment) :
    Prop :=
  ∀ segment ∈ log, segment.ends = key →
    Labelled allows (segment.tcpHdr.seqNum + if segment.tcpHdr.syn then 1 else 0) segment.data

/-- A segment without text stands anywhere. -/
theorem TcpSegment.labelled_of_bare {allows : SeqNumber → UInt8 → Prop} {segment : TcpSegment}
    (bare : segment.carriesText = false) (x : SeqNumber) : Labelled allows x segment.data := by
  unfold carriesText at bare
  cases data : segment.data with
  | nil => trivial
  | cons b rest =>
    rw [data] at bare
    cases bare

namespace TcpPeer

variable {p : TcpPeer} {key : SocketAddrV4 × SocketAddrV4} {base : SeqNumber} {S : List UInt8} {fin : Bool}

/-- The sending side between two addresses: nothing is sent before the connection is entered, and from then on
what its endpoint sends. -/
inductive Sends (key : SocketAddrV4 × SocketAddrV4) (base : SeqNumber) :
    List UInt8 → Bool → TcpPeer → Prop
  | absent {p : TcpPeer} (absent : p.Absent key) : Sends key base [] false p
  | entered {S : List UInt8} {fin : Bool} {p : TcpPeer} {alone : Endpoint CongestionControl.None}
      (related : p.Alone key alone) (transmits : alone.Transmits base S fin) : Sends key base S fin p

/-- What is sent stands at its numbers, whether the connection has been entered or not. -/
theorem Sends.places (h : p.Sends key base S fin) : Places (textByte base S fin) key p.rt.transmitted := by
  intro segment member ends
  cases text : segment.carriesText with
  | false => exact TcpSegment.labelled_of_bare text _
  | true =>
    cases h with
    | absent absent => exact absurd (absent.unspoken segment member ends text) List.not_mem_nil
    | entered related transmits => exact transmits.log segment (related.text segment member ends text)

/-- The connection between two addresses, if there is one, has numbered its text from `base` and has not
come round to where it began. -/
def Begins (key : SocketAddrV4 × SocketAddrV4) (base : SeqNumber) (p : TcpPeer) : Prop :=
  ∀ e, p.established.lookup key = some e → e.history.used < 2 ^ 31 ∧ e.firstSent = base

/-- The connection of a peer is numbered as it is alone. -/
theorem Begins.alone (h : p.Begins key base) {alone : Endpoint CongestionControl.None}
    (related : p.Alone key alone) : alone.history.used < 2 ^ 31 ∧ alone.firstSent = base := by
  obtain ⟨e, known, eq⟩ := related.known
  rw [eq]
  exact h e known

end TcpPeer

namespace PeerRun

variable {eof : Fail} {crc : List UInt8 → UInt32} {fallbackMss : Nat} {r r' : PeerRun}
  {key : SocketAddrV4 × SocketAddrV4} {event : PeerEvent} {base : SeqNumber} {S : List UInt8} {fin : Bool}

/-- A connection stays, at its number, and uses more of them. -/
theorem step_begins (begins : r'.peer.Begins key base) (stepped : r.step eof crc fallbackMss event = .ok r') :
    r.peer.Begins key base := by
  intro e known
  cases step_moves stepped with
  | idle apart same quiet => exact begins e (by rw [same, known])
  | @opened named cb untold offered fresh entered same =>
    refine begins e ?_
    rw [entered, Table.lookup_insert, if_neg, known]
    rintro rfl
    rw [fresh] at known
    cases known
  | @moved named ev first e' told found moved entered same =>
    by_cases eq : key = named
    · subst eq
      cases known.symm.trans found
      obtain ⟨few, from'⟩ := begins e' (by rw [entered, AList.lookup_insert])
      have used := Endpoint.step_used_le moved
      exact ⟨lt_of_le_of_lt used few, (Endpoint.step_firstSent moved).symm.trans from'⟩
    · refine begins e ?_
      rw [entered, Table.lookup_insert, if_neg eq, known]

/-- **What a peer sends between two addresses stands at its numbers**, while it has not come round. -/
theorem step_sends (h : r.peer.Sends key base S fin) (begins : r'.peer.Begins key base)
    (stepped : r.step eof crc fallbackMss event = .ok r') :
    ∃ S' fin', r'.peer.Sends key base S' fin' ∧
      ∀ x b, textByte base S fin x b → textByte base S' fin' x b := by
  cases h with
  | absent absent =>
    rcases step_enters absent stepped with absent | ⟨e, ⟨cb, isNew, nothing, rfl⟩, related⟩
    · exact ⟨[], false, .absent absent, fun _ _ here => here⟩
    · refine ⟨[], false, .entered related ?_, fun _ _ here => here⟩
      obtain ⟨o, -, rfl⟩ := isNew
      have first : o.senderSeqNo = base := by
        rw [← (begins.alone related).2]
        exact (sub_zero o.senderSeqNo).symm
      rw [← first]
      refine Endpoint.opened_transmits fun segment member => ?_
      have none : o.rt.transmitted = [] := nothing
      rw [none] at member
      cases member
  | @entered S fin p alone related transmits =>
    obtain ⟨alone', moved, related'⟩ :=
      related.step (step_ordered related.ordered stepped) (step_moves stepped)
    cases told : r.peer.eventFor eof key event with
    | none =>
      rw [told] at moved
      cases moved
      exact ⟨S, fin, .entered related' transmits, fun _ _ here => here⟩
    | some ev =>
      rw [told] at moved
      have few := (begins.alone related').1
      obtain ⟨S', fin', transmits', grows⟩ :=
        Endpoint.step_transmits transmits moved (lt_trans few (by decide))
      exact ⟨S', fin', .entered related' transmits', grows⟩

end PeerRun

/-! ## Where a handshake begins -/

variable {opens : SocketAddrV4 × SocketAddrV4 → SeqNumber → Prop} {key : SocketAddrV4 × SocketAddrV4}
  {addr : SocketAddrV4}

namespace ActiveOpenSocket

variable {fallbackMss : Nat} {s s' : ActiveOpenSocket}

/-- The control block of a connect attempt expects the text of its peer where `opens` says. -/
def TakesFrom (opens : SocketAddrV4 × SocketAddrV4 → SeqNumber → Prop) (key : SocketAddrV4 × SocketAddrV4)
    (s : ActiveOpenSocket) : Prop :=
  ∀ cb, s.result = some (.ok cb) → opens key cb.receiver.receiveNext

theorem TakesFrom.withRuntime (h : s.TakesFrom opens key) (rt : Runtime) :
    TakesFrom opens key { s with rt := rt } := h

/-- The text of the peer follows its SYN. -/
theorem controlBlock_receiveNext {header : TcpHeader} {cb : ControlBlock CongestionControl.None}
    (built : s.controlBlock fallbackMss header = .ok cb) :
    cb.receiver.receiveNext = header.seqNum + SeqNumber.mk 1 := by
  unfold controlBlock at built
  dsimp only at built
  split at built
  · obtain ⟨rx, -, built⟩ := bind_eq_ok.mp built
    obtain ⟨tx, -, built⟩ := bind_eq_ok.mp built
    cases built
    rfl
  · cases built

/-- The SYN+ACK that completes an attempt has the number that the peer's text follows on. -/
theorem TakesFrom.receive {env : Env} {header : TcpHeader} (h : s.TakesFrom opens key)
    (syn : header.syn = true → opens key (header.seqNum + SeqNumber.mk 1))
    (ran : s.receive fallbackMss env header = .ok s') : s'.TakesFrom opens key := by
  unfold ActiveOpenSocket.receive at ran
  dsimp only at ran
  split at ran
  · cases ran
    exact h
  split at ran
  · cases ran
    exact fun _ same => by cases same
  split at ran
  · cases ran
    exact h
  next isSyn =>
  split at ran
  · cases ran
  · obtain ⟨cb, built, ran⟩ := bind_eq_ok.mp ran
    cases ran
    intro cb' same
    cases same
    rw [controlBlock_receiveNext built]
    exact syn (by simpa using isSyn)

/-- A retry task completes no attempt but with an error. -/
theorem TakesFrom.background (h : s.TakesFrom opens key) (poll : RetryPoll) :
    (s.background poll).TakesFrom opens key := by
  unfold ActiveOpenSocket.background
  dsimp only
  split
  · exact h
  · exact h
  · exact fun _ same => by cases same

end ActiveOpenSocket

namespace PassiveSocket

variable {crc : List UInt8 → UInt32} {fallbackMss : Nat} {remoteAddr : SocketAddrV4} {s s' : PassiveSocket}

/-- The handshakes of a listener expect the text of their peers where `opens` says. -/
structure TakesFrom (opens : SocketAddrV4 × SocketAddrV4 → SeqNumber → Prop) (addr : SocketAddrV4)
    (s : PassiveSocket) : Prop where
  inflight : ∀ remoteAddr accept, s.inflight.lookup remoteAddr = some accept →
    opens (addr, remoteAddr) (accept.remoteIsn + SeqNumber.mk 1)
  ready : ∀ cb, .ok cb ∈ s.ready.ready → opens (addr, cb.remoteAddr) cb.receiver.receiveNext

theorem TakesFrom.withRuntime (h : s.TakesFrom opens addr) (rt : Runtime) :
    TakesFrom opens addr { s with rt := rt } := ⟨h.inflight, h.ready⟩

/-- The text of the peer follows the SYN that the handshake began with. -/
theorem controlBlock_from {accept : InflightAccept} {cb : ControlBlock CongestionControl.None}
    (built : s.controlBlock remoteAddr accept = .ok cb) :
    cb.remoteAddr = remoteAddr ∧ cb.receiver.receiveNext = accept.remoteIsn + SeqNumber.mk 1 := by
  unfold controlBlock at built
  dsimp only at built
  obtain ⟨tx, -, built⟩ := bind_eq_ok.mp built
  obtain ⟨rx, -, built⟩ := bind_eq_ok.mp built
  cases built
  exact ⟨rfl, rfl⟩

/-- The ACK that completes a handshake brings no number of its own. -/
theorem TakesFrom.receiveInflight {accept : InflightAccept} {header : TcpHeader} {result : Except Fail Unit}
    (h : s.TakesFrom opens addr) (known : s.inflight.lookup remoteAddr = some accept)
    (ran : s.receiveInflight remoteAddr accept header = .ok (result, s')) : s'.TakesFrom opens addr := by
  unfold PassiveSocket.receiveInflight at ran
  split at ran
  · cases ran
    exact h
  split at ran
  · cases ran
    exact h
  obtain ⟨cb, built, ran⟩ := bind_eq_ok.mp ran
  obtain ⟨ready, pushed, ran⟩ := bind_eq_ok.mp ran
  cases ran
  unfold ReadySockets.pushOk at pushed
  split at pushed
  · cases pushed
  cases pushed
  refine ⟨Table.forall_erase h.inflight, fun cb' member => ?_⟩
  rcases List.mem_append.mp member with old | new
  · exact h.ready cb' old
  · cases List.mem_singleton.mp new
    obtain ⟨remote, next⟩ := controlBlock_from built
    rw [remote, next]
    exact h.inflight remoteAddr accept known

/-- A segment begins a handshake with its own number, or completes one. -/
theorem TakesFrom.receive {header : TcpHeader} {result : Except Fail Unit} (h : s.TakesFrom opens addr)
    (syn : header.syn = true → opens (addr, remoteAddr) (header.seqNum + SeqNumber.mk 1))
    (ran : s.receive crc fallbackMss remoteAddr header = .ok (result, s')) : s'.TakesFrom opens addr := by
  unfold PassiveSocket.receive at ran
  split at ran
  · cases ran
    exact h
  split at ran
  next accept known => exact h.receiveInflight known ran
  · unfold receiveNew at ran
    split at ran
    · cases ran
      exact h
    next flags =>
    split at ran
    · cases ran
      exact h
    · cases ran
      refine ⟨Table.forall_insert h.inflight ?_, h.ready⟩
      simp only [Bool.or_eq_true, Bool.not_eq_true', not_or, Bool.not_eq_false] at flags
      exact syn flags.1.1

theorem TakesFrom.background (h : s.TakesFrom opens addr) (remoteAddr : SocketAddrV4) (poll : RetryPoll) :
    (s.background remoteAddr poll).TakesFrom opens addr := by
  unfold PassiveSocket.background
  split
  · exact h
  next accept known =>
    dsimp only
    -- the task is another, the numbers are the same
    have kept (handle : RetryTask) := Table.forall_insert (v := { accept with handle := handle }) h.inflight
      (h.inflight remoteAddr accept known)
    split
    · exact ⟨kept _, h.ready⟩
    · exact ⟨kept _, h.ready⟩
    · refine ⟨kept _, fun cb member => ?_⟩
      rcases List.mem_append.mp member with old | new
      · exact h.ready cb old
      · cases List.mem_singleton.mp new

/-- An accept takes one control block out of the queue. -/
theorem TakesFrom.pollAccept {result : Option OpenResult} (h : s.TakesFrom opens addr)
    (ran : s.pollAccept = .ok (result, s')) : s'.TakesFrom opens addr := by
  obtain ⟨-, -, rfl⟩ | ⟨first, rest, endpoints, -, queue, rfl⟩ := pollAccept_cases ran
  · exact h
  · exact ⟨h.inflight, fun cb member => h.ready cb (queue ▸ List.mem_cons_of_mem _ member)⟩

end PassiveSocket

/-- **A handshake takes the number of its peer from a SYN that has arrived.** -/
theorem takesFrom_kept (crc : List UInt8 → UInt32) (fallbackMss : Nat)
    (opens : SocketAddrV4 × SocketAddrV4 → SeqNumber → Prop) :
    KeptByHandshakes crc fallbackMss
      (fun key header => header.syn = true → opens key (header.seqNum + SeqNumber.mk 1))
      (fun key s => s.TakesFrom opens key) fun addr s => s.TakesFrom opens addr where
  started _ _ _ _ := fun _ same => by cases same
  answered rt h syn received := (h.withRuntime rt).receive syn received
  retried rt poll h := (h.withRuntime rt).background poll
  opened _ _ _ _ := ⟨fun _ _ found => (by cases found), fun _ member => (by cases member)⟩
  reached rt h syn received := (h.withRuntime rt).receive syn received
  repeated rt remoteAddr poll h := (h.withRuntime rt).background remoteAddr poll
  taken h polled := h.pollAccept polled

/-! ## What is received -/

namespace TcpPeer

variable {eof : Fail} {p q : TcpPeer} {named : SocketAddrV4 × SocketAddrV4} {event : PeerEvent}
  {base : SeqNumber} {allows : SeqNumber → UInt8 → Prop}

/-- The handshakes of a peer expect the text of their peers where `opens` says. -/
def Expects (opens : SocketAddrV4 × SocketAddrV4 → SeqNumber → Prop) (p : TcpPeer) : Prop :=
  p.Pending (fun key s => s.TakesFrom opens key) fun addr s => s.TakesFrom opens addr

/-- What may be entered expects the text of its peer where `opens` says. -/
theorem Expects.offers (h : p.Expects opens) (ordered : p.Ordered)
    {cb : ControlBlock CongestionControl.None} (offered : p.Offers key cb) :
    opens key cb.receiver.receiveNext := by
  have isNew := ordered.isNew offered
  obtain ⟨s, found, result⟩ | ⟨addr, s, found, member, rfl⟩ := offered
  · exact h.connecting key s found cb result
  · have own : cb.localAddr = addr :=
      congrArg Prod.fst ((ordered.passive addr s found).ready cb member).addresses
    exact own ▸ (h.passive addr s found).ready cb member

/-- What the connection between two addresses has received stands where it may. -/
def Receives (key : SocketAddrV4 × SocketAddrV4) (base : SeqNumber) (allows : SeqNumber → UInt8 → Prop)
    (p : TcpPeer) : Prop :=
  ∀ e, p.established.lookup key = some e → e.cb.receiveSide.Holds allows base e.history.delivered

/-- More may have been sent. -/
theorem Receives.mono {allows' : SeqNumber → UInt8 → Prop} (weaker : ∀ x b, allows x b → allows' x b)
    (h : p.Receives key base allows) : p.Receives key base allows' :=
  fun e known => (h e known).mono weaker

/-- A segment that is for a connection has arrived between its addresses. -/
theorem addressed_receive {header : TcpHeader} {data : Buffer} {env : Env}
    (told : p.addressed eof event = some (key, .receive header data env)) :
    ∃ ipHdr buf, event = .receive ipHdr buf env ∧ key = ends ipHdr header ∧
      (TcpHeader.parse eof ipHdr buf p.rt.tcpOptions.rxChecksumOffload).run = .ok (.ok (header, data)) := by
  unfold addressed at told
  split at told
  · obtain ⟨_, -, eq⟩ := Option.map_eq_some_iff.mp told
    cases eq
  · obtain ⟨_, -, eq⟩ := Option.map_eq_some_iff.mp told
    cases eq
  · obtain ⟨_, -, eq⟩ := Option.map_eq_some_iff.mp told
    cases eq
  next ipHdr buf env' =>
    split at told
    next header' data' parsed =>
      split at told
      · cases told
      · cases told
        exact ⟨ipHdr, buf, rfl, rfl, parsed⟩
    · cases told
  · cases told
  · cases told

end TcpPeer

namespace PeerRun

variable {eof : Fail} {crc : List UInt8 → UInt32} {fallbackMss : Nat} {r r' : PeerRun} {event : PeerEvent}
  {base : SeqNumber} {allows : SeqNumber → UInt8 → Prop}

/-- **What a peer receives between two addresses stands at its numbers**, if the handshake began there and
what arrives does. -/
theorem step_receives (h : r.peer.Receives key base allows) (ordered : r.peer.Ordered)
    (expects : r.peer.Expects fun key' x => key' = key → x = base)
    (arrives : ∀ header data env, r.peer.addressed eof event = some (key, .receive header data env) →
      Labelled allows (header.seqNum + if header.syn then 1 else 0) data)
    (stepped : r.step eof crc fallbackMss event = .ok r') : r'.peer.Receives key base allows := by
  intro e known
  cases step_moves stepped with
  | idle apart same quiet => exact h e (same ▸ known)
  | @opened named cb untold offered fresh entered same =>
    rw [entered, Table.lookup_insert] at known
    split at known
    next eq =>
      subst eq
      cases known
      have first := expects.offers ordered offered rfl
      obtain ⟨o, -, rfl⟩ := ordered.isNew offered
      rw [← first]
      exact Endpoint.opened_holds o
    next => exact h e known
  | @moved named ev first e' told found moved entered same =>
    rw [entered, Table.lookup_insert] at known
    split at known
    next eq =>
      subst eq
      cases known
      have holds : (first.on r.peer.rt).cb.receiveSide.Holds allows base
          (first.on r.peer.rt).history.delivered := h first found
      refine Endpoint.step_holds holds (fun header data env eq => ?_) moved
      subst eq
      exact arrives header data env told
    next => exact h e known

end PeerRun

/-! ## The two together -/

namespace TcpPeer

variable {eof : Fail} {crc : List UInt8 → UInt32} {fallbackMss : Nat} {p q : TcpPeer} {r r' : PeerRun}
  {event : PeerEvent} {base : SeqNumber}

/-- Whatever a peer has said to open a connection between two addresses, the text has followed on it. -/
structure OpensOnce (key : SocketAddrV4 × SocketAddrV4) (base : SeqNumber) (p : TcpPeer) : Prop where
  begins : p.Begins key base
  syns : ∀ segment ∈ p.rt.transmitted, segment.ends = key → segment.tcpHdr.syn = true →
    segment.tcpHdr.seqNum + SeqNumber.mk 1 = base

/-- A peer forgets nothing of what it has said. -/
theorem Moves.log {p' : TcpPeer} (moves : Moves eof p event p') :
    ∃ new, p'.rt.transmitted = p.rt.transmitted ++ new := by
  cases moves with
  | idle apart same quiet =>
    obtain ⟨new, log, -⟩ := quiet.log
    exact ⟨new, log⟩
  | opened untold offered fresh entered same => exact ⟨[], by rw [same, List.append_nil]⟩
  | moved told known stepped entered same =>
    obtain ⟨new, log, -⟩ := (Endpoint.step_stays stepped).log
    exact ⟨new, same ▸ log⟩

/-- What opens once after a step has opened at most once before it. -/
theorem OpensOnce.back (once : r'.peer.OpensOnce key base)
    (stepped : r.step eof crc fallbackMss event = .ok r') : r.peer.OpensOnce key base := by
  refine ⟨PeerRun.step_begins once.begins stepped, fun segment member => once.syns segment ?_⟩
  obtain ⟨new, log⟩ := (PeerRun.step_moves stepped).log
  rw [log]
  exact List.mem_append_left _ member

/-- **One direction of a connection**: what the one peer sends and what the other has received stand at the
same numbers. -/
structure Streams (key : SocketAddrV4 × SocketAddrV4) (base : SeqNumber) (p q : TcpPeer) : Prop where
  ordered : q.Ordered
  agree : p.OpensOnce key base → q.Expects (fun key' x => key' = key.swap → x = base) ∧
    ∃ S fin, p.Sends key base S fin ∧ q.Receives key.swap base (textByte base S fin)

/-- **One step of the sender** extends the stream the receiver has a part of. -/
theorem Streams.stepSender (h : Streams key base r.peer q)
    (stepped : r.step eof crc fallbackMss event = .ok r') : Streams key base r'.peer q := by
  refine ⟨h.ordered, fun once => ?_⟩
  obtain ⟨expects, S, fin, sends, receives⟩ := h.agree (once.back stepped)
  obtain ⟨S', fin', sends', grows⟩ := PeerRun.step_sends sends once.begins stepped
  exact ⟨expects, S', fin', sends', receives.mono grows⟩

/-- What arrives is what the other peer has said. -/
theorem Streams.stepReceiver (h : Streams key base p r.peer)
    (arrives : ∀ ipHdr buf env header data, event = .receive ipHdr buf env →
      (TcpHeader.parse eof ipHdr buf r.peer.rt.tcpOptions.rxChecksumOffload).run = .ok (.ok (header, data)) →
      ∃ segment ∈ p.rt.transmitted, ends ipHdr header = segment.ends.swap ∧
        header = segment.tcpHdr ∧ data = segment.data)
    (stepped : r.step eof crc fallbackMss event = .ok r') : Streams key base p r'.peer := by
  refine ⟨PeerRun.step_ordered h.ordered stepped, fun once => ?_⟩
  obtain ⟨expects, S, fin, sends, receives⟩ := h.agree once
  refine ⟨PeerRun.step_pending (takesFrom_kept crc fallbackMss _) expects ?_ stepped, S, fin, sends,
    PeerRun.step_receives receives h.ordered expects ?_ stepped⟩
  · intro ipHdr buf env header data eq parsed syn here
    obtain ⟨segment, member, ends, rfl, rfl⟩ := arrives ipHdr buf env header data eq parsed
    exact once.syns segment member (Prod.swap_injective (ends.symm.trans here)) syn
  · intro header data env told
    obtain ⟨ipHdr, buf, eq, here, parsed⟩ := addressed_receive told
    obtain ⟨segment, member, ends, rfl, rfl⟩ := arrives ipHdr buf env header data eq parsed
    exact sends.places segment member (Prod.swap_injective (ends.symm.trans here.symm))

/-- What has been read is a prefix of what was accepted. -/
theorem Streams.prefix_accepted (h : Streams key base p q) (once : p.OpensOnce key base)
    {e e' : Endpoint CongestionControl.None} (known : p.established.lookup key = some e)
    (known' : q.established.lookup key.swap = some e') :
    e'.history.delivered.flatten <+: e.history.accepted.flatten := by
  obtain ⟨-, S, fin, sends, receives⟩ := h.agree once
  cases sends with
  | absent absent =>
    rw [absent.absent] at known
    cases known
  | entered related transmits =>
    obtain ⟨first, found, eq⟩ := related.known
    cases known.symm.trans found
    have used := transmits.length_le_used
    have accepted := transmits.prefix_accepted
    rw [eq] at used accepted
    have few := (once.begins e known).1
    have received := prefix_of_textByte (lt_of_le_of_lt used (lt_trans few (by decide)))
      (receives e' known').received
    exact ((List.prefix_append _ _).trans received).trans accepted

/-- Nothing has been sent and nothing received. -/
theorem Streams.new (absent : p.Absent key) (shuffle : List UInt16 → List UInt16) (nonce : UInt32)
    (rt : Runtime) (localIpv4Addr : Ipv4Addr) :
    Streams key base p (.new shuffle nonce rt localIpv4Addr) :=
  ⟨.new shuffle nonce rt localIpv4Addr, fun _ => ⟨.new shuffle nonce rt localIpv4Addr, [], false,
    .absent absent, fun _ found => by cases found⟩⟩

end TcpPeer

end Inetstack.Tcp
