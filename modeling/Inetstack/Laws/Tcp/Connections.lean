import Inetstack.Laws.Tcp.Origins

/-!
# A peer is its connections, side by side

No connection reads what has been transmitted, so a connection of a peer, whose log all connections share,
takes the steps it would take on a log of its own. `Alone` relates the two, and a peer simulates each of its
connections: every run of a peer is, for each connection, a run of an endpoint, over the events that were for
it. Where the connection began, that endpoint was a new one.
-/

namespace Inetstack.Tcp

open Machine (Simulates bind_eq_ok stepOption trace)

namespace TcpPeer

/-- What text of a connection is in the log of the peer is in its own. -/
def Covers (key : SocketAddrV4 × SocketAddrV4) (log own : List TcpSegment) : Prop :=
  ∀ segment ∈ log, segment.ends = key → segment.carriesText = true → segment ∈ own

theorem Covers.append {key : SocketAddrV4 × SocketAddrV4} {log own new new' : List TcpSegment}
    (h : Covers key log own) (more : Covers key new new') : Covers key (log ++ new) (own ++ new') := by
  intro segment member ends text
  rcases List.mem_append.mp member with old | new
  · exact List.mem_append_left _ (h segment old ends text)
  · exact List.mem_append_right _ (more segment new ends text)

/-- Segments that carry no text are covered by nothing. -/
theorem covers_quiet {key : SocketAddrV4 × SocketAddrV4} {rt : Runtime} {new : List TcpSegment}
    (silent : ∀ segment ∈ new, rt.Bare segment) : Covers key new [] := by
  intro segment member _ text
  rw [(silent segment member).carriesText] at text
  cases text

/-- `alone` is the connection of a peer as it would be on a log of its own. -/
structure Alone (key : SocketAddrV4 × SocketAddrV4) (p : TcpPeer)
    (alone : Endpoint CongestionControl.None) : Prop where
  ordered : p.Ordered
  known : ∃ e, p.established.lookup key = some e ∧ alone = e.on (p.rt.withLog alone.cb.rt.transmitted)
  own : alone.cb.rt.transmitted.Sublist p.rt.transmitted
  text : Covers key p.rt.transmitted alone.cb.rt.transmitted

variable {eof : Fail} {p p' : TcpPeer} {key named : SocketAddrV4 × SocketAddrV4} {event : PeerEvent}
  {ev : Event}
  {alone e e' : Endpoint CongestionControl.None}

/-- The peer has transmitted more, and not for the connection. -/
theorem Alone.quiet (h : p.Alone key alone) (ordered : p'.Ordered)
    (same : p'.established.lookup key = p.established.lookup key) (rt : p.rt.Same p'.rt)
    {new : List TcpSegment} (log : p'.rt.transmitted = p.rt.transmitted ++ new) (covers : Covers key new []) :
    p'.Alone key alone where
  ordered := ordered
  known := by
    obtain ⟨e, found, eq⟩ := h.known
    exact ⟨e, same.trans found, by rw [rt.withLog, ← eq]⟩
  own := log ▸ h.own.trans (List.sublist_append_left _ _)
  text := by
    have covers' := h.text.append covers
    rwa [List.append_nil, ← log] at covers'

/-- **A step of the connection**, as it would be on its own log. -/
theorem Alone.moved (h : p.Alone key alone) (ordered : p'.Ordered) (known : p.established.lookup key = some e)
    (stepped : (e.on p.rt).step ev = .ok e') (entered : p'.established.lookup key = some e')
    (same : p'.rt = e'.cb.rt) : ∃ alone', alone.step ev = .ok alone' ∧ p'.Alone key alone' := by
  obtain ⟨first, found, eq⟩ := h.known
  cases known.symm.trans found
  obtain ⟨new, log, ran⟩ := Endpoint.step_on stepped alone.cb.rt.transmitted
  rw [← eq] at ran
  refine ⟨_, ran, ordered, ⟨e', entered, ?_⟩, ?_, ?_⟩
  · rw [same]
    rfl
  · rw [same, log]
    exact h.own.append (List.Sublist.refl new)
  · rw [same, log]
    exact h.text.append fun segment member _ _ => member

/-- A step of another connection. -/
theorem Alone.apart (h : p.Alone key alone) (ordered : p'.Ordered) (other : named ≠ key)
    (known : p.established.lookup named = some e) (stepped : (e.on p.rt).step ev = .ok e')
    (entered : p'.established = p.established.insert named e') (same : p'.rt = e'.cb.rt) :
    p'.Alone key alone := by
  have stays := Endpoint.step_stays stepped
  obtain ⟨new, log, own⟩ := stays.log
  have config := Endpoint.step_same stepped
  refine h.quiet ordered ?_ (same ▸ config) (same ▸ log) ?_
  · rw [entered, Table.lookup_insert, if_neg other.symm]
  · intro segment member ends
    -- what it says is between its own addresses
    have named' : (e.cb.localAddr, e.cb.remoteAddr) = named := h.ordered.established named e known
    exact absurd (named'.symm.trans ((own segment member).ends.symm.trans ends)) other

/-- **What a peer does to one of its connections**: a step of it, or nothing. -/
theorem Alone.step (h : p.Alone key alone) (ordered : p'.Ordered) (moves : Moves eof p event p') :
    ∃ alone', stepOption Endpoint.step alone (p.eventFor eof key event) = .ok alone' ∧
      p'.Alone key alone' := by
  obtain ⟨first, found, -⟩ := h.known
  cases moves with
  | idle apart same quiet =>
    have none : p.eventFor eof key event = none := by
      unfold eventFor
      split
      next named ev told =>
        split
        next eq =>
          have absent := apart named ev told
          rw [eq, found] at absent
          cases absent
        next => rfl
      next => rfl
    obtain ⟨new, log, silent⟩ := quiet.log
    rw [none]
    exact ⟨alone, rfl, h.quiet ordered (by rw [same]) quiet.toSame log (covers_quiet silent)⟩
  | @opened named cb untold offered fresh entered same =>
    have none : p.eventFor eof key event = none := by simp only [eventFor, untold]
    rw [none]
    have log : p'.rt.transmitted = p.rt.transmitted ++ [] := by rw [same, List.append_nil]
    refine ⟨alone, rfl, h.quiet ordered ?_ (same ▸ ⟨rfl, rfl⟩) log fun _ member => ?_⟩
    · rw [entered, Table.lookup_insert, if_neg]
      rintro rfl
      rw [fresh] at found
      cases found
    · exact absurd member List.not_mem_nil
  | @moved named ev e e' told known stepped entered same =>
    simp only [eventFor, told]
    split
    next eq =>
      subst eq
      exact h.moved ordered known stepped (by rw [entered, AList.lookup_insert]) same
    next other => exact ⟨alone, rfl, h.apart ordered other known stepped entered same⟩

/-- No text has been transmitted between two addresses. -/
def Unspoken (key : SocketAddrV4 × SocketAddrV4) (p : TcpPeer) : Prop := Covers key p.rt.transmitted []

/-- There is no connection between two addresses, and there has been none. -/
structure Absent (key : SocketAddrV4 × SocketAddrV4) (p : TcpPeer) : Prop where
  ordered : p.Ordered
  absent : p.established.lookup key = none
  unspoken : p.Unspoken key

theorem new_absent (key : SocketAddrV4 × SocketAddrV4) (shuffle : List UInt16 → List UInt16)
    (nonce : UInt32) {rt : Runtime} (localIpv4Addr : Ipv4Addr) (nothing : rt.transmitted = []) :
    (new shuffle nonce rt localIpv4Addr).Absent key := by
  refine ⟨.new shuffle nonce rt localIpv4Addr, rfl, ?_⟩
  change Covers key rt.transmitted []
  rw [nothing]
  exact fun _ member => absurd member List.not_mem_nil

theorem Absent.stays (h : p.Absent key) (ordered : p'.Ordered) (same : p'.established.lookup key = none)
    {new : List TcpSegment} (log : p'.rt.transmitted = p.rt.transmitted ++ new) (covers : Covers key new []) :
    p'.Absent key := by
  refine ⟨ordered, same, ?_⟩
  have covers' := h.unspoken.append covers
  rwa [← log] at covers'

end TcpPeer

namespace PeerRun

variable {eof : Fail} {crc : List UInt8 → UInt32} {fallbackMss : Nat} {r r' : PeerRun}
  {key : SocketAddrV4 × SocketAddrV4} {event : PeerEvent}

/-- What an event of a peer is to one of its connections. -/
def eventFor (eof : Fail) (key : SocketAddrV4 × SocketAddrV4) (r : PeerRun) (event : PeerEvent) :
    Option Event :=
  r.peer.eventFor eof key event

/-- **A peer simulates each of its connections.** -/
theorem simulates_connection (eof : Fail) (crc : List UInt8 → UInt32) (fallbackMss : Nat)
    (key : SocketAddrV4 × SocketAddrV4) :
    Simulates (step eof crc fallbackMss) Endpoint.step (eventFor eof key)
      fun r alone => r.peer.Alone key alone := by
  intro r alone event r' related stepped
  exact related.step (step_ordered related.ordered stepped) (step_moves stepped)

/-- A new connection. -/
def Enters (key : SocketAddrV4 × SocketAddrV4) (e : Endpoint CongestionControl.None) : Prop :=
  ∃ cb, cb.IsNew key ∧ cb.rt.transmitted = [] ∧ e = .start cb

/-- **A connection enters new.** -/
theorem step_enters (h : r.peer.Absent key) (stepped : r.step eof crc fallbackMss event = .ok r') :
    r'.peer.Absent key ∨ ∃ e, Enters key e ∧ r'.peer.Alone key e := by
  have ordered := step_ordered h.ordered stepped
  cases step_moves stepped with
  | idle apart same quiet =>
    obtain ⟨new, log, silent⟩ := quiet.log
    exact .inl (h.stays ordered (by rw [same, h.absent]) log (TcpPeer.covers_quiet silent))
  | @opened named cb untold offered fresh entered same =>
    by_cases eq : key = named
    · subst eq
      have isNew := (h.ordered.isNew offered).withRuntime (r'.peer.rt.withLog [])
      refine .inr ⟨_, ⟨_, isNew, rfl, rfl⟩, ordered, ⟨.start cb, ?_, rfl⟩,
        List.nil_sublist _, ?_⟩
      · rw [entered, AList.lookup_insert]
      · rw [same]
        exact h.unspoken
    · have log : r'.peer.rt.transmitted = r.peer.rt.transmitted ++ [] := by rw [same, List.append_nil]
      refine .inl (h.stays ordered ?_ log fun _ member => absurd member List.not_mem_nil)
      rw [entered, Table.lookup_insert, if_neg eq, h.absent]
  | @moved named ev e e' told known moved entered same =>
    have other : key ≠ named := by
      rintro rfl
      rw [h.absent] at known
      cases known
    obtain ⟨new, log, own⟩ := (Endpoint.step_stays moved).log
    have named' : (e.cb.localAddr, e.cb.remoteAddr) = named := h.ordered.established named e known
    refine .inl (h.stays ordered ?_ (same ▸ log) ?_)
    · rw [entered, Table.lookup_insert, if_neg other, h.absent]
    · intro segment member ends
      exact absurd (ends.symm.trans ((own segment member).ends.trans named')) other

/-- **A peer is its connections, side by side.** In every run of a peer, each connection has done what it
would have done alone: it was entered as a new control block between its addresses, and from then on its
state is that of a run of one endpoint with a log of its own, over the events that were for it, whatever
happened on the other connections. Whatever text the peer has transmitted between the two addresses is
in that log. -/
theorem connection_alone (eof : Fail) (crc : List UInt8 → UInt32) (fallbackMss : Nat)
    (shuffle : List UInt16 → List UInt16) (nonce : UInt32) (rt : Runtime) (localIpv4Addr : Ipv4Addr)
    (nothing : rt.transmitted = []) (events : List PeerEvent) (r : PeerRun)
    (ran : Machine.run (step eof crc fallbackMss) (start (.new shuffle nonce rt localIpv4Addr)) events =
      .ok r) (key : SocketAddrV4 × SocketAddrV4) (e : Endpoint CongestionControl.None)
    (known : r.peer.established.lookup key = some e) :
    ∃ before after entered cb alone, events = before ++ after ∧
      Machine.run (step eof crc fallbackMss) (start (.new shuffle nonce rt localIpv4Addr)) before =
        .ok entered ∧
      cb.IsNew key ∧ cb.rt.transmitted = [] ∧
      (Endpoint.start cb).run (trace (step eof crc fallbackMss) (eventFor eof key) entered after) =
        .ok alone ∧
      alone = e.on (r.peer.rt.withLog alone.cb.rt.transmitted) ∧
      alone.cb.rt.transmitted.Sublist r.peer.rt.transmitted ∧
      ∀ segment ∈ r.peer.rt.transmitted, segment.ends = key → segment.carriesText = true →
        segment ∈ alone.cb.rt.transmitted := by
  have absent : (start (.new shuffle nonce rt localIpv4Addr)).peer.Absent key :=
    TcpPeer.new_absent key shuffle nonce localIpv4Addr nothing
  rcases Simulates.run_of_enters (simulates_connection eof crc fallbackMss key) step_enters absent ran with
    absent | ⟨before, after, entered, _, alone, split, first, ⟨cb, isNew, silent, rfl⟩, later, related⟩
  · rw [absent.absent] at known
    cases known
  · obtain ⟨e', found, eq⟩ := related.known
    cases known.symm.trans found
    exact ⟨before, after, entered, cb, alone, split, first, isNew, silent, later, eq, related.own,
      related.text⟩

/-- A connection on which the user has sent three bytes. -/
theorem connection_alone_sent :
    ∃ r e, Machine.run (step sampleFail (fun _ => 500) 536) sampleStart
        (sampleConnect ++ [.receive sampleIpHdr (sampleBytes 0x12) sampleEnv, .connectFinished 1,
          .send 1 [1, 2, 3] sampleEnv]) = .ok r ∧
      r.peer.established.lookup (⟨0x0a000001, 80⟩, ⟨0x0a000002, 90⟩) = some e ∧
      e.history.accepted = [[1, 2, 3]] ∧
      ∃ entered cb alone after, ControlBlock.IsNew (⟨0x0a000001, 80⟩, ⟨0x0a000002, 90⟩) cb ∧
        (Endpoint.start cb).run (trace (step sampleFail (fun _ => 500) 536)
          (eventFor sampleFail (⟨0x0a000001, 80⟩, ⟨0x0a000002, 90⟩)) entered after) = .ok alone ∧
        alone = e.on (r.peer.rt.withLog alone.cb.rt.transmitted) := by
  obtain ⟨r, ran, view⟩ := Machine.map_eq_ok
    (x := Machine.run (step sampleFail (fun _ => 500) 536) sampleStart
      (sampleConnect ++ [.receive sampleIpHdr (sampleBytes 0x12) sampleEnv, .connectFinished 1,
        .send 1 [1, 2, 3] sampleEnv]))
    (fun r => (r.peer.established.lookup (⟨0x0a000001, 80⟩, ⟨0x0a000002, 90⟩)).map fun e =>
      e.history.accepted) (t := some [[1, 2, 3]]) (by decide +kernel)
  obtain ⟨e, known, accepted⟩ := Option.map_eq_some_iff.mp view
  obtain ⟨before, after, entered, cb, alone, -, -, isNew, -, later, same, -⟩ :=
    connection_alone sampleFail _ 536 id 0 _ _ rfl _ r ran _ e known
  exact ⟨r, e, ran, known, accepted, entered, cb, alone, after, isNew, later, same⟩

end PeerRun

end Inetstack.Tcp
