import Inetstack.Lib.Machine

/-!
# Two machines and the network between them

A node is a machine that takes events of its own and messages that arrive, and keeps a log of the messages
it has sent. The network may drop, duplicate, delay and reorder messages, and alters none. It therefore
needs no state: at any moment it may hand to one node any message of the other node's log.

`Network.invariant` is the rule for what holds of both nodes together: events of either node keep it, and so
does the arrival at either of a message the other has sent. The events of the run are at hand in each case,
so an invariant may speak of what has been asked for in the run.
-/

namespace Network

open Machine (bind_eq_ok)

universe u v w

/-- A machine on a network. What it is told besides a message that arrives is of the type `X`. -/
structure Node (S : Type u) (E : Type v) (M X F : Type w) where
  step : S → E → Except F S
  arrive : S → M → X → Except F S
  sent : S → List M

/-- An event of one of the nodes, or the delivery of a message by its place in the other node's log. -/
inductive Event (E : Type u) (E' : Type v) (X : Type w) where
  | left (event : E)
  | right (event : E')
  | toLeft (index : Nat) (x : X)
  | toRight (index : Nat) (x : X)

variable {S T : Type u} {E E' : Type v} {M X F : Type w}

/-- The arrival at a node of a message by its place in a log. -/
def deliver (node : Node S E M X F) (log : List M) (index : Nat) (x : X) (s : S) : Except F S :=
  match log[index]? with
  | some message => node.arrive s message x
  | none => .ok s

/-- One event of the network. -/
def step (l : Node S E M X F) (r : Node T E' M X F) (s : S × T) : Event E E' X → Except F (S × T)
  | .left event => (l.step s.1 event).map fun s' => (s', s.2)
  | .right event => (r.step s.2 event).map fun t' => (s.1, t')
  | .toLeft index x => (deliver l (r.sent s.2) index x s.1).map fun s' => (s', s.2)
  | .toRight index x => (deliver r (l.sent s.1) index x s.2).map fun t' => (s.1, t')

theorem map_eq_ok {A B : Type u} {x : Except F A} {f : A → B} {b : B} :
    x.map f = .ok b ↔ ∃ a, x = .ok a ∧ f a = b := by
  cases x with
  | ok a => simp only [Except.map, Except.ok.injEq, exists_eq_left']
  | error e => simp only [Except.map, reduceCtorEq, false_and, exists_false]

/-- A delivery is the arrival of a message of the log, or nothing. -/
theorem deliver_ok {node : Node S E M X F} {log : List M} {index : Nat} {x : X} {s s' : S}
    (ran : deliver node log index x s = .ok s') :
    s' = s ∨ ∃ message ∈ log, node.arrive s message x = .ok s' := by
  unfold deliver at ran
  split at ran
  next message found => exact .inr ⟨message, List.mem_of_getElem? found, ran⟩
  next => exact .inl (Except.ok.inj ran).symm

variable {l : Node S E M X F} {r : Node T E' M X F}

/-- **The ways the network can move.** -/
theorem step_cases {s s' : S × T} {event : Event E E' X} (stepped : step l r s event = .ok s') :
    s' = s ∨
    (∃ e, event = .left e ∧ l.step s.1 e = .ok s'.1 ∧ s'.2 = s.2) ∨
    (∃ e, event = .right e ∧ r.step s.2 e = .ok s'.2 ∧ s'.1 = s.1) ∨
    (∃ message x, message ∈ r.sent s.2 ∧ l.arrive s.1 message x = .ok s'.1 ∧ s'.2 = s.2) ∨
    ∃ message x, message ∈ l.sent s.1 ∧ r.arrive s.2 message x = .ok s'.2 ∧ s'.1 = s.1 := by
  cases event with
  | left e =>
    obtain ⟨t, ran, rfl⟩ := map_eq_ok.mp stepped
    exact .inr (.inl ⟨e, rfl, ran, rfl⟩)
  | right e =>
    obtain ⟨t, ran, rfl⟩ := map_eq_ok.mp stepped
    exact .inr (.inr (.inl ⟨e, rfl, ran, rfl⟩))
  | toLeft index x =>
    obtain ⟨t, ran, rfl⟩ := map_eq_ok.mp stepped
    rcases deliver_ok ran with rfl | ⟨message, member, ran⟩
    · exact .inl rfl
    · exact .inr (.inr (.inr (.inl ⟨message, x, member, ran, rfl⟩)))
  | toRight index x =>
    obtain ⟨t, ran, rfl⟩ := map_eq_ok.mp stepped
    rcases deliver_ok ran with rfl | ⟨message, member, ran⟩
    · exact .inl rfl
    · exact .inr (.inr (.inr (.inr ⟨message, x, member, ran, rfl⟩)))

/-- **The invariant rule.** What the events of either node keep, and the arrival at either of what the other
has sent, holds wherever a run ends. -/
theorem invariant {R : S → T → Prop} {events : List (Event E E' X)}
    (left : ∀ {s s' t e}, .left e ∈ events → R s t → l.step s e = .ok s' → R s' t)
    (right : ∀ {s t t' e}, .right e ∈ events → R s t → r.step t e = .ok t' → R s t')
    (toLeft : ∀ {s s' t message x}, R s t → message ∈ r.sent t → l.arrive s message x = .ok s' → R s' t)
    (toRight : ∀ {s t t' message x}, R s t → message ∈ l.sent s → r.arrive t message x = .ok t' → R s t')
    {s s' : S × T} (start : R s.1 s.2) (ran : Machine.run (step l r) s events = .ok s') : R s'.1 s'.2 := by
  have admits : Machine.Admits (step l r) (fun _ e => e ∈ events) s events :=
    Machine.admits_of_forall (fun _ member => member) s
  refine Machine.invariant_of_admits (fun s => R s.1 s.2) _ ?_ start admits ran
  intro s e s' inv member stepped
  obtain rfl | ⟨e, rfl, ran, same⟩ | ⟨e, rfl, ran, same⟩ | ⟨message, x, sent, ran, same⟩ |
    ⟨message, x, sent, ran, same⟩ := step_cases stepped
  · exact inv
  · exact same ▸ left member inv ran
  · exact same ▸ right member inv ran
  · exact same ▸ toLeft inv sent ran
  · exact same ▸ toRight inv sent ran

end Network
