import Inetstack.Lib.Machine

/-!
# One machine inside another

A step of a machine may be a step of a smaller one, or no step of it at all. `Simulates` says that it always
is one or the other, up to a relation between the two states, and that the event of the smaller machine can
be read off the event of the larger and the state where it is taken.

A run of the larger machine then is a run of the smaller one, over the trace of what was read off. The
smaller machine may be a part of the larger one, or what the larger one is an implementation of.
-/

namespace Machine

universe u v w

variable {S T : Type u} {E E' : Type v} {F : Type w}

/-- The step of an event, if there is one. -/
def stepOption (step : T → E' → Except F T) (t : T) : Option E' → Except F T
  | some e => step t e
  | none => .ok t

/-- Every step of `step` is one of `step'` or leaves it where it is. -/
def Simulates (step : S → E → Except F S) (step' : T → E' → Except F T) (event : S → E → Option E')
    (R : S → T → Prop) : Prop :=
  ∀ {s t e s'}, R s t → step s e = .ok s' → ∃ t', stepOption step' t (event s e) = .ok t' ∧ R s' t'

/-- The events of the smaller machine in a run of the larger. -/
def trace (step : S → E → Except F S) (event : S → E → Option E') : S → List E → List E'
  | _, [] => []
  | s, e :: es =>
    match step s e with
    | .ok s' => (event s e).toList ++ trace step event s' es
    | .error _ => []

variable {step : S → E → Except F S} {step' : T → E' → Except F T} {event : S → E → Option E'}
  {R : S → T → Prop}

theorem run_toList {t t' : T} {e : Option E'} :
    run step' t e.toList = .ok t' ↔ stepOption step' t e = .ok t' := by
  cases e with
  | none => exact Iff.rfl
  | some e =>
    rw [Option.toList_some, run_cons_ok]
    constructor
    · rintro ⟨u, stepped, ended⟩
      cases ended
      exact stepped
    · intro stepped
      exact ⟨t', stepped, rfl⟩

theorem trace_cons {s s' : S} {e : E} {es : List E} (stepped : step s e = .ok s') :
    trace step event s (e :: es) = (event s e).toList ++ trace step event s' es := by
  simp only [trace, stepped]

/-- **A run of the larger machine is a run of the smaller one.** -/
theorem Simulates.run (h : Simulates step step' event R) {s s' : S} {t : T} {es : List E}
    (start : R s t) (ran : Machine.run step s es = .ok s') :
    ∃ t', Machine.run step' t (trace step event s es) = .ok t' ∧ R s' t' := by
  induction es generalizing s t with
  | nil =>
    cases ran
    exact ⟨t, rfl, start⟩
  | cons e es ih =>
    obtain ⟨u, stepped, ran⟩ := run_cons_ok.mp ran
    obtain ⟨v, moved, related⟩ := h start stepped
    obtain ⟨t', later, ended⟩ := ih related ran
    refine ⟨t', ?_, ended⟩
    rw [trace_cons stepped, run_append_ok]
    exact ⟨v, run_toList.mpr moved, later⟩

/-- **The rule for a part that is not there at first.** A run of the larger machine ends before the smaller
one has begun, or is a run of the smaller one from where it began. -/
theorem Simulates.run_of_enters (h : Simulates step step' event R) {P : S → Prop} {Init : T → Prop}
    (enters : ∀ {s e s'}, P s → step s e = .ok s' → P s' ∨ ∃ t, Init t ∧ R s' t) {s s' : S} {es : List E}
    (start : P s) (ran : Machine.run step s es = .ok s') :
    P s' ∨ ∃ before after u t t', es = before ++ after ∧ Machine.run step s before = .ok u ∧ Init t ∧
      Machine.run step' t (trace step event u after) = .ok t' ∧ R s' t' := by
  induction es generalizing s with
  | nil =>
    cases ran
    exact .inl start
  | cons e es ih =>
    obtain ⟨u, stepped, ran⟩ := run_cons_ok.mp ran
    rcases enters start stepped with absent | ⟨t, init, related⟩
    · rcases ih absent ran with absent | ⟨before, after, v, t, t', rfl, first, init, later, related⟩
      · exact .inl absent
      · exact .inr ⟨e :: before, after, v, t, t', rfl, run_cons_ok.mpr ⟨u, stepped, first⟩, init, later,
          related⟩
    · obtain ⟨t', later, ended⟩ := h.run related ran
      exact .inr ⟨[e], es, u, t, t', rfl, run_cons_ok.mpr ⟨u, stepped, rfl⟩, init, later, ended⟩

/-- **What holds of every run of the smaller machine holds of the larger.** -/
theorem Simulates.invariant (h : Simulates step step' event R) {Inv : T → Prop}
    (keeps : ∀ {t e t'}, Inv t → step' t e = .ok t' → Inv t') {s s' : S} {t : T} {es : List E}
    (start : R s t) (inv : Inv t) (ran : Machine.run step s es = .ok s') : ∃ t', R s' t' ∧ Inv t' := by
  obtain ⟨t', moved, related⟩ := h.run start ran
  exact ⟨t', related, Machine.invariant Inv keeps inv moved⟩

/-- An invariant of the smaller machine is kept by a step of the larger. -/
theorem keeps_stepOption {Inv : T → Prop} (keeps : ∀ {t e t'}, Inv t → step' t e = .ok t' → Inv t')
    {t t' : T} {e : Option E'} (inv : Inv t) (moved : stepOption step' t e = .ok t') : Inv t' := by
  cases e with
  | some e => exact keeps inv moved
  | none =>
    cases moved
    exact inv

end Machine
