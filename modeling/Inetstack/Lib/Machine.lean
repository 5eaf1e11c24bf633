/-!
# Machines that may stop, their runs and their invariants

A machine is a function that takes a state and an event to the next state, or stops with a fault. A
run takes a list of events in order and stops at the first fault; what is proved of the states
runs reach therefore holds up to the first fault.

`Admits ok` says that every event of a list, at the state where it is taken, satisfies `ok`. The two
induction rules are `invariant` and `invariant_of_admits`: an invariant that every step keeps, or
every admitted step, holds wherever a run ends; `forall_take_iff_admits` turns the second into an
equivalence where a step that is not admitted breaks what is claimed, and `run_ok_iff_admits` is that
equivalence for not stopping at all. `Occurs p` says that some event of a list was taken at
a state where it satisfies `p`, and `occurs_of_run` finds that event from what it brought about.
`remembered` follows a record that is kept of a run beside the machine, and `invariant_remembered` is the
invariant rule for the two together. `run_agree` is the rule for two machines that take the same events.
-/

namespace Machine

universe u v w

variable {S : Type u} {E : Type v} {F : Type w}

/-- A computation in two parts gives a result exactly when both parts do. -/
theorem bind_eq_ok {α : Type u} {β : Type u} {x : Except F α} {f : α → Except F β} {b : β} :
    (x >>= f) = .ok b ↔ ∃ a, x = .ok a ∧ f a = .ok b := by
  cases x with
  | ok a => simp only [bind, Except.bind, Except.ok.injEq, exists_eq_left']
  | error e => simp only [bind, Except.bind, reduceCtorEq, false_and, exists_false]

/-- A computation in two parts stops when the first part does, or the second after it. -/
theorem bind_eq_error {α : Type u} {β : Type u} {x : Except F α} {f : α → Except F β} {e : F} :
    (x >>= f) = .error e ↔ x = .error e ∨ ∃ a, x = .ok a ∧ f a = .error e := by
  cases x with
  | ok a =>
    simp only [bind, Except.bind, reduceCtorEq, Except.ok.injEq, exists_eq_left', false_or]
  | error e' =>
    simp only [bind, Except.bind, Except.error.injEq, reduceCtorEq, false_and, exists_false, or_false]

/-- A computation that only puts together what its first part gives returns when the first part does. -/
theorem bind_returns_iff {α : Type u} {β : Type u} {x : Except F α} {f : α → β} :
    (∃ b, (x >>= fun a => .ok (f a)) = .ok b) ↔ ∃ a, x = .ok a := by
  constructor
  · rintro ⟨b, ran⟩
    obtain ⟨a, first, -⟩ := bind_eq_ok.mp ran
    exact ⟨a, first⟩
  · rintro ⟨a, first⟩
    exact ⟨f a, bind_eq_ok.mpr ⟨a, first, rfl⟩⟩

/-- The run of a list of events. -/
def run (step : S → E → Except F S) : S → List E → Except F S
  | s, [] => .ok s
  | s, e :: es =>
    match step s e with
    | .ok s' => run step s' es
    | .error f => .error f

/-- Every event of the list is admitted at the state where the run takes it. -/
def Admits (step : S → E → Except F S) (ok : S → E → Prop) : S → List E → Prop
  | _, [] => True
  | s, e :: es => ok s e ∧ ∀ s', step s e = .ok s' → Admits step ok s' es

variable {step : S → E → Except F S}

theorem run_cons_ok {s s' : S} {e : E} {es : List E} :
    run step s (e :: es) = .ok s' ↔ ∃ t, step s e = .ok t ∧ run step t es = .ok s' := by
  simp only [run]
  cases h : step s e with
  | ok t => simp only [Except.ok.injEq, exists_eq_left']
  | error f => simp only [reduceCtorEq, false_and, exists_false]

/-- A run in two parts. -/
theorem run_append_ok {s s' : S} {es es' : List E} :
    run step s (es ++ es') = .ok s' ↔ ∃ t, run step s es = .ok t ∧ run step t es' = .ok s' := by
  induction es generalizing s with
  | nil => simp only [List.nil_append, run, Except.ok.injEq, exists_eq_left']
  | cons e es ih =>
    simp only [List.cons_append, run]
    cases h : step s e with
    | ok t => exact ih
    | error f => simp only [reduceCtorEq, false_and, exists_false]

/-- **The invariant rule under a condition on the steps.** -/
theorem invariant_of_admits (Inv : S → Prop) (ok : S → E → Prop)
    (keeps : ∀ {s e s'}, Inv s → ok s e → step s e = .ok s' → Inv s') {s s' : S} {es : List E}
    (start : Inv s) (admits : Admits step ok s es) (ran : run step s es = .ok s') : Inv s' := by
  induction es generalizing s with
  | nil => cases ran; exact start
  | cons e es ih =>
    obtain ⟨t, stepped, ran⟩ := run_cons_ok.mp ran
    exact ih (keeps start admits.1 stepped) (admits.2 t stepped) ran

/-- A condition on the events alone is admitted wherever they are taken. -/
theorem admits_of_forall {ok : E → Prop} {es : List E} (h : ∀ e ∈ es, ok e) (s : S) :
    Admits step (fun _ e => ok e) s es := by
  induction es generalizing s with
  | nil => trivial
  | cons e es ih =>
    exact ⟨h e List.mem_cons_self, fun s' _ => ih (fun e he => h e (List.mem_cons_of_mem _ he)) s'⟩

/-- Two conditions that are each admitted are admitted together. -/
theorem Admits.and {ok ok' : S → E → Prop} {s : S} {es : List E} (h : Admits step ok s es)
    (h' : Admits step ok' s es) : Admits step (fun s e => ok s e ∧ ok' s e) s es := by
  induction es generalizing s with
  | nil => trivial
  | cons e es ih =>
    exact ⟨⟨h.1, h'.1⟩, fun t stepped => ih (h.2 t stepped) (h'.2 t stepped)⟩

/-- The computation of `Admits` for a condition that computes. -/
def admits (step : S → E → Except F S) (ok : S → E → Bool) : S → List E → Bool
  | _, [] => true
  | s, e :: es =>
    ok s e && match step s e with
      | .ok s' => admits step ok s' es
      | .error _ => true

theorem Admits.of_admits {ok : S → E → Bool} {s : S} {es : List E}
    (h : admits step ok s es = true) : Admits step (fun s e => ok s e = true) s es := by
  induction es generalizing s with
  | nil => trivial
  | cons e es ih =>
    simp only [admits, Bool.and_eq_true] at h
    refine ⟨h.1, fun t stepped => ih ?_⟩
    simpa only [stepped] using h.2

/-- What a computation shows of a run holds of the state the run ends in. -/
theorem map_eq_ok {T : Type v} {x : Except F S} (view : S → T) {t : T}
    (h : x.map view = .ok t) : ∃ s, x = .ok s ∧ view s = t := by
  cases x with
  | ok s => exact ⟨s, rfl, Except.ok.inj h⟩
  | error f => cases h

/-- **The invariant rule.** -/
theorem invariant (Inv : S → Prop) (keeps : ∀ {s e s'}, Inv s → step s e = .ok s' → Inv s')
    {s s' : S} {es : List E} (start : Inv s) (ran : run step s es = .ok s') : Inv s' := by
  induction es generalizing s with
  | nil => cases ran; exact start
  | cons e es ih =>
    obtain ⟨t, stepped, ran⟩ := run_cons_ok.mp ran
    exact ih (keeps start stepped) ran

/-- Part of a list that is admitted is admitted. -/
theorem Admits.take {ok : S → E → Prop} {s : S} {es : List E} (h : Admits step ok s es) (n : Nat) :
    Admits step ok s (es.take n) := by
  induction es generalizing s n with
  | nil => simpa only [List.take_nil] using h
  | cons e es ih =>
    cases n with
    | zero => trivial
    | succ n => exact ⟨h.1, fun t stepped => ih (h.2 t stepped) n⟩

/-- What is left of a list that is admitted is admitted where the first part of the run ends. -/
theorem Admits.rest {ok : S → E → Prop} {s t : S} {es es' : List E} (h : Admits step ok s (es ++ es'))
    (ran : run step s es = .ok t) : Admits step ok t es' := by
  induction es generalizing s with
  | nil => cases ran; exact h
  | cons e es ih =>
    obtain ⟨u, stepped, ran⟩ := run_cons_ok.mp ran
    exact ih (h.2 u stepped) ran

/-- Two conditions that agree wherever an invariant holds are admitted together. -/
theorem admits_iff (Inv : S → Prop) {ok ok' : S → E → Prop}
    (keeps : ∀ {s e s'}, Inv s → ok' s e → step s e = .ok s' → Inv s')
    (same : ∀ {s e}, Inv s → (ok s e ↔ ok' s e)) {s : S} {es : List E} (start : Inv s) :
    Admits step ok s es ↔ Admits step ok' s es := by
  induction es generalizing s with
  | nil => exact Iff.rfl
  | cons e es ih =>
    constructor
    · rintro ⟨first, later⟩
      have first' := (same start).mp first
      exact ⟨first', fun t stepped => (ih (keeps start first' stepped)).mp (later t stepped)⟩
    · rintro ⟨first, later⟩
      refine ⟨(same start).mpr first, fun t stepped => ?_⟩
      exact (ih (keeps start first stepped)).mpr (later t stepped)

/-- **The rule for exactly when a property holds throughout.** Where a step that is not admitted breaks
the property, it holds after every part of a run exactly when all of the run is admitted. -/
theorem forall_take_iff_admits (Inv P : S → Prop) (ok : S → E → Prop)
    (keeps : ∀ {s e s'}, Inv s → ok s e → step s e = .ok s' → Inv s')
    (holds : ∀ {s}, Inv s → P s)
    (breaks : ∀ {s e s'}, Inv s → ¬ok s e → step s e = .ok s' → ¬P s') {s s' : S} {es : List E}
    (start : Inv s) (ran : run step s es = .ok s') :
    (∀ n t, run step s (es.take n) = .ok t → P t) ↔ Admits step ok s es := by
  constructor
  · intro throughout
    induction es generalizing s with
    | nil => trivial
    | cons e es ih =>
      obtain ⟨t, stepped, ran⟩ := run_cons_ok.mp ran
      have admitted : ok s e := by
        refine Classical.byContradiction fun refused => ?_
        refine breaks start refused stepped (throughout 1 t ?_)
        simp only [List.take_succ_cons, List.take_zero, run, stepped]
      refine ⟨admitted, fun t' stepped' => ?_⟩
      cases stepped.symm.trans stepped'
      refine ih (keeps start admitted stepped) ran fun n u part => throughout (n + 1) u ?_
      simp only [List.take_succ_cons, run, stepped, part]
  · intro admits n t part
    exact holds (invariant_of_admits Inv ok keeps start (admits.take n) part)

/-- **The rule for exactly when a run does not stop**, for events of one kind. Where a step returns
exactly when it is admitted, a run does exactly when all of it is. -/
theorem run_ok_iff_admits_of_forall (Inv : S → Prop) (legal : E → Prop) (ok : S → E → Prop)
    (keeps : ∀ {s e s'}, Inv s → legal e → step s e = .ok s' → Inv s')
    (returns : ∀ {s e}, Inv s → legal e → ((∃ s', step s e = .ok s') ↔ ok s e)) {s : S} {es : List E}
    (start : Inv s) (all : ∀ e ∈ es, legal e) :
    (∃ s', run step s es = .ok s') ↔ Admits step ok s es := by
  induction es generalizing s with
  | nil => exact ⟨fun _ => trivial, fun _ => ⟨s, rfl⟩⟩
  | cons e es ih =>
    have first := all e List.mem_cons_self
    have later : ∀ e ∈ es, legal e := fun e' member => all e' (List.mem_cons_of_mem e member)
    constructor
    · rintro ⟨s', ran⟩
      obtain ⟨t, stepped, ran⟩ := run_cons_ok.mp ran
      refine ⟨(returns start first).mp ⟨t, stepped⟩, ?_⟩
      intro t' stepped'
      cases stepped.symm.trans stepped'
      exact (ih (keeps start first stepped) later).mp ⟨s', ran⟩
    · rintro ⟨admitted, rest⟩
      obtain ⟨t, stepped⟩ := (returns start first).mpr admitted
      obtain ⟨s', ran⟩ := (ih (keeps start first stepped) later).mpr (rest t stepped)
      exact ⟨s', run_cons_ok.mpr ⟨t, stepped, ran⟩⟩

/-- The same for events of every kind. -/
theorem run_ok_iff_admits (Inv : S → Prop) (ok : S → E → Prop)
    (keeps : ∀ {s e s'}, Inv s → step s e = .ok s' → Inv s')
    (returns : ∀ {s e}, Inv s → ((∃ s', step s e = .ok s') ↔ ok s e)) {s : S} {es : List E}
    (start : Inv s) : (∃ s', run step s es = .ok s') ↔ Admits step ok s es :=
  run_ok_iff_admits_of_forall Inv (fun _ => True) ok (fun inv _ => keeps inv) (fun inv _ => returns inv)
    start fun _ _ => trivial

/-! ## What must have happened -/

/-- Some event of the list satisfies `p` at the state where the run takes it. -/
def Occurs (step : S → E → Except F S) (p : S → E → Prop) : S → List E → Prop
  | _, [] => False
  | s, e :: es => p s e ∨ ∃ s', step s e = .ok s' ∧ Occurs step p s' es

/-- **The rule for what must have happened.** Where a condition does not hold at first, and only steps
of one kind bring it about, it holds only after such a step. -/
theorem occurs_of_run (Inv Q : S → Prop) (p : S → E → Prop)
    (keeps : ∀ {s e s'}, Inv s → step s e = .ok s' → Inv s')
    (arises : ∀ {s e s'}, Inv s → step s e = .ok s' → Q s' → Q s ∨ p s e) {s s' : S} {es : List E}
    (inv : Inv s) (start : ¬Q s) (ran : run step s es = .ok s') (holds : Q s') :
    Occurs step p s es := by
  induction es generalizing s with
  | nil => cases ran; exact absurd holds start
  | cons e es ih =>
    obtain ⟨t, stepped, ran⟩ := run_cons_ok.mp ran
    by_cases now : Q t
    · exact .inl ((arises inv stepped now).resolve_left start)
    · exact .inr ⟨t, stepped, ih (keeps inv stepped) now ran⟩

theorem exists_of_occurs {p : E → Prop} {s : S} {es : List E}
    (h : Occurs step (fun _ e => p e) s es) : ∃ e ∈ es, p e := by
  induction es generalizing s with
  | nil => exact h.elim
  | cons e es ih =>
    rcases h with here | ⟨t, -, later⟩
    · exact ⟨e, List.mem_cons_self, here⟩
    · obtain ⟨e', member, holds⟩ := ih later
      exact ⟨e', List.mem_cons_of_mem _ member, holds⟩

/-! ## What is remembered of a run -/

/-- A record kept of a run, from what it says at the start. What an event adds to it may depend on the
state where the event is taken. -/
def remembered {H : Type w} (step : S → E → Except F S) (note : S → E → H → H) : S → H → List E → H
  | _, h, [] => h
  | s, h, e :: es =>
    match step s e with
    | .ok s' => remembered step note s' (note s e h) es
    | .error _ => h

/-- **The invariant rule for a machine and what is remembered of its run.** -/
theorem invariant_remembered {H : Type w} {note : S → E → H → H} (Inv : S → H → Prop)
    (keeps : ∀ {s e s' h}, Inv s h → step s e = .ok s' → Inv s' (note s e h)) {s s' : S} {h : H}
    {es : List E} (start : Inv s h) (ran : run step s es = .ok s') :
    Inv s' (remembered step note s h es) := by
  induction es generalizing s h with
  | nil => cases ran; exact start
  | cons e es ih =>
    obtain ⟨t, stepped, ran⟩ := run_cons_ok.mp ran
    simp only [remembered, stepped]
    exact ih (keeps start stepped) ran

/-! ## Two machines side by side -/

variable {T : Type u} {E' : Type v}

/-- Two computations give related results, or stop with the same fault. -/
def Agree (R : S → T → Prop) : Except F S → Except F T → Prop
  | .ok s, .ok t => R s t
  | .error e, .error f => e = f
  | _, _ => False

/-- A renamed computation agrees with the one it renames. -/
theorem Agree.of_map {R : S → T → Prop} {x : Except F S} {y : Except F T} {g : S → T}
    (eq : y = x.map g) (related : ∀ s, R s (g s)) : Agree R x y := by
  subst eq
  cases x with
  | ok s => exact related s
  | error f => rfl

theorem Agree.mono {R R' : S → T → Prop} (weaker : ∀ s t, R s t → R' s t) {x : Except F S}
    {y : Except F T} (h : Agree R x y) : Agree R' x y := by
  cases x <;> cases y <;> first | exact weaker _ _ h | exact h

/-- Renaming commutes with a computation in two parts when it does with each. -/
theorem bind_eq_map {α α' β β' : Type u} {x : Except F α} {x' : Except F α'} {g : α → α'}
    {f : α → Except F β} {f' : α' → Except F β'} {g' : β → β'} (first : x' = x.map g)
    (second : ∀ a, f' (g a) = (f a).map g') : (x' >>= f') = (x >>= f).map g' := by
  subst first
  cases x with
  | ok a => exact second a
  | error e => rfl

/-- The same where the first parts are the same. -/
theorem bind_eq_map_of_same {α β β' : Type u} {x : Except F α} {f : α → Except F β}
    {f' : α → Except F β'} {g : β → β'} (second : ∀ a, f' a = (f a).map g) :
    (x >>= f') = (x >>= f).map g := by
  cases x with
  | ok a => exact second a
  | error e => rfl

/-- Two machines taking the same events, under the second's names for them. -/
def pair (step : S → E → Except F S) (step' : T → E' → Except F T) (rename : E → E') :
    S × T → E → Except F (S × T)
  | (s, t), e =>
    match step s e, step' t (rename e) with
    | .ok s', .ok t' => .ok (s', t')
    | .error f, _ => .error f
    | _, .error f => .error f

/-- **The rule for two runs.** A relation that every admitted step keeps holds between the runs. -/
theorem run_agree {step' : T → E' → Except F T} {rename : E → E'} {ok : S × T → E → Prop}
    {R : S → T → Prop}
    (keeps : ∀ {s t e}, R s t → ok (s, t) e → Agree R (step s e) (step' t (rename e)))
    {s : S} {t : T} {es : List E} (start : R s t)
    (admits : Admits (pair step step' rename) ok (s, t) es) :
    Agree R (run step s es) (run step' t (es.map rename)) := by
  induction es generalizing s t with
  | nil => exact start
  | cons e es ih =>
    have stepped := keeps start admits.1
    simp only [List.map_cons, run]
    cases hs : step s e with
    | ok s' =>
      cases ht : step' t (rename e) with
      | ok t' =>
        rw [hs, ht] at stepped
        exact ih stepped (admits.2 (s', t') (by simp only [pair, hs, ht]))
      | error f => rw [hs, ht] at stepped; exact stepped.elim
    | error f =>
      cases ht : step' t (rename e) with
      | ok t' => rw [hs, ht] at stepped; exact stepped.elim
      | error g => rw [hs, ht] at stepped; exact stepped

end Machine
