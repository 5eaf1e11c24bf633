/-!
# Logs that grow

What a machine has sent is a log, to which each step adds. `Adds own log log'` says that what was added has a
property; a step that is made of others adds what they add.
-/

namespace Log

universe u

variable {M : Type u} {own own' : M → Prop} {log log' log'' : List M}

/-- What was added to the log has the property. -/
def Adds (own : M → Prop) (log log' : List M) : Prop :=
  ∃ new, log' = log ++ new ∧ ∀ message ∈ new, own message

theorem Adds.of_eq (same : log' = log) : Adds own log log' :=
  ⟨[], by rw [same, List.append_nil], fun _ member => absurd member List.not_mem_nil⟩

theorem Adds.refl (log : List M) : Adds own log log := .of_eq rfl

theorem Adds.one {message : M} (has : own message) (log : List M) : Adds own log (log ++ [message]) :=
  ⟨[message], rfl, fun _ member => by rwa [List.mem_singleton.mp member]⟩

theorem Adds.trans (h : Adds own log log') (h' : Adds own log' log'') : Adds own log log'' := by
  obtain ⟨new, added, has⟩ := h
  obtain ⟨new', added', has'⟩ := h'
  refine ⟨new ++ new', by rw [added', added, List.append_assoc], fun message member => ?_⟩
  rcases List.mem_append.mp member with old | last
  · exact has message old
  · exact has' message last

theorem Adds.mono (h : Adds own log log') (weaker : ∀ message, own message → own' message) :
    Adds own' log log' := by
  obtain ⟨new, added, has⟩ := h
  exact ⟨new, added, fun message member => weaker message (has message member)⟩

/-- What all of the log had, all of it has. -/
theorem Adds.forall (h : Adds own log log') (before : ∀ message ∈ log, own message) :
    ∀ message ∈ log', own message := by
  obtain ⟨new, rfl, has⟩ := h
  intro message member
  rcases List.mem_append.mp member with old | last
  · exact before message old
  · exact has message last

/-- What is in the log stays there. -/
theorem Adds.mem {message : M} (h : Adds own log log') (member : message ∈ log) : message ∈ log' := by
  obtain ⟨new, rfl, -⟩ := h
  exact List.mem_append_left _ member

end Log
