import RoqBitget.Foundations.Runs

set_option relaxedAutoImplicit false
set_option autoImplicit false

/-!
# Simulation of reactive systems

A system that does more than another one can contain it: a function maps its states to those of
the other one, its events are events of the other one or are hidden, and its actions are actions
of the other one or are hidden. If every step agrees with this, every run of the larger system
is a run of the smaller one with the same visible actions.

## Main definitions

* `Runs.actions` — all actions of a history, in the order in which they were performed.
* `Runs.Simulation` — the agreement of every step.
* `Runs.Simulation.view` — what a history is for the smaller system.

## Main results

* `Runs.Simulation.run` — a run of the larger system is one of the smaller system.
* `Runs.Simulation.actions_view` — which actions of a run can be seen.
-/

namespace Runs

variable {σ ε α τ δ β : Type*}

/-- The actions of a history, in the order in which they were performed. -/
def actions : History ε α → List α
  | [] => []
  | entry :: h => actions h ++ entry.actions

@[simp] theorem actions_nil : actions ([] : History ε α) = [] := rfl

@[simp] theorem actions_cons (entry : Entry ε α) (h : History ε α) :
    actions (entry :: h) = actions h ++ entry.actions := rfl

/-- The actions of a history that goes on. -/
theorem actions_append (h' h : History ε α) : actions (h' ++ h) = actions h ++ actions h' := by
  induction h' with
  | nil => rw [List.nil_append, actions_nil, List.append_nil]
  | cons entry h' ih => rw [List.cons_append, actions_cons, ih, actions_cons, List.append_assoc]

/-- The system `S` does what `T` does, and more. -/
structure Simulation (S : System σ ε α) (T : System τ δ β) where
  /-- The part of a state that `T` knows. -/
  abs : σ → τ
  /-- What an event is for `T`, unless it is hidden. -/
  event : ε → Option δ
  /-- What an action is for `T`, unless it is hidden. -/
  observe : α → Option β
  /-- The initial states agree. -/
  abs_init : abs S.init = T.init
  /-- A visible event can occur in `T` as well. -/
  enabled : ∀ s e d, S.enabled s e → event e = some d → T.enabled (abs s) d
  /-- A visible event leads to the same state and the same visible actions. -/
  visible : ∀ s e d, S.enabled s e → event e = some d →
    T.step (abs s) d = (abs (S.step s e).1, (S.step s e).2.filterMap observe)
  /-- A hidden event changes nothing and has no visible action. -/
  hidden : ∀ s e, S.enabled s e → event e = none →
    abs (S.step s e).1 = abs s ∧ (S.step s e).2.filterMap observe = []

namespace Simulation

variable {S : System σ ε α} {T : System τ δ β} (sim : Simulation S T)

/-- What a history is for the smaller system. -/
def view (h : History ε α) : History δ β :=
  h.filterMap fun entry =>
    (sim.event entry.event).map fun d => ⟨d, entry.actions.filterMap sim.observe⟩

/-- A visible entry is viewed. -/
theorem view_cons_of_some {entry : Entry ε α} {d : δ} (h : History ε α)
    (hevent : sim.event entry.event = some d) :
    sim.view (entry :: h) = ⟨d, entry.actions.filterMap sim.observe⟩ :: sim.view h := by
  simp [view, hevent]

/-- A hidden entry is not viewed. -/
theorem view_cons_of_none {entry : Entry ε α} (h : History ε α)
    (hevent : sim.event entry.event = none) : sim.view (entry :: h) = sim.view h := by
  simp [view, hevent]

/-- **A run of the larger system is a run of the smaller one** that ends in the corresponding
state. A guard on the smaller system's steps is kept if the guard on the larger one's steps
implies it. -/
theorem run {ok : History ε α → σ → ε → Prop} {ok' : History δ β → τ → δ → Prop}
    (hok : ∀ h s e d, ok h s e → sim.event e = some d → ok' (sim.view h) (sim.abs s) d)
    {h : History ε α} {s : σ} (hrun : Run S ok h s) : Run T ok' (sim.view h) (sim.abs s) := by
  induction hrun with
  | init => exact sim.abs_init ▸ .init
  | @step h s e _ henabled hguard ih =>
    cases hevent : sim.event e with
    | some d =>
      have hnext := ih.step (sim.enabled s e d henabled hevent) (hok h s e d hguard hevent)
      rw [sim.visible s e d henabled hevent] at hnext
      rw [sim.view_cons_of_some h hevent]
      exact hnext
    | none =>
      rw [sim.view_cons_of_none h hevent, (sim.hidden s e henabled hevent).1]
      exact ih

/-- **The visible actions** of a run are those of its view. -/
theorem actions_view {ok : History ε α → σ → ε → Prop} {h : History ε α} {s : σ}
    (hrun : Run S ok h s) : actions (sim.view h) = (actions h).filterMap sim.observe := by
  refine hrun.invariant (P := fun h _ => actions (sim.view h) =
    (actions h).filterMap sim.observe) rfl ?_
  intro h s e _ ih henabled _
  rw [actions_cons, List.filterMap_append, ← ih]
  cases hevent : sim.event e with
  | some d => rw [sim.view_cons_of_some h hevent, actions_cons]
  | none =>
    rw [sim.view_cons_of_none h hevent, (sim.hidden s e henabled hevent).2, List.append_nil]

end Simulation

end Runs
