import RoqBitget.Foundations.Runs

set_option relaxedAutoImplicit false
set_option autoImplicit false

/-!
# Components of reactive systems

A system can consist of components that have a memory in common. What one of them does is then a
run of its own, in which the others interfere: whenever they change the memory, something happens
to the component. An event of the system can make a component take any number of steps.

## Main definitions

* `Runs.Path` — the steps of a system between two states.
* `Runs.Component` — a component, with what the history of the system says about it.

## Main results

* `Runs.Component.run` — a run of the system is a run of each of its components.
-/

namespace Runs

variable {σ ε α τ δ β : Type*}

/-- The steps of a system from a state to another one, the latest first. -/
inductive Path (T : System τ δ β) (t : τ) : History δ β → τ → Prop
  | refl : Path T t [] t
  | step {h : History δ β} {t' : τ} {d : δ} (path : Path T t h t') (enabled : T.enabled t' d) :
      Path T t (⟨d, (T.step t' d).2⟩ :: h) (T.step t' d).1

namespace Path

variable {T : System τ δ β} {t t' t'' : τ} {h h' : History δ β}

/-- One step. -/
theorem one {d : δ} (enabled : T.enabled t d) : Path T t [⟨d, (T.step t d).2⟩] (T.step t d).1 :=
  Path.refl.step enabled

/-- One path after another. -/
theorem append (path : Path T t h t') (path' : Path T t' h' t'') : Path T t (h' ++ h) t'' := by
  induction path' with
  | refl => exact path
  | step _ enabled ih => exact ih.step enabled

/-- A path from the initial state extends a run. -/
theorem run (path : Path T t h' t') (run : Run T anyStep h t) : Run T anyStep (h' ++ h) t' := by
  induction path with
  | refl => exact run
  | step _ enabled ih => exact ih.step enabled trivial

end Path

/-- `T` is a component of the system `S`. -/
structure Component (S : System σ ε α) (T : System τ δ β) where
  /-- The part of a state that the component consists of. -/
  abs : σ → τ
  /-- Whether an entry of its history is its own, and not an interference. -/
  own : Entry δ β → Bool
  /-- What an entry of the system's history says about the component. -/
  view : Entry ε α → History δ β
  /-- The initial states agree. -/
  abs_init : abs S.init = T.init
  /-- In a step of the system the component takes the steps that the entry tells, and others may
  interfere. -/
  step : ∀ h s e, Run S anyStep h s → S.enabled s e →
    ∃ h', Path T (abs s) h' (abs (S.step s e).1) ∧ h'.filter own = view ⟨e, (S.step s e).2⟩

/-- **A run of the system is a run of the component**, in which the steps of its own are those that
the history of the system tells. -/
theorem Component.run {S : System σ ε α} {T : System τ δ β} (component : Component S T)
    {ok : History ε α → σ → ε → Prop} {h : History ε α} {s : σ} (run : Run S ok h s) :
    ∃ h', Run T anyStep h' (component.abs s) ∧
      h'.filter component.own = h.flatMap component.view := by
  have hany : Run S anyStep h s := run.mono fun _ _ _ _ => trivial
  refine (hany.invariant (P := fun h s => Run S anyStep h s ∧ ∃ h',
    Run T anyStep h' (component.abs s) ∧
      h'.filter component.own = h.flatMap component.view) ?_ ?_).2
  · exact ⟨.init, [], component.abs_init ▸ .init, rfl⟩
  · rintro h s e hrun ⟨-, h₁, hrun₁, hown₁⟩ henabled -
    obtain ⟨h₂, hpath₂, hown₂⟩ := component.step h s e hrun henabled
    refine ⟨hrun.step henabled trivial, h₂ ++ h₁, hpath₂.run hrun₁, ?_⟩
    rw [List.filter_append, hown₁, hown₂, List.flatMap_cons]

end Runs
