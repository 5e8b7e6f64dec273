import Mathlib.Data.List.Basic

set_option relaxedAutoImplicit false
set_option autoImplicit false

/-!
# Runs of reactive systems

A reactive system has a state, reacts to one event at a time and performs a list of actions
while it reacts. A *run* is a sequence of reactions from the initial state; its *history*
records every event with the actions performed, the latest entry first. A run may be taken
under a *guard*, a condition on the history, the state and the event of each step.

## Main definitions

* `Runs.System` — initial state, enabledness of events, and the reaction to an event.
* `Runs.Run` — the runs of a system whose steps all satisfy a guard.
* `Runs.play`, `Runs.Playable` — a run over given events, and that there is one.
* `Runs.actionsOver` — the actions over given events.
* `Runs.since` — the part of a history since (and including) its latest marked entry.

## Main results

* `Runs.Run.invariant` — a property of history and state that holds initially and is
  preserved by every guarded step holds after every guarded run.
* `Runs.Run.of_mem`, `of_append_cons` — where an entry of the history comes from.
* `Runs.Run.mono` — weakening the guard keeps the runs.
-/

namespace Runs

/-- A reactive system over states `σ`, events `ε` and actions `α`. -/
structure System (σ ε α : Type*) where
  /-- The state before any event. -/
  init : σ
  /-- Which events can occur in a state. -/
  enabled : σ → ε → Prop
  /-- The state after an event and the actions performed, in order. -/
  step : σ → ε → σ × List α

/-- One reaction of a run: the event and the actions performed. -/
structure Entry (ε α : Type*) where
  /-- The event that occurred. -/
  event : ε
  /-- The actions performed while reacting to it, in order. -/
  actions : List α

/-- The history of a run, latest entry first. -/
abbrev History (ε α : Type*) := List (Entry ε α)

variable {σ ε α : Type*}

/-- The runs of `S` whose steps all satisfy the guard `ok`. -/
inductive Run (S : System σ ε α) (ok : History ε α → σ → ε → Prop) : History ε α → σ → Prop
  | init : Run S ok [] S.init
  | step {h : History ε α} {s : σ} {e : ε} (run : Run S ok h s) (enabled : S.enabled s e)
      (guard : ok h s e) : Run S ok (⟨e, (S.step s e).2⟩ :: h) (S.step s e).1

/-- The guard that every step satisfies. -/
def anyStep : History ε α → σ → ε → Prop := fun _ _ _ => True

instance (h : History ε α) (s : σ) (e : ε) : Decidable (anyStep h s e) := isTrue trivial

/-- **Invariant rule.** A property that holds initially and is preserved by every guarded
step of a run holds after every guarded run. -/
theorem Run.invariant {S : System σ ε α} {ok : History ε α → σ → ε → Prop}
    {P : History ε α → σ → Prop} (h0 : P [] S.init)
    (hstep : ∀ h s e, Run S ok h s → P h s → S.enabled s e → ok h s e →
      P (⟨e, (S.step s e).2⟩ :: h) (S.step s e).1)
    {h : History ε α} {s : σ} (run : Run S ok h s) : P h s := by
  induction run with
  | init => exact h0
  | step run enabled guard ih => exact hstep _ _ _ run ih enabled guard

/-- Every run under a guard is a run under any weaker guard. -/
theorem Run.mono {S : System σ ε α} {ok ok' : History ε α → σ → ε → Prop}
    (hle : ∀ h s e, ok h s e → ok' h s e) {h : History ε α} {s : σ} (run : Run S ok h s) :
    Run S ok' h s := by
  induction run with
  | init => exact .init
  | step _ enabled guard ih => exact ih.step enabled (hle _ _ _ guard)

/-- Every entry of a run's history is a reaction in a state of the run. -/
theorem Run.of_mem {S : System σ ε α} {ok : History ε α → σ → ε → Prop} {h : History ε α}
    {s : σ} (run : Run S ok h s) {entry : Entry ε α} (hentry : entry ∈ h) :
    ∃ h' s', Run S ok h' s' ∧ S.enabled s' entry.event ∧ ok h' s' entry.event ∧
      entry.actions = (S.step s' entry.event).2 := by
  induction run with
  | init => simp at hentry
  | step run enabled guard ih =>
    rcases List.mem_cons.mp hentry with rfl | hbefore
    · exact ⟨_, _, run, enabled, guard, rfl⟩
    · exact ih hbefore

/-- A run up to an entry of its history, and the reaction that made the entry. -/
theorem Run.of_append_cons {S : System σ ε α} {ok : History ε α → σ → ε → Prop}
    {after before : History ε α} {entry : Entry ε α} {s : σ}
    (run : Run S ok (after ++ entry :: before) s) :
    ∃ s', Run S ok before s' ∧ S.enabled s' entry.event ∧ ok before s' entry.event ∧
      entry.actions = (S.step s' entry.event).2 := by
  induction after generalizing s with
  | nil =>
    cases run with
    | step run enabled guard => exact ⟨_, run, enabled, guard, rfl⟩
  | cons _ after ih =>
    cases run with
    | step run _ _ => exact ih run

/-! ## Runs over given events -/

/-- The history and the state after one more event. -/
def play1 (S : System σ ε α) (pos : History ε α × σ) (e : ε) : History ε α × σ :=
  (⟨e, (S.step pos.2 e).2⟩ :: pos.1, (S.step pos.2 e).1)

/-- The history and the state after the given events. -/
def play (S : System σ ε α) (events : List ε) : History ε α × σ :=
  events.foldl (play1 S) ([], S.init)

/-- From the given history and state on, the given events are enabled and satisfy the guard. -/
def Playable (S : System σ ε α) (ok : History ε α → σ → ε → Prop) :
    History ε α × σ → List ε → Prop
  | _, [] => True
  | pos, e :: events =>
    S.enabled pos.2 e ∧ ok pos.1 pos.2 e ∧ Playable S ok (play1 S pos e) events

instance Playable.decidable (S : System σ ε α) (ok : History ε α → σ → ε → Prop)
    [∀ s e, Decidable (S.enabled s e)] [∀ h s e, Decidable (ok h s e)] :
    ∀ pos events, Decidable (Playable S ok pos events)
  | _, [] => isTrue trivial
  | pos, e :: events =>
    have := Playable.decidable S ok (play1 S pos e) events
    inferInstanceAs
      (Decidable (S.enabled pos.2 e ∧ ok pos.1 pos.2 e ∧ Playable S ok (play1 S pos e) events))

/-- The actions performed over the given events, from a state on. -/
def actionsOver (S : System σ ε α) : σ → List ε → List α
  | _, [] => []
  | s, e :: events => (S.step s e).2 ++ actionsOver S (S.step s e).1 events

/-- Playable events extend a run. -/
theorem Run.foldl {S : System σ ε α} {ok : History ε α → σ → ε → Prop}
    {pos : History ε α × σ} {events : List ε} (run : Run S ok pos.1 pos.2)
    (h : Playable S ok pos events) :
    Run S ok (events.foldl (play1 S) pos).1 (events.foldl (play1 S) pos).2 := by
  induction events generalizing pos with
  | nil => exact run
  | cons e events ih => exact ih (run.step h.1 h.2.1) h.2.2

/-- Playable events make a run. -/
theorem Run.play {S : System σ ε α} {ok : History ε α → σ → ε → Prop} {events : List ε}
    (h : Playable S ok ([], S.init) events) : Run S ok (play S events).1 (play S events).2 :=
  Run.init.foldl h

/-! ## The part of a history since a marked entry -/

/-- The part of a history since its latest entry marked by `p`, that entry included; the
whole history when no entry is marked. -/
def since (p : Entry ε α → Bool) : History ε α → History ε α
  | [] => []
  | entry :: h => if p entry then [entry] else entry :: since p h

variable (p : Entry ε α → Bool)

/-- A marked entry cuts everything before it off. -/
@[simp] theorem since_cons_of_pos {entry : Entry ε α} (hp : p entry = true)
    (h : History ε α) : since p (entry :: h) = [entry] := by
  simp [since, hp]

/-- An unmarked entry extends the part since the latest marked one. -/
@[simp] theorem since_cons_of_neg {entry : Entry ε α} (hp : p entry = false)
    (h : History ε α) : since p (entry :: h) = entry :: since p h := by
  simp [since, hp]

/-- The latest entry always belongs to the part since the latest marked entry. -/
theorem mem_since_head (entry : Entry ε α) (h : History ε α) : entry ∈ since p (entry :: h) := by
  cases hp : p entry <;> simp [hp]

end Runs
