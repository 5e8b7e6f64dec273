import Mathlib.Data.Int.Notation
import Mathlib.Data.List.Basic

set_option relaxedAutoImplicit false
set_option autoImplicit false

/-!
# The download sequencer

The gateway relies on `core::Download2`, which is not part of the repository: an object that
walks through the states of an enumeration in their order and calls a function of its owner
whenever it enters one. A state is passed at once if the function returns zero; otherwise the
object waits there until it is told that the state is complete.

## Main definitions

* `RoqBitget.Core.Download2` — the operations, with what the gateway relies on as fields.
* `RoqBitget.Core.enter` — entering the first of a list of states that is not passed at once.
* `RoqBitget.Core.sequencer` — a reference implementation.

## Implementation notes

The callback changes the owner's state `W`, so it is a function `State → W → ℤ × W`, passed to
the operations that call it. Nothing is assumed about the state after the last one has been
passed, except that it is the last one or none.
-/

namespace RoqBitget.Core

/-- The states of a download. -/
class Stages (State : Type) where
  /-- The value of a download that is not under way. -/
  undefined : State
  /-- The states in the order in which they are entered. -/
  stages : List State

variable {State W : Type}

/-- Enter the first of the given states whose callback does not return zero. The result is
`none` if all of them are passed. -/
def enter (callback : State → W → ℤ × W) : List State → W → Option State × W
  | [], w => (none, w)
  | s :: rest, w =>
    if (callback s w).1 = 0 then enter callback rest (callback s w).2
    else (some s, (callback s w).2)

/-- The states after `s`. -/
def later [DecidableEq State] [Stages State] (s : State) : List State :=
  (Stages.stages.dropWhile (· ≠ s)).tail

/-- Where a download is after entering: in the state entered, or at its end. -/
def Reached [Stages State] (entered : Option State) (s : State) : Prop :=
  match entered with
  | some t => s = t
  | none => some s = (Stages.stages : List State).getLast? ∨ s = Stages.undefined

/-- `core::Download2<State>` for an owner whose state is `W`. -/
structure Download2 (State W : Type) [DecidableEq State] [Stages State] where
  /-- The objects. -/
  Object : Type
  /-- A new download. -/
  create : Object
  /-- `state`. -/
  state : Object → State
  /-- `begin`. -/
  begin : (State → W → ℤ × W) → Object → W → Object × W
  /-- `check`. -/
  check : (State → W → ℤ × W) → State → Object → W → Object × W
  /-- `reset`. -/
  reset : Object → Object
  /-- A new download is idle. -/
  state_create : state create = Stages.undefined
  /-- A download that was reset is idle. -/
  state_reset : ∀ d, state (reset d) = Stages.undefined
  /-- `begin` enters the first state. -/
  begin_world : ∀ callback d w, (begin callback d w).2 = (enter callback Stages.stages w).2
  /-- After `begin` the download is in the state it entered. -/
  begin_state : ∀ callback d w,
    Reached (enter callback Stages.stages w).1 (state (begin callback d w).1)
  /-- `check` of the current state enters the next one. -/
  check_world : ∀ callback s d w, state d = s →
    (check callback s d w).2 = (enter callback (later s) w).2
  /-- After such a `check` the download is in the state it entered. -/
  check_state : ∀ callback s d w, state d = s →
    Reached (enter callback (later s) w).1 (state (check callback s d w).1)
  /-- `check` of any other state does nothing to the owner. -/
  check_world_of_ne : ∀ callback s d w, state d ≠ s → (check callback s d w).2 = w
  /-- `check` of any other state does not advance. -/
  check_state_of_ne : ∀ callback s d w, state d ≠ s →
    state (check callback s d w).1 = state d

/-! ## A reference implementation -/

section Sequencer

variable [Stages State]

/-- A download that becomes idle after its last state has reached where it should be. -/
private theorem reached_getD (entered : Option State) :
    Reached entered (entered.getD Stages.undefined) := by
  cases entered with
  | none => exact .inr rfl
  | some s => rfl

/-- A download that consists of its current state only. -/
def sequencer [DecidableEq State] : Download2 State W where
  Object := State
  create := Stages.undefined
  state d := d
  begin callback _ w :=
    ((enter callback Stages.stages w).1.getD Stages.undefined, (enter callback Stages.stages w).2)
  check callback s d w :=
    if d = s then
      ((enter callback (later s) w).1.getD Stages.undefined, (enter callback (later s) w).2)
    else (d, w)
  reset _ := Stages.undefined
  state_create := rfl
  state_reset _ := rfl
  begin_world _ _ _ := rfl
  begin_state callback _ w := reached_getD (enter callback Stages.stages w).1
  check_world callback s d w h := by rw [if_pos h]
  check_state callback s d w h := by
    rw [if_pos h]
    exact reached_getD _
  check_world_of_ne callback s d w h := by rw [if_neg h]
  check_state_of_ne callback s d w h := by rw [if_neg h]

end Sequencer

end RoqBitget.Core
