import Mathlib.Data.List.Chain

set_option relaxedAutoImplicit false
set_option autoImplicit false

/-!
# Pacing

Something may be done whenever a clock ticks, but not too often: when it is done, the time is
recorded until which it is not to be done again. An attempt before that time changes nothing.
Initially, and after a reset, that time is zero.

## Main definitions

* `Pacing.next`, `Pacing.done` — the recorded time and the times at which it was done, after an
  attempt.
* `Pacing.Paced` — what relates the two.

## Main results

* `Pacing.Paced.attempt` — an attempt keeps the relation.
* `Pacing.Paced.lt_iff` — when an attempt succeeds.
* `Pacing.Paced.recent` — after an attempt it was done within the last period.
-/

namespace Pacing

/-- The recorded time after an attempt. -/
def next (period recorded now : ℤ) : ℤ := if recorded < now then now + period else recorded

/-- The times at which it was done after an attempt, latest first. -/
def done (recorded now : ℤ) (times : List ℤ) : List ℤ :=
  if recorded < now then now :: times else times

/-- The recorded time is a period after it was done last, and it was never done again within a
period. -/
structure Paced (period : ℤ) (times : List ℤ) (recorded : ℤ) : Prop where
  recorded_eq : recorded = times.head?.elim 0 (· + period)
  spaced : times.IsChain fun later earlier => earlier + period < later

namespace Paced

variable {period recorded now : ℤ} {times : List ℤ}

/-- Initially, and after a reset. -/
theorem init (period : ℤ) : Paced period [] 0 := ⟨rfl, .nil⟩

/-- **An attempt keeps the pace.** -/
theorem attempt (h : Paced period times recorded) (now : ℤ) :
    Paced period (done recorded now times) (next period recorded now) := by
  unfold done next
  split_ifs with hdue
  · refine ⟨rfl, ?_⟩
    cases times with
    | nil => exact .singleton now
    | cons last times =>
      have hrecorded : recorded = last + period := h.recorded_eq
      exact .cons_cons (hrecorded ▸ hdue) h.spaced
  · exact h

/-- An attempt succeeds if it is the first one, at a positive time, or if more than a period has
passed. -/
theorem lt_iff (h : Paced period times recorded) (now : ℤ) :
    recorded < now ↔ times.head?.elim (0 < now) (· + period < now) := by
  rw [h.recorded_eq]
  cases times with
  | nil => rfl
  | cons last times => rfl

/-- **After an attempt it was done within the last period**, by this attempt or before. -/
theorem recent (h : Paced period times recorded) (hperiod : 0 ≤ period) (hnow : 0 < now) :
    ∃ last ∈ (done recorded now times).head?, now ≤ last + period := by
  unfold done
  split_ifs with hdue
  · exact ⟨now, rfl, by omega⟩
  · have hrecorded := h.recorded_eq
    cases times with
    | nil =>
      rw [List.head?_nil, Option.elim_none] at hrecorded
      omega
    | cons last times =>
      rw [List.head?_cons, Option.elim_some] at hrecorded
      exact ⟨last, rfl, by omega⟩

end Paced

end Pacing
