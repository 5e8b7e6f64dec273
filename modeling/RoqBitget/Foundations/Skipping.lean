import Mathlib.Data.List.Infix

set_option relaxedAutoImplicit false
set_option autoImplicit false

/-!
# Observers of a stream

A source goes through a stream of events, each of which changes its state. An observer only sees
what is published of an event, and nothing may be published. The observer follows the source if
both have the same state after every event.

## Main definitions

* `Skipping.follow` — the state of the source after some events.
* `Skipping.observe` — the state of the observer after what was published of them.

## Main results

* `Skipping.observe_eq_follow_iff` — the observer follows the source if and only if every event
  of which nothing is published leaves the state of the source as it is.
-/

namespace Skipping

variable {σ ε υ : Type}

/-- The state of the source after some events. -/
def follow (step : σ → ε → σ) (s : σ) (events : List ε) : σ := events.foldl step s

/-- What an observer does with the publication of an event. -/
def see (apply : σ → υ → σ) (s : σ) : Option υ → σ
  | some u => apply s u
  | none => s

/-- The state of the observer after what was published of some events. -/
def observe (publish : ε → Option υ) (apply : σ → υ → σ) (s : σ) (events : List ε) : σ :=
  events.foldl (fun s e => see apply s (publish e)) s

variable {step : σ → ε → σ} {publish : ε → Option υ} {apply : σ → υ → σ}

/-- The source after one more event. -/
theorem follow_concat (s : σ) (events : List ε) (e : ε) :
    follow step s (events ++ [e]) = step (follow step s events) e := by
  rw [follow, List.foldl_append]
  rfl

/-- The observer after one more event. -/
theorem observe_concat (s : σ) (events : List ε) (e : ε) :
    observe publish apply s (events ++ [e]) =
      see apply (observe publish apply s events) (publish e) := by
  rw [observe, List.foldl_append]
  rfl

/-- **An observer follows the source if and only if every event of which nothing is published
leaves the source as it is.** What is published has to do what the event does. -/
theorem observe_eq_follow_iff
    (hpublish : ∀ s e u, publish e = some u → apply s u = step s e) (s : σ) (events : List ε) :
    (∀ before, before <+: events →
      observe publish apply s before = follow step s before) ↔
    ∀ before e, before ++ [e] <+: events → publish e = none →
      step (follow step s before) e = follow step s before := by
  constructor
  · intro h before e hpre hnone
    have hbefore := h before ((List.prefix_append before [e]).trans hpre)
    have hafter := h (before ++ [e]) hpre
    rw [observe_concat, hnone, follow_concat] at hafter
    exact hafter.symm.trans hbefore
  · intro h before
    induction before using List.reverseRecOn with
    | nil => exact fun _ => rfl
    | append_singleton before e ih =>
      intro hpre
      have hbefore := ih ((List.prefix_append before [e]).trans hpre)
      rw [observe_concat, follow_concat, hbefore]
      cases hpublished : publish e with
      | none => exact (h before e hpre hpublished).symm
      | some u => exact hpublish _ e u hpublished

end Skipping
