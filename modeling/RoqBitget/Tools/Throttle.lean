import Mathlib.Data.List.Infix
import Mathlib.Order.Lattice
import Mathlib.Tactic.Cases

set_option relaxedAutoImplicit false
set_option autoImplicit false

/-!
# The throttle

The interceptor that sees the status of every REST answer and remembers until when the
gateway must stay silent: after a `403` for five minutes, after a `429` for one. A `403`
raises the remembered instant to its own deadline; a `429` sets it only if none was
remembered so far, and nothing ever clears it.

## Main definitions

* `RoqBitget.Tools.Throttle`, `Throttle.onMessageEnd`, `Throttle.run` — the interceptor.
* `RoqBitget.Tools.MessageEnd.deadline` — until when a verdict asks for silence.
* `RoqBitget.Tools.VerdictsHonoured` — every deadline is respected, at every point of a run.
* `RoqBitget.Tools.Covered` — every `429` is the first verdict or covered by an earlier one.

## Main results

* `RoqBitget.Tools.suspendUntil_le` — the remembered instant never decreases.
* `RoqBitget.Tools.verdictsHonoured_iff` — the verdicts are honoured iff they are covered.

## Implementation notes

The clock counts nanoseconds from the epoch, so instants are natural numbers. The header
parser and `params_` are left out: nothing reads the parsed limit.
-/

namespace RoqBitget.Tools

/-- `DEFAULT_BACKOFF`: one minute. -/
def defaultBackoff : ℕ := 60 * 1000000000

/-- `BLOCKED_BACKOFF`: five minutes. -/
def blockedBackoff : ℕ := 5 * 60 * 1000000000

/-- `web::http::Status::FORBIDDEN`. -/
def forbidden : ℕ := 403

/-- `web::http::Status::TOO_MANY_REQUESTS`. -/
def tooManyRequests : ℕ := 429

/-- The end of a REST answer: its status, and the system clock when it is processed. -/
structure MessageEnd where
  status : ℕ
  now : ℕ
  deriving DecidableEq

/-- `tools::Throttle`. -/
structure Throttle where
  enabled : Bool
  suspendUntil : ℕ
  deriving DecidableEq

namespace Throttle

/-- `Throttle::Throttle`. -/
def create (enabled : Bool) : Throttle := ⟨enabled, 0⟩

/-- `Throttle::operator()(Trace<web::rest::MessageEnd> const &)`. -/
def onMessageEnd (throttle : Throttle) (messageEnd : MessageEnd) : Throttle :=
  if !throttle.enabled then throttle
  else if messageEnd.status = forbidden then
    { throttle with
      suspendUntil := max throttle.suspendUntil (messageEnd.now + blockedBackoff) }
  else if messageEnd.status = tooManyRequests then
    if throttle.suspendUntil = 0 then
      { throttle with suspendUntil := messageEnd.now + defaultBackoff }
    else throttle
  else throttle

/-- The throttle after a sequence of answers. -/
def run (throttle : Throttle) (events : List MessageEnd) : Throttle :=
  events.foldl onMessageEnd throttle

/-- One more answer is one more reaction. -/
@[simp] theorem run_concat (throttle : Throttle) (events : List MessageEnd) (e : MessageEnd) :
    throttle.run (events ++ [e]) = (throttle.run events).onMessageEnd e := by
  simp [run]

/-- The enabled flag is constant. -/
@[simp] theorem enabled_onMessageEnd (throttle : Throttle) (e : MessageEnd) :
    (throttle.onMessageEnd e).enabled = throttle.enabled := by
  unfold onMessageEnd
  split_ifs <;> rfl

@[simp] theorem enabled_run (throttle : Throttle) (events : List MessageEnd) :
    (throttle.run events).enabled = throttle.enabled := by
  induction events using List.reverseRecOn with
  | nil => rfl
  | append_singleton events e ih => rw [run_concat, enabled_onMessageEnd, ih]

end Throttle

/-- Until when an answer asks for silence, if it is a rate-limit verdict. -/
def MessageEnd.deadline (e : MessageEnd) : Option ℕ :=
  if e.status = forbidden then some (e.now + blockedBackoff)
  else if e.status = tooManyRequests then some (e.now + defaultBackoff)
  else none

/-- The remembered instant of an enabled throttle after the answers `events`. -/
def suspendUntil (events : List MessageEnd) : ℕ := ((Throttle.create true).run events).suspendUntil

section Step

variable (events : List MessageEnd) {e : MessageEnd}

/-- A `403` raises the remembered instant to its deadline. -/
theorem suspendUntil_forbidden (h : e.status = forbidden) :
    suspendUntil (events ++ [e]) = max (suspendUntil events) (e.now + blockedBackoff) := by
  simp [suspendUntil, Throttle.onMessageEnd, Throttle.create, h]

/-- A `429` sets the remembered instant only if there is none. -/
theorem suspendUntil_tooManyRequests (h : e.status = tooManyRequests) :
    suspendUntil (events ++ [e]) =
      if suspendUntil events = 0 then e.now + defaultBackoff else suspendUntil events := by
  have hne : e.status ≠ forbidden := by rw [h]; decide
  simp only [suspendUntil, Throttle.run_concat, Throttle.onMessageEnd, Throttle.enabled_run,
    Throttle.create, h]
  split_ifs <;> simp_all

/-- Any other answer changes nothing. -/
theorem suspendUntil_of_deadline_none (h : e.deadline = none) :
    suspendUntil (events ++ [e]) = suspendUntil events := by
  have hne : e.status ≠ forbidden ∧ e.status ≠ tooManyRequests := by
    unfold MessageEnd.deadline at h
    split_ifs at h with h1 h2
    exact ⟨h1, h2⟩
  simp [suspendUntil, Throttle.onMessageEnd, hne.1, hne.2]

end Step

/-- The deadline of a `403`. -/
theorem deadline_forbidden {e : MessageEnd} (h : e.status = forbidden) :
    e.deadline = some (e.now + blockedBackoff) := by
  rw [MessageEnd.deadline, if_pos h]

/-- The deadline of a `429`. -/
theorem deadline_tooManyRequests {e : MessageEnd} (h : e.status = tooManyRequests) :
    e.deadline = some (e.now + defaultBackoff) := by
  rw [MessageEnd.deadline, if_neg (by rw [h]; decide), if_pos h]

/-- An answer is a `403`, a `429` or no verdict. -/
theorem MessageEnd.status_cases (e : MessageEnd) :
    e.status = forbidden ∨ e.status = tooManyRequests ∨ e.deadline = none := by
  by_cases h1 : e.status = forbidden
  · exact .inl h1
  · by_cases h2 : e.status = tooManyRequests
    · exact .inr (.inl h2)
    · exact .inr (.inr (by simp [deadline, h1, h2]))

/-- **The remembered instant never decreases.** -/
theorem suspendUntil_le (events more : List MessageEnd) :
    suspendUntil events ≤ suspendUntil (events ++ more) := by
  induction more using List.reverseRecOn with
  | nil => simp
  | append_singleton more e ih =>
    rw [← List.append_assoc]
    refine ih.trans ?_
    rcases e.status_cases with h | h | h
    · rw [suspendUntil_forbidden _ h]
      exact le_max_left _ _
    · rw [suspendUntil_tooManyRequests _ h]
      split_ifs with hzero <;> omega
    · rw [suspendUntil_of_deadline_none _ h]

/-- A deadline is never zero. -/
theorem MessageEnd.deadline_pos {e : MessageEnd} {d : ℕ} (h : e.deadline = some d) : 0 < d := by
  have hdefault : 0 < defaultBackoff := by decide
  have hblocked : 0 < blockedBackoff := by decide
  unfold deadline at h
  split_ifs at h <;> (obtain rfl := Option.some.inj h; omega)

/-- The remembered instant is zero before any verdict, and the deadline of some verdict
afterwards. -/
theorem suspendUntil_eq_zero_or_deadline (events : List MessageEnd) :
    (suspendUntil events = 0 ∧ ∀ e ∈ events, e.deadline = none) ∨
      ∃ e ∈ events, e.deadline = some (suspendUntil events) := by
  induction events using List.reverseRecOn with
  | nil => exact .inl ⟨rfl, by simp⟩
  | append_singleton events e ih =>
    have hlast : e.deadline = some (suspendUntil (events ++ [e])) →
        ∃ f ∈ events ++ [e], f.deadline = some (suspendUntil (events ++ [e])) :=
      fun h => ⟨e, by simp, h⟩
    have hkept : suspendUntil (events ++ [e]) = suspendUntil events →
        (∃ f ∈ events, f.deadline = some (suspendUntil events)) →
        ∃ f ∈ events ++ [e], f.deadline = some (suspendUntil (events ++ [e])) := by
      rintro heq ⟨f, hf, hd⟩
      exact ⟨f, List.mem_append_left _ hf, by rw [heq, hd]⟩
    rcases e.status_cases with h | h | h
    · right
      have hstep := suspendUntil_forbidden events h
      rcases le_total (suspendUntil events) (e.now + blockedBackoff) with hle | hle
      · exact hlast (by rw [hstep, max_eq_right hle, deadline_forbidden h])
      · rcases ih with ⟨hzero, -⟩ | hverdict
        · exact hlast (by rw [hstep, deadline_forbidden h, hzero, Nat.zero_max])
        · exact hkept (by rw [hstep, max_eq_left hle]) hverdict
    · right
      have hstep := suspendUntil_tooManyRequests events h
      by_cases hzero : suspendUntil events = 0
      · exact hlast (by rw [hstep, if_pos hzero, deadline_tooManyRequests h])
      · rcases ih with ⟨hzero', -⟩ | hverdict
        · exact absurd hzero' hzero
        · exact hkept (by rw [hstep, if_neg hzero]) hverdict
    · have hstep := suspendUntil_of_deadline_none events h
      rcases ih with ⟨hzero, hnone⟩ | hverdict
      · left
        refine ⟨by rw [hstep, hzero], fun f hf => ?_⟩
        rcases List.mem_append.mp hf with hf | hf
        · exact hnone f hf
        · rw [List.mem_singleton.mp hf, h]
      · exact .inr (hkept hstep hverdict)

/-! ## Honouring the verdicts -/

/-- Every verdict is honoured: at every point of the run the remembered instant is at least
the deadline of every verdict seen so far, and it has not decreased on the way. -/
def VerdictsHonoured (events : List MessageEnd) : Prop :=
  (∀ seen, seen <+: events → ∀ e ∈ seen, ∀ d, e.deadline = some d → d ≤ suspendUntil seen) ∧
    ∀ seen more, seen ++ more <+: events → suspendUntil seen ≤ suspendUntil (seen ++ more)

/-- Every `429` is the first verdict of the run, or an earlier verdict asks for silence at
least as long as it does. -/
def Covered (events : List MessageEnd) : Prop :=
  ∀ seen e, seen ++ [e] <+: events → e.status = tooManyRequests →
    (∀ f ∈ seen, f.deadline = none) ∨
      ∃ f ∈ seen, ∃ d, f.deadline = some d ∧ e.now + defaultBackoff ≤ d

/-- If all deadlines of the answers so far are respected and the next answer is covered, then
all deadlines are respected after it. -/
theorem respected_concat {events : List MessageEnd} {e : MessageEnd}
    (hseen : ∀ f ∈ events, ∀ d, f.deadline = some d → d ≤ suspendUntil events)
    (hcovered : e.status = tooManyRequests → (∀ f ∈ events, f.deadline = none) ∨
      ∃ f ∈ events, ∃ d, f.deadline = some d ∧ e.now + defaultBackoff ≤ d) :
    ∀ f ∈ events ++ [e], ∀ d, f.deadline = some d → d ≤ suspendUntil (events ++ [e]) := by
  intro f hf d hd
  rcases List.mem_append.mp hf with hf | hf
  · exact (hseen f hf d hd).trans (suspendUntil_le events [e])
  obtain rfl := List.mem_singleton.mp hf
  rcases f.status_cases with h | h | h
  · rw [deadline_forbidden h] at hd
    obtain rfl := Option.some.inj hd
    rw [suspendUntil_forbidden events h]
    exact le_max_right _ _
  · rw [deadline_tooManyRequests h] at hd
    obtain rfl := Option.some.inj hd
    rw [suspendUntil_tooManyRequests events h]
    split_ifs with hzero
    · exact le_rfl
    -- the `429` is ignored: an earlier verdict covers it
    rcases hcovered h with hnone | ⟨g, hg, d, hgd, hle⟩
    · rcases suspendUntil_eq_zero_or_deadline events with ⟨hzero', -⟩ | ⟨g, hg, hgd⟩
      · exact absurd hzero' hzero
      · rw [hnone g hg] at hgd
        exact absurd hgd (by simp)
    · exact hle.trans (hseen g hg d hgd)
  · rw [h] at hd
    exact absurd hd (by simp)

/-- **The verdicts of the exchange are honoured exactly when they are covered.**

**Proof sketch.** The remembered instant is the deadline of an earlier verdict as soon as
there is one. A later `429` leaves it alone, so it is honoured exactly when that deadline
reaches its own; a first `429` and every `403` are always honoured. -/
theorem verdictsHonoured_iff (events : List MessageEnd) :
    VerdictsHonoured events ↔ Covered events := by
  constructor
  · rintro ⟨hrespected, -⟩ seen e hseen h
    have he := hrespected _ hseen e (by simp) _ (deadline_tooManyRequests h)
    rcases suspendUntil_eq_zero_or_deadline seen with ⟨-, hnone⟩ | ⟨f, hf, hd⟩
    · exact .inl hnone
    · refine .inr ⟨f, hf, _, hd, ?_⟩
      have hpos := MessageEnd.deadline_pos hd
      rwa [suspendUntil_tooManyRequests seen h, if_neg hpos.ne'] at he
  · intro hcovered
    refine ⟨?_, fun seen more _ => suspendUntil_le seen more⟩
    intro seen
    induction seen using List.reverseRecOn with
    | nil => simp
    | append_singleton seen e ih =>
      intro hseen
      exact respected_concat (ih ((List.prefix_append seen [e]).trans hseen))
        (hcovered seen e hseen)

/-- A `429`, its minute of silence, and after another minute a second `429`. -/
def expiredBackoff : List MessageEnd :=
  [⟨tooManyRequests, 1758185294000000000⟩, ⟨tooManyRequests, 1758185414000000000⟩]

/-- The clock of `expiredBackoff` does not run backwards, and its second `429` is ignored. -/
theorem expiredBackoff_ignored :
    (expiredBackoff.map MessageEnd.now).Pairwise (· ≤ ·) ∧ ¬ VerdictsHonoured expiredBackoff := by
  refine ⟨by decide, fun h => ?_⟩
  have hlast := h.1 expiredBackoff List.prefix_rfl ⟨tooManyRequests, 1758185414000000000⟩
    (by decide) (1758185414000000000 + defaultBackoff) (by decide)
  revert hlast
  decide

end RoqBitget.Tools
