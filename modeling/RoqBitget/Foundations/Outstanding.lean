import Mathlib.Data.List.Basic
import Mathlib.Data.List.Nodup

set_option relaxedAutoImplicit false
set_option autoImplicit false

/-!
# Outstanding requests

Requests are sent and answered in any order. A *log* records what was sent and what was
answered, the latest step first. If no request is sent twice, and only requests that are
outstanding are answered, then every request that was sent is either outstanding and has no
answer, or is not outstanding any more and has exactly one.

## Main definitions

* `Outstanding.Step`, `Outstanding.answers` — the steps of a log, and the answers to a request.
* `Outstanding.Consistent` — a log with the requests that are outstanding after it.

## Main results

* `Outstanding.Consistent.answered_once` — outstanding without an answer, or answered once.
* `Outstanding.Consistent.sent_all` — several requests sent one after another.
-/

namespace Outstanding

/-- A step of a log over requests `ρ` and answers `α`. -/
inductive Step (ρ α : Type)
  | sent (request : ρ)
  | answered (request : ρ) (answer : α)

variable {ρ α : Type} [DecidableEq ρ]

/-- The answers to a request, latest first. -/
def answers (request : ρ) (log : List (Step ρ α)) : List α :=
  log.filterMap fun
    | .answered r a => if r = request then some a else none
    | .sent _ => none

/-- A request was sent. -/
def WasSent (request : ρ) (log : List (Step ρ α)) : Prop := .sent request ∈ log

/-- A log, and the requests that are outstanding after it. -/
inductive Consistent : List (Step ρ α) → List ρ → Prop
  | nil : Consistent [] []
  | sent {log : List (Step ρ α)} {outstanding : List ρ} {request : ρ}
      (h : Consistent log outstanding) (fresh : ¬ WasSent request log) :
      Consistent (.sent request :: log) (outstanding ++ [request])
  | answered {log : List (Step ρ α)} {outstanding : List ρ} {request : ρ} {answer : α}
      (h : Consistent log outstanding) (hrequest : request ∈ outstanding) :
      Consistent (.answered request answer :: log) (outstanding.erase request)

omit [DecidableEq ρ] in
/-- An answer after a log sends nothing. -/
@[simp] theorem wasSent_answered {request r : ρ} {a : α} {log : List (Step ρ α)} :
    WasSent request (.answered r a :: log) ↔ WasSent request log := by
  simp [WasSent]

omit [DecidableEq ρ] in
/-- A request is sent by the step that sends it, or was sent before. -/
@[simp] theorem wasSent_sent {request r : ρ} {log : List (Step ρ α)} :
    WasSent request (.sent r :: log) ↔ request = r ∨ WasSent request log := by
  simp [WasSent]

/-- Sending answers nothing. -/
@[simp] theorem answers_sent (request r : ρ) (log : List (Step ρ α)) :
    answers request (.sent r :: log) = answers request log := by
  simp [answers]

/-- An answer is one to its request. -/
@[simp] theorem answers_answered (request r : ρ) (a : α) (log : List (Step ρ α)) :
    answers request (.answered r a :: log) =
      if r = request then a :: answers request log else answers request log := by
  by_cases h : r = request <;> simp [answers, h]

namespace Consistent

variable {log : List (Step ρ α)} {outstanding : List ρ}

/-- Only what was sent is outstanding. -/
theorem wasSent (h : Consistent log outstanding) {request : ρ} (hrequest : request ∈ outstanding) :
    WasSent request log := by
  induction h with
  | nil => simp at hrequest
  | sent _ _ ih =>
    rcases List.mem_append.mp hrequest with hmem | hmem
    · exact wasSent_sent.mpr (.inr (ih hmem))
    · exact wasSent_sent.mpr (.inl (List.mem_singleton.mp hmem))
  | answered _ _ ih => exact wasSent_answered.mpr (ih (List.mem_of_mem_erase hrequest))

/-- No request is outstanding twice. -/
theorem nodup (h : Consistent log outstanding) : outstanding.Nodup := by
  induction h with
  | nil => exact List.nodup_nil
  | sent h fresh ih =>
    rw [List.nodup_append]
    refine ⟨ih, List.nodup_singleton _, fun a ha b hb heq => ?_⟩
    rw [List.mem_singleton.mp hb] at heq
    exact fresh (h.wasSent (heq ▸ ha))
  | answered _ _ ih => exact ih.erase _

/-- What was never sent is not answered. -/
theorem answers_eq_nil (h : Consistent log outstanding) {request : ρ}
    (hrequest : ¬ WasSent request log) : answers request log = [] := by
  induction h with
  | nil => rfl
  | sent _ _ ih =>
    rw [answers_sent]
    exact ih fun hsent => hrequest (wasSent_sent.mpr (.inr hsent))
  | answered h hmem ih =>
    rw [wasSent_answered] at hrequest
    rw [answers_answered, if_neg]
    · exact ih hrequest
    · rintro rfl
      exact hrequest (h.wasSent hmem)

/-- **Answered once.** What was sent is outstanding without an answer, or is not outstanding any
more and has exactly one answer. -/
theorem answered_once (h : Consistent log outstanding) {request : ρ}
    (hrequest : WasSent request log) :
    (request ∈ outstanding ∧ answers request log = []) ∨
      (request ∉ outstanding ∧ ∃ a, answers request log = [a]) := by
  induction h with
  | nil => simp [WasSent] at hrequest
  | sent h fresh ih =>
    rw [answers_sent, List.mem_append, List.mem_singleton]
    rcases wasSent_sent.mp hrequest with rfl | hsent
    · exact .inl ⟨.inr rfl, h.answers_eq_nil fresh⟩
    · rcases ih hsent with ⟨hmem, hnone⟩ | ⟨hmem, hone⟩
      · exact .inl ⟨.inl hmem, hnone⟩
      · refine .inr ⟨?_, hone⟩
        rintro (hmem' | rfl)
        · exact hmem hmem'
        · exact fresh hsent
  | @answered log outstanding r a h hmem ih =>
    rw [wasSent_answered] at hrequest
    rw [answers_answered]
    by_cases heq : r = request
    · subst heq
      rcases ih hrequest with ⟨-, hnone⟩ | ⟨hnot, -⟩
      · exact .inr ⟨fun hmem' => (h.nodup.mem_erase_iff.mp hmem').1 rfl, a, by simp [hnone]⟩
      · exact absurd hmem hnot
    · rw [if_neg heq, List.mem_erase_of_ne (Ne.symm heq)]
      exact ih hrequest

/-- Several requests are sent, one after another. -/
theorem sent_all (h : Consistent log outstanding) {requests : List ρ} (hnodup : requests.Nodup)
    (fresh : ∀ request ∈ requests, ¬ WasSent request log) :
    Consistent ((requests.map Step.sent).reverse ++ log) (outstanding ++ requests) := by
  induction requests generalizing log outstanding with
  | nil => simpa using h
  | cons request requests ih =>
    rw [List.nodup_cons] at hnodup
    have hone := h.sent (fresh request List.mem_cons_self)
    have hrest := ih hone hnodup.2 fun r hr hsent => by
      rcases wasSent_sent.mp hsent with rfl | hbefore
      · exact hnodup.1 hr
      · exact fresh r (List.mem_cons_of_mem request hr) hbefore
    simpa [List.append_assoc] using hrest

end Consistent

end Outstanding
