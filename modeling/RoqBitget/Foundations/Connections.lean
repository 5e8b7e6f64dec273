import Mathlib.Data.List.Nodup

set_option relaxedAutoImplicit false
set_option autoImplicit false

/-!
# Requests over a connection that can be lost

Requests are sent over a connection and answered in any order. When the connection is lost, the
requests that are outstanding are never answered any more. A *log* records all of this, the
latest step first.

## Main definitions

* `Connections.Step`, `Connections.outstanding` — the steps of a log, and the requests that are
  outstanding after it.
* `Connections.WellUsed` — no request is sent twice, and only outstanding requests are answered.
* `Connections.Fate`, `Connections.fate` — what has become of a request.

## Main results

* `Connections.WellUsed.answers_eq` — a request is answered once, if that is its fate, and is not
  answered otherwise.
* `Connections.WellUsed.mem_outstanding` — the outstanding requests are those with that fate.
* `Connections.WellUsed.fate_append` — a request that is answered or lost remains so.
-/

namespace Connections

/-- A step of a log over requests `ρ` and answers `α`. -/
inductive Step (ρ α : Type)
  | sent (request : ρ)
  | answered (request : ρ) (answer : α)
  /-- The connection is lost. -/
  | lost
  deriving DecidableEq

/-- What has become of a request. -/
inductive Fate (α : Type)
  | unsent
  | outstanding
  | answered (answer : α)
  | lost

/-- Nothing can become of the request any more. -/
def Fate.Final {α : Type} : Fate α → Prop
  | .answered _ | .lost => True
  | .unsent | .outstanding => False

variable {ρ α : Type} [DecidableEq ρ]

/-- The requests that are outstanding after a log. -/
def outstanding : List (Step ρ α) → List ρ
  | [] => []
  | .sent request :: log => outstanding log ++ [request]
  | .answered request _ :: log => (outstanding log).erase request
  | .lost :: _ => []

/-- The answers to a request, latest first. -/
def answers (request : ρ) (log : List (Step ρ α)) : List α :=
  log.filterMap fun
    | .answered r a => if r = request then some a else none
    | .sent _ | .lost => none

/-- What a step makes of a request. -/
def Fate.next (request : ρ) (fate : Fate α) : Step ρ α → Fate α
  | .sent r => if r = request then .outstanding else fate
  | .answered r a => if r = request then .answered a else fate
  | .lost =>
    match fate with
    | .outstanding => .lost
    | _ => fate

/-- What has become of a request after a log. -/
def fate (request : ρ) : List (Step ρ α) → Fate α
  | [] => .unsent
  | step :: log => (fate request log).next request step

/-- What the environment is expected to do next: to send a request for the first time, or to
answer one that is outstanding. -/
def Expected (log : List (Step ρ α)) : Step ρ α → Prop
  | .sent request => .sent request ∉ log
  | .answered request _ => request ∈ outstanding log
  | .lost => True

/-- No request is sent twice, and only outstanding requests are answered. -/
def WellUsed : List (Step ρ α) → Prop
  | [] => True
  | step :: log => Expected log step ∧ WellUsed log

section Answers

variable {request : ρ} {log : List (Step ρ α)}

@[simp] theorem answers_nil : answers request ([] : List (Step ρ α)) = [] := rfl

@[simp] theorem answers_sent (r : ρ) :
    answers request (.sent r :: log) = answers request log := rfl

@[simp] theorem answers_lost : answers request (.lost :: log) = answers request log := rfl

@[simp] theorem answers_answered (r : ρ) (a : α) :
    answers request (.answered r a :: log) =
      if r = request then a :: answers request log else answers request log := by
  by_cases h : r = request <;> simp [answers, h]

end Answers

/-- The answers that belong to a fate. -/
def Fate.answers : Fate α → List α
  | .answered a => [a]
  | .unsent | .outstanding | .lost => []

/-- Only what was sent is outstanding. -/
theorem sent_of_mem_outstanding {request : ρ} {log : List (Step ρ α)}
    (h : request ∈ outstanding log) : .sent request ∈ log := by
  induction log with
  | nil => simp [outstanding] at h
  | cons step log ih =>
    cases step with
    | sent r =>
      rcases List.mem_append.mp h with hbefore | hnow
      · exact List.mem_cons_of_mem _ (ih hbefore)
      · rw [List.mem_singleton.mp hnow]
        exact List.mem_cons_self
    | answered r a => exact List.mem_cons_of_mem _ (ih (List.mem_of_mem_erase h))
    | lost => simp [outstanding] at h

namespace WellUsed

variable {log : List (Step ρ α)} {request : ρ}

/-- No request is outstanding twice. -/
theorem nodup (h : WellUsed log) : (outstanding log).Nodup := by
  induction log with
  | nil => exact List.nodup_nil
  | cons step log ih =>
    have hlog := ih h.2
    cases step with
    | sent r =>
      have hfresh : r ∉ outstanding log := fun hmem => h.1 (sent_of_mem_outstanding hmem)
      rw [outstanding, ← List.concat_eq_append]
      exact hlog.concat hfresh
    | answered r a => exact hlog.erase r
    | lost => exact List.nodup_nil

/-- **The outstanding requests** are those with that fate. -/
theorem mem_outstanding (h : WellUsed log) :
    request ∈ outstanding log ↔ fate request log = .outstanding := by
  induction log with
  | nil => simp [outstanding, fate]
  | cons step log ih =>
    have hlog := ih h.2
    rw [fate]
    cases step with
    | sent r =>
      rw [outstanding, List.mem_append, List.mem_singleton, hlog, Fate.next]
      split_ifs with hr
      · simp [hr]
      · simp [Ne.symm hr]
    | answered r a =>
      rw [outstanding, h.2.nodup.mem_erase_iff, hlog, Fate.next]
      split_ifs with hr
      · simp [hr]
      · simp [Ne.symm hr]
    | lost =>
      rw [outstanding]
      cases fate request log <;> simp [Fate.next]

/-- What was not sent has the fate to be unsent. -/
theorem fate_eq_unsent (h : WellUsed log) : fate request log = .unsent ↔ .sent request ∉ log := by
  induction log with
  | nil => simp [fate]
  | cons step log ih =>
    have hlog := ih h.2
    rw [fate, List.mem_cons, not_or, ← hlog]
    cases step with
    | sent r =>
      rw [Fate.next]
      split_ifs with hr
      · simp [hr]
      · simp [Ne.symm hr]
    | answered r a =>
      rw [Fate.next]
      split_ifs with hr
      · -- what is answered is outstanding, so it was sent
        have houtstanding := h.2.mem_outstanding.mp h.1
        rw [hr] at houtstanding
        simp [houtstanding]
      · simp
    | lost => cases fate request log <;> simp [Fate.next]

/-- **Answered once.** A request that is answered has one answer, and any other one has none. -/
theorem answers_eq (h : WellUsed log) : answers request log = (fate request log).answers := by
  induction log with
  | nil => rfl
  | cons step log ih =>
    have hlog := ih h.2
    rw [fate]
    cases step with
    | sent r =>
      rw [answers_sent, hlog, Fate.next]
      split_ifs with hr
      · have hunsent := h.2.fate_eq_unsent.mpr h.1
        rw [hr] at hunsent
        rw [hunsent]
        rfl
      · rfl
    | answered r a =>
      rw [answers_answered, hlog, Fate.next]
      split_ifs with hr
      · have houtstanding := h.2.mem_outstanding.mp h.1
        rw [hr] at houtstanding
        rw [houtstanding]
        rfl
      · rfl
    | lost =>
      rw [answers_lost, hlog]
      cases fate request log <;> rfl

/-- A step leaves a final fate alone. -/
theorem fate_cons {step : Step ρ α} (h : WellUsed (step :: log))
    (hfinal : (fate request log).Final) : fate request (step :: log) = fate request log := by
  rw [fate]
  cases step with
  | sent r =>
    rw [Fate.next, if_neg]
    rintro rfl
    rw [h.2.fate_eq_unsent.mpr h.1] at hfinal
    exact hfinal
  | answered r a =>
    rw [Fate.next, if_neg]
    rintro rfl
    rw [h.2.mem_outstanding.mp h.1] at hfinal
    exact hfinal
  | lost =>
    cases hfate : fate request log with
    | outstanding =>
      rw [hfate] at hfinal
      exact hfinal.elim
    | _ => rfl

/-- **A request that is answered or lost remains so**, whatever follows. -/
theorem fate_append {after : List (Step ρ α)} (h : WellUsed (after ++ log))
    (hfinal : (fate request log).Final) : fate request (after ++ log) = fate request log := by
  induction after with
  | nil => rfl
  | cons step after ih =>
    have hafter := ih h.2
    have hstep := fate_cons h (hafter ▸ hfinal)
    exact hstep.trans hafter

end WellUsed

end Connections
