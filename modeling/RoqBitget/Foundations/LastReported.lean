import Mathlib.Data.List.Basic

set_option relaxedAutoImplicit false
set_option autoImplicit false

/-!
# Values that keep their last report

An observer keeps one value and receives reports of it; a report may be silent (`none`), and
a silent report leaves the value as it is.

## Main definitions

* `LastReported.settle` — the value kept after a list of reports.

## Main results

* `LastReported.settle_of_forall` — reports that are silent or repeat one value settle on it.
* `LastReported.settle_append_cons` — a report followed by such reports.
-/

namespace LastReported

variable {α : Type*}

/-- The value kept after the reports `rs`, starting from `v`. -/
def settle (v : α) (rs : List (Option α)) : α := rs.foldl (fun v r => r.getD v) v

@[simp] theorem settle_nil (v : α) : settle v [] = v := rfl

@[simp] theorem settle_cons_none (v : α) (rs : List (Option α)) :
    settle v (none :: rs) = settle v rs := rfl

@[simp] theorem settle_cons_some (v x : α) (rs : List (Option α)) :
    settle v (some x :: rs) = settle x rs := rfl

theorem settle_append (v : α) (rs ss : List (Option α)) :
    settle v (rs ++ ss) = settle (settle v rs) ss := by
  simp [settle, List.foldl_append]

/-- A property of the initial value and of every reported value holds of the kept value. -/
theorem settle_of_mem {P : α → Prop} {v : α} {rs : List (Option α)} (hv : P v)
    (hrs : ∀ x, some x ∈ rs → P x) : P (settle v rs) := by
  induction rs generalizing v with
  | nil => exact hv
  | cons r rs ih =>
    have htail : ∀ x, some x ∈ rs → P x := fun x hx => hrs x (List.mem_cons_of_mem r hx)
    cases r with
    | none => exact ih hv htail
    | some x => exact ih (hrs x List.mem_cons_self) htail

/-- The silent reports can be left out. -/
theorem settle_filterMap {β : Type*} (f : β → Option α) (v : α) (l : List β) :
    settle v ((l.filterMap f).map some) = settle v (l.map f) := by
  induction l generalizing v with
  | nil => rfl
  | cons b l ih => cases hb : f b <;> simp [hb, ih]

variable [DecidableEq α]

/-- Reports that are silent or say `z` leave `z` if one of them says so. -/
theorem settle_of_forall {z : α} (v : α) {rs : List (Option α)}
    (hrs : ∀ r ∈ rs, r = none ∨ r = some z) : settle v rs = if some z ∈ rs then z else v := by
  induction rs generalizing v with
  | nil => simp
  | cons r rs ih =>
    have htail : ∀ r ∈ rs, r = none ∨ r = some z := fun r hr => hrs r (List.mem_cons_of_mem _ hr)
    rcases hrs r List.mem_cons_self with rfl | rfl
    · simp [ih v htail]
    · simp [ih z htail]

/-- **The last word.** A report of `x` followed by reports that are silent or say `z`: the
kept value is `z` if one of the later reports says so, and `x` otherwise. -/
theorem settle_append_cons {z : α} (v x : α) (rs : List (Option α)) {ss : List (Option α)}
    (hss : ∀ r ∈ ss, r = none ∨ r = some z) :
    settle v (rs ++ some x :: ss) = if some z ∈ ss then z else x := by
  rw [settle_append, settle_cons_some, settle_of_forall x hss]

end LastReported
