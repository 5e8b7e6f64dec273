import Mathlib.Logic.Basic

set_option relaxedAutoImplicit false
set_option autoImplicit false

/-!
# What a computation with exceptions does to its state

A computation over a state can return a value or throw an exception, and in both cases leaves
a state behind. A relation between states is *ensured* by a computation when the state before
it and the state after it are always related, whichever way it ends. Relations that are
reflexive and transitive are ensured by a sequence of computations that each ensure them.

A state may contain a log, to which computations only append.

## Main definitions

* `Effects.finalState` — the state that a result leaves behind.
* `Effects.Ensures` — a relation between the states before and after every execution.
* `Effects.Appends` — a relation between a log before and after.

## Main results

* `Effects.ok_of_bind`, `bind_of_ok`, `bind_of_error`, `finalState_bind` — a sequence taken
  apart.
* `Effects.Ensures.pure`, `modify`, `get`, `bind`, `forM`, `forM_mem` — one rule for each way to
  build a computation.
* `Effects.Appends.mem`, `Effects.Appends.filter_eq` — what a log contains afterwards.
-/

namespace Effects

variable {ε σ α β : Type}

/-- The state that a result leaves behind, also after an exception. -/
def finalState : EStateM.Result ε σ α → σ
  | .ok _ s => s
  | .error _ s => s

/-- A sequence returns if both parts do. -/
theorem ok_of_bind {m : EStateM ε σ α} {f : α → EStateM ε σ β} {s u : σ} {b : β}
    (h : (m >>= f) s = .ok b u) : ∃ a t, m s = .ok a t ∧ f a t = .ok b u := by
  change EStateM.bind m f s = .ok b u at h
  unfold EStateM.bind at h
  cases hm : m s with
  | ok a t =>
    rw [hm] at h
    exact ⟨a, t, rfl, h⟩
  | error e t =>
    rw [hm] at h
    cases h

/-- A sequence goes on where its first part returned. -/
theorem bind_of_ok {m : EStateM ε σ α} {s t : σ} {a : α} (h : m s = .ok a t)
    (f : α → EStateM ε σ β) : (m >>= f) s = f a t := by
  change EStateM.bind m f s = _
  unfold EStateM.bind
  rw [h]

/-- A sequence ends where its first part throws. -/
theorem bind_of_error {m : EStateM ε σ α} {s t : σ} {e : ε} (h : m s = .error e t)
    (f : α → EStateM ε σ β) : (m >>= f) s = .error e t := by
  change EStateM.bind m f s = _
  unfold EStateM.bind
  rw [h]

/-- A sequence leaves behind what its second part does, unless the first part throws. -/
theorem finalState_bind (m : EStateM ε σ α) (f : α → EStateM ε σ β) (s : σ) :
    finalState ((m >>= f) s) =
      match m s with
      | .ok a t => finalState (f a t)
      | .error _ t => t := by
  change finalState (EStateM.bind m f s) = _
  unfold EStateM.bind
  cases m s <;> rfl

/-- Every execution of `m`, one that throws included, leads to a related state. -/
def Ensures (R : σ → σ → Prop) (m : EStateM ε σ α) : Prop := ∀ s, R s (finalState (m s))

variable {R : σ → σ → Prop}

/-- A value leaves the state alone. -/
theorem Ensures.pure (refl : ∀ s, R s s) (a : α) :
    Ensures R (Pure.pure a : EStateM ε σ α) := fun s => refl s

/-- An update ensures what it does to every state. -/
theorem Ensures.modify {f : σ → σ} (h : ∀ s, R s (f s)) :
    Ensures R (modifyGet (fun s => (PUnit.unit, f s)) : EStateM ε σ PUnit) := h

/-- Reading the state leaves it alone. -/
theorem Ensures.get (refl : ∀ s, R s s) : Ensures R (MonadState.get : EStateM ε σ σ) :=
  fun s => refl s

/-- A sequence of computations ensures a transitive relation that both parts ensure. -/
theorem Ensures.bind (trans : ∀ s t u, R s t → R t u → R s u) {m : EStateM ε σ α}
    {f : α → EStateM ε σ β} (hm : Ensures R m) (hf : ∀ a, Ensures R (f a)) :
    Ensures R (m >>= f) := by
  intro s
  have hfirst := hm s
  change R s (finalState (EStateM.bind m f s))
  unfold EStateM.bind
  cases hms : m s with
  | ok a t =>
    rw [hms] at hfirst
    exact trans _ _ _ hfirst (hf a t)
  | error e t =>
    rw [hms] at hfirst
    exact hfirst

/-- A loop ensures a reflexive and transitive relation that every round ensures. -/
theorem Ensures.forM (refl : ∀ s, R s s) (trans : ∀ s t u, R s t → R t u → R s u)
    {f : α → EStateM ε σ PUnit} (hf : ∀ a, Ensures R (f a)) (xs : List α) :
    Ensures R (xs.forM f) := by
  induction xs with
  | nil => exact Ensures.pure refl PUnit.unit
  | cons a xs ih => exact Ensures.bind trans (hf a) fun _ => ih

/-- A loop over given elements ensures what the rounds for these elements ensure. -/
theorem Ensures.forM_mem (refl : ∀ s, R s s) (trans : ∀ s t u, R s t → R t u → R s u)
    {f : α → EStateM ε σ PUnit} {xs : List α} (hf : ∀ a ∈ xs, Ensures R (f a)) :
    Ensures R (xs.forM f) := by
  induction xs with
  | nil => exact Ensures.pure refl PUnit.unit
  | cons a xs ih =>
    exact Ensures.bind trans (hf a List.mem_cons_self) fun _ =>
      ih fun b hb => hf b (List.mem_cons_of_mem a hb)

/-! ## Logs -/

/-- The log `ys` is `xs` with some entries appended, which all satisfy `P`. -/
def Appends (P : α → Prop) (xs ys : List α) : Prop := ∃ new, ys = xs ++ new ∧ ∀ a ∈ new, P a

namespace Appends

variable {P : α → Prop} {xs ys zs : List α}

/-- Nothing is appended. -/
theorem refl (P : α → Prop) (xs : List α) : Appends P xs xs := ⟨[], by simp, by simp⟩

/-- One entry is appended. -/
theorem concat {a : α} (h : P a) (xs : List α) : Appends P xs (xs ++ [a]) :=
  ⟨[a], rfl, by simpa using h⟩

/-- More is appended to what was appended. -/
theorem trans (h : Appends P xs ys) (h' : Appends P ys zs) : Appends P xs zs := by
  obtain ⟨new, rfl, hnew⟩ := h
  obtain ⟨new', rfl, hnew'⟩ := h'
  refine ⟨new ++ new', List.append_assoc xs new new', fun a ha => ?_⟩
  exact (List.mem_append.mp ha).elim (hnew a) (hnew' a)

/-- An entry of the log was there before or has been appended. -/
theorem mem (h : Appends P xs ys) {a : α} (ha : a ∈ ys) : a ∈ xs ∨ P a := by
  obtain ⟨new, rfl, hnew⟩ := h
  exact (List.mem_append.mp ha).imp_right (hnew a)

/-- A filter that drops all that can be appended sees no difference. -/
theorem filter_eq (h : Appends P xs ys) {p : α → Bool} (hp : ∀ a, P a → p a = false) :
    ys.filter p = xs.filter p := by
  obtain ⟨new, rfl, hnew⟩ := h
  have hnone : new.filter p = [] := by
    rw [List.filter_eq_nil_iff]
    intro a ha
    simp [hp a (hnew a ha)]
  rw [List.filter_append, hnone, List.append_nil]

end Appends

end Effects
