import Mathlib.Data.List.Basic
import Mathlib.Data.List.Nodup

set_option relaxedAutoImplicit false
set_option autoImplicit false

/-!
# Slices of a growing list

A list that only grows at its end is cut into slices of a fixed size, the last of which may not
be full. Appending to the list fills up the last slice and opens new ones, so what a slice gains
is the part of it at or after the previous length.

## Main definitions

* `Slices.slice`, `Slices.sliceFrom` — a slice, and the part of it from a position on.
* `Slices.sliceCount` — the number of slices.

## Main results

* `Slices.slice_append` — what a slice gains when the list grows.
* `Slices.flatMap_slice` — the slices make up the list.
* `Slices.sliceCount_mono` — a longer list has no fewer slices.
* `Slices.existsUnique_mem_slice` — every element stands in one slice.
-/

namespace Slices

variable {α : Type}

/-- The part of the `i`-th slice at or after the position `start` of the list. -/
def sliceFrom (size : ℕ) (xs : List α) (i start : ℕ) : List α :=
  (xs.take ((i + 1) * size)).drop (max (i * size) start)

/-- The `i`-th slice. -/
def slice (size : ℕ) (xs : List α) (i : ℕ) : List α :=
  (xs.take ((i + 1) * size)).drop (i * size)

/-- The number of slices of a list of length `n`. -/
def sliceCount (size n : ℕ) : ℕ := (n + size - 1) / size

/-- From the start of the list on, a slice is whole. -/
@[simp] theorem sliceFrom_zero (size : ℕ) (xs : List α) (i : ℕ) :
    sliceFrom size xs i 0 = slice size xs i := by
  rw [sliceFrom, Nat.max_zero, slice]

/-- Nothing of a slice stands after the list. -/
@[simp] theorem sliceFrom_length (size : ℕ) (xs : List α) (i : ℕ) :
    sliceFrom size xs i xs.length = [] := by
  apply List.drop_eq_nil_of_le
  rw [List.length_take]
  omega

/-- **What a slice gains** when the list grows is the part of it at or after the old length. -/
theorem slice_append (size : ℕ) (xs ys : List α) (i : ℕ) :
    slice size (xs ++ ys) i = slice size xs i ++ sliceFrom size (xs ++ ys) i xs.length := by
  have hbound : i * size ≤ (i + 1) * size := Nat.mul_le_mul_right size (Nat.le_succ i)
  unfold slice sliceFrom
  rw [List.take_append, List.drop_append, List.drop_append, List.length_take]
  have hold : (xs.take ((i + 1) * size)).drop (max (i * size) xs.length) = [] := by
    apply List.drop_eq_nil_of_le
    rw [List.length_take]
    omega
  rw [hold, List.nil_append]
  congr 1
  by_cases hgrows : (i + 1) * size ≤ xs.length
  · have hnone : (i + 1) * size - xs.length = 0 := by omega
    simp [hnone]
  · congr 1
    omega

/-- The elements of a slice stand in it once, if they stand in the list once. -/
theorem nodup_slice {xs : List α} (h : xs.Nodup) (size i : ℕ) : (slice size xs i).Nodup :=
  h.sublist ((List.drop_sublist _ _).trans (List.take_sublist _ _))

/-- A slice is not longer than its size. -/
theorem length_slice_le (size : ℕ) (xs : List α) (i : ℕ) : (slice size xs i).length ≤ size := by
  have hend : (i + 1) * size = i * size + size := Nat.succ_mul i size
  rw [slice, List.length_drop, List.length_take]
  omega

/-- The first `k` slices. -/
theorem flatMap_range_slice (size : ℕ) (xs : List α) (k : ℕ) :
    (List.range k).flatMap (slice size xs) = xs.take (k * size) := by
  induction k with
  | zero => simp
  | succ k ih =>
    have hk : k * size ≤ (k + 1) * size := Nat.mul_le_mul_right size (Nat.le_succ k)
    have hfirst : (xs.take ((k + 1) * size)).take (k * size) = xs.take (k * size) := by
      rw [List.take_take, Nat.min_eq_left hk]
    rw [List.range_succ, List.flatMap_append, ih, List.flatMap_singleton, slice, ← hfirst,
      List.take_append_drop]

/-- The empty list has no slices. -/
theorem sliceCount_zero {size : ℕ} (hsize : 0 < size) : sliceCount size 0 = 0 :=
  Nat.div_eq_of_lt (by omega)

/-- A list fits into its slices. -/
theorem le_sliceCount_mul {size : ℕ} (hsize : 0 < size) (n : ℕ) : n ≤ sliceCount size n * size := by
  have hmod := Nat.div_add_mod (n + size - 1) size
  have hlt := Nat.mod_lt (n + size - 1) hsize
  rw [sliceCount, Nat.mul_comm]
  omega

/-- **The slices make up the list.** -/
theorem flatMap_slice {size : ℕ} (hsize : 0 < size) (xs : List α) :
    (List.range (sliceCount size xs.length)).flatMap (slice size xs) = xs := by
  rw [flatMap_range_slice, List.take_of_length_le (le_sliceCount_mul hsize xs.length)]

/-- A longer list has no fewer slices. -/
theorem sliceCount_mono (size : ℕ) {m n : ℕ} (h : m ≤ n) : sliceCount size m ≤ sliceCount size n :=
  Nat.div_le_div_right (by omega)

/-- Slices before another one have nothing in common with it. -/
theorem disjoint_slice {xs : List α} (h : xs.Nodup) (size : ℕ) {i j : ℕ} (hij : i < j) :
    (slice size xs i).Disjoint (slice size xs j) := by
  have hends : (i + 1) * size ≤ j * size := Nat.mul_le_mul_right size hij
  intro x hi hj
  have hbefore : x ∈ xs.take ((i + 1) * size) := List.mem_of_mem_drop hi
  have hafter : x ∈ xs.drop (j * size) := by
    rw [slice, List.drop_take] at hj
    exact List.mem_of_mem_take hj
  exact List.disjoint_take_drop h hends hbefore hafter

/-- **Where an element stands.** If nothing stands in a list twice, then every element of it
stands in one slice and in no other. -/
theorem existsUnique_mem_slice {xs : List α} (h : xs.Nodup) {size : ℕ} (hsize : 0 < size) {x : α}
    (hx : x ∈ xs) : ∃! i, x ∈ slice size xs i := by
  rw [← flatMap_slice hsize xs] at hx
  obtain ⟨i, -, hi⟩ := List.mem_flatMap.mp hx
  refine ⟨i, hi, fun j hj => ?_⟩
  rcases Nat.lt_trichotomy i j with hlt | heq | hgt
  · exact absurd hj (disjoint_slice h size hlt hi)
  · exact heq.symm
  · exact absurd hi (disjoint_slice h size hgt hj)

end Slices
