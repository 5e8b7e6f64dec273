import Mathlib.Data.Finset.Dedup
import Mathlib.Data.Finset.Insert
import Mathlib.Data.Finset.Lattice.Lemmas

set_option relaxedAutoImplicit false
set_option autoImplicit false

/-!
# What a list brings that has not been seen

Elements arrive in lists, and a set remembers those that have been seen. What a list brings is
its elements that are not in the set yet, each where it stands first.

## Main definitions

* `Unseen.unseen` — the elements of a list that have not been seen.

## Main results

* `Unseen.mem_unseen`, `Unseen.nodup_unseen` — they are new, and each is there once.
* `Unseen.unseen_append` — the second part of a list brings what the first has not.
-/

namespace Unseen

variable {α : Type} [DecidableEq α]

/-- The elements of a list that are not in the set, each at its first place. -/
def unseen (seen : Finset α) : List α → List α
  | [] => []
  | x :: xs => if x ∈ seen then unseen seen xs else x :: unseen (insert x seen) xs

/-- A list brings its elements that have not been seen. -/
theorem mem_unseen {x : α} (seen : Finset α) (xs : List α) :
    x ∈ unseen seen xs ↔ x ∈ xs ∧ x ∉ seen := by
  induction xs generalizing seen with
  | nil => simp [unseen]
  | cons y ys ih =>
    rw [unseen]
    split_ifs with hy
    · rw [ih]
      constructor
      · rintro ⟨hmem, hnew⟩
        exact ⟨List.mem_cons_of_mem y hmem, hnew⟩
      · rintro ⟨hmem, hnew⟩
        rcases List.mem_cons.mp hmem with rfl | hmem
        · exact absurd hy hnew
        · exact ⟨hmem, hnew⟩
    · rw [List.mem_cons, ih, List.mem_cons, Finset.mem_insert]
      constructor
      · rintro (rfl | ⟨hmem, hnew⟩)
        · exact ⟨.inl rfl, hy⟩
        · exact ⟨.inr hmem, fun h => hnew (.inr h)⟩
      · rintro ⟨rfl | hmem, hnew⟩
        · exact .inl rfl
        · by_cases hxy : x = y
          · exact .inl hxy
          · exact .inr ⟨hmem, fun h => h.elim hxy hnew⟩

/-- An element of a list has been seen, or is brought by it. -/
theorem mem_or_mem_unseen {x : α} {xs : List α} (hx : x ∈ xs) (seen : Finset α) :
    x ∈ seen ∨ x ∈ unseen seen xs := by
  by_cases hseen : x ∈ seen
  · exact .inl hseen
  · exact .inr ((mem_unseen seen xs).mpr ⟨hx, hseen⟩)

/-- A list brings nothing twice. -/
theorem nodup_unseen (seen : Finset α) (xs : List α) : (unseen seen xs).Nodup := by
  induction xs generalizing seen with
  | nil => exact List.nodup_nil
  | cons y ys ih =>
    rw [unseen]
    split_ifs
    · exact ih seen
    · refine List.nodup_cons.mpr ⟨fun hmem => ?_, ih _⟩
      exact ((mem_unseen _ ys).mp hmem).2 (Finset.mem_insert_self y seen)

/-- The second part of a list brings what has not been seen, in the first part neither. -/
theorem unseen_append (seen : Finset α) (xs ys : List α) :
    unseen seen (xs ++ ys) = unseen seen xs ++ unseen (seen ∪ xs.toFinset) ys := by
  induction xs generalizing seen with
  | nil => simp [unseen]
  | cons x xs ih =>
    rw [List.cons_append, unseen, unseen]
    split_ifs with hx
    · have hsame : seen ∪ (x :: xs).toFinset = seen ∪ xs.toFinset := by
        rw [List.toFinset_cons, Finset.union_insert, Finset.insert_eq_self]
        exact Finset.mem_union_left _ hx
      rw [ih, hsame]
    · have hmore : insert x seen ∪ xs.toFinset = seen ∪ (x :: xs).toFinset := by
        rw [List.toFinset_cons, Finset.union_insert, Finset.insert_union]
      rw [ih, hmore, List.cons_append]

end Unseen
