import Mathlib.Algebra.Order.Floor.Div
import Mathlib.Data.Int.CardIntervalMod
import Mathlib.Data.List.Find
import Mathlib.Data.List.Rotate

set_option relaxedAutoImplicit false
set_option autoImplicit false

/-!
# Taking turns

Finitely many places stand in a circle, and some of them are able to serve. A pointer says
where to look first. The place whose turn it is, is the first one able to serve at the pointer
or cyclically after it, and the pointer then moves on to the place behind it.

## Main definitions

* `RoundRobin.order` — the places in cyclic order from the pointer on.
* `RoundRobin.next` — the place whose turn it is.
* `RoundRobin.waiting` — the places able to serve, in cyclic order from the pointer on.
* `RoundRobin.turns` — who serves in a number of consecutive turns.

## Main results

* `RoundRobin.next_eq_some_iff` — the place found, by its distance from the pointer.
* `RoundRobin.waiting_next` — a turn rotates those who wait by one.
* `RoundRobin.getElem?_turns` — the places serve in cyclic order.
* `RoundRobin.count_turns` — in `k` turns every one of `r` places serves `⌊k / r⌋` or
  `⌈k / r⌉` times.
-/

namespace RoundRobin

variable {n : ℕ} {p : ℕ → Bool}

/-- The places in cyclic order from `start` on. -/
def order (n start : ℕ) : List ℕ := (List.range n).rotate start

/-- The first place in cyclic order from `start` on that is able to serve. -/
def next (n : ℕ) (p : ℕ → Bool) (start : ℕ) : Option ℕ := (order n start).find? p

/-- The places that are able to serve, in cyclic order from `start` on. -/
def waiting (n : ℕ) (p : ℕ → Bool) (start : ℕ) : List ℕ := (order n start).filter p

/-- Who serves in `k` consecutive turns, the first one at `start` or after it. -/
def turns (n : ℕ) (p : ℕ → Bool) : ℕ → ℕ → List ℕ
  | 0, _ => []
  | k + 1, start =>
    match next n p start with
    | none => []
    | some i => i :: turns n p k ((i + 1) % n)

/-! ## The order of the places -/

@[simp] theorem length_order (n start : ℕ) : (order n start).length = n := by
  simp [order]

@[simp] theorem mem_order {start i : ℕ} : i ∈ order n start ↔ i < n := by
  simp [order]

/-- The place at a distance from the pointer. -/
theorem getElem_order {start offset : ℕ} (h : offset < (order n start).length) :
    (order n start)[offset] = (start + offset) % n := by
  simp only [order, List.getElem_rotate, List.length_range, List.getElem_range]
  rw [Nat.add_comm]

/-- The pointer counts modulo the number of places. -/
@[simp] theorem order_mod (n start : ℕ) : order n (start % n) = order n start := by
  simpa only [order, List.length_range] using (List.range n).rotate_mod start

/-- The order from a later place on. -/
theorem order_add (n start offset : ℕ) :
    order n (start + offset) = (order n start).rotate offset :=
  (List.rotate_rotate (List.range n) start offset).symm

/-- The places are those that a loop over the distances from the pointer visits. -/
theorem order_eq_map (n start : ℕ) :
    order n start = (List.range n).map fun offset => (start + offset) % n := by
  apply List.ext_getElem
  · simp
  · intro offset hoffset _
    rw [getElem_order hoffset]
    simp

theorem nodup_order (n start : ℕ) : (order n start).Nodup :=
  List.nodup_rotate.mpr List.nodup_range

/-! ## Who is next -/

/-- The place found is the first one able to serve, by the distance from the pointer. -/
theorem next_eq_some_iff {start i : ℕ} :
    next n p start = some i ↔
      ∃ offset < n, i = (start + offset) % n ∧ p i = true ∧
        ∀ before < offset, p ((start + before) % n) = false := by
  rw [next, List.find?_eq_some_iff_getElem]
  constructor
  · rintro ⟨hi, offset, hoffset, hplace, hbefore⟩
    have hlt : offset < n := by simpa using hoffset
    rw [getElem_order] at hplace
    refine ⟨offset, hlt, hplace.symm, hi, fun before hlt' => ?_⟩
    have hnot := hbefore before hlt'
    rw [getElem_order] at hnot
    simpa using hnot
  · rintro ⟨offset, hlt, rfl, hi, hbefore⟩
    refine ⟨hi, offset, by simpa using hlt, getElem_order _, fun before hlt' => ?_⟩
    rw [getElem_order]
    simp [hbefore before hlt']

/-- Nobody is next when no place is able to serve. -/
theorem next_eq_none_iff {start : ℕ} : next n p start = none ↔ ∀ i < n, p i = false := by
  simp [next]

/-- Somebody is next when there is a place able to serve. -/
theorem exists_next (start : ℕ) {i : ℕ} (hi : i < n) (hp : p i = true) :
    ∃ j, next n p start = some j := by
  apply Option.ne_none_iff_exists'.mp
  intro hnone
  have := next_eq_none_iff.mp hnone i hi
  simp_all

/-- Who is next depends on who is able to serve among the places only. -/
theorem next_congr {q : ℕ → Bool} (h : ∀ i < n, p i = q i) (start : ℕ) :
    next n p start = next n q start :=
  List.find?_congr fun i hi => h i (mem_order.mp hi)

/-! ## Those who wait -/

@[simp] theorem mem_waiting {start i : ℕ} : i ∈ waiting n p start ↔ i < n ∧ p i = true := by
  simp [waiting]

theorem nodup_waiting (n : ℕ) (p : ℕ → Bool) (start : ℕ) : (waiting n p start).Nodup :=
  (nodup_order n start).filter p

/-- The first of those who wait is next. -/
theorem head?_waiting (n : ℕ) (p : ℕ → Bool) (start : ℕ) :
    (waiting n p start).head? = next n p start :=
  List.head?_filter

/-- Whoever served goes to the end of those who wait. -/
theorem waiting_next {start i : ℕ} (h : next n p start = some i) :
    waiting n p ((i + 1) % n) = (waiting n p start).rotate 1 := by
  obtain ⟨hi, before, after, horder, hbefore⟩ := List.find?_eq_some_iff_append.mp h
  have hnone : before.filter p = [] := by
    rw [List.filter_eq_nil_iff]
    intro j hj
    simpa using hbefore j hj
  -- the place found stands behind the ones before it
  have hlt : before.length < (order n start).length := by
    rw [horder]
    simp
  have hplace : i = (start + before.length) % n := by
    rw [← getElem_order hlt]
    simp [horder]
  have hmoved : order n ((i + 1) % n) = after ++ (before ++ [i]) := by
    calc order n ((i + 1) % n)
        = order n (start + before.length + 1) := by
          rw [hplace, Nat.mod_add_mod, order_mod]
      _ = (order n start).rotate (before ++ [i]).length := by
          rw [Nat.add_assoc, order_add]
          simp
      _ = after ++ (before ++ [i]) := by
          rw [horder, show before ++ i :: after = (before ++ [i]) ++ after by simp]
          exact List.rotate_append_length_eq _ _
  simp [waiting, hmoved, horder, hnone, hi]

/-! ## Consecutive turns -/

/-- The turn after `j` others goes to the place that stands `j` places behind the first one
among those who wait, counted cyclically. -/
theorem getElem?_turns (hready : ∃ i < n, p i = true) (start k : ℕ) :
    (turns n p k start).map some =
      (List.range k).map fun j =>
        (waiting n p start)[j % (waiting n p start).length]? := by
  obtain ⟨i, hi, hp⟩ := hready
  induction k generalizing start with
  | zero => rfl
  | succ k ih =>
    obtain ⟨first, hfirst⟩ := exists_next start hi hp
    have hpos : 0 < (waiting n p start).length :=
      List.length_pos_of_mem (mem_waiting.mpr ⟨hi, hp⟩)
    rw [turns, hfirst, List.map_cons, ih, List.range_succ_eq_map, List.map_cons, List.map_map]
    congr 1
    · rw [Nat.zero_mod, ← List.head?_eq_getElem?, head?_waiting, hfirst]
    · apply List.map_congr_left
      intro j _
      have hmod := Nat.mod_lt j hpos
      rw [waiting_next hfirst, List.length_rotate, List.getElem?_rotate hmod, Nat.mod_add_mod]
      rfl

/-- A place that waits behind `m` others has its turn in every `m`-th turn of a cycle. -/
theorem count_turns_eq {i m start : ℕ} (k : ℕ) (hm : m < (waiting n p start).length)
    (hi : (waiting n p start)[m] = i) :
    (turns n p k start).count i =
      k.count (· ≡ m [MOD (waiting n p start).length]) := by
  have hmem : i ∈ waiting n p start := hi ▸ List.getElem_mem hm
  have hturns := getElem?_turns ⟨i, mem_waiting.mp hmem⟩ start k
  -- the places that wait are different, so it is the only one with its distance
  have hsame : ∀ j, (waiting n p start)[j % (waiting n p start).length]? = some i ↔
      j ≡ m [MOD (waiting n p start).length] := by
    intro j
    have hj : j % (waiting n p start).length < (waiting n p start).length :=
      Nat.mod_lt j (by omega)
    rw [List.getElem?_eq_getElem hj, Option.some_inj, ← hi,
      (nodup_waiting n p start).getElem_inj_iff, Nat.ModEq, Nat.mod_eq_of_lt hm]
  calc (turns n p k start).count i
      = ((turns n p k start).map some).count (some i) := by
        rw [List.count_map_of_injective _ _ (Option.some_injective ℕ)]
    _ = ((List.range k).filter fun j =>
          (waiting n p start)[j % (waiting n p start).length]? = some i).length := by
        rw [hturns, List.count, List.countP_map, List.countP_eq_length_filter]
        congr 2
        funext j
        exact beq_eq_decide _ _
    _ = k.count (· ≡ m [MOD (waiting n p start).length]) := by
        simp only [hsame]
        rw [Nat.count_eq_card_filter_range, Finset.card_def]
        rfl

/-- A division with a remainder, rounded up. -/
theorem ceilDiv_of_mod_pos {k r : ℕ} (hr : 0 < r) (hrest : 0 < k % r) :
    k ⌈/⌉ r = k / r + 1 := by
  have hk := Nat.div_add_mod k r
  have hsplit : k + r - 1 = (k % r - 1) + r * (k / r + 1) := by
    rw [Nat.mul_add, Nat.mul_one]
    omega
  have hlt := Nat.mod_lt k hr
  rw [Nat.ceilDiv_eq_add_pred_div, hsplit, Nat.add_mul_div_left _ _ hr,
    Nat.div_eq_of_lt (by omega), Nat.zero_add]

/-- **Fairness.** In `k` consecutive turns every place able to serve has its share, rounded
down or up to a whole number of turns. -/
theorem count_turns {i start : ℕ} (k : ℕ) (hi : i ∈ waiting n p start) :
    (turns n p k start).count i = k / (waiting n p start).length ∨
      (turns n p k start).count i = k ⌈/⌉ (waiting n p start).length := by
  obtain ⟨m, hm, hplace⟩ := List.getElem_of_mem hi
  have hpos : 0 < (waiting n p start).length := by omega
  rw [count_turns_eq k hm hplace, Nat.count_modEq_card k hpos]
  split_ifs with hrest
  · right
    exact (ceilDiv_of_mod_pos hpos (by omega)).symm
  · left
    rfl

end RoundRobin
