import Mathlib.Data.Nat.Log
import Mathlib.Data.Nat.Prime.Basic
import Mathlib.Data.Rat.Floor
import Mathlib.Tactic.NormNum

set_option relaxedAutoImplicit false
set_option autoImplicit false

/-!
# Numbers with a fixed number of decimals

Printing an integer as a number with a given number of decimals, and reading such a text back.

## Main definitions

* `FixedPoint.print` — the text of `m / 10 ^ p`.
* `FixedPoint.read` — the number that a text stands for.
* `FixedPoint.nearest` — the integer with which a number is printed.
* `FixedPoint.decimals` — enough decimals for a number that has finitely many.

## Main results

* `FixedPoint.read_print` — what is printed is read back.
* `FixedPoint.nearest_decimals` — a number with that many decimals is printed as it is.
* `FixedPoint.abs_nearest_sub_le` — any other number is printed as one of the nearest.
* `FixedPoint.nearest_div_decimals` — a number with finitely many decimals can be printed.
-/

namespace FixedPoint

/-- The decimal digits of a number, with zeros in front so that there are more than `p`. -/
def digits (n p : ℕ) : List Char :=
  List.replicate (p + 1 - (Nat.toDigits 10 n).length) '0' ++ Nat.toDigits 10 n

/-- The text of `n / 10 ^ p`. -/
def printUnsigned (n p : ℕ) : List Char :=
  if p = 0 then digits n p
  else (digits n p).take ((digits n p).length - p) ++
    '.' :: (digits n p).drop ((digits n p).length - p)

/-- The text of `m / 10 ^ p`. -/
def print (m : ℤ) (p : ℕ) : List Char :=
  if m < 0 then '-' :: printUnsigned m.natAbs p else printUnsigned m.natAbs p

/-- The number that digits stand for, with a point between them or without one. -/
def readUnsigned (cs : List Char) : Option ℚ :=
  let whole := cs.takeWhile Char.isDigit
  match cs.dropWhile Char.isDigit with
  | [] => if whole = [] then none else some (Nat.ofDigitChars 10 whole 0)
  | c :: part =>
    if c = '.' ∧ whole ≠ [] ∧ part ≠ [] ∧ part.all Char.isDigit then
      some ((Nat.ofDigitChars 10 (whole ++ part) 0 : ℚ) / 10 ^ part.length)
    else none

/-- The number that a text stands for. -/
def read (cs : List Char) : Option ℚ :=
  match cs with
  | [] => none
  | c :: cs => if c = '-' then (readUnsigned cs).map fun q => -q else readUnsigned (c :: cs)

/-- The integer `m` for which `m / 10 ^ p` is nearest to a number. -/
def nearest (q : ℚ) (p : ℕ) : ℤ := (q * 10 ^ p + 1 / 2).floor

/-- Enough decimals for a number that has finitely many of them. -/
def decimals (q : ℚ) : ℕ := Nat.log 2 q.den

section Digits

variable (n p : ℕ)

/-- Digits are digits. -/
theorem isDigit_of_mem_digits {c : Char} (h : c ∈ digits n p) : c.isDigit = true := by
  rcases List.mem_append.mp h with h | h
  · rw [(List.mem_replicate.mp h).2]
    decide
  · exact Nat.isDigit_of_mem_toDigits (by decide) (by decide) h

/-- There are more digits than decimals. -/
theorem lt_length_digits : p < (digits n p).length := by
  rw [digits, List.length_append, List.length_replicate]
  omega

/-- Zeros in front do not change a number. -/
theorem ofDigitChars_digits : Nat.ofDigitChars 10 (digits n p) 0 = n := by
  rw [digits, Nat.ofDigitChars_append, Nat.ofDigitChars_replicate_zero, Nat.mul_zero,
    Nat.ofDigitChars_ten_toDigits]

end Digits

/-- Digits are taken up to the first other character. -/
theorem span_digits (ds rest : List Char) (hds : ∀ c ∈ ds, c.isDigit = true)
    (hrest : ∀ c ∈ rest.head?, c.isDigit = false) :
    (ds ++ rest).takeWhile Char.isDigit = ds ∧ (ds ++ rest).dropWhile Char.isDigit = rest := by
  rw [List.takeWhile_append_of_pos hds, List.dropWhile_append_of_pos hds]
  cases rest with
  | nil => simp
  | cons c rest => simp [hrest c (by simp)]

/-- What is printed without a sign is read back. -/
theorem readUnsigned_printUnsigned (n p : ℕ) :
    readUnsigned (printUnsigned n p) = some ((n : ℚ) / 10 ^ p) := by
  have hdigits : ∀ c ∈ digits n p, c.isDigit = true := fun c => isDigit_of_mem_digits n p
  have hlen := lt_length_digits n p
  unfold printUnsigned readUnsigned
  split_ifs with hp
  · subst hp
    obtain ⟨htake, hdrop⟩ := span_digits (digits n 0) [] hdigits (by simp)
    rw [List.append_nil] at htake hdrop
    have hne : digits n 0 ≠ [] := by
      rw [← List.length_pos_iff]
      exact hlen
    simp only [htake, hdrop, if_neg hne, ofDigitChars_digits]
    norm_num
  · have hsplit := List.take_append_drop ((digits n p).length - p) (digits n p)
    have hpart : ((digits n p).drop ((digits n p).length - p)).length = p := by
      rw [List.length_drop]
      omega
    have hwhole : (digits n p).take ((digits n p).length - p) ≠ [] := by
      rw [← List.length_pos_iff, List.length_take]
      omega
    have hne : (digits n p).drop ((digits n p).length - p) ≠ [] := by
      rw [← List.length_pos_iff, hpart]
      omega
    have hall : ((digits n p).drop ((digits n p).length - p)).all Char.isDigit = true :=
      List.all_eq_true.mpr fun c hc => hdigits c (List.mem_of_mem_drop hc)
    obtain ⟨htake, hdrop⟩ := span_digits ((digits n p).take ((digits n p).length - p))
      ('.' :: (digits n p).drop ((digits n p).length - p))
      (fun c hc => hdigits c (List.mem_of_mem_take hc)) (by simp)
    simp only [htake, hdrop, hwhole, hne, hall, hsplit, hpart, ofDigitChars_digits, ne_eq,
      not_false_eq_true, and_self, if_true]

/-- What is printed without a sign starts with a digit. -/
theorem exists_cons_printUnsigned (n p : ℕ) :
    ∃ c cs, printUnsigned n p = c :: cs ∧ c ≠ '-' := by
  have hlen := lt_length_digits n p
  cases hds : digits n p with
  | nil => simp [hds] at hlen
  | cons c cs =>
    have hdigit : c.isDigit = true := isDigit_of_mem_digits n p (by simp [hds])
    have hne : c ≠ '-' := by
      rintro rfl
      exact absurd hdigit (by decide)
    unfold printUnsigned
    rw [hds] at hlen ⊢
    split_ifs
    · exact ⟨c, cs, rfl, hne⟩
    · obtain ⟨k, hk⟩ : ∃ k, (c :: cs).length - p = k + 1 := ⟨(c :: cs).length - p - 1, by omega⟩
      rw [hk, List.take_succ_cons, List.cons_append]
      exact ⟨c, _, rfl, hne⟩

/-- **What is printed is read back.** -/
theorem read_print (m : ℤ) (p : ℕ) : read (print m p) = some ((m : ℚ) / 10 ^ p) := by
  unfold print
  split_ifs with hm
  · have hread : read ('-' :: printUnsigned m.natAbs p) =
        (readUnsigned (printUnsigned m.natAbs p)).map fun q => -q := by
      simp [read]
    have habs : (m : ℚ) = -(m.natAbs : ℚ) := by
      have hcast : m = -(m.natAbs : ℤ) := by omega
      rw [hcast]
      simp
    rw [hread, readUnsigned_printUnsigned, Option.map_some, habs, neg_div]
  · obtain ⟨c, cs, hcs, hne⟩ := exists_cons_printUnsigned m.natAbs p
    have hread : read (printUnsigned m.natAbs p) = readUnsigned (printUnsigned m.natAbs p) := by
      rw [hcs, read, if_neg hne]
    have habs : (m : ℚ) = (m.natAbs : ℚ) := by
      have hcast : m = (m.natAbs : ℤ) := by omega
      rw [hcast]
      simp
    rw [hread, readUnsigned_printUnsigned, habs]

/-- A number that has no more decimals than are printed is printed as it is. -/
theorem nearest_decimals (m : ℤ) (p : ℕ) : nearest (m / 10 ^ p) p = m := by
  have hpow : (10 : ℚ) ^ p ≠ 0 := pow_ne_zero p (by norm_num)
  rw [nearest, div_mul_cancel₀ _ hpow]
  apply le_antisymm
  · rw [← Int.lt_add_one_iff, Rat.floor_lt_iff]
    push_cast
    norm_num
  · rw [Rat.le_floor_iff]
    norm_num

/-- A number is printed with an error of at most half a unit of the last decimal. -/
theorem abs_nearest_sub_le (q : ℚ) (p : ℕ) :
    |(nearest q p : ℚ) / 10 ^ p - q| ≤ 1 / 2 / 10 ^ p := by
  have hpow : (0 : ℚ) < 10 ^ p := by positivity
  have hround : nearest q p = round (q * 10 ^ p) := (round_eq (q * 10 ^ p)).symm
  have herror := abs_sub_round (q * 10 ^ p)
  have hscaled : (nearest q p : ℚ) / 10 ^ p - q = -(q * 10 ^ p - round (q * 10 ^ p)) / 10 ^ p := by
    rw [hround, neg_sub, sub_div, mul_div_cancel_right₀ _ hpow.ne']
  rw [hscaled, abs_div, abs_neg, abs_of_pos hpow]
  gcongr

/-- A divisor of a power of ten divides the power whose exponent is the binary logarithm of the
divisor. -/
theorem dvd_pow_log {d n : ℕ} (h : d ∣ 10 ^ n) : d ∣ 10 ^ Nat.log 2 d := by
  have hsplit : ∀ k, 10 ^ k = 2 ^ k * 5 ^ k := fun k => by rw [← Nat.mul_pow]
  rw [hsplit] at h
  obtain ⟨a, b, ha, hb, rfl⟩ := Nat.dvd_mul.mp h
  obtain ⟨i, -, rfl⟩ := (Nat.dvd_prime_pow Nat.prime_two).mp ha
  obtain ⟨j, -, rfl⟩ := (Nat.dvd_prime_pow Nat.prime_five).mp hb
  have hi : i ≤ Nat.log 2 (2 ^ i * 5 ^ j) := by
    apply Nat.le_log_of_pow_le (by norm_num)
    exact Nat.le_mul_of_pos_right _ (by positivity)
  have hj : j ≤ Nat.log 2 (2 ^ i * 5 ^ j) := by
    apply Nat.le_log_of_pow_le (by norm_num)
    calc 2 ^ j ≤ 5 ^ j := Nat.pow_le_pow_left (by norm_num) j
      _ ≤ 2 ^ i * 5 ^ j := Nat.le_mul_of_pos_left _ (by positivity)
  rw [hsplit]
  exact mul_dvd_mul (pow_dvd_pow 2 hi) (pow_dvd_pow 5 hj)

/-- A number whose denominator divides the power of ten is printed as it is. -/
theorem nearest_div_of_dvd {q : ℚ} {p : ℕ} (h : q.den ∣ 10 ^ p) :
    (nearest q p : ℚ) / 10 ^ p = q := by
  obtain ⟨c, hc⟩ := h
  have hpow : (10 : ℚ) ^ p = q.den * c := by exact_mod_cast hc
  have hne : (c : ℚ) ≠ 0 := by
    intro hzero
    rw [hzero, mul_zero] at hpow
    exact absurd hpow (by positivity)
  have hq : ((q.num * c : ℤ) : ℚ) / 10 ^ p = q := by
    rw [hpow, Int.cast_mul, Int.cast_natCast, mul_div_mul_right _ _ hne, Rat.num_div_den]
  have hnearest : nearest q p = q.num * c := by
    have hprinted := nearest_decimals (q.num * c) p
    rwa [hq] at hprinted
  rw [hnearest, hq]

/-- **A number with finitely many decimals is printed as it is**, with enough of them. -/
theorem nearest_div_decimals (m : ℤ) (n : ℕ) :
    (nearest (m / 10 ^ n) (decimals (m / 10 ^ n)) : ℚ) / 10 ^ decimals (m / 10 ^ n) =
      m / 10 ^ n := by
  have hden : ((m : ℚ) / 10 ^ n).den ∣ 10 ^ n := by
    have hdvd := Rat.den_dvd m (10 ^ n)
    rw [Rat.divInt_eq_div] at hdvd
    push_cast at hdvd
    exact_mod_cast hdvd
  exact nearest_div_of_dvd (dvd_pow_log hden)

/-- Only digits, a sign and a point are printed. -/
theorem mem_print {m : ℤ} {p : ℕ} {c : Char} (h : c ∈ print m p) :
    c.isDigit = true ∨ c = '-' ∨ c = '.' := by
  have hunsigned : c ∈ printUnsigned m.natAbs p → c.isDigit = true ∨ c = '-' ∨ c = '.' := by
    intro h
    unfold printUnsigned at h
    split_ifs at h
    · exact .inl (isDigit_of_mem_digits _ _ h)
    · rcases List.mem_append.mp h with h | h
      · exact .inl (isDigit_of_mem_digits _ _ (List.mem_of_mem_take h))
      · rcases List.mem_cons.mp h with h | h
        · exact .inr (.inr h)
        · exact .inl (isDigit_of_mem_digits _ _ (List.mem_of_mem_drop h))
  unfold print at h
  split_ifs at h
  · rcases List.mem_cons.mp h with h | h
    · exact .inr (.inl h)
    · exact hunsigned h
  · exact hunsigned h

end FixedPoint
