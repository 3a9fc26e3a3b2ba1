/-
How often a digit occurs in the numbers up to `n`, position by position.

In base `b` a digit `d ≠ 0` stands at position `q` in `b ^ q` of every
`b ^ (q + 1)` numbers in a row, so the count up to `n` depends only on the
digits of `n` above, at and below the position (`countAt_succ`). Summed over
the positions this is every occurrence in `Nat.digits` (`sum_count_digits`).
-/
import Mathlib.Data.Nat.Count
import Mathlib.Data.Nat.Digits.Defs
import Mathlib.Algebra.BigOperators.Intervals
import Mathlib.Tactic.Ring
import Mathlib.Tactic.Linarith

namespace Digits

open Finset

/-- The digit of `i` at position `q`. -/
def digitAt (b q i : Nat) : Nat := i / b ^ q % b

/-- How many of the numbers below `n` have the digit `d` at position `q`. -/
def countAt (b d q n : Nat) : Nat := Nat.count (fun i => digitAt b q i = d) n

variable {b d q n m : Nat}

theorem digitAt_zero_pos : digitAt b 0 n = n % b := by simp [digitAt]

theorem digitAt_succ : digitAt b (q + 1) n = digitAt b q (n / b) := by
  rw [digitAt, digitAt, Nat.pow_succ', Nat.div_div_eq_div_mul]

theorem mod_pow_succ (b q n : Nat) : n % b ^ (q + 1) = n % b ^ q + digitAt b q n * b ^ q := by
  rw [Nat.pow_succ, Nat.mod_mul, digitAt, Nat.mul_comm]

theorem div_pow_succ_mul_le (b q n : Nat) : n / b ^ (q + 1) * b ^ q ≤ n / b := by
  rw [Nat.pow_succ', ← Nat.div_div_eq_div_mul]
  exact Nat.div_mul_le_self _ _

/-- The digit repeats after `b ^ (q + 1)` numbers. -/
theorem digitAt_add_period (hb : 0 < b) (i : Nat) : digitAt b q (b ^ q * b + i) = digitAt b q i := by
  rw [digitAt, digitAt, Nat.mul_add_div (Nat.pow_pos hb), Nat.add_mod_left]

/-- Below one period the digit is `d` on one run of `b ^ q` numbers. -/
theorem digitAt_eq_iff (hb : 0 < b) (hm : m < b ^ q * b) :
    digitAt b q m = d ↔ d * b ^ q ≤ m ∧ m < d * b ^ q + b ^ q := by
  have hpos := Nat.pow_pos (n := q) hb
  rw [digitAt, Nat.mod_eq_of_lt (Nat.div_lt_of_lt_mul hm), Nat.div_eq_iff hpos]
  omega

/-! ## Counting at one position -/

theorem countAt_run (hb : 0 < b) (hm : m ≤ b ^ q * b) : countAt b d q m = min (m - d * b ^ q) (b ^ q) := by
  induction m with
  | zero => simp [countAt]
  | succ m ih =>
    have hstep : countAt b d q (m + 1) = countAt b d q m + if digitAt b q m = d then 1 else 0 :=
      Nat.count_succ _ m
    rw [hstep, ih (by omega)]
    by_cases hd : digitAt b q m = d
    · have := (digitAt_eq_iff hb hm).mp hd
      rw [if_pos hd]
      omega
    · have := mt (digitAt_eq_iff hb hm).mpr hd
      rw [if_neg hd]
      omega

theorem countAt_periods (hb : 0 < b) (hd : d < b) (h m : Nat) :
    countAt b d q (h * (b ^ q * b) + m) = h * b ^ q + countAt b d q m := by
  induction h with
  | zero => simp
  | succ h ih =>
    have hone : countAt b d q (b ^ q * b) = b ^ q := by
      have hle : d * b ^ q + b ^ q ≤ b ^ q * b := by nlinarith [Nat.pow_pos (n := q) hb]
      rw [countAt_run hb (Nat.le_refl _)]
      omega
    have hsplit : countAt b d q (b ^ q * b + (h * (b ^ q * b) + m)) =
        countAt b d q (b ^ q * b) + countAt b d q (h * (b ^ q * b) + m) := by
      simp only [countAt, Nat.count_add, digitAt_add_period hb]
    rw [Nat.succ_mul, Nat.succ_mul, Nat.add_right_comm, Nat.add_comm _ (b ^ q * b), Nat.add_assoc, hsplit, hone,
      ih]
    omega

/-- The count at one position, from the digits of `n` above, at and below it. -/
theorem countAt_succ (hd : d < b) : countAt b d q (n + 1) = n / b ^ (q + 1) * b ^ q +
    if digitAt b q n < d then 0 else if digitAt b q n = d then n % b ^ q + 1 else b ^ q := by
  have hb : 0 < b := by omega
  have hpos := Nat.pow_pos (n := q) hb
  have hlow := Nat.mod_lt n hpos
  -- the numbers are whole periods and the rest `r` of one
  obtain ⟨r, hr⟩ : ∃ r, r = n % (b ^ q * b) := ⟨_, rfl⟩
  have hrest : r = digitAt b q n * b ^ q + n % b ^ q := by
    rw [hr, ← Nat.pow_succ, mod_pow_succ, Nat.add_comm]
  have hlt : r < b ^ q * b := hr ▸ Nat.mod_lt n (Nat.mul_pos hpos hb)
  have hn : n + 1 = n / b ^ (q + 1) * (b ^ q * b) + (r + 1) := by
    have := Nat.div_add_mod n (b ^ q * b)
    rw [hr, Nat.pow_succ, Nat.mul_comm (n / _)]
    omega
  rw [hn, countAt_periods hb hd, countAt_run hb (show r + 1 ≤ _ from hlt)]
  congr 1
  generalize n % b ^ q = low at hrest hlow ⊢
  rcases Nat.lt_trichotomy (digitAt b q n) d with hcur | hcur | hcur
  · have hle : (digitAt b q n + 1) * b ^ q ≤ d * b ^ q := Nat.mul_le_mul_right _ hcur
    rw [Nat.succ_mul] at hle
    rw [if_pos hcur]
    omega
  · rw [if_neg (by omega), if_pos hcur, hrest, hcur]
    omega
  · have hle : (d + 1) * b ^ q ≤ digitAt b q n * b ^ q := Nat.mul_le_mul_right _ hcur
    rw [Nat.succ_mul] at hle
    rw [if_neg (by omega), if_neg (by omega)]
    omega

theorem countAt_le (hd : d < b) : countAt b d q (n + 1) ≤ n / b + b ^ q := by
  have hpos := Nat.pow_pos (n := q) (show 0 < b by omega)
  have hlow := Nat.mod_lt n hpos
  have hhigh := div_pow_succ_mul_le b q n
  rw [countAt_succ hd]
  split
  · omega
  · split <;> omega

/-! ## All positions -/

/-- The occurrences of a digit in one number, position by position. -/
theorem count_digits (hb : 1 < b) (hd : d ≠ 0) (P : Nat) {i : Nat} (hi : i < b ^ P) :
    (Nat.digits b i).count d = ∑ q ∈ range P, if digitAt b q i = d then 1 else 0 := by
  induction P generalizing i with
  | zero => simp [show i = 0 by simpa using hi]
  | succ P ih =>
    rcases Nat.eq_zero_or_pos i with rfl | hpos
    · simp [digitAt, hd.symm]
    · have hdiv : i / b < b ^ P := Nat.div_lt_of_lt_mul (by rwa [Nat.pow_succ'] at hi)
      rw [Nat.digits_def' hb hpos, List.count_cons, ih hdiv, sum_range_succ']
      simp only [digitAt_succ, digitAt_zero_pos, beq_iff_eq]

/-- The occurrences of a digit in all the numbers below `n`. -/
theorem sum_count_digits (hb : 1 < b) (hd : d ≠ 0) {P : Nat} (hn : n ≤ b ^ P) :
    ∑ i ∈ range n, (Nat.digits b i).count d = ∑ q ∈ range P, countAt b d q n := by
  calc ∑ i ∈ range n, (Nat.digits b i).count d
      = ∑ i ∈ range n, ∑ q ∈ range P, (if digitAt b q i = d then 1 else 0) :=
        sum_congr rfl fun i hi => count_digits hb hd P (by have := mem_range.mp hi; omega)
    _ = ∑ q ∈ range P, ∑ i ∈ range n, (if digitAt b q i = d then 1 else 0) := sum_comm
    _ = ∑ q ∈ range P, countAt b d q n :=
        sum_congr rfl fun q _ => by rw [countAt, Nat.count_eq_card_filter_range, card_filter]

end Digits
