/-
`countDigitOne` counts the ones.

After `q` turns the locals are the digits of `n` above, at and below
position `q` (`Reached`), and the count holds the ones of the numbers up to
`n` at the positions below (`Digits.countAt`); the three cases of a turn
are the three of `Digits.countAt_succ`.
-/
import LearningDemo.AlgoTable
import LearningDemo.Lib.Digits

namespace LearningDemo.AlgoTable

open Imperative Digits Finset

variable {n q : Nat}

/-- The locals in front of position `q`. -/
def positionAt (n q : Nat) : Position where
  count := (∑ p ∈ range q, countAt 10 1 p (n + 1) : Nat)
  high := (n / 10 ^ (q + 1) : Nat)
  cur := digitAt 10 q n
  low := (n % 10 ^ q : Nat)
  digit := (10 ^ q : Nat)

theorem count_at : (if (digitAt 10 q n : Int) = 0 then
      (positionAt n q).count + (n / 10 ^ (q + 1) : Nat) * (10 ^ q : Nat)
    else if (digitAt 10 q n : Int) = 1 then
      (positionAt n q).count + ((n / 10 ^ (q + 1) : Nat) * (10 ^ q : Nat) + (n % 10 ^ q : Nat) + 1)
    else (positionAt n q).count + ((n / 10 ^ (q + 1) : Nat) + 1) * (10 ^ q : Nat)) =
      (positionAt n (q + 1)).count := by
  have hcount := countAt_succ (q := q) (n := n) (show 1 < 10 by omega)
  simp only [positionAt, sum_range_succ, hcount]
  generalize n / 10 ^ (q + 1) = high
  generalize n % 10 ^ q = low
  rcases Nat.lt_trichotomy (digitAt 10 q n) 1 with hcur | hcur | hcur
  · have h0 : digitAt 10 q n = 0 := by omega
    simp [h0]
  · simp [hcur]
    ring
  · have h0 : digitAt 10 q n ≠ 0 := by omega
    have h1 : digitAt 10 q n ≠ 1 := by omega
    have hlt : ¬ digitAt 10 q n < 1 := by omega
    simp [h0, h1]
    ring

theorem countTurn_at : countTurn (positionAt n q) = .ok (positionAt n (q + 1)) := by
  have hhigh : n / 10 ^ (q + 1 + 1) = n / 10 ^ (q + 1) / 10 := by
    rw [Nat.pow_succ 10 (q + 1), Nat.div_div_eq_div_mul]
  simp only [countTurn, pure_ok, Except.ok.injEq]
  rw [show positionAt n (q + 1) = ⟨_, _, _, _, _⟩ from rfl, Position.mk.injEq]
  refine ⟨count_at, ?_, rfl, ?_, ?_⟩
  · rw [hhigh]; rfl
  · rw [mod_pow_succ]; rfl
  · rw [Nat.pow_succ]; rfl

theorem countMore_at : countMore (positionAt n q) = .ok (decide (n / 10 ^ q ≠ 0)) := by
  have hdiv : n / 10 ^ (q + 1) = n / 10 ^ q / 10 := by rw [Nat.pow_succ, Nat.div_div_eq_div_mul]
  simp only [countMore, positionAt, digitAt, hdiv, pure_ok, Except.ok.injEq]
  generalize n / 10 ^ q = m
  rw [Bool.eq_iff_iff]
  simp only [bne_iff_ne, Bool.or_eq_true, decide_eq_true_eq]
  omega

theorem positionAt_zero : positionAt n 0 = countStart n := by
  simp only [positionAt, digitAt, range_zero, sum_empty, Nat.pow_zero, Nat.div_one, Nat.mod_one]
  rfl

/-- The occurrences of the digit 1 in the decimal representations of `1, …, n`. -/
def onesUpTo (n : Nat) : Nat := ∑ i ∈ Icc 1 n, (Nat.digits 10 i).count 1

theorem onesUpTo_eq {P : Nat} (hn : n < 10 ^ P) : onesUpTo n = ∑ q ∈ range P, countAt 10 1 q (n + 1) := by
  rw [← sum_count_digits (by omega) (by omega) hn]
  refine sum_subset (fun i hi => ?_) fun i hi hnot => ?_
  · have := mem_Icc.mp hi
    exact mem_range.mpr (by omega)
  · have hi := mem_range.mp hi
    have h0 : i = 0 := by
      by_contra hpos
      exact hnot (mem_Icc.mpr (by omega))
    rw [h0, Nat.digits_zero, List.count_nil]

/-- With enough turns for the digits of `n` the loop has seen every one. -/
theorem countDigitOne_ok {fuel : Nat} (hfuel : n < fuel) : countDigitOne fuel n = .ok (onesUpTo n : Int) := by
  have hn : n < 10 ^ n := Nat.lt_pow_self (by omega)
  obtain ⟨s, hs, ⟨k, q, hq, rfl⟩, hend⟩ : ∃ s, whileLoop countMore countTurn fuel (countStart n) = .ok s ∧
      (∃ k q, q + k = n ∧ s = positionAt n q) ∧ countMore s = .ok false := by
    refine whileLoop_returns (I := fun k s => ∃ q, q + k = n ∧ s = positionAt n q) (fun k s hs => ?_)
      ⟨0, Nat.zero_add n, positionAt_zero.symm⟩ hfuel
    obtain ⟨q, hq, rfl⟩ := hs
    rw [countMore_at]
    by_cases hdone : n / 10 ^ q = 0
    · exact .inl (by simp [hdone])
    · have hk : k ≠ 0 := by
        rintro rfl
        obtain rfl : q = n := hq
        exact hdone (Nat.div_eq_of_lt hn)
      exact .inr ⟨by simp [hdone], _, k - 1, countTurn_at, ⟨q + 1, by omega, rfl⟩, by omega⟩
  have hlast : n < 10 ^ q := by
    rw [countMore_at] at hend
    have hzero : n / 10 ^ q = 0 := by simpa using hend
    exact (Nat.div_eq_zero_iff_lt (Nat.pow_pos (by omega))).mp hzero
  unfold countDigitOne
  split
  · next h0 =>
    obtain rfl : n = 0 := Int.natCast_eq_zero.mp h0
    rfl
  · show (whileLoop countMore countTurn fuel (countStart n) >>= fun s => pure s.count) = .ok (onesUpTo n : Int)
    rw [hs, onesUpTo_eq hlast]
    rfl

/-- **`countDigitOne` counts the ones.** For every `n ≥ 0` it returns the
number of occurrences of the digit 1 in the decimal representations of
`1, …, n`. -/
theorem countDigitOne_counts (n : Nat) : Returns (fun fuel => countDigitOne fuel n) (· = onesUpTo n) :=
  ⟨n + 1, fun _ hfuel => ⟨_, countDigitOne_ok hfuel, rfl⟩⟩

example : countDigitOne 5 12 = .ok 5 := by decide

end LearningDemo.AlgoTable
