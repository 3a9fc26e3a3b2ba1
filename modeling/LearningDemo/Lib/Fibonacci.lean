/-
Powers of two in the Fibonacci numbers.

Doubling the index `3 * 2 ^ (k + 1)` doubles the power of two exactly
(`fib_three_mul_two_pow`), and `gcd (fib m) (fib n) = fib (gcd m n)` carries
that to every index: a multiple of `2 ^ (k + 3)` stands at multiples of
`3 * 2 ^ (k + 1)` only.
-/
import Mathlib.Data.Nat.Fib.Basic
import Mathlib.Tactic.Ring

namespace Fibonacci

theorem fib_succ_odd {n : Nat} (h : 2 ∣ Nat.fib n) : Nat.fib (n + 1) % 2 = 1 := by
  have hgcd := Nat.fib_coprime_fib_succ n
  by_contra heven
  have hdvd : 2 ∣ Nat.gcd (Nat.fib n) (Nat.fib (n + 1)) := Nat.dvd_gcd h (by omega)
  rw [hgcd.gcd_eq_one] at hdvd
  omega

/-- The second factor of `fib (2 * n)`, where `fib n` is a multiple of four. -/
theorem double_factor {n : Nat} (h : 4 ∣ Nat.fib n) : ∃ w, 2 * Nat.fib (n + 1) - Nat.fib n = 2 * (2 * w + 1) := by
  have hodd := fib_succ_odd (dvd_trans (by norm_num) h)
  have hle : Nat.fib n ≤ Nat.fib (n + 1) := Nat.fib_le_fib_succ
  exact ⟨(2 * Nat.fib (n + 1) - Nat.fib n) / 4, by omega⟩

theorem fib_three_mul_two_pow (k : Nat) : ∃ c, Nat.fib (3 * 2 ^ (k + 1)) = 2 ^ (k + 3) * (2 * c + 1) := by
  induction k with
  | zero => exact ⟨0, by decide⟩
  | succ k ih =>
    obtain ⟨c, hc⟩ := ih
    have hfour : 4 ∣ Nat.fib (3 * 2 ^ (k + 1)) :=
      hc ▸ Dvd.dvd.mul_right (Nat.pow_dvd_pow 2 (show 2 ≤ k + 3 by omega)) _
    obtain ⟨w, hw⟩ := double_factor hfour
    have hindex : 3 * 2 ^ (k + 1 + 1) = 2 * (3 * 2 ^ (k + 1)) := by ring
    refine ⟨2 * c * w + c + w, ?_⟩
    rw [hindex, Nat.fib_two_mul, hw, hc]
    ring

theorem not_two_pow_dvd_fib (k : Nat) : ¬ 2 ^ (k + 4) ∣ Nat.fib (3 * 2 ^ (k + 1)) := by
  obtain ⟨c, hc⟩ := fib_three_mul_two_pow k
  rw [hc, Nat.pow_succ 2 (k + 3)]
  intro h
  have := Nat.dvd_of_mul_dvd_mul_left (Nat.pow_pos (by omega)) h
  omega

theorem two_pow_dvd_fib (k : Nat) : 2 ^ (k + 3) ∣ Nat.fib (3 * 2 ^ (k + 1)) := by
  obtain ⟨c, hc⟩ := fib_three_mul_two_pow k
  exact hc ▸ Dvd.intro _ rfl

theorem six_dvd {m : Nat} (h : 8 ∣ Nat.fib m) : 6 ∣ m := by
  have hgcd : 8 ∣ Nat.fib (Nat.gcd m 6) := by
    rw [Nat.fib_gcd]
    exact Nat.dvd_gcd h (by decide)
  have hdvd : Nat.gcd m 6 ∣ 6 := Nat.gcd_dvd_right m 6
  have hle : Nat.gcd m 6 ≤ 6 := Nat.le_of_dvd (by omega) hdvd
  have hall : ∀ g ≤ 6, g ∣ 6 → 8 ∣ Nat.fib g → g = 6 := by decide
  exact hall _ hle hdvd hgcd ▸ Nat.gcd_dvd_left m 6

/-- **A multiple of `2 ^ (k + 3)` stands at a multiple of `3 * 2 ^ (k + 1)`.** -/
theorem dvd_of_two_pow_dvd_fib {k m : Nat} (h : 2 ^ (k + 3) ∣ Nat.fib m) : 3 * 2 ^ (k + 1) ∣ m := by
  induction k with
  | zero => exact six_dvd h
  | succ k ih =>
    obtain ⟨j, rfl⟩ := ih (dvd_trans (Nat.pow_dvd_pow 2 (by omega)) h)
    -- the index both multiples have in common
    have hgcd : Nat.gcd (3 * 2 ^ (k + 1) * j) (3 * 2 ^ (k + 1 + 1)) = 3 * 2 ^ (k + 1) * Nat.gcd j 2 := by
      rw [Nat.pow_succ 2 (k + 1), ← Nat.mul_assoc, Nat.gcd_mul_left]
    have hcommon : 2 ^ (k + 4) ∣ Nat.fib (3 * 2 ^ (k + 1) * Nat.gcd j 2) := by
      rw [← hgcd, Nat.fib_gcd]
      exact Nat.dvd_gcd h (two_pow_dvd_fib (k + 1))
    have htwo : 2 ∣ j := by
      have hle : Nat.gcd j 2 ≤ 2 := Nat.le_of_dvd (by omega) (Nat.gcd_dvd_right j 2)
      have hpos : 0 < Nat.gcd j 2 := Nat.gcd_pos_of_pos_right j (by omega)
      obtain hone | heven : Nat.gcd j 2 = 1 ∨ Nat.gcd j 2 = 2 := by omega
      · rw [hone, Nat.mul_one] at hcommon
        exact absurd hcommon (not_two_pow_dvd_fib k)
      · exact heven ▸ Nat.gcd_dvd_left j 2
    rw [Nat.pow_succ, ← Nat.mul_assoc]
    exact Nat.mul_dvd_mul_left _ htwo

end Fibonacci
