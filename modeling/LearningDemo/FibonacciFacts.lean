/-
`Fibonacci(n)` is two members late.

The loop starts with 0 and 1 in the places of the members 0 and -1, so after
`k` turns it has member `k` (`AtMember`), and there are `n - 2` turns. The
difference to member `n` is member `n - 1`, which no `n` that an `int` can
count to makes a multiple of `2 ^ 64` (`Fibonacci.dvd_of_two_pow_dvd_fib`).
-/
import LearningDemo.Sort
import LearningDemo.Lib.Fibonacci

namespace LearningDemo.Sort

open Imperative

variable {n k : Nat} {s : Fibs}

/-- The locals when `fibMinusOne` is member `k`. -/
structure AtMember (k : Nat) (s : Fibs) : Prop where
  one : s.fibMinusOne = BitVec.ofNat 64 (Nat.fib k)
  next : s.fibMinusOne + s.fibMinusTwo = BitVec.ofNat 64 (Nat.fib (k + 1))
  last : s.fibN = BitVec.ofNat 64 (Nat.fib k)

theorem AtMember.start : AtMember 0 { fibMinusOne := 0, fibMinusTwo := 1, fibN := 0 } := ⟨rfl, rfl, rfl⟩

theorem AtMember.turn {i : Int} (h : AtMember k s) : ∃ s', fibonacciTurn i s = .ok s' ∧ AtMember (k + 1) s' := by
  refine ⟨_, rfl, h.next, ?_, h.next⟩
  show s.fibMinusOne + s.fibMinusTwo + s.fibMinusOne = BitVec.ofNat 64 (Nat.fib (k + 1 + 1))
  rw [h.next, h.one, ← BitVec.ofNat_add, Nat.fib_add_two, Nat.add_comm]

theorem fibonacci_small (hn : n < 2) : fibonacci n = .ok (BitVec.ofNat 64 (Nat.fib n)) := by
  obtain rfl | rfl : n = 0 ∨ n = 1 := by omega
  · rfl
  · rfl

/-- What `Fibonacci(n)` returns. -/
theorem fibonacci_eq (hn : 2 ≤ n) : fibonacci n = .ok (BitVec.ofNat 64 (Nat.fib (n - 2))) := by
  obtain ⟨s, hs, k, hk, hmember⟩ : ∃ s, forRange 2 n fibonacciTurn ⟨0, 1, 0⟩ = .ok s ∧
      ∃ k : Nat, (n : Int) = k + 2 ∧ AtMember k s := by
    refine forRange_ok (I := fun j s => ∃ k : Nat, j = k + 2 ∧ AtMember k s) (by omega) (fun j s _ _ hj => ?_)
      ⟨0, rfl, AtMember.start⟩
    obtain ⟨k, rfl, hmember⟩ := hj
    obtain ⟨s', hturn, hnext⟩ := hmember.turn (i := k + 2)
    exact ⟨s', hturn, k + 1, by omega, hnext⟩
  obtain rfl : k = n - 2 := by omega
  rw [fibonacci, if_neg (by omega), hs, ok_bind, hmember.last, pure_ok]

theorem fib_eq_iff (k : Nat) : BitVec.ofNat 64 (Nat.fib k) = BitVec.ofNat 64 (Nat.fib (k + 2)) ↔
    2 ^ 64 ∣ Nat.fib (k + 1) := by
  rw [← BitVec.toNat_inj, BitVec.toNat_ofNat, BitVec.toNat_ofNat, Nat.fib_add_two]
  omega

/-- **`Fibonacci` computes the first two members only.** -/
theorem fibonacci_iff (hn : n < 2 ^ 31) :
    fibonacci n = .ok (BitVec.ofNat 64 (Nat.fib n)) ↔ n < 2 := by
  refine ⟨fun h => ?_, fibonacci_small⟩
  by_contra hlate
  obtain ⟨k, rfl⟩ : ∃ k, n = k + 2 := ⟨n - 2, by omega⟩
  rw [fibonacci_eq (by omega), Nat.add_sub_cancel] at h
  have hdvd := Fibonacci.dvd_of_two_pow_dvd_fib (k := 61) ((fib_eq_iff k).mp (Except.ok.inj h))
  have hle := Nat.le_of_dvd (by omega) hdvd
  omega

theorem fibonacci_one : fibonacci 1 = .ok (BitVec.ofNat 64 (Nat.fib 1)) ↔ 1 < 2 := fibonacci_iff (by omega)

/-- `viewDidLoad` asks for member 10, which is 55, and gets 21. -/
theorem fibonacci_ten : ¬ ∀ n : Nat, n < 2 ^ 31 → fibonacci n = .ok (BitVec.ofNat 64 (Nat.fib n)) := by
  intro h
  have hten := h 10 (by omega)
  rw [fibonacci_eq (by omega)] at hten
  exact absurd hten (by decide)

end LearningDemo.Sort
