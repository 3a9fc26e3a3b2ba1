/-
The `int`s of `countDigitOne`.

The loop tests its condition at the positions `positionAt n q` only
(`tested_at`), and goes on while `10 ^ q ≤ n`. Up to nine digits everything a
turn computes fits; with ten the last turn makes `digit` ten to the tenth,
which is never used.
-/
import LearningDemo.CountDigitOneFacts
import Mathlib.Algebra.Order.BigOperators.Group.Finset

namespace LearningDemo.AlgoTable

open Imperative Digits Finset

variable {n q : Nat} {s s' : Position}

/-! ## The turns there are -/

theorem countMore_at_iff : countMore (positionAt n q) = .ok true ↔ 10 ^ q ≤ n := by
  have hpos := Nat.pow_pos (n := q) (show 0 < 10 by omega)
  rw [countMore_at, Except.ok.injEq, decide_eq_true_iff, ne_eq, Nat.div_eq_zero_iff_lt hpos, Nat.not_lt]

/-- The positions the loop comes to, -/
theorem tested_at (h : ∀ p < q, 10 ^ p ≤ n) : Tested countMore countTurn (countStart n) (positionAt n q) := by
  rw [← positionAt_zero]
  exact Tested.run fun p hp => ⟨countMore_at_iff.mpr (h p hp), countTurn_at⟩

/-- and there are no others. -/
theorem tested_only (h : Tested countMore countTurn (countStart n) s) : ∃ q, s = positionAt n q := by
  refine h.invariant (I := fun s => ∃ q, s = positionAt n q) (fun t t' ht _ hb => ?_) ⟨0, positionAt_zero.symm⟩
  obtain ⟨q, rfl⟩ := ht
  exact ⟨q + 1, (Except.ok.inj (countTurn_at.symm.trans hb)).symm⟩

theorem countFits_iff : CountFits n ↔ (∀ v ∈ (countStart n).ints, InInt v) ∧
    ∀ q, 10 ^ q ≤ n → ∀ v ∈ turnInts (positionAt n q), InInt v := by
  refine and_congr_right fun _ => ⟨fun h q hq => ?_, fun h s hs hmore => ?_⟩
  · refine h _ (tested_at fun p hp => ?_) (countMore_at_iff.mpr hq)
    exact (Nat.pow_le_pow_right (by omega) hp.le).trans hq
  · obtain ⟨q, rfl⟩ := tested_only hs
    exact h q (countMore_at_iff.mp hmore)

/-! ## Their values -/

theorem turnInts_fit_of_bounds {count high cur low digit : Nat} (hcount : count ≤ 1600000000)
    (hproduct : high * digit < 100000000) (hdigit : digit ≤ 100000000) (hlow : low < digit)
    (hhigh : high < 1000000000) (hsum : low + cur * digit < 1000000000) :
    ∀ v ∈ turnInts ⟨count, high, cur, low, digit⟩, InInt v := by
  have hmod : (high : Int).tmod 10 = (high % 10 : Nat) := rfl
  have hdiv : (high : Int).tdiv 10 = (high / 10 : Nat) := rfl
  rw [turnInts, add_mul, one_mul, hmod, hdiv, ← Int.natCast_mul, ← Int.natCast_mul, List.forall_mem_append]
  generalize high * digit = product at hproduct ⊢
  generalize cur * digit = part at hsum ⊢
  simp only [InInt, List.forall_mem_cons, List.not_mem_nil, false_implies, implies_true, and_true]
  refine ⟨?_, by omega⟩
  split
  · simp only [List.forall_mem_cons, List.not_mem_nil, false_implies, implies_true, and_true]
    omega
  · split <;> simp only [List.forall_mem_cons, List.not_mem_nil, false_implies, implies_true, and_true] <;> omega

theorem sum_countAt_le (hn : n < 10 ^ 9) (hq : q ≤ 9) :
    ∑ p ∈ range q, countAt 10 1 p (n + 1) ≤ q * 200000000 := by
  have hle : ∑ p ∈ range q, countAt 10 1 p (n + 1) ≤ (range q).card • 200000000 := by
    refine sum_le_card_nsmul _ _ _ fun p hp => ?_
    have hp := mem_range.mp hp
    have hdigit : 10 ^ p ≤ 10 ^ 8 := Nat.pow_le_pow_right (by omega) (by omega)
    have := countAt_le (b := 10) (d := 1) (q := p) (n := n) (by omega)
    omega
  rwa [card_range, nsmul_eq_mul, Nat.cast_id] at hle

theorem turnInts_fit (hn : n < 10 ^ 9) (hq : 10 ^ q ≤ n) : ∀ v ∈ turnInts (positionAt n q), InInt v := by
  have hlt : q < 9 := (Nat.pow_lt_pow_iff_right (show 1 < 10 by omega)).mp (hq.trans_lt hn)
  have hdigit : 10 ^ q ≤ 10 ^ 8 := Nat.pow_le_pow_right (by omega) (by omega)
  have hcount := sum_countAt_le hn hlt.le
  have hproduct := div_pow_succ_mul_le 10 q n
  have hsum : n % 10 ^ q + digitAt 10 q n * 10 ^ q ≤ n := mod_pow_succ 10 q n ▸ Nat.mod_le n _
  have hhigh : n / 10 ^ (q + 1) ≤ n := Nat.div_le_self _ _
  have hlow : n % 10 ^ q < 10 ^ q := Nat.mod_lt n (Nat.pow_pos (by omega))
  exact turnInts_fit_of_bounds (by omega) (by omega) hdigit hlow (by omega) (by omega)

theorem not_countFits (hn : 10 ^ 9 ≤ n) : ¬ CountFits n := by
  intro h
  have hweight := (countFits_iff.mp h).2 9 hn ((10 ^ 9 : Nat) * 10) (by simp [turnInts, positionAt])
  exact absurd hweight (by unfold InInt; omega)

/-! ## The result -/

theorem countStart_ints (hn : n < 10 ^ 9) : ∀ v ∈ (countStart n).ints, InInt v := by
  have hmod : (n : Int).tmod 10 = (n % 10 : Nat) := rfl
  have hdiv : (n : Int).tdiv 10 = (n / 10 : Nat) := rfl
  intro v hv
  simp only [Position.ints, countStart, hmod, hdiv, List.mem_cons, List.not_mem_nil, or_false] at hv
  unfold InInt
  omega

theorem onesUpTo_fits (hn : n < 10 ^ 9) : InInt (onesUpTo n) := by
  have hle := sum_countAt_le hn (Nat.le_refl 9)
  rw [← onesUpTo_eq hn] at hle
  unfold InInt
  omega

/-- **`countDigitOne` stays within `int` for nine digits.** No `int` of it
overflows, and what it returns is the exact count, exactly when `n` is below
`10 ^ 9`. -/
theorem countDigitOne_fits_iff (n : Nat) : (CountFits n ∧ Returns (fun fuel => countDigitOne fuel n)
    fun count => count = onesUpTo n ∧ InInt count) ↔ n < 10 ^ 9 := by
  refine ⟨fun h => ?_, fun hn => ⟨?_, ?_⟩⟩
  · by_contra hlong
    exact not_countFits (Nat.not_lt.mp hlong) h.1
  · exact countFits_iff.mpr ⟨countStart_ints hn, fun q hq => turnInts_fit hn hq⟩
  · exact ⟨n + 1, fun fuel hfuel => ⟨_, countDigitOne_ok hfuel, rfl, onesUpTo_fits hn⟩⟩

/-- The number of `viewDidLoad`. -/
theorem countDigitOne_sample_overflows : ¬ ∀ n : Nat, InInt n →
    CountFits n ∧ Returns (fun fuel => countDigitOne fuel n) fun count => count = onesUpTo n ∧ InInt count := by
  intro h
  exact not_countFits (by norm_num) (h 1410065408 (by unfold InInt; omega)).1

end LearningDemo.AlgoTable
