/-
Folding over a list whose values come in pairs.

When an operation undoes itself and its operands may be swapped, the two
occurrences of a value cancel wherever they stand (`foldl_pairs`); a list in
which two values occur once and all others twice folds like those two
(`Singles.foldl`).
-/
import Mathlib.Data.List.Perm.Basic
import Mathlib.Data.List.Dedup

namespace Pairs

open List

variable {α β : Type} {f : β → α → β}

theorem foldl_pairs [RightCommutative f] (hinv : ∀ s v, f (f s v) v = s) (ps : List α) (s : β) :
    (ps ++ ps).foldl f s = s := by
  induction ps generalizing s with
  | nil => rfl
  | cons p ps ih =>
    have hperm : (p :: ps ++ p :: ps) ~ p :: p :: (ps ++ ps) := by simp
    rw [hperm.foldl_eq, foldl_cons, foldl_cons, hinv, ih]

/-- Two values occur once, every other exactly twice. -/
structure Singles [DecidableEq α] (xs : List α) (a b : α) : Prop where
  ne : a ≠ b
  first : xs.count a = 1
  second : xs.count b = 1
  twice : ∀ v ∈ xs, v ≠ a → v ≠ b → xs.count v = 2

variable [DecidableEq α] {xs : List α} {a b : α}

/-- The other values, once each. -/
def others (xs : List α) (a b : α) : List α := xs.dedup.filter fun v => v ≠ a ∧ v ≠ b

/-- The two single values before the pairs. -/
theorem Singles.perm (h : Singles xs a b) : xs ~ a :: b :: (others xs a b ++ others xs a b) := by
  refine perm_iff_count.mpr fun v => ?_
  simp only [count_cons, count_append]
  have hne := h.ne
  by_cases hv : v = a ∨ v = b
  · have hnot : (others xs a b).count v = 0 := by
      refine count_eq_zero_of_not_mem fun hmem => ?_
      have hp := of_mem_filter hmem
      simp only [decide_eq_true_eq] at hp
      exact hv.elim hp.1 hp.2
    rcases hv with rfl | rfl
    · simp [hnot, h.first, hne.symm]
    · simp [hnot, h.second, hne]
  · obtain ⟨hva, hvb⟩ := not_or.mp hv
    have hp : decide (v ≠ a ∧ v ≠ b) = true := decide_eq_true ⟨hva, hvb⟩
    have hcount : (others xs a b).count v = if v ∈ xs then 1 else 0 := by
      rw [others, count_filter (p := fun v => decide (v ≠ a ∧ v ≠ b)) hp, count_dedup]
    have hbeq : (a == v) = false ∧ (b == v) = false := by simp [Ne.symm hva, Ne.symm hvb]
    simp only [hcount, hbeq, Bool.false_eq_true, if_false]
    by_cases hmem : v ∈ xs
    · rw [if_pos hmem, h.twice v hmem hva hvb]
    · rw [if_neg hmem, count_eq_zero_of_not_mem hmem]

/-- Of such a list only the two single values are left. -/
theorem Singles.foldl [RightCommutative f] (h : Singles xs a b) (hinv : ∀ s v, f (f s v) v = s) (s : β) :
    xs.foldl f s = f (f s a) b := by
  rw [h.perm.foldl_eq, foldl_cons, foldl_cons, foldl_pairs hinv]

end Pairs
