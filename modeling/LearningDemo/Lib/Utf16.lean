/-
Strings as UTF-16 units: where the pairs of surrogates are.

`pairAt s i` says that a pair starts at `i`; two pairs never share a unit
(`pairAt_succ`). A cut is `Whole` when it does not go through a pair, and
`rangeAt` is the pair around an index, or the unit there alone.
-/
import Mathlib.Tactic.Common

namespace Utf16

def isHigh (u : UInt16) : Bool := 0xD800 ≤ u && u ≤ 0xDBFF

def isLow (u : UInt16) : Bool := 0xDC00 ≤ u && u ≤ 0xDFFF

/-- A high surrogate stands at `i`, and a low one behind it. -/
def pairAt (s : List UInt16) (i : Nat) : Bool := s[i]?.any isHigh && s[i + 1]?.any isLow

/-- The first `n` units do not end between the halves of a pair. -/
def Whole (s : List UInt16) (n : Nat) : Prop := ∀ i, n = i + 1 → pairAt s i = false

/-- Where the character around an index starts, and its units: a pair from
either of its halves, else one unit. -/
def rangeAt (s : List UInt16) (i : Nat) : Nat × Nat :=
  if pairAt s i then (i, 2)
  else match i with
    | 0 => (0, 1)
    | j + 1 => if pairAt s j then (j, 2) else (j + 1, 1)

/-- The string, pairs kept together. -/
def characters : List UInt16 → List (List UInt16)
  | [] => []
  | [u] => [[u]]
  | u :: v :: rest => if isHigh u && isLow v then [u, v] :: characters rest else [u] :: characters (v :: rest)

variable {s t : List UInt16} {i n : Nat}

theorem not_low_of_high {u : UInt16} (h : isHigh u = true) : isLow u = false := by
  simp only [isHigh, isLow, Bool.and_eq_true, decide_eq_true_eq, Bool.and_eq_false_imp, decide_eq_false_iff_not,
    UInt16.le_iff_toNat_le] at h ⊢
  simp only [UInt16.reduceToNat] at h ⊢
  omega

theorem pairAt_iff : pairAt s i = true ↔ ∃ hi lo, s[i]? = some hi ∧ s[i + 1]? = some lo ∧
    isHigh hi = true ∧ isLow lo = true := by
  unfold pairAt
  cases s[i]? with
  | none => simp
  | some hi => cases s[i + 1]? with
    | none => simp
    | some lo => simp

theorem pairAt_lt (h : pairAt s i = true) : i + 1 < s.length := by
  obtain ⟨_, _, -, hlo, -⟩ := pairAt_iff.mp h
  exact (List.getElem?_eq_some_iff.mp hlo).1

theorem pairAt_succ (h : pairAt s i = true) : pairAt s (i + 1) = false := by
  obtain ⟨_, lo, -, hlo, -, hlow⟩ := pairAt_iff.mp h
  refine Bool.eq_false_iff.mpr fun h' => ?_
  obtain ⟨hi, _, hhi, -, hhigh, -⟩ := pairAt_iff.mp h'
  obtain rfl := Option.some.inj (hlo.symm.trans hhi)
  rw [not_low_of_high hhigh] at hlow
  cases hlow

/-- Pairs within a common front are the same. -/
theorem pairAt_congr (h0 : s[i]? = t[i]?) (h1 : s[i + 1]? = t[i + 1]?) : pairAt s i = pairAt t i := by
  unfold pairAt
  rw [h0, h1]

/-- In front of a pair a cut is whole. -/
theorem Whole.of_pairAt (h : pairAt s n = true) : Whole s n := by
  rintro i rfl
  refine Bool.eq_false_iff.mpr fun hi => ?_
  rw [pairAt_succ hi] at h
  cases h

theorem whole_succ : Whole s (i + 1) ↔ pairAt s i = false :=
  ⟨fun h => h i rfl, fun h j hj => by obtain rfl : i = j := by omega
                                      exact h⟩

theorem rangeAt_of_pair (h : pairAt s i = true) : rangeAt s i = (i, 2) := by
  unfold rangeAt
  rw [if_pos h]

theorem rangeAt_of_second (h : pairAt s i = true) : rangeAt s (i + 1) = (i, 2) := by
  unfold rangeAt
  rw [if_neg (by simp [pairAt_succ h])]
  exact if_pos h

theorem rangeAt_alone (h : pairAt s n = false) (hw : Whole s n) : rangeAt s n = (n, 1) := by
  unfold rangeAt
  rw [if_neg (by simp [h])]
  cases n with
  | zero => rfl
  | succ j => exact if_neg (by simp [whole_succ.mp hw])

/-- The character around an index contains it, and lies within the string. -/
theorem rangeAt_around (h : i < s.length) :
    (rangeAt s i).1 ≤ i ∧ i < (rangeAt s i).1 + (rangeAt s i).2 ∧
      (rangeAt s i).1 + (rangeAt s i).2 ≤ s.length := by
  cases hp : pairAt s i with
  | true =>
    have := pairAt_lt hp
    rw [rangeAt_of_pair hp]
    omega
  | false =>
    by_cases hw : Whole s i
    · rw [rangeAt_alone hp hw]
      omega
    · obtain ⟨j, rfl, hj⟩ : ∃ j, i = j + 1 ∧ pairAt s j = true := by simpa [Whole] using hw
      rw [rangeAt_of_second hj]
      omega

end Utf16
