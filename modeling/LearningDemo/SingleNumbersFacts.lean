/-
`singleNumbers` on an array of pairs and two single values.

Both passes fold an operation that undoes itself, so only the two single
values are left of either (`Pairs.Singles.foldl`): their exclusive or after
the first pass, and one on each side of the mask after the second. The mask
stops at the lowest bit in which they differ, the sign bit at the latest.
-/
import LearningDemo.AlgoTable
import LearningDemo.Lib.Pairs
import Mathlib.Data.Nat.Find

namespace LearningDemo.AlgoTable

open Imperative Pairs

variable {a b k : BitVec 32} {nums : List (BitVec 32)} {i fuel : Nat}

/-! ## The mask -/

/-- The lowest bit that is set. -/
structure LowestBit (k : BitVec 32) (i : Nat) : Prop where
  set : k.getLsbD i = true
  below : ∀ j < i, k.getLsbD j = false

theorem LowestBit.lt (h : LowestBit k i) : i < 32 := BitVec.lt_of_getLsbD h.set

theorem exists_lowestBit (hk : k ≠ 0#32) : ∃ i, LowestBit k i := by
  have hex : ∃ i, k.getLsbD i = true := by
    by_contra hnone
    refine hk (BitVec.eq_of_getLsbD_eq fun i _ => ?_)
    simpa using fun h => hnone ⟨i, h⟩
  refine ⟨Nat.find hex, Nat.find_spec hex, fun j hj => ?_⟩
  simpa using Nat.find_min hex hj

theorem and_twoPow_eq_zero_iff (hi : i < 32) : k &&& .twoPow 32 i = 0#32 ↔ k.getLsbD i = false := by
  rw [BitVec.and_twoPow]
  cases k.getLsbD i with
  | false => simp
  | true =>
    have hne : BitVec.twoPow 32 i ≠ 0#32 := fun h0 => by
      have := congrArg (·.getLsbD i) h0
      simp [hi] at this
    simpa using hne

theorem maskMore_twoPow (hi : i < 32) : maskMore k (.twoPow 32 i) = .ok (!k.getLsbD i) := by
  have h := and_twoPow_eq_zero_iff (k := k) hi
  cases hb : k.getLsbD i with
  | false => simp [maskMore, h.mpr hb]
  | true =>
    have hne : k &&& .twoPow 32 i ≠ 0#32 := fun h0 => by simp [h.mp h0] at hb
    simpa [maskMore] using hne

theorem maskTurn_twoPow : maskTurn (.twoPow 32 i) = .ok (.twoPow 32 (i + 1)) := by
  rw [maskTurn, BitVec.twoPow_eq, BitVec.twoPow_eq, ← BitVec.shiftLeft_add, pure_ok]

/-- The mask stops at the lowest bit that is set. -/
theorem mask_loop (h : LowestBit k i) (hfuel : i < fuel) :
    whileLoop (maskMore k) maskTurn fuel 1#32 = .ok (.twoPow 32 i) := by
  have hlt := h.lt
  obtain ⟨mask, hmask, ⟨t, j, rfl, hj⟩, hend⟩ : ∃ mask, whileLoop (maskMore k) maskTurn fuel 1#32 = .ok mask ∧
      (∃ t j, mask = BitVec.twoPow 32 j ∧ j + t = i) ∧ maskMore k mask = .ok false := by
    refine whileLoop_returns (I := fun t mask => ∃ j, mask = BitVec.twoPow 32 j ∧ j + t = i) (fun t mask hs => ?_)
      ⟨0, rfl, Nat.zero_add i⟩ hfuel
    obtain ⟨j, rfl, hj⟩ := hs
    rw [maskMore_twoPow (by omega)]
    rcases Nat.lt_or_eq_of_le (show j ≤ i by omega) with hji | rfl
    · rw [h.below j hji]
      exact .inr ⟨rfl, _, t - 1, maskTurn_twoPow, ⟨j + 1, rfl, by omega⟩, by omega⟩
    · rw [h.set]
      exact .inl rfl
  rw [maskMore_twoPow (by omega)] at hend
  rcases Nat.lt_or_eq_of_le (show j ≤ i by omega) with hji | rfl
  · rw [h.below j hji] at hend
    cases hend
  · exact hmask

/-! ## The two passes -/

theorem xor_right_comm (s v w : BitVec 32) : s ^^^ v ^^^ w = s ^^^ w ^^^ v := by
  rw [BitVec.xor_assoc, BitVec.xor_comm v, BitVec.xor_assoc]

theorem xor_twice (s v : BitVec 32) : s ^^^ v ^^^ v = s := by
  rw [BitVec.xor_assoc, BitVec.xor_self, BitVec.xor_zero]

instance xor.rightCommutative : RightCommutative fun s v : BitVec 32 => s ^^^ v := ⟨xor_right_comm⟩

instance splitBy.rightCommutative (mask : BitVec 32) : RightCommutative (splitBy mask) where
  right_comm s v w := by
    unfold splitBy
    by_cases hv : v &&& mask = 0#32 <;> by_cases hw : w &&& mask = 0#32 <;>
      simp [hv, hw, xor_right_comm _ v w]

theorem splitBy_twice (mask : BitVec 32) (s : BitVec 32 × BitVec 32) (v : BitVec 32) :
    splitBy mask (splitBy mask s v) v = s := by
  unfold splitBy
  by_cases hv : v &&& mask = 0#32
  · simp only [hv, if_true, xor_twice]
  · simp only [hv, if_false, xor_twice]

/-- The exclusive or of all the numbers. -/
def xorAll (nums : List (BitVec 32)) : BitVec 32 := nums.foldl (fun k v => k ^^^ v) 0#32

theorem xorTurns_eq (nums : List (BitVec 32)) :
    forRange 0 nums.length (xorTurn nums) 0#32 = .ok (xorAll nums) :=
  forRange_foldl (fun i k v hv => by simp [xorTurn, hv]) 0#32

theorem splitTurns_eq (nums : List (BitVec 32)) (mask : BitVec 32) :
    forRange 0 nums.length (splitTurn nums mask) (0#32, 0#32) = .ok (nums.foldl (splitBy mask) (0#32, 0#32)) :=
  forRange_foldl (fun i s v hv => by simp [splitTurn, hv]) (0#32, 0#32)

/-- The function, its passes read as folds over the array. -/
theorem singleNumbers_eq (hlen : 4 ≤ nums.length) :
    singleNumbers fuel (some nums) nums.length = (do
      let mask ← whileLoop (maskMore (xorAll nums)) maskTurn fuel 1#32
      let (a, b) := nums.foldl (splitBy mask) (0#32, 0#32)
      pure (some [a, b])) := by
  have hge : ¬ (nums.length : Int) < 4 := by omega
  simp only [singleNumbers, hge, if_false, xorTurns_eq, splitTurns_eq, ok_bind]

/-! ## The result -/

theorem xor_ne_zero (h : a ≠ b) : a ^^^ b ≠ 0#32 := fun h0 => h (BitVec.xor_eq_zero_iff.mp h0)

theorem splitBy_singles {x y : BitVec 32} (hi : i < 32) (hx : x.getLsbD i = false) (hy : y.getLsbD i = true) :
    splitBy (.twoPow 32 i) (splitBy (.twoPow 32 i) (0#32, 0#32) x) y = (x, y) := by
  have hx0 := (and_twoPow_eq_zero_iff (k := x) hi).mpr hx
  have hy0 : y &&& .twoPow 32 i ≠ 0#32 := fun h0 => by
    simp [(and_twoPow_eq_zero_iff hi).mp h0] at hy
  simp [splitBy, hx0, hy0]

/-- Only the two single values are left of either pass. -/
theorem xorAll_singles (h : Singles nums a b) : xorAll nums = a ^^^ b := by
  rw [xorAll, h.foldl (f := fun k v => k ^^^ v) xor_twice, BitVec.zero_xor]

theorem splitBy_foldl_singles (h : Singles nums a b) (mask : BitVec 32) :
    nums.foldl (splitBy mask) (0#32, 0#32) = splitBy mask (splitBy mask (0#32, 0#32) a) b :=
  h.foldl (splitBy_twice mask) (0#32, 0#32)

/-- **`singleNumbers` finds the two single values.** On every array of four
or more numbers in which `a` and `b` occur once and every other value twice,
in any order, it returns these two, first the one whose lowest bit in which
they differ is 0. -/
theorem singleNumbers_finds (h : Singles nums a b) (hlen : 4 ≤ nums.length) :
    Returns (fun fuel => singleNumbers fuel (some nums) nums.length) fun result =>
      ∃ x y i, result = some [x, y] ∧ ((x = a ∧ y = b) ∨ (x = b ∧ y = a)) ∧
        x.getLsbD i = false ∧ y.getLsbD i = true ∧ ∀ j < i, x.getLsbD j = y.getLsbD j := by
  obtain ⟨i, hlow⟩ := exists_lowestBit (xor_ne_zero h.ne)
  have hi := hlow.lt
  have hxor : a.getLsbD i ≠ b.getLsbD i := by
    have := hlow.set
    rw [BitVec.getLsbD_xor] at this
    simpa using this
  have hbelow : ∀ j < i, a.getLsbD j = b.getLsbD j := fun j hj => by
    have := hlow.below j hj
    rw [BitVec.getLsbD_xor] at this
    simpa using this
  have hrun : ∀ fuel, i + 1 ≤ fuel → singleNumbers fuel (some nums) nums.length =
      .ok (some [(splitBy (.twoPow 32 i) (splitBy (.twoPow 32 i) (0#32, 0#32) a) b).1,
        (splitBy (.twoPow 32 i) (splitBy (.twoPow 32 i) (0#32, 0#32) a) b).2]) := by
    intro fuel hfuel
    rw [singleNumbers_eq hlen, xorAll_singles h, mask_loop hlow hfuel, ok_bind, splitBy_foldl_singles h]
    rfl
  refine ⟨i + 1, fun fuel hfuel => ⟨_, hrun fuel hfuel, ?_⟩⟩
  cases ha : a.getLsbD i with
  | false =>
    have hb : b.getLsbD i = true := by simpa [ha] using hxor.symm
    exact ⟨a, b, i, by rw [splitBy_singles hi ha hb], .inl ⟨rfl, rfl⟩, ha, hb, hbelow⟩
  | true =>
    have hb : b.getLsbD i = false := by simpa [ha] using hxor.symm
    have hswap : splitBy (.twoPow 32 i) (splitBy (.twoPow 32 i) (0#32, 0#32) a) b =
        splitBy (.twoPow 32 i) (splitBy (.twoPow 32 i) (0#32, 0#32) b) a := RightCommutative.right_comm _ a b
    refine ⟨b, a, i, ?_, .inr ⟨rfl, rfl⟩, hb, ha, fun j hj => (hbelow j hj).symm⟩
    rw [hswap, splitBy_singles hi hb ha]

/-- The array of `viewDidLoad`. -/
def sampleNumbers : List (BitVec 32) := [4, 1, 4, 6, 10, 10, 9, 9]

theorem sampleNumbers_singles : Singles sampleNumbers 1 6 where
  ne := by decide
  first := rfl
  second := rfl
  twice v hv := by
    have hall : sampleNumbers.all (fun v => decide (v ≠ 1 → v ≠ 6 → sampleNumbers.count v = 2)) = true := rfl
    exact of_decide_eq_true (List.all_eq_true.mp hall v hv)

theorem singleNumbers_sample :
    Returns (fun fuel => singleNumbers fuel (some sampleNumbers) sampleNumbers.length) fun result =>
      ∃ x y i, result = some [x, y] ∧ ((x = 1 ∧ y = 6) ∨ (x = 6 ∧ y = 1)) ∧
        x.getLsbD i = false ∧ y.getLsbD i = true ∧ ∀ j < i, x.getLsbD j = y.getLsbD j :=
  singleNumbers_finds sampleNumbers_singles (by decide)

/-! ## When the search for the mask ends -/

theorem mask_forever {mask : BitVec 32} : whileLoop (maskMore 0#32) maskTurn fuel 1#32 ≠ .ok mask :=
  whileLoop_forever (I := fun _ => True) (fun mask _ => by simp [maskMore]) (fun _ _ _ _ => trivial) trivial

/-- **`singleNumbers` hangs when everything cancels out.** On an array that
passes its checks it returns exactly when the exclusive or of all the numbers
is not 0. -/
theorem singleNumbers_returns_iff (hlen : 4 ≤ nums.length) :
    Returns (fun fuel => singleNumbers fuel (some nums) nums.length) (fun _ => True) ↔ xorAll nums ≠ 0#32 := by
  refine ⟨fun hret hzero => ?_, fun hxor => ?_⟩
  · obtain ⟨fuel, r, hr, -⟩ := hret.elim
    rw [singleNumbers_eq hlen, hzero] at hr
    obtain ⟨mask, hmask, -⟩ := bind_ok.mp hr
    exact mask_forever hmask
  · obtain ⟨i, hlow⟩ := exists_lowestBit hxor
    refine ⟨i + 1, fun fuel hfuel => ?_⟩
    simp only [singleNumbers_eq hlen, mask_loop hlow hfuel, ok_bind]
    exact ⟨_, rfl, trivial⟩

theorem singleNumbers_returns_sample :
    Returns (fun fuel => singleNumbers fuel (some sampleNumbers) sampleNumbers.length) (fun _ => True) ↔
      xorAll sampleNumbers ≠ 0#32 :=
  singleNumbers_returns_iff (by decide)

/-- Two pairs. -/
theorem singleNumbers_hangs :
    ¬ ∀ nums : List (BitVec 32), 4 ≤ nums.length →
      Returns (fun fuel => singleNumbers fuel (some nums) nums.length) fun _ => True := by
  intro h
  obtain ⟨fuel, r, hr, -⟩ := (h [1, 1, 2, 2] (by decide)).elim
  rw [singleNumbers_eq (by decide)] at hr
  obtain ⟨mask, hmask, -⟩ := bind_ok.mp hr
  exact mask_forever hmask

end LearningDemo.AlgoTable
