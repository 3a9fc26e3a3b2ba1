/-
Which strings fit, and what becomes of them.

`yxt_limitStringWithFont:length:` keeps the longest prefix of composed
character sequences that fits all along, whatever the widths are
(`limitString_longest`). `clipFitStringForLabel:font:` takes what it returns
for a string that was cut, so it also takes the end off strings that fit
(`clipFit_keeps_iff`).
-/
import LearningDemo.NNAdd
import Mathlib.Algebra.Order.Ring.Rat
import Mathlib.Tactic.NormNum

namespace LearningDemo.NNAdd

open Enumerate

variable {T : Text} {s : NSString} {m : ℚ}

/-! ## `yxt_limitStringWithFont:length:` -/

/-- These sequences fit with the dots behind them. -/
def Fits (T : Text) (m : ℚ) (sequences : List NSString) : Prop := T.width (sequences.flatten ++ dots) ≤ m

theorem limitBlock_fits {p : List NSString} {x : NSString} {st : Limiting} (hp : st.lastStr = p.flatten)
    (h : Fits T m (p ++ [x])) :
    (limitBlock T m x st).2 = false ∧ (limitBlock T m x st).1.lastStr = (p ++ [x]).flatten := by
  have hflat : (p ++ [x]).flatten = p.flatten ++ x := by simp
  rw [Fits, hflat, ← not_lt] at h
  simp only [limitBlock, hp, gt_iff_lt, if_neg h, hflat, and_self]

theorem limitBlock_stops {p : List NSString} {x : NSString} {st : Limiting} (hp : st.lastStr = p.flatten)
    (h : ¬ Fits T m (p ++ [x])) :
    (limitBlock T m x st).2 = true ∧ (limitBlock T m x st).1.lastStr = p.flatten := by
  have hflat : (p ++ [x]).flatten = p.flatten ++ x := by simp
  rw [Fits, hflat, not_le] at h
  simp only [limitBlock, hp, gt_iff_lt, if_pos h, and_self]

theorem limit_longest (T : Text) (m : ℚ) (sequences : List NSString) :
    ∃ k, IsGreatest {k | GoodUpTo (Fits T m) sequences k} k ∧
      (enumerate (limitBlock T m) sequences { lastStr := [], testString := [] }).lastStr =
        (sequences.take k).flatten :=
  enumerate_longest (I := fun p (st : Limiting) => st.lastStr = p.flatten)
    (fun _ _ _ hp => limitBlock_fits hp) (fun _ _ _ hp => limitBlock_stops hp) sequences rfl

/-- **The longest greedy prefix.** A string that is not narrower than the
length keeps its first `k` sequences, `k` being the largest number up to
which all prefixes fit with the dots behind them. -/
theorem limitString_longest (T : Text) (s : NSString) (m : ℚ) :
    (T.width s < m → limitString T s m = s) ∧
    (¬ T.width s < m → ∃ k, IsGreatest {k | GoodUpTo (Fits T m) (T.composedCharacterSequences s) k} k ∧
      limitString T s m = ((T.composedCharacterSequences s).take k).flatten ++ dots ∧
      (1 ≤ k → T.width (limitString T s m) ≤ m)) := by
  refine ⟨fun hlt => if_pos hlt, fun hge => ?_⟩
  obtain ⟨k, hk, hlast⟩ := limit_longest T m (T.composedCharacterSequences s)
  have hresult : limitString T s m = ((T.composedCharacterSequences s).take k).flatten ++ dots := by
    rw [limitString, if_neg hge]
    simp only [hlast]
  refine ⟨k, hk, hresult, fun h1 => ?_⟩
  rw [hresult]
  exact hk.1.2 k h1 (Nat.le_refl k)

/-! ## `clipFitStringForLabel:font:` -/

/-- There is a composed character sequence at every index of a string: it
contains the index, and lies within the string. -/
def RangesAround (T : Text) : Prop := ∀ (s : NSString) (i : Nat), i < s.length →
  ∃ range, T.rangeOfComposedCharacterSequenceAtIndex s i = some range ∧
    range.location ≤ i ∧ i < range.location + range.length ∧ range.location + range.length ≤ s.length

/-- The fourth unit from the end is a composed character sequence by itself. -/
def FourthLastAlone (T : Text) (s : NSString) : Prop :=
  T.rangeOfComposedCharacterSequenceAtIndex s (s.length - 4) = some { location := s.length - 4, length := 1 }

theorem handleLastEmoj_found (hlen : 4 ≤ s.length) {range : NSRange}
    (h : T.rangeOfComposedCharacterSequenceAtIndex s (s.length - 4) = some range) :
    handleLastEmoj T s = if range.length > 1 then replacingCharactersInRange s range [] else s := by
  have hindex : s.length - 1 - 3 = s.length - 4 := by omega
  simp only [handleLastEmoj, if_neg (Nat.not_lt.mpr hlen), hindex, h]

theorem replacing_length {range : NSRange} (h : range.location + range.length ≤ s.length) :
    (replacingCharactersInRange s range []).length + range.length = s.length := by
  simp only [replacingCharactersInRange, List.length_append, List.length_take, List.length_drop,
    List.length_nil]
  omega

theorem handleLastEmoj_keeps_iff (hT : RangesAround T) (s : NSString) :
    handleLastEmoj T s = s ↔ s = dots ∨ 4 ≤ s.length ∧ FourthLastAlone T s := by
  by_cases hshort : s.length < 4
  · rw [handleLastEmoj, if_pos hshort]
    refine ⟨fun h => .inl h.symm, fun h => ?_⟩
    rcases h with rfl | ⟨hlen, -⟩
    · rfl
    · omega
  · have hne : s ≠ dots := fun h => hshort (by rw [h]; decide)
    obtain ⟨⟨location, length⟩, hrange, hle, hlt, hinside⟩ := hT s (s.length - 4) (by omega)
    simp only at hle hlt hinside
    rw [handleLastEmoj_found (by omega) hrange, FourthLastAlone, hrange]
    by_cases hlong : length > 1
    · -- a sequence of two units or more is removed
      have hcut : (replacingCharactersInRange s ⟨location, length⟩ []).length + length = s.length :=
        replacing_length hinside
      rw [if_pos hlong]
      refine ⟨fun h => ?_, fun h => ?_⟩
      · rw [h] at hcut
        omega
      · rcases h with h | ⟨-, h⟩
        · exact absurd h hne
        · obtain ⟨-, rfl⟩ := NSRange.mk.inj (Option.some.inj h)
          omega
    · rw [if_neg hlong]
      obtain rfl : length = 1 := by omega
      obtain rfl : location = s.length - 4 := by omega
      exact iff_of_true rfl (.inr ⟨by omega, rfl⟩)

/-- **A string that fits is left alone** when its fourth unit from the end is
a character by itself, or when it is the dots; every other is changed. -/
theorem clipFit_keeps_iff (hT : RangesAround T) (hw : T.width s < m) :
    clipFitStringForLabel T s m = s ↔ s = dots ∨ 4 ≤ s.length ∧ FourthLastAlone T s := by
  rw [clipFitStringForLabel, (limitString_longest T s m).1 hw]
  exact handleLastEmoj_keeps_iff hT s

/-! ## On concrete strings -/

/-- Every unit is 10 wide, and only surrogates compose. -/
def sampleText : Text where
  width s := 10 * s.length
  rangeOfComposedCharacterSequenceAtIndex s i :=
    some { location := (Utf16.rangeAt s i).1, length := (Utf16.rangeAt s i).2 }
  composedCharacterSequences := Utf16.characters

theorem sampleText_around : RangesAround sampleText := fun _ _ h => ⟨_, rfl, Utf16.rangeAt_around h⟩

/-- `abcd`. -/
def letters : NSString := [97, 98, 99, 100]

theorem clipFit_keeps_letters : clipFitStringForLabel sampleText letters 100 = letters ↔
    letters = dots ∨ 4 ≤ letters.length ∧ FourthLastAlone sampleText letters :=
  clipFit_keeps_iff sampleText_around (by norm_num [sampleText, letters])

/-- `abc` fits, and becomes the dots; of a fire and `abc` the fire is lost. -/
theorem clipFit_clips_short :
    sampleText.width [97, 98, 99] < 100 ∧ clipFitStringForLabel sampleText [97, 98, 99] 100 = dots ∧
    sampleText.width [0xD83D, 0xDD25, 97, 98, 99] < 100 ∧
    clipFitStringForLabel sampleText [0xD83D, 0xDD25, 97, 98, 99] 100 = [97, 98, 99] := by
  have h3 : sampleText.width [97, 98, 99] < 100 := by norm_num [sampleText]
  have h5 : sampleText.width [0xD83D, 0xDD25, 97, 98, 99] < 100 := by norm_num [sampleText]
  refine ⟨h3, ?_, h5, ?_⟩
  · rw [clipFitStringForLabel, (limitString_longest _ _ _).1 h3]
    rfl
  · rw [clipFitStringForLabel, (limitString_longest _ _ _).1 h5]
    decide

end LearningDemo.NNAdd
