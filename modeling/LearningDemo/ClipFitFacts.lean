/-
What `clipFitStringForLabel2:font:` makes of a string that is too wide.

It looks for the longest front that fits with the dots behind it, and then
takes the pair of surrogates in front of the dots away
(`handleLastEmoj_cut_pair`), without looking at the width again. A pair cut
in two is not taken away, and where no front fits the whole string comes
back, or the string less a pair near its end. `clipFit2_truncates_iff` puts
together when none of this matters.
-/
import LearningDemo.LimitStringFacts

namespace LearningDemo.NNAdd

open Enumerate Utf16

variable {T : Text} {s : NSString} {m : ℚ} {i n : Nat}

/-- The composed character sequences are the pairs of surrogates, and single units. -/
def PairRanges (T : Text) : Prop := ∀ (s : NSString) (i : Nat), i < s.length →
  T.rangeOfComposedCharacterSequenceAtIndex s i =
    some { location := (rangeAt s i).1, length := (rangeAt s i).2 }

/-- The first `n` units, and the dots. -/
def cut (s : NSString) (n : Nat) : NSString := s.take n ++ dots

/-- The string when it fits; otherwise the dots, or a front that ends in no
pair with the dots behind it, and fits. -/
def Truncated (T : Text) (m : ℚ) (s result : NSString) : Prop :=
  if T.width s ≤ m then result = s
  else result = dots ∨ ∃ n ≤ s.length, Whole s n ∧ result = cut s n ∧ T.width result ≤ m

/-- No front but the whole string fits. -/
def NoCutFits (T : Text) (m : ℚ) (s : NSString) : Prop := ∀ n < s.length, ¬ T.width (cut s n) ≤ m

/-- The longest front that fits, the whole string apart, has `n` units. -/
structure LongestCut (T : Text) (m : ℚ) (s : NSString) (n : Nat) : Prop where
  lt : n < s.length
  fits : T.width (cut s n) ≤ m
  longest : ∀ k, n < k → k < s.length → ¬ T.width (cut s k) ≤ m

/-- A cut after `n` units goes through no pair; and when it comes right behind
one, the cut in front of that pair fits too, or nothing is left of the front. -/
def CutsWell (T : Text) (m : ℚ) (s : NSString) (n : Nat) : Prop :=
  Whole s n ∧ ∀ i, n = i + 2 → pairAt s i = true → i = 0 ∨ T.width (cut s i) ≤ m

/-- A pair and three dots, the pair before the dots or behind the first one. -/
def PairInDots (s : NSString) : Prop := ∃ hi lo, isHigh hi = true ∧ isLow lo = true ∧
  (s = [hi, lo, 46, 46, 46] ∨ s = [46, hi, lo, 46, 46])

/-! ## Cuts -/

theorem cut_length (hn : n ≤ s.length) : (cut s n).length = n + 3 := by
  rw [cut, List.length_append, List.length_take, Nat.min_eq_left hn]
  rfl

theorem cut_inj (hi : i ≤ s.length) (hn : n ≤ s.length) (h : cut s i = cut s n) : i = n := by
  have hlen := congrArg List.length h
  rw [cut_length hi, cut_length hn] at hlen
  omega

theorem cut_front {k : Nat} (hk : k < n) (hn : n ≤ s.length) : (cut s n)[k]? = s[k]? := by
  rw [cut, List.getElem?_append_left (by rw [List.length_take]; omega), List.getElem?_take_of_lt hk]

theorem cut_dot (hn : n ≤ s.length) : (cut s n)[n]? = some 46 := by
  have hlen : (s.take n).length = n := by rw [List.length_take, Nat.min_eq_left hn]
  rw [cut, List.getElem?_append_right (by omega), hlen, Nat.sub_self]
  rfl

/-- A half left alone in front of the dots is in no pair any more. -/
theorem pairAt_cut_last (hn : i + 1 ≤ s.length) : pairAt (cut s (i + 1)) i = false := by
  refine Bool.eq_false_iff.mpr fun h => ?_
  obtain ⟨_, lo, -, hlo, -, hlow⟩ := pairAt_iff.mp h
  obtain rfl := Option.some.inj ((cut_dot hn).symm.trans hlo)
  cases hlow

theorem pairAt_cut (hi : i + 1 < n) (hn : n ≤ s.length) : pairAt (cut s n) i = pairAt s i :=
  pairAt_congr (cut_front (by omega) hn) (cut_front hi hn)

theorem cutAt_eq (T : Text) (s : NSString) (m : ℚ) (i : Nat) :
    cutAt T s m i = if T.width (cut s i) ≤ m then some (cut s i) else none := by
  have hcut : replacingCharactersInRange s ⟨i, s.length - i⟩ dots = cut s i := by
    have hrest : s.drop (i + (s.length - i)) = [] := List.drop_eq_nil_of_le (by omega)
    simp only [replacingCharactersInRange, hrest, List.append_nil, cut]
  simp only [cutAt, hcut]

/-! ## The pair in front of the dots -/

theorem handleLastEmoj_pair (hT : PairRanges T) (hlen : 4 ≤ s.length) (hp : pairAt s i = true)
    (hi : s.length = i + 4 ∨ s.length = i + 5) : handleLastEmoj T s = s.take i ++ s.drop (i + 2) := by
  have hrange : rangeAt s (s.length - 4) = (i, 2) := by
    rcases hi with hi | hi
    · rw [hi]
      exact rangeAt_of_pair hp
    · rw [hi]
      exact rangeAt_of_second hp
  have hfound := hT s (s.length - 4) (by omega)
  rw [hrange] at hfound
  rw [handleLastEmoj_found hlen hfound]
  simp [replacingCharactersInRange]

theorem handleLastEmoj_alone (hT : PairRanges T) (hlen : 4 ≤ s.length) (hp : pairAt s (s.length - 4) = false)
    (hw : Whole s (s.length - 4)) : handleLastEmoj T s = s := by
  have hfound := hT s (s.length - 4) (by omega)
  rw [rangeAt_alone hp hw] at hfound
  rw [handleLastEmoj_found hlen hfound]
  rfl

theorem handleLastEmoj_cut_zero (T : Text) (s : NSString) : handleLastEmoj T (cut s 0) = dots := rfl

theorem handleLastEmoj_cut_pair (hT : PairRanges T) (hp : pairAt s i = true) :
    handleLastEmoj T (cut s (i + 2)) = cut s i := by
  have hlt := pairAt_lt hp
  have hlen : (cut s (i + 2)).length = i + 5 := cut_length (by omega)
  have hp' : pairAt (cut s (i + 2)) i = true := (pairAt_cut (by omega) (by omega)).trans hp
  rw [handleLastEmoj_pair hT (by omega) hp' (.inr hlen)]
  have htake : (s.take (i + 2)).length = i + 2 := by rw [List.length_take]; omega
  rw [cut, List.take_append_of_le_length (by omega), List.take_take, Nat.min_eq_left (by omega),
    List.drop_append_of_le_length (by omega), List.drop_eq_nil_of_le (by omega), List.nil_append, cut]

theorem handleLastEmoj_cut_alone (hT : PairRanges T) (hn : n + 1 ≤ s.length) (hw : Whole s n) :
    handleLastEmoj T (cut s (n + 1)) = cut s (n + 1) := by
  have hlen := cut_length hn
  have hindex : (cut s (n + 1)).length - 4 = n := by omega
  refine handleLastEmoj_alone hT (by omega) ?_ ?_
  · rw [hindex]
    exact pairAt_cut_last hn
  · rw [hindex]
    rintro i rfl
    rw [pairAt_cut (by omega) hn]
    exact hw i rfl

/-! ## Where no cut fits -/

theorem handleLastEmoj_cases (hT : PairRanges T) (hlen : 4 ≤ s.length) :
    (∃ i, pairAt s i = true ∧ (s.length = i + 4 ∨ s.length = i + 5) ∧
      handleLastEmoj T s = s.take i ++ s.drop (i + 2)) ∨ handleLastEmoj T s = s := by
  cases hp : pairAt s (s.length - 4) with
  | true =>
    have hi : s.length = (s.length - 4) + 4 := by omega
    exact .inl ⟨_, hp, .inl hi, handleLastEmoj_pair hT hlen hp (.inl hi)⟩
  | false =>
    by_cases hw : Whole s (s.length - 4)
    · exact .inr (handleLastEmoj_alone hT hlen hp hw)
    · obtain ⟨i, hi, hpi⟩ : ∃ i, s.length - 4 = i + 1 ∧ pairAt s i = true := by simpa [Whole] using hw
      have hi' : s.length = i + 5 := by omega
      exact .inl ⟨i, hpi, .inr hi', handleLastEmoj_pair hT hlen hpi (.inr hi')⟩

theorem handleLastEmoj_length_le (hT : PairRanges T) (hlen : 4 ≤ s.length) :
    (handleLastEmoj T s).length ≤ s.length := by
  rcases handleLastEmoj_cases hT hlen with ⟨i, -, -, he⟩ | he
  · rw [he, List.length_append, List.length_take, List.length_drop]
    omega
  · rw [he]

/-- The dots come back of a whole string when it is the dots around a pair. -/
theorem handleLastEmoj_dots_iff (hT : PairRanges T) (hlen : 4 ≤ s.length) :
    handleLastEmoj T s = dots ↔ PairInDots s := by
  refine ⟨fun h => ?_, fun h => ?_⟩
  · rcases handleLastEmoj_cases hT hlen with ⟨i, hp, hi, he⟩ | he
    · have hlt := pairAt_lt hp
      have hcut : s.take i ++ s.drop (i + 2) = dots := he.symm.trans h
      have hfive : s.length = 5 := by
        have hlens := congrArg List.length hcut
        rw [List.length_append, List.length_take, List.length_drop] at hlens
        have hdots : dots.length = 3 := rfl
        omega
      obtain ⟨high, low, hhi, hlo, hhigh, hlow⟩ := pairAt_iff.mp hp
      match s, hfive with
      | [a, b, c, d, e], _ =>
        obtain rfl | rfl : i = 0 ∨ i = 1 := by simp only [List.length_cons, List.length_nil] at hi; omega
        · cases hhi
          cases hlo
          cases hcut
          exact ⟨high, low, hhigh, hlow, .inl rfl⟩
        · cases hhi
          cases hlo
          cases hcut
          exact ⟨high, low, hhigh, hlow, .inr rfl⟩
    · rw [he] at h
      rw [h] at hlen
      exact absurd hlen (by decide)
  · obtain ⟨hi, lo, hhigh, hlow, rfl | rfl⟩ := h
    · have hp : pairAt [hi, lo, 46, 46, 46] 0 = true := pairAt_iff.mpr ⟨hi, lo, rfl, rfl, hhigh, hlow⟩
      exact handleLastEmoj_pair hT hlen hp (.inr rfl)
    · have hp : pairAt [46, hi, lo, 46, 46] 1 = true := pairAt_iff.mpr ⟨hi, lo, rfl, rfl, hhigh, hlow⟩
      exact handleLastEmoj_pair hT hlen hp (.inl rfl)

/-! ## The result -/

theorem truncated_cut_iff (hwide : ¬ T.width s ≤ m) (hi : i ≤ s.length) :
    Truncated T m s (cut s i) ↔ i = 0 ∨ Whole s i ∧ T.width (cut s i) ≤ m := by
  rw [Truncated, if_neg hwide]
  refine or_congr ⟨fun h => cut_inj hi (Nat.zero_le _) h, fun h => by rw [h]; rfl⟩ ⟨fun h => ?_, fun h => ?_⟩
  · obtain ⟨n, hn, hw, he, hfits⟩ := h
    obtain rfl := cut_inj hi hn he
    exact ⟨hw, hfits⟩
  · exact ⟨i, hi, h.1, rfl, h.2⟩

theorem truncated_longest_iff (hT : PairRanges T) (hwide : ¬ T.width s ≤ m) (h : LongestCut T m s n) :
    Truncated T m s (handleLastEmoj T (cut s n)) ↔ CutsWell T m s n := by
  have hn := h.lt
  cases n with
  | zero =>
    rw [handleLastEmoj_cut_zero]
    exact iff_of_true (by rw [Truncated, if_neg hwide]; exact .inl rfl) ⟨nofun, nofun⟩
  | succ n =>
    by_cases hw : Whole s n
    · -- no pair ends here: the cut stays as it is
      rw [handleLastEmoj_cut_alone hT (by omega) hw, truncated_cut_iff hwide (by omega)]
      refine ⟨fun h' => ⟨(h'.resolve_left (Nat.succ_ne_zero n)).1, fun i hi hp => ?_⟩,
        fun h' => .inr ⟨h'.1, h.fits⟩⟩
      obtain rfl : n = i + 1 := by omega
      rw [hw i rfl] at hp
      cases hp
    · obtain ⟨i, rfl, hp⟩ : ∃ i, n = i + 1 ∧ pairAt s i = true := by simpa [Whole] using hw
      rw [handleLastEmoj_cut_pair hT hp, truncated_cut_iff hwide (by omega)]
      refine ⟨fun h' => ⟨whole_succ.mpr (pairAt_succ hp), fun j hj _ => ?_⟩, fun h' => ?_⟩
      · obtain rfl : i = j := by omega
        exact h'.imp_right fun h => h.2
      · exact (h'.2 i rfl hp).imp_right fun h => ⟨Whole.of_pairAt hp, h⟩

theorem truncated_whole_iff (hT : PairRanges T) (hwide : ¬ T.width s ≤ m) (h : NoCutFits T m s) :
    Truncated T m s (handleLastEmoj T s) ↔ s.length < 4 ∨ PairInDots s := by
  rw [Truncated, if_neg hwide]
  by_cases hlen : s.length < 4
  · have hdots : handleLastEmoj T s = dots := if_pos hlen
    exact iff_of_true (.inl hdots) (.inl hlen)
  · have hlong : 4 ≤ s.length := Nat.not_lt.mp hlen
    rw [handleLastEmoj_dots_iff hT hlong]
    refine ⟨fun h' => .inr (h'.resolve_right ?_), fun h' => .inl (h'.resolve_left hlen)⟩
    rintro ⟨n, hn, -, he, hfits⟩
    have hle := handleLastEmoj_length_le hT hlong
    rw [he, cut_length hn] at hle
    rw [he] at hfits
    exact h n (by omega) hfits

/-- **The string is cut as it should be** when it fits, when nothing is as
wide as the label, when its longest cut goes through no pair and still fits
without the pair in front of the dots, or, where no cut fits at all, when it
has fewer than four units or is the dots around a pair. -/
theorem clipFit2_truncates_iff (hT : PairRanges T) (s : NSString) (m : ℚ) :
    Truncated T m s (clipFitStringForLabel2 T s m) ↔
      T.width s ≤ m ∨ m ≤ T.width [] ∨ (∃ n, LongestCut T m s n ∧ CutsWell T m s n) ∨
        NoCutFits T m s ∧ (s.length < 4 ∨ PairInDots s) := by
  by_cases hwide : T.width s ≤ m
  · refine iff_of_true ?_ (.inl hwide)
    rw [Truncated, clipFitStringForLabel2, if_pos hwide, if_pos hwide]
  by_cases hpoint : m ≤ T.width []
  · refine iff_of_true ?_ (.inr (.inl hpoint))
    simp only [Truncated, clipFitStringForLabel2, if_neg hwide, ge_iff_le, if_pos hpoint, true_or]
  have hclip : clipFitStringForLabel2 T s m = handleLastEmoj T ((findDown (cutAt T s m) s.length).getD s) := by
    simp only [clipFitStringForLabel2, if_neg hwide, ge_iff_le, if_neg hpoint]
  have hnone : ∀ k, cutAt T s m k = none ↔ ¬ T.width (cut s k) ≤ m := fun k => by
    rw [cutAt_eq]
    split <;> simp [*]
  simp only [hwide, hpoint, false_or, hclip]
  rcases findDown_cases (cutAt T s m) s.length with h | ⟨n, b, hn, hb, h⟩
  · have hno : NoCutFits T m s := fun k hk => (hnone k).mp (h k hk)
    rw [findDown_eq_none h, Option.getD_none, truncated_whole_iff hT hwide hno]
    refine ⟨fun h' => .inr ⟨hno, h'⟩, fun h' => ?_⟩
    rcases h' with ⟨n, hlongest, -⟩ | ⟨-, h'⟩
    · exact absurd hlongest.fits (hno n hlongest.lt)
    · exact h'
  · have hfits : T.width (cut s n) ≤ m := by
      by_contra hfits
      rw [(hnone n).mpr hfits] at hb
      cases hb
    have hlongest : LongestCut T m s n := ⟨hn, hfits, fun k hk hlt => (hnone k).mp (h k hk hlt)⟩
    have hcut : cutAt T s m n = some (cut s n) := by rw [cutAt_eq, if_pos hfits]
    rw [findDown_eq_some hn hcut h, Option.getD_some, truncated_longest_iff hT hwide hlongest]
    refine ⟨fun h' => .inl ⟨n, hlongest, h'⟩, fun h' => ?_⟩
    rcases h' with ⟨k, hk, h'⟩ | ⟨hno, -⟩
    · obtain rfl : n = k := by
        by_contra hne
        rcases Nat.lt_or_gt_of_ne hne with hlt | hgt
        · exact hlongest.longest k hlt hk.lt hk.fits
        · exact hk.longest n hgt hn hfits
      exact h'
    · exact absurd hfits (hno n hn)

/-! ## On concrete strings -/

theorem sampleText_pairs : PairRanges sampleText := fun _ _ _ => rfl

theorem clipFit2_truncates_letters :
    Truncated sampleText 35 letters (clipFitStringForLabel2 sampleText letters 35) ↔
    sampleText.width letters ≤ 35 ∨ 35 ≤ sampleText.width [] ∨
      (∃ n, LongestCut sampleText 35 letters n ∧ CutsWell sampleText 35 letters n) ∨
      NoCutFits sampleText 35 letters ∧ (letters.length < 4 ∨ PairInDots letters) :=
  clipFit2_truncates_iff sampleText_pairs letters 35

/-- Of `a`, a fire and `bcd`, with room for five units, half of the fire stays. -/
theorem clipFit2_splits_fire :
    clipFitStringForLabel2 sampleText [97, 0xD83D, 0xDD25, 98, 99, 100] 50 = [97, 0xD83D, 46, 46, 46] ∧
    ¬ Truncated sampleText 50 [97, 0xD83D, 0xDD25, 98, 99, 100]
      (clipFitStringForLabel2 sampleText [97, 0xD83D, 0xDD25, 98, 99, 100] 50) := by
  have hclip : clipFitStringForLabel2 sampleText [97, 0xD83D, 0xDD25, 98, 99, 100] 50 =
      cut [97, 0xD83D, 0xDD25, 98, 99, 100] 2 := by decide +kernel
  have hwide : ¬ sampleText.width [97, 0xD83D, 0xDD25, 98, 99, 100] ≤ 50 := by norm_num [sampleText]
  refine ⟨hclip, ?_⟩
  rw [hclip, truncated_cut_iff hwide (by decide), not_or]
  exact ⟨by decide, fun h => absurd (h.1 1 rfl) (by decide)⟩

end LearningDemo.NNAdd
