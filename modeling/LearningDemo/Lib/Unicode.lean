/-
Characters as UTF-16 units and back: `units` of a character, and the `text`
that units are, where they are one (`text_eq_some`). The bytes of a character
in UTF-8, by their numbers.
-/
import LearningDemo.Lib.Utf16
import Mathlib.Algebra.Ring.Nat

namespace Unicode

open Utf16

/-- One unit, or a pair of surrogates. -/
def units (c : Char) : List UInt16 :=
  if c.toNat < 0x10000 then [UInt16.ofNat c.toNat]
  else [UInt16.ofNat (0xD800 + (c.toNat - 0x10000) / 1024), UInt16.ofNat (0xDC00 + (c.toNat - 0x10000) % 1024)]

/-- The character of a unit that is no surrogate. -/
def single (u : UInt16) : Char := Char.ofNat u.toNat

/-- The character of a pair. -/
def paired (u v : UInt16) : Char := Char.ofNat (0x10000 + (u.toNat - 0xD800) * 1024 + (v.toNat - 0xDC00))

/-- The characters of a string, unless a surrogate stands alone. -/
def text : List UInt16 → Option (List Char)
  | [] => some []
  | u :: rest =>
    if isHigh u then
      match rest with
      | [] => none
      | v :: rest => if isLow v then (text rest).map (paired u v :: ·) else none
    else if isLow u then none
    else (text rest).map (single u :: ·)

variable {u v : UInt16} {s : List UInt16} {cs : List Char} {c : Char}

theorem isHigh_iff : isHigh u = true ↔ 0xD800 ≤ u.toNat ∧ u.toNat ≤ 0xDBFF := by
  simp [isHigh, UInt16.le_iff_toNat_le]

theorem isLow_iff : isLow u = true ↔ 0xDC00 ≤ u.toNat ∧ u.toNat ≤ 0xDFFF := by
  simp [isLow, UInt16.le_iff_toNat_le]

theorem toNat_valid (c : Char) : c.toNat < 0xD800 ∨ 0xDFFF < c.toNat ∧ c.toNat < 0x110000 := c.valid

theorem toNat_ofNat_of_valid {n : Nat} (h : n < 0xD800 ∨ 0xDFFF < n ∧ n < 0x110000) : (Char.ofNat n).toNat = n := by
  rw [Char.ofNat, dif_pos h]
  rfl

theorem single_toNat (hhigh : isHigh u = false) (hlow : isLow u = false) : (single u).toNat = u.toNat := by
  have hlt := u.toNat_lt
  rw [← Bool.not_eq_true, isHigh_iff] at hhigh
  rw [← Bool.not_eq_true, isLow_iff] at hlow
  exact toNat_ofNat_of_valid (by omega)

theorem paired_toNat (hhigh : isHigh u = true) (hlow : isLow v = true) :
    (paired u v).toNat = 0x10000 + (u.toNat - 0xD800) * 1024 + (v.toNat - 0xDC00) := by
  rw [isHigh_iff] at hhigh
  rw [isLow_iff] at hlow
  exact toNat_ofNat_of_valid (by omega)

theorem units_single (hhigh : isHigh u = false) (hlow : isLow u = false) : units (single u) = [u] := by
  have hlt := u.toNat_lt
  rw [units, single_toNat hhigh hlow, if_pos (by omega), UInt16.ofNat_toNat]

theorem units_paired (hhigh : isHigh u = true) (hlow : isLow v = true) : units (paired u v) = [u, v] := by
  have hu := isHigh_iff.mp hhigh
  have hv := isLow_iff.mp hlow
  have hdiv : 0xD800 + (0x10000 + (u.toNat - 0xD800) * 1024 + (v.toNat - 0xDC00) - 0x10000) / 1024 = u.toNat := by
    omega
  have hmod : 0xDC00 + (0x10000 + (u.toNat - 0xD800) * 1024 + (v.toNat - 0xDC00) - 0x10000) % 1024 = v.toNat := by
    omega
  rw [units, paired_toNat hhigh hlow, if_neg (by omega), hdiv, hmod, UInt16.ofNat_toNat, UInt16.ofNat_toNat]

/-- The two ways a character is written. -/
theorem units_cases (c : Char) :
    (∃ u, units c = [u] ∧ isHigh u = false ∧ isLow u = false ∧ c = single u) ∨
      ∃ u v, units c = [u, v] ∧ isHigh u = true ∧ isLow v = true ∧ c = paired u v := by
  have hvalid := toNat_valid c
  by_cases hlt : c.toNat < 0x10000
  · refine .inl ⟨UInt16.ofNat c.toNat, if_pos hlt, ?_, ?_, ?_⟩
    · rw [← Bool.not_eq_true, isHigh_iff, UInt16.toNat_ofNat_of_lt' hlt]
      omega
    · rw [← Bool.not_eq_true, isLow_iff, UInt16.toNat_ofNat_of_lt' hlt]
      omega
    · rw [single, UInt16.toNat_ofNat_of_lt' hlt, Char.ofNat_toNat]
  · have hu : (UInt16.ofNat (0xD800 + (c.toNat - 0x10000) / 1024)).toNat = 0xD800 + (c.toNat - 0x10000) / 1024 :=
      UInt16.toNat_ofNat_of_lt' (by simp only [UInt16.size]; omega)
    have hv : (UInt16.ofNat (0xDC00 + (c.toNat - 0x10000) % 1024)).toNat = 0xDC00 + (c.toNat - 0x10000) % 1024 :=
      UInt16.toNat_ofNat_of_lt' (by simp only [UInt16.size]; omega)
    refine .inr ⟨_, _, if_neg hlt, ?_, ?_, ?_⟩
    · rw [isHigh_iff, hu]
      omega
    · rw [isLow_iff, hv]
      omega
    · rw [paired, hu, hv]
      have hnat : 0x10000 + (0xD800 + (c.toNat - 0x10000) / 1024 - 0xD800) * 1024 +
          (0xDC00 + (c.toNat - 0x10000) % 1024 - 0xDC00) = c.toNat := by omega
      rw [hnat, Char.ofNat_toNat]

theorem text_cons_single (hhigh : isHigh u = false) (hlow : isLow u = false) :
    text (u :: s) = (text s).map (single u :: ·) := by
  rw [text.eq_def]
  simp only [hhigh, hlow, Bool.false_eq_true, if_false]

theorem text_cons_paired (hhigh : isHigh u = true) (hlow : isLow v = true) :
    text (u :: v :: s) = (text s).map (paired u v :: ·) := by
  simp only [text, hhigh, hlow, if_true]

theorem text_units_append (c : Char) (s : List UInt16) : text (units c ++ s) = (text s).map (c :: ·) := by
  rcases units_cases c with ⟨u, hunits, hhigh, hlow, hc⟩ | ⟨u, v, hunits, hhigh, hlow, hc⟩
  · rw [hunits, hc]
    exact text_cons_single hhigh hlow
  · rw [hunits, hc]
    exact text_cons_paired hhigh hlow

theorem text_flatMap_units (cs : List Char) : text (cs.flatMap units) = some cs := by
  induction cs with
  | nil => rfl
  | cons c cs ih => rw [List.flatMap_cons, text_units_append, ih, Option.map_some]

theorem flatMap_units_of_text (h : text s = some cs) : cs.flatMap units = s := by
  fun_induction text s generalizing cs with
  | case1 =>
    obtain rfl := Option.some.inj h
    rfl
  | case2 => cases h
  | case3 u hhigh v rest hlow ih =>
    obtain ⟨cs', hrest, rfl⟩ := Option.map_eq_some_iff.mp h
    rw [List.flatMap_cons, units_paired hhigh hlow, ih hrest]
    rfl
  | case4 => cases h
  | case5 => cases h
  | case6 u rest hhigh hlow ih =>
    obtain ⟨cs', hrest, rfl⟩ := Option.map_eq_some_iff.mp h
    rw [List.flatMap_cons, units_single (by simpa using hhigh) (by simpa using hlow), ih hrest]
    rfl

/-- Units are a text where they are the units of its characters. -/
theorem text_eq_some : text s = some cs ↔ cs.flatMap units = s :=
  ⟨flatMap_units_of_text, fun h => h ▸ text_flatMap_units cs⟩

/-! ## UTF-8 -/

theorem uint8_all {p : UInt8 → Prop} (h : ∀ n < 256, p (UInt8.ofNat n)) (b : UInt8) : p b := by
  have hb := h b.toNat b.toNat_lt
  rwa [UInt8.ofNat_toNat] at hb

section Bytes

set_option maxRecDepth 8000

theorem toNat_head_two : ∀ b : UInt8, (b &&& 0x1f ||| 0xc0).toNat = b.toNat % 32 + 192 := uint8_all (by decide)

theorem toNat_head_three : ∀ b : UInt8, (b &&& 0x0f ||| 0xe0).toNat = b.toNat % 16 + 224 := uint8_all (by decide)

theorem toNat_head_four : ∀ b : UInt8, (b &&& 0x07 ||| 0xf0).toNat = b.toNat % 8 + 240 := uint8_all (by decide)

theorem toNat_trailing : ∀ b : UInt8, (b &&& 0x3f ||| 0x80).toNat = b.toNat % 64 + 128 := uint8_all (by decide)

end Bytes

theorem toNat_shift (ch n : UInt32) (hn : n.toNat < 32) :
    (ch >>> n).toUInt8.toNat = ch.toNat / 2 ^ n.toNat % 256 := by
  rw [UInt32.toNat_toUInt8, UInt32.toNat_shiftRight, Nat.mod_eq_of_lt hn, Nat.shiftRight_eq_div_pow]

theorem utf8_one (h : c.utf8Size = 1) :
    ∃ b0, String.utf8EncodeChar c = [b0] ∧ b0.toNat = c.toNat ∧ c.toNat < 128 := by
  have hle := Char.utf8Size_eq_one_iff.mp h
  simp only [UInt32.le_iff_toNat_le, UInt32.reduceToNat] at hle
  refine ⟨_, String.utf8EncodeChar_eq_singleton h, ?_, Nat.lt_succ_of_le hle⟩
  rw [UInt32.toNat_toUInt8]
  exact Nat.mod_eq_of_lt (by omega)

theorem utf8_two (h : c.utf8Size = 2) : ∃ b0 b1, String.utf8EncodeChar c = [b0, b1] ∧
    b0.toNat = c.toNat / 64 + 192 ∧ b1.toNat = c.toNat % 64 + 128 ∧ 128 ≤ c.toNat ∧ c.toNat < 2048 := by
  obtain ⟨hlow, hhigh⟩ := Char.utf8Size_eq_two_iff.mp h
  simp only [UInt32.lt_iff_toNat_lt, UInt32.le_iff_toNat_le, UInt32.reduceToNat] at hlow hhigh
  refine ⟨_, _, String.utf8EncodeChar_eq_cons_cons h, ?_, ?_, hlow, Nat.lt_succ_of_le hhigh⟩
  · rw [toNat_head_two, toNat_shift _ _ (by decide)]
    simp only [UInt32.reduceToNat, Nat.reducePow, ← Char.toNat_val]
    omega
  · rw [toNat_trailing, UInt32.toNat_toUInt8, ← Char.toNat_val]
    omega

theorem utf8_three (h : c.utf8Size = 3) : ∃ b0 b1 b2, String.utf8EncodeChar c = [b0, b1, b2] ∧
    b0.toNat = c.toNat / 4096 + 224 ∧ b1.toNat = c.toNat / 64 % 64 + 128 ∧ b2.toNat = c.toNat % 64 + 128 ∧
      2048 ≤ c.toNat ∧ c.toNat < 65536 := by
  obtain ⟨hlow, hhigh⟩ := Char.utf8Size_eq_three_iff.mp h
  simp only [UInt32.lt_iff_toNat_lt, UInt32.le_iff_toNat_le, UInt32.reduceToNat] at hlow hhigh
  refine ⟨_, _, _, String.utf8EncodeChar_eq_cons_cons_cons h, ?_, ?_, ?_, hlow, Nat.lt_succ_of_le hhigh⟩
  · rw [toNat_head_three, toNat_shift _ _ (by decide)]
    simp only [UInt32.reduceToNat, Nat.reducePow, ← Char.toNat_val]
    omega
  · rw [toNat_trailing, toNat_shift _ _ (by decide)]
    simp only [UInt32.reduceToNat, Nat.reducePow, ← Char.toNat_val]
    omega
  · rw [toNat_trailing, UInt32.toNat_toUInt8, ← Char.toNat_val]
    omega

theorem utf8_four (h : c.utf8Size = 4) : ∃ b0 b1 b2 b3, String.utf8EncodeChar c = [b0, b1, b2, b3] ∧
    b0.toNat = c.toNat / 262144 + 240 ∧ b1.toNat = c.toNat / 4096 % 64 + 128 ∧
      b2.toNat = c.toNat / 64 % 64 + 128 ∧ b3.toNat = c.toNat % 64 + 128 ∧ 65536 ≤ c.toNat := by
  have hlow := Char.utf8Size_eq_four_iff.mp h
  have hvalid := toNat_valid c
  simp only [UInt32.lt_iff_toNat_lt, UInt32.reduceToNat] at hlow
  refine ⟨_, _, _, _, String.utf8EncodeChar_eq_cons_cons_cons_cons h, ?_, ?_, ?_, ?_, hlow⟩
  · rw [toNat_head_four, toNat_shift _ _ (by decide)]
    simp only [UInt32.reduceToNat, Nat.reducePow, Char.toNat_val]
    omega
  · rw [toNat_trailing, toNat_shift _ _ (by decide)]
    simp only [UInt32.reduceToNat, Nat.reducePow, Char.toNat_val]
    omega
  · rw [toNat_trailing, toNat_shift _ _ (by decide)]
    simp only [UInt32.reduceToNat, Nat.reducePow, Char.toNat_val]
    omega
  · rw [toNat_trailing, UInt32.toNat_toUInt8, Char.toNat_val]
    omega

end Unicode
