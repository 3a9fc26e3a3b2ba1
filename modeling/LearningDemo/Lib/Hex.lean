/-
Bytes in hexadecimal, two lower-case digits each, as `%02x` writes them, and
numbers, as `%0<width>x` does.
-/
import Mathlib.Algebra.Group.Nat.Defs
import Mathlib.Tactic.Common

namespace Hex

def digits : List Char := ['0', '1', '2', '3', '4', '5', '6', '7', '8', '9', 'a', 'b', 'c', 'd', 'e', 'f']

def digit (n : Nat) : Char := digits[n]?.getD '0'

def byte (b : UInt8) : List Char := [digit (b.toNat / 16), digit (b.toNat % 16)]

/-- The bytes one after another. -/
def string (bytes : List UInt8) : String := String.ofList (bytes.flatMap byte)

theorem digit_inj {m n : Nat} (hm : m < 16) (hn : n < 16) (h : digit m = digit n) : m = n := by
  have hall : ∀ m < 16, ∀ n < 16, digit m = digit n → m = n := by decide
  exact hall m hm n hn h

theorem byte_inj {a b : UInt8} (h : byte a = byte b) : a = b := by
  have ha := a.toNat_lt
  have hb := b.toNat_lt
  obtain ⟨hhigh, hlow⟩ : digit (a.toNat / 16) = digit (b.toNat / 16) ∧
      digit (a.toNat % 16) = digit (b.toNat % 16) := by
    simpa [byte] using h
  have hdiv := digit_inj (by omega) (by omega) hhigh
  have hmod := digit_inj (by omega) (by omega) hlow
  exact UInt8.toNat_inj.mp (by omega)

theorem flatMap_byte_inj : ∀ {as bs : List UInt8}, as.flatMap byte = bs.flatMap byte → as = bs
  | [], [], _ => rfl
  | [], b :: bs, h => by simp [byte] at h
  | a :: as, [], h => by simp [byte] at h
  | a :: as, b :: bs, h => by
    rw [List.flatMap_cons, List.flatMap_cons] at h
    obtain ⟨hbyte, hrest⟩ := List.append_inj h rfl
    rw [byte_inj hbyte, flatMap_byte_inj hrest]

theorem string_inj {as bs : List UInt8} : string as = string bs ↔ as = bs := by
  refine ⟨fun h => flatMap_byte_inj ?_, fun h => h ▸ rfl⟩
  simpa [string] using congrArg String.toList h

/-! ## Numerals -/

/-- The lowest `k` digits of a number. -/
def number : Nat → Nat → List Char
  | 0, _ => []
  | k + 1, n => number k (n / 16) ++ [digit (n % 16)]

/-- A number with all its digits, and zeros in front of them where they are fewer than `width`. -/
def Numeral (width n : Nat) (text : List Char) : Prop :=
  ∃ k, text = number k n ∧ n < 16 ^ k ∧ max width 1 ≤ k ∧ (max width 1 < k → 16 ^ (k - 1) ≤ n)

theorem digit_eq_digitChar : ∀ d < 16, digit d = Nat.digitChar d := by decide

/-- The last digit comes off the end. -/
theorem number_toDigits {k n : Nat} (h : (Nat.toDigits 16 n).length = k) : number k n = Nat.toDigits 16 n := by
  induction k generalizing n with
  | zero =>
    have := Nat.length_toDigits_pos (b := 16) (n := n)
    omega
  | succ k ih =>
    rw [number, digit_eq_digitChar _ (Nat.mod_lt n (by omega))]
    rw [Nat.toDigits_eq_if (by omega)] at h ⊢
    by_cases hlt : n < 16
    · rw [if_pos hlt] at h ⊢
      obtain rfl : k = 0 := by simpa using h.symm
      rw [Nat.mod_eq_of_lt hlt]
      rfl
    · rw [if_neg hlt] at h ⊢
      rw [ih (by simpa using h)]

/-- Zeros in front of all digits. -/
theorem number_add {j k n : Nat} (h : n < 16 ^ k) : number (j + k) n = List.replicate j '0' ++ number k n := by
  induction k generalizing n with
  | zero =>
    obtain rfl : n = 0 := by simpa using h
    have hzero : ∀ j, number j 0 = List.replicate j '0' := by
      intro j
      induction j with
      | zero => rfl
      | succ j ih => rw [number, Nat.zero_div, ih, List.replicate_succ']; rfl
    rw [Nat.add_zero, hzero, number, List.append_nil]
  | succ k ih =>
    rw [← Nat.add_assoc, number, ih (by rw [Nat.pow_succ] at h; omega), number, List.append_assoc]

theorem numeral_toDigits (width n : Nat) : Numeral width n
    (List.replicate (width - (Nat.toDigits 16 n).length) '0' ++ Nat.toDigits 16 n) := by
  obtain ⟨k, hk⟩ : ∃ k, (Nat.toDigits 16 n).length = k := ⟨_, rfl⟩
  have hpos : 0 < k := hk ▸ Nat.length_toDigits_pos
  have hlt : n < 16 ^ k := (Nat.length_toDigits_le_iff (by omega) hpos).mp (Nat.le_of_eq hk)
  rw [hk, ← number_toDigits hk, ← number_add hlt]
  refine ⟨_, rfl, ?_, by omega, fun hmore => ?_⟩
  · exact Nat.lt_of_lt_of_le hlt (Nat.pow_le_pow_right (by omega) (by omega))
  · rw [show width - k + k - 1 = k - 1 by omega]
    by_contra hless
    have := (Nat.length_toDigits_le_iff (b := 16) (n := n) (k := k - 1) (by omega) (by omega)).mpr (by omega)
    omega

end Hex
