/-
Two loops that end early: over a list, until the block asks to stop, and
down from an index, until something is found.

`enumerate_longest` is the rule for a block that takes elements while they
are good: it keeps the longest prefix of which no shorter one was bad.
-/
import Mathlib.Order.Bounds.Basic

namespace Enumerate

variable {α β σ : Type}

/-- The block is called with one element after another, until it asks to
stop. What it changed in the call that stopped is kept. -/
def enumerate (block : α → σ → σ × Bool) : List α → σ → σ
  | [], s => s
  | x :: xs, s => if (block x s).2 then (block x s).1 else enumerate block xs (block x s).1

/-- `f` of the indexes below `n`, the highest first, until it has a value. -/
def findDown (f : Nat → Option β) : Nat → Option β
  | 0 => none
  | n + 1 => match f n with
    | some b => some b
    | none => findDown f n

/-! ## Enumerating -/

/-- All prefixes up to `k` elements are good, but for the empty one. -/
def GoodUpTo (good : List α → Prop) (xs : List α) (k : Nat) : Prop :=
  k ≤ xs.length ∧ ∀ j, 1 ≤ j → j ≤ k → good (xs.take j)

variable {block : α → σ → σ × Bool} {good : List α → Prop} {I : List α → σ → Prop}

theorem take_append_cons (p : List α) (x : α) (xs : List α) :
    (p ++ x :: xs).take (p.length + 1) = p ++ [x] := by
  rw [List.take_append, List.take_of_length_le (Nat.le_succ _)]
  simp

/-- A block that takes good elements and stops at the first bad one is left
with the longest prefix that is good all along. `I` is what it keeps of the
elements taken. -/
theorem enumerate_longest
    (hgood : ∀ p x s, I p s → good (p ++ [x]) → (block x s).2 = false ∧ I (p ++ [x]) (block x s).1)
    (hbad : ∀ p x s, I p s → ¬ good (p ++ [x]) → (block x s).2 = true ∧ I p (block x s).1)
    (xs : List α) {s : σ} (hs : I [] s) :
    ∃ k, IsGreatest {k | GoodUpTo good xs k} k ∧ I (xs.take k) (enumerate block xs s) := by
  -- over the rest, with the prefix taken so far in front
  have hrest : ∀ (rest p : List α) (s : σ), I p s → GoodUpTo good (p ++ rest) p.length →
      ∃ k, IsGreatest {k | GoodUpTo good (p ++ rest) k} k ∧
        I ((p ++ rest).take k) (enumerate block rest s) := by
    intro rest
    induction rest with
    | nil =>
      intro p s hs hup
      refine ⟨p.length, ⟨hup, fun k hk => ?_⟩, by simpa [enumerate] using hs⟩
      simpa using hk.1
    | cons x rest ih =>
      intro p s hs hup
      have htake := take_append_cons p x rest
      by_cases hx : good (p ++ [x])
      · obtain ⟨hgo, hs'⟩ := hgood p x s hs hx
        have hup' : GoodUpTo good ((p ++ [x]) ++ rest) (p ++ [x]).length := by
          refine ⟨by simp, fun j h1 hj => ?_⟩
          rw [List.append_assoc, List.singleton_append]
          rcases Nat.lt_or_ge p.length j with hlt | hle
          · obtain rfl : j = p.length + 1 := by simp at hj; omega
            rwa [htake]
          · exact hup.2 j h1 hle
        have := ih (p ++ [x]) (block x s).1 hs' hup'
        rw [List.append_assoc, List.singleton_append] at this
        rwa [enumerate, if_neg (by simp [hgo])]
      · obtain ⟨hstop, hs'⟩ := hbad p x s hs hx
        refine ⟨p.length, ⟨hup, fun k hk => ?_⟩, ?_⟩
        · by_contra hlt
          exact hx (htake ▸ hk.2 (p.length + 1) (by omega) (by omega))
        · rwa [enumerate, if_pos hstop, List.take_left]
  exact hrest xs [] s hs ⟨Nat.zero_le _, fun j h1 hj => absurd hj (by simp; omega)⟩

/-! ## Counting down -/

variable {f : Nat → Option β} {n : Nat} {b : β}

theorem findDown_eq_none (h : ∀ i < n, f i = none) : findDown f n = none := by
  induction n with
  | zero => rfl
  | succ n ih =>
    rw [findDown, h n (Nat.lt_succ_self n)]
    exact ih fun i hi => h i (by omega)

theorem findDown_eq_some {i : Nat} (hi : i < n) (hb : f i = some b) (h : ∀ j, i < j → j < n → f j = none) :
    findDown f n = some b := by
  induction n with
  | zero => omega
  | succ n ih =>
    rcases Nat.lt_or_ge i n with hlt | hge
    · rw [findDown, h n hlt (Nat.lt_succ_self n)]
      exact ih hlt fun j hij hj => h j hij (by omega)
    · obtain rfl : i = n := by omega
      rw [findDown, hb]

/-- Either nothing is found below `n`, or something at a highest index. -/
theorem findDown_cases (f : Nat → Option β) (n : Nat) : (∀ i < n, f i = none) ∨
    ∃ i b, i < n ∧ f i = some b ∧ ∀ j, i < j → j < n → f j = none := by
  induction n with
  | zero => exact .inl nofun
  | succ n ih =>
    cases hf : f n with
    | some b => exact .inr ⟨n, b, Nat.lt_succ_self n, hf, fun j hj hj' => by omega⟩
    | none =>
      have hlast : ∀ j, j < n + 1 → ¬ j < n → f j = none := fun j hj hn => by
        obtain rfl : j = n := by omega
        exact hf
      rcases ih with hnone | ⟨i, b, hi, hb, hnone⟩
      · exact .inl fun j hj => if hlt : j < n then hnone j hlt else hlast j hj hlt
      · exact .inr ⟨i, b, by omega, hb, fun j hij hj => if hlt : j < n then hnone j hij hlt else hlast j hj hlt⟩

end Enumerate
