/-
Strings of C: `char`s up to a terminating zero, in a buffer that may go on
behind it.
-/
import LearningDemo.Lib.Cells

namespace Imperative

/-- A `char`, 8 bits and signed. -/
abbrev CChar := Int8

/-- A character constant of the basic character set. -/
def chr (c : Char) : CChar := Int8.ofNat c.toNat

/-- `'\0'`. -/
def nul : CChar := 0

/-- The buffer holds the string, with its terminator and whatever is behind it. -/
def Stores (buf s : List CChar) : Prop := nul ∉ s ∧ ∃ rest, buf = s ++ nul :: rest

variable {buf s p q : List CChar} {c : CChar}

theorem Stores.load_char {i : Int} (h : Stores buf (p ++ c :: q)) (hi : i = p.length) :
    load buf i = .ok c ∧ c ≠ nul := by
  obtain ⟨hnul, rest, rfl⟩ := h
  refine ⟨?_, fun hc => hnul (by simp [hc])⟩
  rw [List.append_assoc]
  exact load_at hi

theorem Stores.load_nul {i : Int} (h : Stores buf s) (hi : i = s.length) : load buf i = .ok nul := by
  obtain ⟨-, rest, rfl⟩ := h
  exact load_at hi

/-- The character after the characters `p`, or the terminator. -/
theorem Stores.load_head {i : Int} (h : Stores buf (p ++ q)) (hi : i = p.length) :
    load buf i = .ok (q.headD nul) := by
  cases q with
  | nil => exact (List.append_nil p ▸ h).load_nul hi
  | cons c q => exact (h.load_char hi).1

/-- Behind `p`, which has no terminator in it, a string as long as `p` ends
exactly where the next byte is a terminator. -/
theorem stores_append (hp : nul ∉ p) : (∃ t, Stores (p ++ q) t ∧ t.length = p.length) ↔ q.head? = some nul := by
  refine ⟨?_, fun h => ?_⟩
  · rintro ⟨t, ⟨-, rest, heq⟩, hlen⟩
    obtain ⟨-, rfl⟩ := List.append_inj heq hlen.symm
    rfl
  · obtain ⟨rest, rfl⟩ := List.head?_eq_some_iff.mp h
    exact ⟨p, ⟨hp, rest, rfl⟩, rfl⟩

end Imperative
