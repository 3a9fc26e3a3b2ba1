/-
Blocks laid end to end in a row, and the places of the row: `offset` counts
the places before a given one, `locate` finds the block of a place and how far
into the block it is. Each undoes the other, and both keep the order.
-/
import Mathlib.Tactic.Common
import Mathlib.Algebra.Ring.Nat

namespace Blocks

/-- How many places stand before place `r` of block `i`. -/
def offset (lens : List Nat) (i r : Nat) : Nat := (lens.take i).sum + r

/-- The block of place `n`, and how far into it the place is. -/
def locate : List Nat → Nat → Option (Nat × Nat)
  | [], _ => none
  | len :: lens, n =>
    if n < len then some (0, n) else (locate lens (n - len)).map fun p => (p.1 + 1, p.2)

/-- Block `i` is there and has a place `r`. -/
def Place (lens : List Nat) (i r : Nat) : Prop := ∃ len, lens[i]? = some len ∧ r < len

variable {len n i j r s : Nat} {lens : List Nat}

@[simp] theorem offset_zero : offset lens 0 r = r := by simp [offset]

@[simp] theorem offset_cons_succ : offset (len :: lens) (i + 1) r = len + offset lens i r := by
  simp [offset, Nat.add_assoc]

theorem offset_add : offset lens i r = offset lens i 0 + r := by simp [offset]

@[simp] theorem not_place_nil : ¬ Place [] i r := by simp [Place]

@[simp] theorem place_cons_zero : Place (len :: lens) 0 r ↔ r < len := by simp [Place]

@[simp] theorem place_cons_succ : Place (len :: lens) (i + 1) r ↔ Place lens i r := by
  simp [Place]

theorem Place.lt_length (h : Place lens i r) : i < lens.length := by
  obtain ⟨len, hlen, -⟩ := h
  exact (List.getElem?_eq_some_iff.mp hlen).1

/-- Where a place is found, and that it is found there only. -/
theorem locate_eq_some : locate lens n = some (i, r) ↔ Place lens i r ∧ offset lens i r = n := by
  induction lens generalizing n i with
  | nil => simp [locate]
  | cons len lens ih =>
    by_cases hn : n < len
    · -- in the first block: a later one starts behind `n`
      simp only [locate, hn, if_true, Option.some.injEq, Prod.mk.injEq]
      cases i with
      | zero => simp; omega
      | succ i => simp; omega
    · simp only [locate, hn, if_false, Option.map_eq_some_iff, Prod.mk.injEq, Prod.exists]
      cases i with
      | zero => simp; omega
      | succ i =>
        simp only [place_cons_succ, offset_cons_succ]
        constructor
        · rintro ⟨k, s, hks, hk, rfl⟩
          obtain rfl : k = i := by omega
          have := ih.mp hks
          exact ⟨this.1, by omega⟩
        · rintro ⟨hp, ho⟩
          exact ⟨i, r, ih.mpr ⟨hp, by omega⟩, rfl, rfl⟩

theorem Place.locate_offset (h : Place lens i r) : locate lens (offset lens i r) = some (i, r) :=
  locate_eq_some.mpr ⟨h, rfl⟩

theorem locate_isSome : (locate lens n).isSome ↔ n < lens.sum := by
  induction lens generalizing n with
  | nil => simp [locate]
  | cons len lens ih =>
    by_cases hn : n < len
    · simp [locate, hn]; omega
    · simp only [locate, hn, if_false, Option.isSome_map, ih, List.sum_cons]
      omega

theorem exists_locate (lens : List Nat) (h : n < lens.sum) :
    ∃ i r, locate lens n = some (i, r) ∧ Place lens i r ∧ offset lens i r = n := by
  obtain ⟨⟨i, r⟩, hir⟩ := Option.isSome_iff_exists.mp (locate_isSome.mpr h)
  exact ⟨i, r, hir, locate_eq_some.mp hir⟩

theorem Place.offset_lt_sum (h : Place lens i r) : offset lens i r < lens.sum :=
  locate_isSome.mp (by rw [h.locate_offset]; rfl)

/-- An earlier block lies before a later one. -/
theorem Place.offset_lt (h : Place lens i r) (hij : i < j) : offset lens i r < offset lens j s := by
  induction lens generalizing i j with
  | nil => simp at h
  | cons len lens ih =>
    obtain ⟨j, rfl⟩ : ∃ k, j = k + 1 := ⟨j - 1, by omega⟩
    cases i with
    | zero =>
      have := place_cons_zero.mp h
      simp only [offset_zero, offset_cons_succ]
      omega
    | succ i =>
      have := ih (place_cons_succ.mp h) (j := j) (by omega)
      simp only [offset_cons_succ]
      omega

/-- The first place of all. -/
theorem Place.offset_eq_zero (h : Place lens i r) (hpos : ∀ len ∈ lens, 0 < len) :
    offset lens i r = 0 ↔ i = 0 ∧ r = 0 := by
  cases lens with
  | nil => simp at h
  | cons len lens =>
    have hlen := hpos len (by simp)
    cases i with
    | zero => simp
    | succ i => simp only [offset_cons_succ]; omega

/-- The last place of all. -/
theorem Place.offset_succ_eq_sum (h : Place lens i r) (hpos : ∀ len ∈ lens, 0 < len) :
    offset lens i r + 1 = lens.sum ↔ i + 1 = lens.length ∧ lens[i]? = some (r + 1) := by
  induction lens generalizing i with
  | nil => simp at h
  | cons len lens ih =>
    have hpos' : ∀ l ∈ lens, 0 < l := fun l hl => hpos l (List.mem_cons_of_mem _ hl)
    cases i with
    | zero =>
      have := place_cons_zero.mp h
      cases lens with
      | nil => simp; omega
      | cons len' lens =>
        have := hpos' len' (by simp)
        simp
        omega
    | succ i =>
      rw [List.length_cons, List.getElem?_cons_succ, Nat.add_right_cancel_iff,
        ← ih (place_cons_succ.mp h) hpos', offset_cons_succ, List.sum_cons]
      omega

theorem Place.inj (h : Place lens i r) (h' : Place lens j s)
    (heq : offset lens i r = offset lens j s) : i = j ∧ r = s := by
  have := h.locate_offset
  rw [heq, h'.locate_offset] at this
  simp only [Option.some.injEq, Prod.mk.injEq] at this
  exact ⟨this.1.symm, this.2.symm⟩

end Blocks
